import Bundler.CommandLine.Flags
import Bundler.Proofs.Json.Codec

/-! # Options merged with flags

What flags do to each single option of a build (`BuildFlags.merges_apply`) and of a transform
(`TransformFlags.merges_apply`), and what becomes of each flag when others stand behind it
(`BuildFlags.joins_append`, `TransformFlags.joins_append`). There are five ways: a value replaces
the one before it, a switch stays on, a list comes behind the one before it, entries are put over
those of the same key, and a list of extensions replaces another one unless it is empty. -/

set_option autoImplicit false

namespace Bundler

/-! ## Values and switches -/

section

variable {α : Type}

/-- A flag with one value is put over an option: its value replaces the one of the option, which
stays if the flag is not given. -/
structure Replaced (flag : Option α) (base merged : α) : Prop where
  given : ∀ value, flag = some value → merged = value
  absent : flag = none → merged = base

theorem replaced_getD (flag : Option α) (base : α) : Replaced flag base (flag.getD base) where
  given := by
    rintro value rfl
    rfl
  absent := by
    rintro rfl
    rfl

/-- A flag with one value comes behind itself: the later value replaces the earlier one, which stays
if there is no later one. -/
structure Later (first second both : Option α) : Prop where
  given : ∀ value, second = some value → both = some value
  absent : second = none → both = first

theorem later_orElse (first second : Option α) : Later first second (second <|> first) where
  given := by
    rintro value rfl
    rfl
  absent := by
    rintro rfl
    rfl

end

/-- A switch is put over what may be on already. -/
def TurnedOn (switched : Prop) (base merged : Bool) : Prop := merged = true ↔ base = true ∨ switched

theorem turnedOn_or (base switch : Bool) : TurnedOn switch base (base || switch) := by
  rw [TurnedOn, Bool.or_eq_true]

theorem turnedOn_or_or (base all own : Bool) :
    TurnedOn (all = true ∨ own = true) base (base || (all || own)) := by
  rw [TurnedOn, Bool.or_eq_true, Bool.or_eq_true]

/-! ## Dictionaries -/

/-- Entries that are read off items are put over a dictionary: of each key the last item counts, and
the other keys stay as they are. -/
structure Overlaid {ι α : Type} (reads : ι → String × α → Prop) (items : List ι)
    (base merged : Dictionary α) : Prop where
  read : ∀ item ∈ items, ∃ entry, reads item entry
  last : ∀ front item back entry, items = front ++ item :: back → reads item entry →
    (∀ item ∈ back, ∀ other, reads item other → other.1 ≠ entry.1) →
      merged.get? entry.1 = some entry.2
  kept : ∀ key, (∀ item ∈ items, ∀ entry, reads item entry → entry.1 ≠ key) →
    merged.get? key = base.get? key

namespace Dictionary

variable {α : Type}

/-- Of entries with a key, the last one counts. -/
theorem get?_insertAll_last (d : Dictionary α) (front back : List (String × α))
    (entry : String × α) (h : ∀ other ∈ back, other.1 ≠ entry.1) :
    (d.insertAll (front ++ entry :: back)).get? entry.1 = some entry.2 := by
  have hfind : ((front ++ entry :: back).reverse.find? fun e => e.1 == entry.1) = some entry :=
    find?_reverse_eq_some_iff.2 ⟨front, back, rfl, beq_iff_eq.2 rfl,
      fun other hother => beq_eq_false_iff_ne.2 (h other hother)⟩
  rw [get?_insertAll, hfind]
  rfl

theorem get?_insertAll_of_ne (d : Dictionary α) (entries : List (String × α)) {key : String}
    (h : ∀ entry ∈ entries, entry.1 ≠ key) : (d.insertAll entries).get? key = d.get? key := by
  have hfind : (entries.reverse.find? fun e => e.1 == key) = none := by
    simpa using h
  rw [get?_insertAll, hfind]
  rfl

theorem overlaid_insertAll {ι : Type} (d : Dictionary α) {reads : ι → String × α → Prop}
    {items : List ι} {entries : List (String × α)} (hentries : List.Forall₂ reads items entries)
    (hunique : ∀ {item entry other}, reads item entry → reads item other → entry = other) :
    Overlaid reads items d (d.insertAll entries) where
  read := by
    intro item hitem
    obtain ⟨entry, -, hentry⟩ := exists_mem_of_forall₂ hentries hitem
    exact ⟨entry, hentry⟩
  last := by
    rintro front item back entry rfl hread hback
    have hdrop := List.forall₂_drop_append _ _ _ hentries.flip
    obtain ⟨found, others, hfound, hothers, hsplit⟩ := List.forall₂_cons_right_iff.1 hdrop
    obtain rfl := hunique hread hfound
    rw [← List.take_append_drop front.length entries, hsplit]
    refine d.get?_insertAll_last _ others entry fun other hother => ?_
    obtain ⟨later, hlater, hread⟩ := exists_mem_of_forall₂ hothers hother
    exact hback later hlater other hread
  kept := by
    intro key hkey
    refine d.get?_insertAll_of_ne entries fun entry hentry => ?_
    obtain ⟨item, hitem, hread⟩ := exists_mem_of_forall₂ hentries.flip hentry
    exact hkey item hitem entry hread

/-- Entries that are put over a dictionary as they are. -/
theorem overlaid_insertAll_self (d : Dictionary α) (entries : List (String × α)) :
    Overlaid Eq entries d (d.insertAll entries) :=
  d.overlaid_insertAll (List.forall₂_eq_eq_eq ▸ rfl) fun h h' => h.symm.trans h'

theorem insertAll_append (d : Dictionary α) (es es' : List (String × α)) :
    d.insertAll (es ++ es') = (d.insertAll es).insertAll es' := List.foldl_append

end Dictionary

/-! ## Flags over options -/

/-- What becomes of the options that builds and transforms share. -/
structure CommonFlags.Merges (f : CommonFlags) (o merged : CommonOptions) : Prop where
  color : Replaced f.color o.color merged.color
  errorLimit : Replaced f.errorLimit o.errorLimit merged.errorLimit
  logLevel : Replaced f.logLevel o.logLevel merged.logLevel
  sourcemap : Replaced f.sourcemap o.sourcemap merged.sourcemap
  target : Replaced f.target o.target merged.target
  nullishCoalescing : TurnedOn f.strictNullishCoalescing o.strict.nullishCoalescing
    merged.strict.nullishCoalescing
  classFields : TurnedOn f.strictClassFields o.strict.classFields merged.strict.classFields
  minifyWhitespace : TurnedOn (f.minify ∨ f.minifyWhitespace) o.minifyWhitespace
    merged.minifyWhitespace
  minifyIdentifiers : TurnedOn (f.minify ∨ f.minifyIdentifiers) o.minifyIdentifiers
    merged.minifyIdentifiers
  minifySyntax : TurnedOn (f.minify ∨ f.minifySyntax) o.minifySyntax merged.minifySyntax
  jsxFactory : Replaced f.jsxFactory o.jsxFactory merged.jsxFactory
  jsxFragment : Replaced f.jsxFragment o.jsxFragment merged.jsxFragment
  defines : Overlaid Eq f.defines o.defines merged.defines

theorem CommonFlags.merges_apply (f : CommonFlags) (o : CommonOptions) :
    f.Merges o (f.apply o) where
  color := replaced_getD _ _
  errorLimit := replaced_getD _ _
  logLevel := replaced_getD _ _
  sourcemap := replaced_getD _ _
  target := replaced_getD _ _
  nullishCoalescing := turnedOn_or _ _
  classFields := turnedOn_or _ _
  minifyWhitespace := turnedOn_or_or _ _ _
  minifyIdentifiers := turnedOn_or_or _ _ _
  minifySyntax := turnedOn_or_or _ _ _
  jsxFactory := replaced_getD _ _
  jsxFragment := replaced_getD _ _
  defines := o.defines.overlaid_insertAll_self f.defines

/-- What becomes of the options of a build. -/
structure BuildFlags.Merges (f : BuildFlags) (o merged : BuildOptions) : Prop where
  common : f.toCommonFlags.Merges o.toCommonOptions merged.toCommonOptions
  globalName : Replaced f.globalName o.globalName merged.globalName
  bundle : TurnedOn f.bundle o.bundle merged.bundle
  splitting : TurnedOn f.splitting o.splitting merged.splitting
  outfile : Replaced f.outfile o.outfile merged.outfile
  metafile : Replaced f.metafile o.metafile merged.metafile
  outdir : Replaced f.outdir o.outdir merged.outdir
  platform : Replaced f.platform o.platform merged.platform
  format : Replaced f.format o.format merged.format
  externals : merged.externals = o.externals ++ f.externals
  loaders : Overlaid Eq f.loaders o.loaders merged.loaders
  extensionsGiven : f.resolveExtensions ≠ [] → merged.resolveExtensions = some f.resolveExtensions
  extensionsAbsent : f.resolveExtensions = [] → merged.resolveExtensions = o.resolveExtensions
  entryPoints : merged.entryPoints = o.entryPoints ++ f.entryPoints

theorem BuildFlags.merges_apply (f : BuildFlags) (o : BuildOptions) : f.Merges o (f.apply o) where
  common := f.toCommonFlags.merges_apply o.toCommonOptions
  globalName := replaced_getD _ _
  bundle := turnedOn_or _ _
  splitting := turnedOn_or _ _
  outfile := replaced_getD _ _
  metafile := replaced_getD _ _
  outdir := replaced_getD _ _
  platform := replaced_getD _ _
  format := replaced_getD _ _
  externals := rfl
  loaders := o.loaders.overlaid_insertAll_self f.loaders
  extensionsGiven := fun h => if_neg h
  extensionsAbsent := fun h => if_pos h
  entryPoints := rfl

/-- What becomes of the options of a transform. -/
structure TransformFlags.Merges (f : TransformFlags) (o merged : TransformOptions) : Prop where
  common : f.toCommonFlags.Merges o.toCommonOptions merged.toCommonOptions
  sourcefile : Replaced f.sourcefile o.sourcefile merged.sourcefile
  loader : Replaced f.loader o.loader merged.loader

theorem TransformFlags.merges_apply (f : TransformFlags) (o : TransformOptions) :
    f.Merges o (f.apply o) where
  common := f.toCommonFlags.merges_apply o.toCommonOptions
  sourcefile := replaced_getD _ _
  loader := replaced_getD _ _

/-! ## Flags behind flags -/

/-- What becomes of the flags that both commands have when others stand behind them. -/
structure CommonFlags.Joins (f g both : CommonFlags) : Prop where
  config : Later f.config g.config both.config
  target : Later f.target g.target both.target
  sourcemap : Later f.sourcemap g.sourcemap both.sourcemap
  defines : both.defines = f.defines ++ g.defines
  minify : TurnedOn g.minify f.minify both.minify
  minifyWhitespace : TurnedOn g.minifyWhitespace f.minifyWhitespace both.minifyWhitespace
  minifyIdentifiers : TurnedOn g.minifyIdentifiers f.minifyIdentifiers both.minifyIdentifiers
  minifySyntax : TurnedOn g.minifySyntax f.minifySyntax both.minifySyntax
  jsxFactory : Later f.jsxFactory g.jsxFactory both.jsxFactory
  jsxFragment : Later f.jsxFragment g.jsxFragment both.jsxFragment
  strictNullishCoalescing : TurnedOn g.strictNullishCoalescing f.strictNullishCoalescing
    both.strictNullishCoalescing
  strictClassFields : TurnedOn g.strictClassFields f.strictClassFields both.strictClassFields
  logLevel : Later f.logLevel g.logLevel both.logLevel
  color : Later f.color g.color both.color
  errorLimit : Later f.errorLimit g.errorLimit both.errorLimit

theorem CommonFlags.joins_append (f g : CommonFlags) : f.Joins g (f ++ g) where
  config := later_orElse _ _
  target := later_orElse _ _
  sourcemap := later_orElse _ _
  defines := rfl
  minify := turnedOn_or _ _
  minifyWhitespace := turnedOn_or _ _
  minifyIdentifiers := turnedOn_or _ _
  minifySyntax := turnedOn_or _ _
  jsxFactory := later_orElse _ _
  jsxFragment := later_orElse _ _
  strictNullishCoalescing := turnedOn_or _ _
  strictClassFields := turnedOn_or _ _
  logLevel := later_orElse _ _
  color := later_orElse _ _
  errorLimit := later_orElse _ _

/-- What becomes of the flags of a build when others stand behind them. -/
structure BuildFlags.Joins (f g both : BuildFlags) : Prop where
  common : f.toCommonFlags.Joins g.toCommonFlags both.toCommonFlags
  entryPoints : both.entryPoints = f.entryPoints ++ g.entryPoints
  outfile : Later f.outfile g.outfile both.outfile
  outdir : Later f.outdir g.outdir both.outdir
  metafile : Later f.metafile g.metafile both.metafile
  bundle : TurnedOn g.bundle f.bundle both.bundle
  splitting : TurnedOn g.splitting f.splitting both.splitting
  format : Later f.format g.format both.format
  platform : Later f.platform g.platform both.platform
  externals : both.externals = f.externals ++ g.externals
  loaders : both.loaders = f.loaders ++ g.loaders
  extensionsGiven : g.resolveExtensions ≠ [] → both.resolveExtensions = g.resolveExtensions
  extensionsAbsent : g.resolveExtensions = [] → both.resolveExtensions = f.resolveExtensions
  globalName : Later f.globalName g.globalName both.globalName

theorem BuildFlags.joins_append (f g : BuildFlags) : f.Joins g (f ++ g) where
  common := f.toCommonFlags.joins_append g.toCommonFlags
  entryPoints := rfl
  outfile := later_orElse _ _
  outdir := later_orElse _ _
  metafile := later_orElse _ _
  bundle := turnedOn_or _ _
  splitting := turnedOn_or _ _
  format := later_orElse _ _
  platform := later_orElse _ _
  externals := rfl
  loaders := rfl
  extensionsGiven := fun h => if_neg h
  extensionsAbsent := fun h => if_pos h
  globalName := later_orElse _ _

/-- What becomes of the flags of a transform when others stand behind them. -/
structure TransformFlags.Joins (f g both : TransformFlags) : Prop where
  common : f.toCommonFlags.Joins g.toCommonFlags both.toCommonFlags
  loader : Later f.loader g.loader both.loader
  sourcefile : Later f.sourcefile g.sourcefile both.sourcefile

theorem TransformFlags.joins_append (f g : TransformFlags) : f.Joins g (f ++ g) where
  common := f.toCommonFlags.joins_append g.toCommonFlags
  loader := later_orElse _ _
  sourcefile := later_orElse _ _

/-! ## Flags one after the other -/

theorem CommonFlags.apply_append (f g : CommonFlags) (o : CommonOptions) :
    (f ++ g).apply o = g.apply (f.apply o) := by
  show (f.append g).apply o = g.apply (f.apply o)
  simp only [apply, append, CommonOptions.mk.injEq, StrictOptions.mk.injEq]
  simp [Option.getD_or, Dictionary.insertAll_append, Bool.or_assoc, Bool.or_left_comm]

theorem BuildFlags.apply_append (f g : BuildFlags) (o : BuildOptions) :
    (f ++ g).apply o = g.apply (f.apply o) := by
  show (f.append g).apply o = g.apply (f.apply o)
  simp only [apply, append, BuildOptions.mk.injEq, CommonFlags.apply_append, Option.getD_or,
    Dictionary.insertAll_append, Bool.or_assoc, List.append_assoc, Option.orElse_eq_or,
    Option.orElse_eq_orElse, true_and, and_true]
  -- extensions replace those in front of them, unless none are given
  by_cases hnone : g.resolveExtensions = []
  · simp only [if_pos hnone]
  · simp only [if_neg hnone]

theorem TransformFlags.apply_append (f g : TransformFlags) (o : TransformOptions) :
    (f ++ g).apply o = g.apply (f.apply o) := by
  show (f.append g).apply o = g.apply (f.apply o)
  simp only [apply, append, TransformOptions.mk.injEq]
  simp [CommonFlags.apply_append, Option.getD_or]

/-! ### No flags -/

theorem CommonFlags.apply_empty (o : CommonOptions) : ({} : CommonFlags).apply o = o := by
  simp [apply, Dictionary.insertAll]

theorem BuildFlags.apply_empty (o : BuildOptions) : ({} : BuildFlags).apply o = o := by
  simp [apply, CommonFlags.apply_empty, Dictionary.insertAll]

theorem TransformFlags.apply_empty (o : TransformOptions) : ({} : TransformFlags).apply o = o := by
  simp [apply, CommonFlags.apply_empty]

end Bundler
