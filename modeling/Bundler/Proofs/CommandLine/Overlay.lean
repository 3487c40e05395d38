import Bundler.Proofs.CommandLine.Merged
import Bundler.Proofs.CommandLine.Values

/-! # Arguments over options

Flags put behind each other act on options one after the other (`flags_act_on_options`): what later
flags say counts over what earlier ones say, as both count over the options. The lists and
dictionaries of the options have what the arguments of a command line say in its order
(`Extends`). -/

set_option autoImplicit false

namespace Bundler

/-! ## Lists that arguments fill -/

namespace CommandLine

namespace Flag.Feeds

variable {σ α β : Type} {name : String} {reads : String → α → Prop} {look : σ → List α}

/-- A flag reads a value and puts it into the record. -/
theorem exists_put {f : Flag σ} {decode : String → Except BadValue β} {put : β → σ → σ}
    (hread : ∀ text, f.read text = (decode text).map put) {text : String} {change : σ → σ}
    (h : f.read text = .ok change) : ∃ value, decode text = .ok value ∧ put value = change := by
  rw [hread] at h
  cases hdecode : decode text with
  | error bad =>
      rw [hdecode] at h
      cases h
  | ok value =>
      rw [hdecode] at h
      exact ⟨value, rfl, Except.ok.inj h⟩

/-- A flag of another name, which leaves the list as it is. -/
theorem other {f : Flag σ} (hname : f.name ≠ name) {decode : String → Except BadValue β}
    {put : β → σ → σ} (hread : ∀ text, f.read text = (decode text).map put)
    (hkeeps : ∀ value s, look (put value s) = look s) : f.Feeds name reads look where
  takes := fun h => absurd h hname
  feeds := by
    intro text change h s
    obtain ⟨value, -, rfl⟩ := exists_put hread h
    rw [if_neg hname, hkeeps]
    exact Fed.none _

/-- The flag of the name, which adds an entry to the list for each value. -/
theorem own {f : Flag σ} (htakes : f.takes = .values) {decode : String → Except BadValue α}
    {put : α → σ → σ} (hread : ∀ text, f.read text = (decode text).map put)
    (hreads : ∀ text entry, decode text = .ok entry → reads text entry)
    (hadds : ∀ entry s, look (put entry s) = look s ++ [entry]) : f.Feeds f.name reads look where
  takes := fun _ => htakes
  feeds := by
    intro text change h s
    obtain ⟨entry, hentry, rfl⟩ := exists_put hread h
    rw [if_pos rfl, hadds]
    exact ⟨[entry], .cons (hreads text entry hentry) .nil, rfl⟩

theorem switch {other : String} {turn : σ → σ} (hname : other ≠ name)
    (hkeeps : ∀ s, look (turn s) = look s) : (Flag.switch other turn).Feeds name reads look := by
  have hread : ∀ text, (Flag.switch other turn).read text =
      (Except.ok () : Except BadValue Unit).map fun _ => turn := fun _ => rfl
  exact Feeds.other hname hread fun _ => hkeeps

/-- A flag of another name that takes any text. -/
theorem text {f : Flag σ} (hname : f.name ≠ name) {put : String → σ → σ}
    (hread : ∀ text, f.read text = .ok (put text))
    (hkeeps : ∀ value s, look (put value s) = look s) : f.Feeds name reads look := by
  have hmap : ∀ text, f.read text = (Except.ok text : Except BadValue String).map put := hread
  exact Feeds.other hname hmap hkeeps

/-- The value of a name, as flags read it. -/
def decodeChoice [Choice β] (text : String) : Except BadValue β :=
  match Choice.parse text with
  | .ok a => .ok a
  | .error e => .error (.invalid e.message)

theorem read_choice [Choice β] (other label : String) (put : β → σ → σ) (text : String) :
    (Flag.choice other label put).read text = (decodeChoice text).map put := by
  unfold Flag.choice decodeChoice
  dsimp only
  cases (Choice.parse text : Except UnknownName β) <;> rfl

theorem choice [Choice β] {other label : String} {put : β → σ → σ} (hname : other ≠ name)
    (hkeeps : ∀ value s, look (put value s) = look s) :
    (Flag.choice other label put).Feeds name reads look :=
  Feeds.other hname (read_choice other label put) hkeeps

/-- A flag of a part of the record fills a list of the part as before. -/
theorem within {τ : Type} {f : Flag τ} {part : σ → τ} {update : (τ → τ) → σ → σ}
    {look : τ → List α} (h : f.Feeds name reads look)
    (hpart : ∀ change s, part (update change s) = change (part s)) :
    (f.within update).Feeds name reads fun s => look (part s) where
  takes := h.takes
  feeds := by
    intro text change hread s
    obtain ⟨inner, hinner, rfl⟩ := exists_put (f := f.within update) (fun _ => rfl) hread
    rw [hpart]
    exact h.feeds text inner hinner (part s)

end Flag.Feeds

/-! ### The lists of the commands -/

theorem isPair_of_readPair {text : String} {entry : String × String}
    (h : readPair text = .ok entry) : IsPair text entry := by
  rw [← splitKeyValue_eq_ok_iff]
  unfold readPair at h
  split at h
  · rename_i hsplit
    rw [hsplit, Except.ok.inj h]
  · cases h

/-- A text of an extension and the name of a loader. -/
def IsLoaderPair (text : String) (entry : String × Loader) : Prop :=
  ∃ name, IsPair text (entry.1, name) ∧ Choice.parse name = .ok entry.2

theorem IsLoaderPair.unique {text : String} {entry entry' : String × Loader}
    (h : IsLoaderPair text entry) (h' : IsLoaderPair text entry') : entry = entry' := by
  obtain ⟨name, hpair, hparse⟩ := h
  obtain ⟨name', hpair', hparse'⟩ := h'
  obtain ⟨hextension, rfl⟩ := Prod.mk.inj (hpair.unique hpair')
  exact Prod.ext hextension (Except.ok.inj (hparse.symm.trans hparse'))

theorem isLoaderPair_of_readLoader {text : String} {entry : String × Loader}
    (h : readLoader text = .ok entry) : IsLoaderPair text entry := by
  unfold readLoader at h
  cases hpair : readPair text with
  | error bad =>
      rw [hpair] at h
      cases h
  | ok pair =>
      rw [hpair] at h
      cases hparse : (Choice.parse pair.2 : Except UnknownName Loader) with
      | error unknown =>
          simp only [bind, Except.bind, hparse] at h
          cases h
      | ok loader =>
          simp only [bind, Except.bind, hparse] at h
          obtain rfl := Except.ok.inj h
          exact ⟨pair.2, isPair_of_readPair hpair, hparse⟩

/-- Of the flags that both commands have, `define` fills the list of defines. -/
theorem feeds_defines :
    ∀ f ∈ commonFlags, f.Feeds "define" IsPair fun s => s.defines := by
  have hconfig : ∀ path : String,
      (if path = "" then Except.error BadValue.missing
        else .ok fun f : CommonFlags => { f with config := some path }) =
      (if path = "" then Except.error BadValue.missing else .ok path).map
        fun path f => { f with config := some path } := by
    intro path
    split <;> rfl
  simp only [commonFlags, List.forall_mem_cons]
  refine ⟨.other (by decide) hconfig fun _ _ => rfl, .choice (by decide) fun _ _ => rfl,
    .other (by decide) (Flag.Feeds.read_choice "sourcemap" "SOURCEMAP" _) fun _ _ => rfl,
    .own rfl (fun _ => rfl) (fun _ _ => isPair_of_readPair) fun _ _ => rfl,
    .switch (by decide) fun _ => rfl, .switch (by decide) fun _ => rfl,
    .switch (by decide) fun _ => rfl, .switch (by decide) fun _ => rfl,
    .text (by decide) (fun _ => rfl) fun _ _ => rfl,
    .text (by decide) (fun _ => rfl) fun _ _ => rfl,
    .switch (by decide) fun _ => rfl, .switch (by decide) fun _ => rfl,
    .choice (by decide) fun _ _ => rfl, .choice (by decide) fun _ _ => rfl,
    .other (by decide) (fun _ => rfl) fun _ _ => rfl, List.forall_mem_nil _⟩

theorem buildGrammar_feeds_define :
    buildGrammar.Feeds "define" IsPair fun s => s.defines where
  noEquals := by decide
  operand := by
    rintro put ⟨⟩ text s
    rfl
  flags := by
    simp only [buildGrammar, List.forall_mem_append, List.forall_mem_cons, List.forall_mem_map]
    refine ⟨⟨.text (by decide) (fun _ => rfl) fun _ _ => rfl,
      .text (by decide) (fun _ => rfl) fun _ _ => rfl,
      .text (by decide) (fun _ => rfl) fun _ _ => rfl,
      .switch (by decide) fun _ => rfl, .switch (by decide) fun _ => rfl,
      .choice (by decide) fun _ _ => rfl, .choice (by decide) fun _ _ => rfl,
      .text (by decide) (fun _ => rfl) fun _ _ => rfl,
      .other (by decide) (fun _ => rfl) fun _ _ => rfl,
      .text (by decide) (fun _ => rfl) fun _ _ => rfl,
      .text (by decide) (fun _ => rfl) fun _ _ => rfl, List.forall_mem_nil _⟩, fun f hf => ?_⟩
    exact (feeds_defines f hf).within fun _ _ => rfl

theorem transformGrammar_feeds_define :
    transformGrammar.Feeds "define" IsPair fun s => s.defines where
  noEquals := by decide
  operand := by
    rintro put ⟨⟩
  flags := by
    simp only [transformGrammar, List.forall_mem_append, List.forall_mem_cons, List.forall_mem_map]
    refine ⟨⟨.choice (by decide) fun _ _ => rfl, .text (by decide) (fun _ => rfl) fun _ _ => rfl,
      List.forall_mem_nil _⟩, fun f hf => ?_⟩
    exact (feeds_defines f hf).within fun _ _ => rfl

theorem buildGrammar_feeds_loader :
    buildGrammar.Feeds "loader" IsLoaderPair fun s => s.loaders where
  noEquals := by decide
  operand := by
    rintro put ⟨⟩ text s
    rfl
  flags := by
    have hnames : ∀ f ∈ commonFlags, f.name ≠ "loader" := by
      simp [commonFlags, Flag.choice, Flag.switch, Flag.text]
    simp only [buildGrammar, List.forall_mem_append, List.forall_mem_cons, List.forall_mem_map]
    refine ⟨⟨.text (by decide) (fun _ => rfl) fun _ _ => rfl,
      .text (by decide) (fun _ => rfl) fun _ _ => rfl,
      .text (by decide) (fun _ => rfl) fun _ _ => rfl,
      .switch (by decide) fun _ => rfl, .switch (by decide) fun _ => rfl,
      .choice (by decide) fun _ _ => rfl, .choice (by decide) fun _ _ => rfl,
      .text (by decide) (fun _ => rfl) fun _ _ => rfl,
      .own rfl (fun _ => rfl) (fun _ _ => isLoaderPair_of_readLoader) fun _ _ => rfl,
      .text (by decide) (fun _ => rfl) fun _ _ => rfl,
      .text (by decide) (fun _ => rfl) fun _ _ => rfl, List.forall_mem_nil _⟩, fun f hf => ?_⟩
    exact .other (hnames f hf) (fun _ => rfl) fun _ _ => rfl

theorem buildGrammar_feeds_external :
    buildGrammar.Feeds "external" Eq fun s => s.externals where
  noEquals := by decide
  operand := by
    rintro put ⟨⟩ text s
    rfl
  flags := by
    have hnames : ∀ f ∈ commonFlags, f.name ≠ "external" := by
      simp [commonFlags, Flag.choice, Flag.switch, Flag.text]
    have hread : ∀ name : String,
        (Except.ok fun f : BuildFlags => { f with externals := f.externals ++ [name] }) =
        (Except.ok name : Except BadValue String).map
          fun name f => { f with externals := f.externals ++ [name] } := fun _ => rfl
    simp only [buildGrammar, List.forall_mem_append, List.forall_mem_cons, List.forall_mem_map]
    refine ⟨⟨.text (by decide) (fun _ => rfl) fun _ _ => rfl,
      .text (by decide) (fun _ => rfl) fun _ _ => rfl,
      .text (by decide) (fun _ => rfl) fun _ _ => rfl,
      .switch (by decide) fun _ => rfl, .switch (by decide) fun _ => rfl,
      .choice (by decide) fun _ _ => rfl, .choice (by decide) fun _ _ => rfl,
      .own rfl hread (fun _ _ => Except.ok.inj) fun _ _ => rfl,
      .other (by decide) (fun _ => rfl) fun _ _ => rfl,
      .text (by decide) (fun _ => rfl) fun _ _ => rfl,
      .text (by decide) (fun _ => rfl) fun _ _ => rfl, List.forall_mem_nil _⟩, fun f hf => ?_⟩
    exact .other (hnames f hf) (fun _ => rfl) fun _ _ => rfl

end CommandLine

/-! ## Command lines over options -/

open CommandLine

theorem eq_ok_of_map {ε α β : Type} {f : α → β} (hf : Function.Injective f) {read : Except ε α}
    {a : α} (h : read.map f = .ok (f a)) : read = .ok a := by
  cases read with
  | error e => cases h
  | ok b => rw [hf (Except.ok.inj h)]

theorem buildGrammar_of_read {arguments : List String} {f : BuildFlags}
    (h : Command.read ("build" :: arguments) = .ok (.build f)) :
    buildGrammar.read {} arguments = .ok f := eq_ok_of_map (fun _ _ => Command.build.inj) h

theorem transformGrammar_of_read {arguments : List String} {f : TransformFlags}
    (h : Command.read ("transform" :: arguments) = .ok (.transform f)) :
    transformGrammar.read {} arguments = .ok f := eq_ok_of_map (fun _ _ => Command.transform.inj) h

/-- Options with what the arguments of a build say of their lists and dictionaries. -/
structure Extends (arguments : List String) (f : BuildFlags) (o merged : BuildOptions) : Prop where
  defines : Overlaid IsPair (valuesOf "define" arguments) o.defines merged.defines
  loaders : Overlaid IsLoaderPair (valuesOf "loader" arguments) o.loaders merged.loaders
  externals : merged.externals = o.externals ++ valuesOf "external" arguments
  entryPoints : merged.entryPoints = o.entryPoints ++ f.entryPoints

theorem overlaid_defines {f : CommonFlags} {arguments : List String}
    (h : List.Forall₂ IsPair (valuesOf "define" arguments) f.defines) (o : CommonOptions) :
    Overlaid IsPair (valuesOf "define" arguments) o.defines (f.apply o).defines :=
  o.defines.overlaid_insertAll h IsPair.unique

theorem extends_of_read {arguments : List String} {f : BuildFlags}
    (h : Command.read ("build" :: arguments) = .ok (.build f)) (o : BuildOptions) :
    Extends arguments f o (f.apply o) := by
  have hread := buildGrammar_of_read h
  have hdefines := (Grammar.fed_of_read buildGrammar_feeds_define hread).of_nil
  have hloaders := (Grammar.fed_of_read buildGrammar_feeds_loader hread).of_nil
  have hexternals := (Grammar.fed_of_read buildGrammar_feeds_external hread).of_nil
  rw [List.forall₂_eq_eq_eq] at hexternals
  refine ⟨overlaid_defines hdefines o.toCommonOptions,
    o.loaders.overlaid_insertAll hloaders IsLoaderPair.unique, ?_, rfl⟩
  rw [hexternals]
  rfl

/-- Flags act on options: those put behind others come to the same as the ones after the others, and
no flags change nothing. Each flag does to its option, and to the same flag in front of it, what its
kind does: a value replaces, a switch stays on, a list comes behind, entries are put over those of
the same key, and extensions replace others unless there are none. Of the arguments that give a key,
the last one counts, the other keys of the options stay as they are, and externals and entry points
come behind those of the options. -/
theorem flags_act_on_options :
    (∀ (f g : BuildFlags) (o : BuildOptions), (f ++ g).apply o = g.apply (f.apply o)) ∧
    (∀ (f g : TransformFlags) (o : TransformOptions), (f ++ g).apply o = g.apply (f.apply o)) ∧
    (∀ o : BuildOptions, ({} : BuildFlags).apply o = o) ∧
    (∀ o : TransformOptions, ({} : TransformFlags).apply o = o) ∧
    (∀ (f : BuildFlags) (o : BuildOptions), f.Merges o (f.apply o)) ∧
    (∀ (f : TransformFlags) (o : TransformOptions), f.Merges o (f.apply o)) ∧
    (∀ f g : BuildFlags, f.Joins g (f ++ g)) ∧
    (∀ f g : TransformFlags, f.Joins g (f ++ g)) ∧
    (∀ (arguments : List String) (f : BuildFlags) (o : BuildOptions),
      Command.read ("build" :: arguments) = .ok (.build f) →
        Extends arguments f o (f.apply o)) ∧
    ∀ (arguments : List String) (f : TransformFlags) (o : TransformOptions),
      Command.read ("transform" :: arguments) = .ok (.transform f) →
        Overlaid IsPair (valuesOf "define" arguments) o.defines (f.apply o).defines := by
  refine ⟨BuildFlags.apply_append, TransformFlags.apply_append, BuildFlags.apply_empty,
    TransformFlags.apply_empty, BuildFlags.merges_apply, TransformFlags.merges_apply,
    BuildFlags.joins_append, TransformFlags.joins_append,
    fun _ _ o hread => extends_of_read hread o, ?_⟩
  intro arguments f o hread
  have hdefines := (Grammar.fed_of_read transformGrammar_feeds_define
    (transformGrammar_of_read hread)).of_nil
  exact overlaid_defines hdefines o.toCommonOptions

/-- A key is given three times, over options that have it and another one, and once to a transform.
Values, switches and extensions are given over options that have them too. -/
theorem flags_act_on_options_repeated :
    let arguments := ["--define", "A=1", "a.ts", "--external", "react", "--define=A=b=c",
      "--loader", ".x=ts", "--define", "A=", "--outfile", "b.js", "--format=esm", "--minify",
      "--bundle", "--resolve-extensions", ".x,.ts", "--target=es2017"]
    let f : BuildFlags :=
      { defines := [("A", "1"), ("A", "b=c"), ("A", "")], entryPoints := ["a.ts"],
        externals := ["react"], loaders := [(".x", .ts)], outfile := some "b.js",
        format := some .esModule, minify := true, bundle := true,
        resolveExtensions := [".x", ".ts"], target := some .es2017 }
    let o : BuildOptions :=
      { entryPoints := ["main.ts"], externals := ["fs"],
        defines := .ofList [("B", "2"), ("A", "0")], outfile := "a.js", metafile := "meta.json",
        format := .iife, minifySyntax := true, bundle := true, splitting := true,
        resolveExtensions := some [".js"], target := .es2020 }
    let g : TransformFlags :=
      { defines := [("A", "b=c")], loader := some .ts, errorLimit := some 3 }
    (Command.read ("build" :: arguments) = .ok (.build f) ∧
      valuesOf "define" arguments = ["A=1", "A=b=c", "A="] ∧
      (f.apply o).defines.get? "A" = some "" ∧ (f.apply o).defines.get? "B" = some "2" ∧
      (f.apply o).entryPoints = ["main.ts", "a.ts"] ∧
      (f.apply o).externals = ["fs", "react"] ∧
      (f.apply o).outfile = "b.js" ∧ (f.apply o).metafile = "meta.json" ∧
      (f.apply o).format = .esModule ∧ (f.apply o).target = .es2017 ∧
      (f.apply o).minifyWhitespace = true ∧ (f.apply o).bundle = true ∧
      (f.apply o).splitting = true ∧ (f.apply o).resolveExtensions = some [".x", ".ts"]) ∧
    Command.read ["transform", "--loader", "ts", "--error-limit=3", "--define=A=b=c"] =
        .ok (.transform g) ∧
      (g.apply {}).defines.get? "A" = some "b=c" ∧
      (g.apply { loader := .jsx, sourcefile := "a.jsx" }).loader = .ts ∧
      (g.apply { loader := .jsx, sourcefile := "a.jsx" }).sourcefile = "a.jsx" ∧
      (g.apply { errorLimit := 10 }).errorLimit = 3 := by
  obtain ⟨-, -, -, -, hmerges, hchanges, -, -, hbuild, htransform⟩ := flags_act_on_options
  intro arguments f o g
  refine ⟨?_, ?_⟩
  · have hread : Command.read ("build" :: arguments) = .ok (.build f) := by decide +kernel
    have hvalues : valuesOf "define" arguments = ["A=1", "A=b=c", "A="] := by decide +kernel
    have hextends := hbuild arguments f o hread
    have hmerged := hmerges f o
    have hpairs : ∀ text ∈ ["A=1", "A=b=c", "A="], ∃ value, IsPair text ("A", value) :=
      List.forall_mem_cons.2 ⟨⟨"1", by decide⟩, List.forall_mem_cons.2 ⟨⟨"b=c", by decide⟩,
        List.forall_mem_singleton.2 ⟨"", by decide⟩⟩⟩
    refine ⟨hread, hvalues, ?_, ?_, hextends.entryPoints, ?_, hmerged.outfile.given _ rfl,
      hmerged.metafile.absent rfl, hmerged.format.given _ rfl, hmerged.common.target.given _ rfl,
      hmerged.common.minifyWhitespace.2 (.inr (.inl rfl)), hmerged.bundle.2 (.inr rfl),
      hmerged.splitting.2 (.inl rfl), hmerged.extensionsGiven (List.cons_ne_nil _ _)⟩
    · exact hextends.defines.last ["A=1", "A=b=c"] "A=" [] ("A", "") hvalues (by decide)
        (List.forall_mem_nil _)
    · rw [hextends.defines.kept "B" fun text htext entry hentry => ?_]
      · rfl
      · rw [hvalues] at htext
        obtain ⟨value, hpair⟩ := hpairs text htext
        rw [hentry.unique hpair]
        exact ne_of_beq_false rfl
    · rw [hextends.externals]
      decide +kernel
  · have hread : Command.read ["transform", "--loader", "ts", "--error-limit=3",
        "--define=A=b=c"] = .ok (.transform g) := by decide +kernel
    have hmerged := hchanges g { loader := .jsx, sourcefile := "a.jsx" }
    refine ⟨hread, ?_, hmerged.loader.given _ rfl, hmerged.sourcefile.absent rfl,
      (hchanges g { errorLimit := 10 }).common.errorLimit.given _ rfl⟩
    exact (htransform _ g {} hread).last [] "A=b=c" [] ("A", "b=c") (by decide +kernel)
      (by decide) (List.forall_mem_nil _)

end Bundler
