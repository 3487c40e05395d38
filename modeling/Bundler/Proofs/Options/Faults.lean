import Bundler.Proofs.Course
import Bundler.Proofs.Options.WellFormed

/-! # Everything that is wrong with the options of a build

The faults of options are told from the options alone, one option after the other: each item that is
not as it has to be is one fault, whatever the other items are, and last come the rules that are
broken (`BuildOptions.faults`). The checks of a build find these faults and no others
(`issues_plan`), and a build that is refused reports all of them. -/

set_option autoImplicit false

namespace Bundler

/-! ## Faults of one option -/

/-- An issue for each item that is not as it has to be, in the order of the items. -/
def issuesOf {α : Type} (good : α → Prop) [DecidablePred good] (issue : α → Issue)
    (items : List α) : List Issue :=
  (items.filter fun item => ¬ good item).map issue

section

variable {α : Type} (good : α → Prop) [DecidablePred good] (issue : α → Issue)

/-- No item hides another. -/
theorem issuesOf_append (as bs : List α) :
    issuesOf good issue (as ++ bs) = issuesOf good issue as ++ issuesOf good issue bs := by
  rw [issuesOf, List.filter_append, List.map_append]
  rfl

theorem issuesOf_singleton (item : α) :
    issuesOf good issue [item] = if good item then [] else [issue item] := by
  by_cases h : good item
  · simp [issuesOf, h]
  · simp [issuesOf, h]

theorem issuesOf_eq_flatMap (items : List α) :
    issuesOf good issue items = items.flatMap fun item => issuesOf good issue [item] := by
  induction items with
  | nil => rfl
  | cons item items ih =>
      rw [List.flatMap_cons, ← ih, ← issuesOf_append, List.singleton_append]

/-- There is one issue for each item that is not good. -/
theorem length_issuesOf (items : List α) :
    (issuesOf good issue items).length = items.countP fun item => ¬ good item := by
  rw [issuesOf, List.length_map, List.countP_eq_length_filter]

theorem issuesOf_eq_nil_iff (items : List α) :
    issuesOf good issue items = [] ↔ ∀ item ∈ items, good item := by
  simp [issuesOf, List.filter_eq_nil_iff]

end

namespace Faults

/-- What is wrong with the name of JSX elements or fragments. -/
def jsx (role text : String) : List Issue := issuesOf IsJsxName (.jsx role) [text]

/-- What is wrong with defines, in the order of their keys. An entry counts once: if its key is no
dotted path, its value does not matter. -/
def defines (entries : Dictionary String) : List Issue :=
  issuesOf (fun (entry : String × String) => IsDottedPath entry.1 ∧ IsDefineValue entry.2)
    (fun entry => if IsDottedPath entry.1 then .defineValue entry.2 else .defineKey entry.1)
    entries.entries

/-- What is wrong with paths. -/
def paths (fs : FileSystem) (texts : List String) : List Issue :=
  issuesOf (IsLocated fs) .path texts

/-- What is wrong with the extensions that have loaders, in their order. -/
def loaders (given : Dictionary Loader) : List Issue := issuesOf IsLoaderKey .extension given.keys

/-- What is wrong with the extensions to try. -/
def extensions (order : Option (List String)) : List Issue :=
  issuesOf IsExtension .extension (order.getD [])

/-- What is wrong with the modules that stay imports. -/
def externals (names : List String) : List Issue :=
  issuesOf (fun name => ¬ IsFileName name) .moduleName names

end Faults

/-! ## Broken rules -/

/-- The rules about several options of a build, in their order. -/
def Rule.ofBuilds : List Rule :=
  [.entriesNeedDirectory, .splittingNeedsDirectory, .fileOrDirectory, .externalMapNeedsOutput,
    .metafileNeedsOutput, .fileLoaderNeedsOutput, .formatNeedsBundle, .externalNeedsBundle,
    .splittingNeedsModules]

/-- Where a path leads: nowhere if it is nothing, and to itself if it has no absolute form. -/
def FileSystem.place (fs : FileSystem) (text : String) : String :=
  if text = "" then "" else (fs.abs text).getD text

/-- The options give neither an output file nor an output directory. -/
def BuildOptions.Nowhere (o : BuildOptions) (fs : FileSystem) : Prop :=
  fs.place o.outfile = "" ∧ fs.place o.outdir = ""

instance (o : BuildOptions) (fs : FileSystem) : Decidable (o.Nowhere fs) :=
  inferInstanceAs (Decidable (_ ∧ _))

/-- The options of a build break a rule. -/
def Rule.Broken (fs : FileSystem) (o : BuildOptions) : Rule → Prop
  | .entriesNeedDirectory => fs.place o.outdir = "" ∧ 1 < o.entryPoints.length
  | .splittingNeedsDirectory => fs.place o.outdir = "" ∧ o.splitting = true
  | .fileOrDirectory => fs.place o.outfile ≠ "" ∧ fs.place o.outdir ≠ ""
  | .externalMapNeedsOutput => o.Nowhere fs ∧ o.sourcemap ≠ .none ∧ o.sourcemap ≠ .inside
  | .metafileNeedsOutput => o.Nowhere fs ∧ fs.place o.metafile ≠ ""
  | .fileLoaderNeedsOutput => o.Nowhere fs ∧ .file ∈ o.loaders.values
  | .formatNeedsBundle => o.bundle = false ∧ o.format ≠ .preserve
  | .externalNeedsBundle => o.bundle = false ∧ o.externals ≠ []
  | .splittingNeedsModules => o.splitting = true ∧ o.format ≠ .esModule
  | .noLinkedMap => False
  | .mapNeedsName => False

instance (fs : FileSystem) (o : BuildOptions) : (rule : Rule) → Decidable (rule.Broken fs o)
  | .entriesNeedDirectory | .splittingNeedsDirectory | .fileOrDirectory | .externalMapNeedsOutput
  | .metafileNeedsOutput | .fileLoaderNeedsOutput | .formatNeedsBundle | .externalNeedsBundle
  | .splittingNeedsModules => inferInstanceAs (Decidable (_ ∧ _))
  | .noLinkedMap | .mapNeedsName => .isFalse id

/-- The rules that the options of a build break, in the order of the rules. -/
def BuildOptions.brokenRules (o : BuildOptions) (fs : FileSystem) : List Rule :=
  Rule.ofBuilds.filter fun rule => rule.Broken fs o

/-- Everything that is wrong with the options of a build. -/
def BuildOptions.faults (o : BuildOptions) (fs : FileSystem) : List Issue :=
  Faults.jsx "factory" o.jsxFactory ++ Faults.jsx "fragment" o.jsxFragment
    ++ Faults.defines o.defines
    ++ Faults.paths fs [o.outfile] ++ Faults.paths fs [o.outdir] ++ Faults.paths fs [o.metafile]
    ++ Faults.loaders o.loaders ++ Faults.extensions o.resolveExtensions
    ++ Faults.externals o.externals
    ++ Faults.paths fs o.entryPoints
    ++ (o.brokenRules fs).map .rule

/-! ## The checks find the faults -/

/-- A check that gives one issue for each item that is not good. -/
theorem filterMap_eq_issuesOf {α : Type} {good : α → Prop} [DecidablePred good] {issue : α → Issue}
    {items : List α} {check : α → Option Issue}
    (h : ∀ item, check item = if good item then none else some (issue item)) :
    items.filterMap check = issuesOf good issue items := by
  induction items with
  | nil => rfl
  | cons item items ih =>
      rw [← List.singleton_append, issuesOf_append, List.filterMap_append, ih, issuesOf_singleton,
        List.filterMap_cons, h]
      by_cases hgood : good item
      · simp [hgood]
      · simp [hgood]

theorem issues_jsx (role text : String) : (Check.jsx role text).2 = Faults.jsx role text := by
  rw [Faults.jsx, issuesOf_singleton]
  unfold Check.jsx IsJsxName
  by_cases hempty : text = ""
  · simp [hempty]
  · by_cases hpath : IsDottedPath text
    · simp [hempty, hpath, (isDottedPath_iff text).2 hpath]
    · simp [hempty, hpath, mt (isDottedPath_iff text).1 hpath]

theorem issues_define (key value : String) :
    (match Check.define key value with
      | .ok _ => none
      | .error issue => some issue) =
    if IsDottedPath key ∧ IsDefineValue value then none
    else some (if IsDottedPath key then .defineValue value else .defineKey key) := by
  unfold Check.define
  by_cases hkey : IsDottedPath key
  · rw [(isDottedPath_iff key).2 hkey]
    cases hparse : Replacement.parse? value with
    | none =>
        have hvalue : ¬ IsDefineValue value := by
          rw [← isSome_parse?_iff, hparse]
          decide
        simp [hkey, hvalue]
    | some replacement =>
        have hvalue : IsDefineValue value := by
          rw [← isSome_parse?_iff, hparse]
          rfl
        simp [hkey, hvalue]
  · have hno : Text.isDottedPath key = false := by
      rw [← Bool.not_eq_true, isDottedPath_iff]
      exact hkey
    simp [hkey, hno]

theorem issues_defines (entries : Dictionary String) :
    (Check.defines entries).2 = Faults.defines entries := by
  unfold Check.defines Faults.defines Dictionary.isEmpty
  split
  · rename_i h
    rw [List.isEmpty_iff.1 h]
    rfl
  · simp only [List.filterMap_map]
    exact filterMap_eq_issuesOf fun entry => issues_define entry.1 entry.2

theorem issues_path (fs : FileSystem) (text : String) :
    (Check.path fs text).2 = Faults.paths fs [text] := by
  rw [Faults.paths, issuesOf_singleton]
  unfold Check.path
  by_cases hlocated : IsLocated fs text
  · rw [if_pos hlocated]
    obtain rfl | ⟨absolute, habs⟩ := hlocated
    · rfl
    · rw [habs]
      split <;> rfl
  · rw [if_neg hlocated]
    have hnonempty : text ≠ "" := fun h => hlocated (.inl h)
    cases habs : fs.abs text with
    | none => simp [hnonempty]
    | some absolute => exact absurd (.inr ⟨absolute, habs⟩) hlocated

theorem issues_paths (fs : FileSystem) (texts : List String) :
    (texts.map (Check.path fs)).flatMap Prod.snd = Faults.paths fs texts := by
  have hpath : (fun text => (Check.path fs text).2) = fun text => Faults.paths fs [text] :=
    funext (issues_path fs)
  calc (texts.map (Check.path fs)).flatMap Prod.snd
      = texts.flatMap fun text => (Check.path fs text).2 := List.flatMap_map _ _ _
    _ = texts.flatMap fun text => Faults.paths fs [text] := by rw [hpath]
    _ = Faults.paths fs texts := (issuesOf_eq_flatMap (IsLocated fs) .path texts).symm

/-- A check that keeps the items that a test fails on. -/
theorem map_filter_eq_issuesOf {α : Type} {good : α → Prop} [DecidablePred good]
    {issue : α → Issue} {items : List α} {test : α → Bool}
    (h : ∀ item, test item = true ↔ good item) :
    (items.filter fun item => !test item).map issue = issuesOf good issue items := by
  have hfilter : items.filter (fun item => !test item) = items.filter fun item => ¬ good item :=
    List.filter_congr fun item _ => by
      rw [Bool.eq_iff_iff, Bool.not_eq_true', decide_eq_true_eq, ← h, Bool.not_eq_true]
  rw [hfilter, issuesOf]

theorem issues_loaders (given : Dictionary Loader) :
    (Check.loaders given).2 = Faults.loaders given := by
  unfold Check.loaders Faults.loaders Dictionary.isEmpty
  split
  · rename_i h
    rw [Dictionary.keys, List.isEmpty_iff.1 h]
    rfl
  · exact map_filter_eq_issuesOf isLoaderKey_iff

theorem issues_extensions (order : Option (List String)) :
    (Check.extensions order).2 = Faults.extensions order := by
  cases order with
  | none => rfl
  | some order => exact map_filter_eq_issuesOf isExtension_iff

theorem issues_externals (names : List String) :
    (Check.externals names).2 = Faults.externals names := by
  have hgood (name : String) : (!namesFile name) = true ↔ ¬ IsFileName name := by
    rw [Bool.not_eq_true', ← namesFile_iff, Bool.not_eq_true]
  rw [Faults.externals, ← map_filter_eq_issuesOf hgood]
  simp only [Check.externals, Bool.not_not]

/-! ## The rules find the broken rules -/

theorem path_fst (fs : FileSystem) (text : String) : (Check.path fs text).1 = fs.place text := by
  unfold Check.path FileSystem.place
  by_cases hempty : text = ""
  · simp [hempty]
  · cases habs : fs.abs text with
    | none => simp [hempty]
    | some absolute => simp [hempty]

/-- The options of the bundle, before the rules fill in what depends on other options. -/
def BuildOptions.bundleOptions (o : BuildOptions) (fs : FileSystem) : BundleOptions :=
  { sourceMap := o.sourcemap
    mangleSyntax := o.minifySyntax
    removeWhitespace := o.minifyWhitespace
    minifyIdentifiers := o.minifyIdentifiers
    moduleName := o.globalName
    isBundling := o.bundle
    codeSplitting := o.splitting
    format := o.format
    outputFile := (Check.path fs o.outfile).1
    outputDir := (Check.path fs o.outdir).1
    metadataFile := (Check.path fs o.metafile).1
    loaders := (Check.loaders o.loaders).1 }

/-- What the resolver is told. -/
def BuildOptions.resolveOptions (o : BuildOptions) : ResolveOptions :=
  { platform := o.platform
    extensions := (Check.extensions o.resolveExtensions).1
    externals := (Check.externals o.externals).1 }

/-- In the loaders of a run the given ones stand over the usual ones. -/
theorem get?_loaders (given : Dictionary Loader) (key : String) :
    (Check.loaders given).1.get? key = (given.get? key).or (usualLoaders.get? key) := by
  unfold Check.loaders
  split
  · rename_i hempty
    rw [(Dictionary.isEmpty_iff given).1 hempty]
    rfl
  · exact usualLoaders.get?_insertAll_entries given key

/-- The loaders of a run give a file loader to an extension exactly when the given ones do. -/
theorem contains_file_loaders (given : Dictionary Loader) :
    (Check.loaders given).1.loaders.values.contains .file = true ↔ .file ∈ given.values := by
  have husual : ∀ key, usualLoaders.get? key ≠ some .file := by
    intro key h
    have hmem : Loader.file ∈ usualLoaders.values := (Dictionary.mem_values_iff _ _).2 ⟨key, h⟩
    exact absurd hmem (by decide +kernel)
  rw [List.contains_iff_mem, Dictionary.mem_values_iff, Dictionary.mem_values_iff]
  refine exists_congr fun key => ?_
  have hkey : (Check.loaders given).1.loaders.get? key =
      (given.get? key).or (usualLoaders.get? key) := get?_loaders given key
  rw [hkey, Option.or_eq_some_iff]
  constructor
  · rintro (h | ⟨-, h⟩)
    · exact h
    · exact absurd h (husual key)
  · exact .inl

/-- No platform has modules as its usual format, so filling in the format does not matter. -/
theorem format_ne_esModule (r : ResolveOptions) (b : BundleOptions) :
    Rules.format r b ≠ .esModule ↔ b.format ≠ .esModule := by
  unfold Rules.format
  split
  · rename_i h
    simp only [Bool.and_eq_true, beq_iff_eq] at h
    rw [h.2]
    cases r.platform <;> decide
  · exact Iff.rfl

theorem filter_cons_breaking (broken : Rule → Bool) (rule : Rule) (rules : List Rule) :
    (rule :: rules).filter broken = Rules.breaking (broken rule) rule ++ rules.filter broken := by
  unfold Rules.breaking
  cases h : broken rule <;> simp [h]

section

variable (o : BuildOptions) (fs : FileSystem)

/-- The rule of builds, if it is broken. -/
def BuildOptions.breaking (rule : Rule) : List Rule := Rules.breaking (rule.Broken fs o) rule

theorem BuildOptions.breaking_eq {rule : Rule} {test : Bool}
    (h : test = true ↔ rule.Broken fs o) : Rules.breaking test rule = o.breaking fs rule := by
  have htest : test = decide (rule.Broken fs o) := by rw [Bool.eq_iff_iff, h, decide_eq_true_eq]
  rw [breaking, ← htest]

theorem BuildOptions.breaking_eq_nil {rule : Rule} (h : ¬ rule.Broken fs o) :
    o.breaking fs rule = [] := by
  rw [breaking, decide_eq_false h]
  rfl

theorem placement_eq :
    Rules.placement o.entryPoints.length (o.bundleOptions fs) =
      o.breaking fs .entriesNeedDirectory ++ o.breaking fs .splittingNeedsDirectory
        ++ o.breaking fs .fileOrDirectory := by
  simp only [Rules.placement]
  rw [o.breaking_eq fs, o.breaking_eq fs, o.breaking_eq fs]
  · simp [Rule.Broken, BuildOptions.bundleOptions, path_fst]
  · simp [Rule.Broken, BuildOptions.bundleOptions, path_fst]
  · simp [Rule.Broken, BuildOptions.bundleOptions, path_fst]

theorem withoutOutput_eq :
    Rules.withoutOutput (o.bundleOptions fs) =
      o.breaking fs .externalMapNeedsOutput ++ o.breaking fs .metafileNeedsOutput
        ++ o.breaking fs .fileLoaderNeedsOutput := by
  have houtput : ((o.bundleOptions fs).outputFile != "" || (o.bundleOptions fs).outputDir != "")
      = true ↔ ¬ o.Nowhere fs := by
    simp only [BuildOptions.Nowhere, BuildOptions.bundleOptions, path_fst, Bool.or_eq_true,
      bne_iff_ne, Decidable.not_and_iff_not_or_not]
  unfold Rules.withoutOutput
  by_cases hnowhere : o.Nowhere fs
  · rw [if_neg (by rw [houtput]; exact fun h => h hnowhere), o.breaking_eq fs, o.breaking_eq fs,
      o.breaking_eq fs]
    · exact (contains_file_loaders o.loaders).trans ⟨fun h => ⟨hnowhere, h⟩, And.right⟩
    · simp [Rule.Broken, hnowhere, BuildOptions.bundleOptions, path_fst]
    · simp [Rule.Broken, hnowhere, BuildOptions.bundleOptions]
  -- with an output none of the three rules is looked at, and none of them is broken
  · have hmap : ¬ Rule.Broken fs o .externalMapNeedsOutput := fun h => hnowhere h.1
    have hmetafile : ¬ Rule.Broken fs o .metafileNeedsOutput := fun h => hnowhere h.1
    have hloader : ¬ Rule.Broken fs o .fileLoaderNeedsOutput := fun h => hnowhere h.1
    rw [if_pos (houtput.2 hnowhere), o.breaking_eq_nil fs hmap, o.breaking_eq_nil fs hmetafile,
      o.breaking_eq_nil fs hloader]
    rfl

theorem withoutBundle_eq :
    Rules.withoutBundle o.resolveOptions (o.bundleOptions fs) =
      o.breaking fs .formatNeedsBundle ++ o.breaking fs .externalNeedsBundle := by
  have hbundling : (o.bundleOptions fs).isBundling = o.bundle := rfl
  unfold Rules.withoutBundle
  rw [hbundling]
  cases hbundle : o.bundle with
  | true =>
      have hbroken : o.bundle ≠ false := by rw [hbundle]; decide
      have hformat : ¬ Rule.Broken fs o .formatNeedsBundle := fun h => hbroken h.1
      have hexternal : ¬ Rule.Broken fs o .externalNeedsBundle := fun h => hbroken h.1
      rw [o.breaking_eq_nil fs hformat, o.breaking_eq_nil fs hexternal]
      rfl
  | false =>
      rw [if_neg Bool.false_ne_true, o.breaking_eq fs, o.breaking_eq fs]
      · simp [Rule.Broken, hbundle, BuildOptions.resolveOptions, Check.externals,
          NameSet.isEmpty_ofList]
      · simp [Rule.Broken, hbundle, BuildOptions.bundleOptions]

/-- What the rules say about a build. -/
theorem issues_rules :
    (Rules.build fs o.entryPoints.length o.resolveOptions (o.bundleOptions fs)).2 =
      (o.brokenRules fs).map .rule := by
  have hmodules : Rules.breaking (o.splitting &&
      Rules.format o.resolveOptions (o.bundleOptions fs) != .esModule) .splittingNeedsModules =
      o.breaking fs .splittingNeedsModules := by
    refine o.breaking_eq fs ?_
    rw [Bool.and_eq_true, bne_iff_ne, format_ne_esModule]
    rfl
  have hrules : o.brokenRules fs = Rules.placement o.entryPoints.length (o.bundleOptions fs)
      ++ Rules.withoutOutput (o.bundleOptions fs)
      ++ Rules.withoutBundle o.resolveOptions (o.bundleOptions fs)
      ++ o.breaking fs .splittingNeedsModules := by
    rw [placement_eq, withoutOutput_eq, withoutBundle_eq, BuildOptions.brokenRules, Rule.ofBuilds]
    repeat rw [filter_cons_breaking]
    simp only [List.filter_nil, List.append_nil, List.append_assoc]
    rfl
  rw [hrules, ← hmodules]
  rfl

end

/-- The checks of a build, one after the other. -/
theorem issues_plan_eq (o : BuildOptions) (fs : FileSystem) :
    (o.plan fs).2 = (Check.jsx "factory" o.jsxFactory).2 ++ (Check.jsx "fragment" o.jsxFragment).2
      ++ (Check.defines o.defines).2
      ++ (Check.path fs o.outfile).2 ++ (Check.path fs o.outdir).2 ++ (Check.path fs o.metafile).2
      ++ (Check.loaders o.loaders).2 ++ (Check.extensions o.resolveExtensions).2
      ++ (Check.externals o.externals).2
      ++ (o.entryPoints.map (Check.path fs)).flatMap Prod.snd
      ++ (Rules.build fs (o.entryPoints.map (Check.path fs)).length o.resolveOptions
          (o.bundleOptions fs)).2 := rfl

/-- The checks of a build find the faults of its options, in their order. -/
theorem issues_plan (o : BuildOptions) (fs : FileSystem) : (o.plan fs).2 = o.faults fs := by
  rw [issues_plan_eq, issues_jsx, issues_jsx, issues_defines, issues_path, issues_path, issues_path,
    issues_loaders, issues_extensions, issues_externals, issues_paths, List.length_map,
    issues_rules]
  rfl

/-! ## What a refused build reports -/

/-- Issues are reported as errors, without a place. -/
theorem messagesOf_error_issueErrors (issues : List Issue) :
    messagesOf .error (issueErrors issues) = issues.map fun issue => ⟨issue.message, none⟩ := by
  induction issues with
  | nil => rfl
  | cons issue rest ih =>
      show ⟨issue.message, none⟩ :: messagesOf .error (issueErrors rest) = _
      rw [ih]
      rfl

theorem messagesOf_warning_issueErrors (issues : List Issue) :
    messagesOf .warning (issueErrors issues) = [] := by
  induction issues with
  | nil => rfl
  | cons issue rest ih => exact ih

/-- The number of faults: each item and each rule counts by itself. -/
theorem length_faults (o : BuildOptions) (fs : FileSystem) :
    (o.faults fs).length =
      [o.jsxFactory, o.jsxFragment].countP (fun text => ¬ IsJsxName text)
        + o.defines.entries.countP (fun entry => ¬ (IsDottedPath entry.1 ∧ IsDefineValue entry.2))
        + [o.outfile, o.outdir, o.metafile].countP (fun text => ¬ IsLocated fs text)
        + o.loaders.keys.countP (fun key => ¬ IsLoaderKey key)
        + (o.resolveExtensions.getD []).countP (fun text => ¬ IsExtension text)
        + o.externals.countP (fun name => IsFileName name)
        + o.entryPoints.countP (fun text => ¬ IsLocated fs text)
        + Rule.ofBuilds.countP (fun rule => rule.Broken fs o) := by
  simp only [BuildOptions.faults, Faults.jsx, Faults.defines, Faults.paths, Faults.loaders,
    Faults.extensions, Faults.externals, List.length_append, List.length_map, length_issuesOf,
    BuildOptions.brokenRules, List.countP_cons, List.countP_nil, Decidable.not_not,
    ← List.countP_eq_length_filter]
  omega

/-- A build that is refused reports what is wrong with its options, one option after the other, and
after that the rules that are broken. Each item that is not good is one error, whatever the others
are; no error has a place, and there are no warnings. -/
theorem build_reports_faults (o : BuildOptions) (fs : FileSystem) (engine : Engine)
    (display : Display) (h : (o.plan fs).2 ≠ []) :
    let result := (build o fs engine display).result
    result.errors =
      (Faults.jsx "factory" o.jsxFactory ++ Faults.jsx "fragment" o.jsxFragment
        ++ Faults.defines o.defines
        ++ Faults.paths fs [o.outfile] ++ Faults.paths fs [o.outdir] ++ Faults.paths fs [o.metafile]
        ++ Faults.loaders o.loaders ++ Faults.extensions o.resolveExtensions
        ++ Faults.externals o.externals
        ++ Faults.paths fs o.entryPoints
        ++ (o.brokenRules fs).map Issue.rule).map (fun issue => ⟨issue.message, none⟩) ∧
    result.warnings = [] ∧
    (o.brokenRules fs).Sublist Rule.ofBuilds ∧ (o.brokenRules fs).Nodup ∧
    result.errors.length =
      [o.jsxFactory, o.jsxFragment].countP (fun text => ¬ IsJsxName text)
        + o.defines.entries.countP (fun entry => ¬ (IsDottedPath entry.1 ∧ IsDefineValue entry.2))
        + [o.outfile, o.outdir, o.metafile].countP (fun text => ¬ IsLocated fs text)
        + o.loaders.keys.countP (fun key => ¬ IsLoaderKey key)
        + (o.resolveExtensions.getD []).countP (fun text => ¬ IsExtension text)
        + o.externals.countP (fun name => IsFileName name)
        + o.entryPoints.countP (fun text => ¬ IsLocated fs text)
        + Rule.ofBuilds.countP (fun rule => rule.Broken fs o) := by
  obtain ⟨logged, files, course, hresult⟩ := build_course o fs engine display
  have hlogged : logged = issueErrors (o.faults fs) := by
    rw [(course.of_issues h).2.1, issues_plan]
  have herrors : (build o fs engine display).result.errors =
      (o.faults fs).map fun issue => ⟨issue.message, none⟩ :=
    calc (build o fs engine display).result.errors = messagesOf .error logged := by rw [hresult]
      _ = messagesOf .error (issueErrors (o.faults fs)) := by rw [hlogged]
      _ = _ := messagesOf_error_issueErrors _
  have hrules : (o.brokenRules fs).Sublist Rule.ofBuilds := List.filter_sublist
  refine ⟨herrors, ?_, hrules, ?_, ?_⟩
  · rw [hresult, hlogged, messagesOf_warning_issueErrors]
  · have hnodup : Rule.ofBuilds.Nodup := by decide
    exact hnodup.sublist hrules
  · rw [herrors, List.length_map, length_faults]

/-- Faults in nearly every option at once, with good items between the bad ones. -/
theorem build_reports_faults_mixed :
    let o : BuildOptions :=
      { jsxFactory := "h.", jsxFragment := "Fragment"
        defines := .ofList [("a-b", "@"), ("b", "@"), ("c", " null ")]
        outfile := "c", outdir := "out\x00"
        loaders := .ofList [(".", .js), (".ts", .file)]
        resolveExtensions := some ["ts", ".ts"]
        externals := ["./x", "react", "./x"]
        entryPoints := ["a.ts", "b\x00"]
        splitting := true, format := .commonJs }
    let fs : FileSystem := .host .bare "/w"
    let s : Session := ⟨[], [.error "never asked"], [], []⟩
    (o.plan fs).2 ≠ [] ∧
    (build o fs s.engine false).result.errors.map Message.text =
      ["Invalid JSX factory: \"h.\"", "Invalid define key: \"a-b\"",
        "Invalid define value: \"@\"", "Invalid path: out\x00",
        "Invalid file extension: \".\"", "Invalid file extension: \"ts\"",
        "Invalid module name: \"./x\"", "Invalid module name: \"./x\"", "Invalid path: b\x00",
        "Cannot use both \"outfile\" and \"outdir\"",
        "Cannot use \"format\" without \"bundle\"",
        "Cannot use \"external\" without \"bundle\"",
        "Splitting currently only works with the \"esm\" format"] := by
  intro o fs s
  have hissues : (o.plan fs).2 ≠ [] := by decide +kernel
  obtain ⟨herrors, -⟩ := build_reports_faults o fs s.engine false hissues
  refine ⟨hissues, ?_⟩
  rw [herrors]
  decide +kernel

end Bundler
