import Bundler.Proofs.Files.Places
import Bundler.Proofs.Options.Faults
import Bundler.Proofs.Protocol

/-! # Options with which an engine is asked

A build asks its engine exactly when its options are admissible: every item is as it has to be, and
the options fit together. Whether a path is given is told from the option as the caller wrote it.
The rules look at the place that the path leads to instead; on file systems whose absolute forms
begin at the root this is the same (`FileSystem.Rooted`). -/

set_option autoImplicit false

namespace Bundler

/-! ## File systems -/

/-- A path leads nowhere only if it is nothing. -/
theorem FileSystem.Rooted.place_eq_empty_iff {fs : FileSystem} (h : fs.Rooted) (text : String) :
    fs.place text = "" ↔ text = "" := by
  unfold FileSystem.place
  split
  · rename_i hempty
    exact ⟨fun _ => hempty, fun _ => rfl⟩
  · rename_i hempty
    refine ⟨fun hplace => ?_, fun h => absurd h hempty⟩
    cases habs : fs.abs text with
    | none =>
        rw [habs] at hplace
        exact hplace
    | some absolute =>
        rw [habs] at hplace
        have hplace : absolute = "" := hplace
        have habsolute := h text absolute habs
        rw [hplace] at habsolute
        exact absurd habsolute (by decide)

/-- A given path that is located has the place that it leads to for its absolute form. -/
theorem abs_eq_place {fs : FileSystem} {text : String} (hlocated : IsLocated fs text)
    (hne : text ≠ "") : fs.abs text = some (fs.place text) := by
  obtain hempty | ⟨absolute, habs⟩ := hlocated
  · exact absurd hempty hne
  · unfold FileSystem.place
    rw [if_neg hne, habs, Option.getD_some]

/-! ## Admissible options -/

/-- Every item of the options of a build is as it has to be. -/
structure GoodItems (fs : FileSystem) (o : BuildOptions) : Prop where
  factory : IsJsxName o.jsxFactory
  fragment : IsJsxName o.jsxFragment
  defines : ∀ entry ∈ o.defines.entries, IsDottedPath entry.1 ∧ IsDefineValue entry.2
  outputs : IsLocated fs o.outfile ∧ IsLocated fs o.outdir ∧ IsLocated fs o.metafile
  loaders : ∀ key ∈ o.loaders.keys, IsLoaderKey key
  extensions : ∀ order, o.resolveExtensions = some order → ∀ text ∈ order, IsExtension text
  externals : ∀ name ∈ o.externals, ¬ IsFileName name
  entries : ∀ text ∈ o.entryPoints, IsLocated fs text

/-- The options of a build fit together. -/
structure FitTogether (o : BuildOptions) : Prop where
  /-- There is a file or a directory for the output, not both. -/
  oneOutput : ¬ (o.outfile ≠ "" ∧ o.outdir ≠ "")
  /-- Without a directory there is one file alone. -/
  oneFile : o.outdir = "" → o.entryPoints.length ≤ 1 ∧ o.splitting = false
  /-- Output that goes nowhere brings no other file with it. -/
  nothingElse : o.outfile = "" → o.outdir = "" →
    (o.sourcemap = .none ∨ o.sourcemap = .inside) ∧ o.metafile = "" ∧ .file ∉ o.loaders.values
  /-- Without a bundle there are no options about bundles. -/
  noBundle : o.bundle = false → o.format = .preserve ∧ o.externals = []
  /-- Bundles that are split are modules. -/
  modules : o.splitting = true → o.format = .esModule

/-- The options of a build with which an engine is asked. -/
structure Admissible (fs : FileSystem) (o : BuildOptions) : Prop extends GoodItems fs o,
  FitTogether o

/-- Items are good exactly when none of them is a fault. -/
theorem faults_eq_nil_iff (o : BuildOptions) (fs : FileSystem) :
    o.faults fs = [] ↔ GoodItems fs o ∧ ∀ rule ∈ Rule.ofBuilds, ¬ rule.Broken fs o := by
  have hrules : (o.brokenRules fs).map Issue.rule = [] ↔
      ∀ rule ∈ Rule.ofBuilds, ¬ rule.Broken fs o := by
    simp [BuildOptions.brokenRules, List.filter_eq_nil_iff]
  have hextensions : (∀ text ∈ o.resolveExtensions.getD [], IsExtension text) ↔
      ∀ order, o.resolveExtensions = some order → ∀ text ∈ order, IsExtension text := by
    cases o.resolveExtensions with
    | none => simp
    | some order => simp
  simp only [BuildOptions.faults, Faults.jsx, Faults.defines, Faults.paths, Faults.loaders,
    Faults.extensions, Faults.externals, List.append_eq_nil_iff, hrules, issuesOf_eq_nil_iff,
    List.forall_mem_singleton, hextensions]
  constructor
  · rintro ⟨⟨⟨⟨⟨⟨⟨⟨⟨⟨factory, fragment⟩, defines⟩, outfile⟩, outdir⟩, metafile⟩, loaders⟩,
      extensions⟩, externals⟩, entries⟩, rules⟩
    exact ⟨⟨factory, fragment, defines, ⟨outfile, outdir, metafile⟩, loaders, extensions, externals,
      entries⟩, rules⟩
  · rintro ⟨good, rules⟩
    obtain ⟨outfile, outdir, metafile⟩ := good.outputs
    exact ⟨⟨⟨⟨⟨⟨⟨⟨⟨⟨good.factory, good.fragment⟩, good.defines⟩, outfile⟩, outdir⟩, metafile⟩,
      good.loaders⟩, good.extensions⟩, good.externals⟩, good.entries⟩, rules⟩

/-- Options fit together exactly when they break no rule. -/
theorem no_rule_broken_iff {fs : FileSystem} (h : fs.Rooted) (o : BuildOptions) :
    (∀ rule ∈ Rule.ofBuilds, ¬ rule.Broken fs o) ↔ FitTogether o := by
  simp only [Rule.ofBuilds, List.forall_mem_cons, Rule.Broken, BuildOptions.Nowhere, Ne,
    h.place_eq_empty_iff]
  -- what is left is one condition for each of the nine rules, in their order
  constructor
  · rintro ⟨entries, directory, both, map, metafile, loader, format, external, modules, -⟩
    refine ⟨both, fun hdir => ⟨?_, ?_⟩, fun hfile hdir => ⟨?_, ?_, ?_⟩, fun hbundle => ⟨?_, ?_⟩,
      fun hsplitting => ?_⟩
    · exact Nat.le_of_not_lt fun hlt => entries ⟨hdir, hlt⟩
    · exact Bool.eq_false_iff.2 fun hsplitting => directory ⟨hdir, hsplitting⟩
    · by_cases hnone : o.sourcemap = .none
      · exact .inl hnone
      · exact .inr (Decidable.of_not_not fun hinside => map ⟨⟨hfile, hdir⟩, hnone, hinside⟩)
    · exact Decidable.of_not_not fun hset => metafile ⟨⟨hfile, hdir⟩, hset⟩
    · exact fun hmem => loader ⟨⟨hfile, hdir⟩, hmem⟩
    · exact Decidable.of_not_not fun hset => format ⟨hbundle, hset⟩
    · exact Decidable.of_not_not fun hset => external ⟨hbundle, hset⟩
    · exact Decidable.of_not_not fun hother => modules ⟨hsplitting, hother⟩
  · rintro ⟨oneOutput, oneFile, nothingElse, noBundle, modules⟩
    refine ⟨?_, ?_, oneOutput, ?_, ?_, ?_, ?_, ?_, ?_, List.forall_mem_nil _⟩
    · rintro ⟨hdir, hlt⟩
      have hle := (oneFile hdir).1
      omega
    · rintro ⟨hdir, hsplitting⟩
      exact Bool.eq_false_iff.1 (oneFile hdir).2 hsplitting
    · rintro ⟨⟨hfile, hdir⟩, hnone, hinside⟩
      rcases (nothingElse hfile hdir).1 with hmap | hmap
      · exact hnone hmap
      · exact hinside hmap
    · rintro ⟨⟨hfile, hdir⟩, hset⟩
      exact hset (nothingElse hfile hdir).2.1
    · rintro ⟨⟨hfile, hdir⟩, hmem⟩
      exact (nothingElse hfile hdir).2.2 hmem
    · rintro ⟨hbundle, hset⟩
      exact hset (noBundle hbundle).1
    · rintro ⟨hbundle, hset⟩
      exact hset (noBundle hbundle).2
    · rintro ⟨hsplitting, hother⟩
      exact hother (modules hsplitting)

theorem admissible_iff {fs : FileSystem} (h : fs.Rooted) (o : BuildOptions) :
    Admissible fs o ↔ (o.plan fs).2 = [] := by
  rw [issues_plan, faults_eq_nil_iff, no_rule_broken_iff h]
  constructor
  · rintro ⟨good, fit⟩
    exact ⟨good, fit⟩
  · rintro ⟨good, fit⟩
    exact ⟨good, fit⟩

/-! ## Asking the engine -/

/-- Without an issue the engine is asked for a resolver and for a scan, whatever it reports. -/
theorem Course.steps_of_no_issues {fs : FileSystem} {checked : Checked Plan} {s : Session}
    {calls : List EngineCall} {logged : List Diagnostic} {files : List OutputFile}
    (h : Course fs checked s calls logged files) (hnone : checked.2 = []) :
    (calls.map EngineCall.step).count .newResolver = 1 ∧
      (calls.map EngineCall.step).count .scan = 1 := by
  cases h with
  | refused hissues => exact absurd hnone hissues
  | stopped _ _ =>
      rw [List.map_take, steps_calls]
      decide
  | finished _ _ =>
      rw [steps_calls]
      decide

/-- A build asks its engine, once for a resolver and once for a scan, exactly when its options are
admissible. With other options it does not ask at all. -/
theorem engine_asked_iff_admissible (o : BuildOptions) (fs : FileSystem) (engine : Engine)
    (display : Display) (h : fs.Rooted) :
    let calls := (build o fs engine display).calls
    let steps := calls.map EngineCall.step
    (steps.count .newResolver = 1 ∧ steps.count .scan = 1 ↔ Admissible fs o) ∧
      (¬ Admissible fs o → calls = []) := by
  intro calls steps
  obtain ⟨logged, files, course, -⟩ := build_course o fs engine display
  have hcourse : Course fs (o.plan fs) _ calls logged files := course
  rw [admissible_iff h]
  -- a refused build makes no call, so a build that asks is not refused
  have hnot : (o.plan fs).2 ≠ [] → calls = [] := fun hissues => (hcourse.of_issues hissues).1
  refine ⟨⟨fun hsteps => ?_, fun hnone => hcourse.steps_of_no_issues hnone⟩, hnot⟩
  refine Decidable.of_not_not fun hissues => ?_
  have hnil : steps = [] := by
    show calls.map EngineCall.step = []
    rw [hnot hissues, List.map_nil]
  rw [hnil] at hsteps
  exact absurd hsteps.1 (by decide)

/-- A bundle with an external, on a host. -/
theorem engine_asked_for_bundle :
    let o : BuildOptions :=
      { entryPoints := ["src/a.ts", "/w/b.ts"], outdir := "out", metafile := "meta.json"
        bundle := true, externals := ["react"], resolveExtensions := some [".ts", ".js"]
        loaders := .ofList [(".txt", .file)], jsxFactory := "React.createElement"
        defines := .ofList [("process.env.NODE_ENV", "\"production\"")] }
    let fs : FileSystem := .host .bare "/w"
    let s : Session := ⟨[.warning "slow"], [.error "no such file"], [], []⟩
    let steps := (build o fs s.engine false).calls.map EngineCall.step
    fs.Rooted ∧ Admissible fs o ∧ steps.count .newResolver = 1 ∧ steps.count .scan = 1 := by
  intro o fs s steps
  have hrooted : fs.Rooted := (FileSystem.placed_host .bare (Path.isNamed_ofText rfl) "/").rooted
  have hadmissible : Admissible fs o := (admissible_iff hrooted o).2 (by decide +kernel)
  have hasked := engine_asked_iff_admissible o fs s.engine false hrooted
  exact ⟨hrooted, hadmissible, hasked.1.2 hadmissible⟩

/-- Good items and one output are not enough: without a bundle there is no choice of a format. -/
theorem engine_not_asked_for_format :
    let o : BuildOptions := { entryPoints := ["a.ts"], format := .esModule }
    let fs : FileSystem := .memory []
    let s : Session := ⟨[], [], [], []⟩
    let steps := (build o fs s.engine false).calls.map EngineCall.step
    ¬ (steps.count .newResolver = 1 ∧ steps.count .scan = 1 ↔
      GoodItems fs o ∧ ¬ (o.outfile ≠ "" ∧ o.outdir ≠ "") ∧
        (o.outdir = "" → o.entryPoints.length ≤ 1 ∧ o.splitting = false)) := by
  intro o fs s steps hiff
  have hgood : GoodItems fs o :=
    { factory := .inl rfl
      fragment := .inl rfl
      defines := fun entry h => absurd h List.not_mem_nil
      outputs := ⟨.inl rfl, .inl rfl, .inl rfl⟩
      loaders := fun key h => absurd h List.not_mem_nil
      extensions := fun order h => by cases h
      externals := fun name h => absurd h List.not_mem_nil
      entries := fun text _ => .inr ⟨Path.resolve text "/", rfl⟩ }
  have hasked := (hiff.2 ⟨hgood, by decide, fun _ => by decide⟩).1
  exact absurd hasked (by decide +kernel)

end Bundler
