import Bundler.Proofs.Options.Admissible

/-! # Options that an engine is handed

An engine need not check its options again: what it is handed for a build fits together
(`Consistent`). The rules are looked at before the output directory and the format are filled in, so
each condition is told from the rules that are kept and from what is filled in. It holds on every
file system, whatever its absolute forms and directories are. -/

set_option autoImplicit false

namespace Bundler

/-- What an engine is handed for a build fits together, and with what the caller asked for. -/
structure Consistent (fs : FileSystem) (o : BuildOptions) (resolve : ResolveOptions)
    (entries : List String) (b : BundleOptions) : Prop where
  /-- Bundles are in a format of their own, and nothing else is. -/
  bundling_iff : b.isBundling = true ↔ b.format ≠ .preserve
  /-- Only a bundle has modules that stay imports. -/
  externals : resolve.externals ≠ ∅ → b.isBundling = true
  /-- Only a bundle of modules is split, and into a directory. -/
  splitting : b.codeSplitting = true →
    b.isBundling = true ∧ b.format = .esModule ∧ b.outputDir ≠ "" ∧ b.outputFile = ""
  /-- Several entry points go into a directory. -/
  entries : 1 < entries.length → b.outputDir ≠ "" ∧ b.outputFile = ""
  /-- With a file to write, the directory is the one that it lies in. -/
  directory : b.outputFile ≠ "" → b.outputDir = fs.dir b.outputFile
  /-- Output that goes nowhere brings no other file with it. -/
  nowhere : b.outputFile = "" → b.outputDir = "" →
    (b.sourceMap = .none ∨ b.sourceMap = .inside) ∧ b.metadataFile = "" ∧
      .file ∉ b.loaders.loaders.values
  /-- A format that the caller has chosen is kept. -/
  chosen : o.format ≠ .preserve → b.format = o.format
  /-- A format other than that of the caller is the usual one of the platform. -/
  derived : b.format ≠ o.format →
    b.format =
      match o.platform with
      | .browser => .iife
      | .node => .commonJs

/-! ## What is filled in -/

theorem length_plan_entries (o : BuildOptions) (fs : FileSystem) :
    (o.plan fs).1.entries.length = o.entryPoints.length := by
  show ((o.entryPoints.map (Check.path fs)).map Prod.fst).length = _
  rw [List.length_map, List.length_map]

theorem outputFile_plan (o : BuildOptions) (fs : FileSystem) :
    (o.plan fs).1.bundle.outputFile = fs.place o.outfile := path_fst fs o.outfile

theorem metadataFile_plan (o : BuildOptions) (fs : FileSystem) :
    (o.plan fs).1.bundle.metadataFile = fs.place o.metafile := path_fst fs o.metafile

theorem outputDir_plan (o : BuildOptions) (fs : FileSystem) :
    (o.plan fs).1.bundle.outputDir =
      if fs.place o.outfile ≠ "" ∧ fs.place o.outdir = "" then fs.dir (fs.place o.outfile)
      else fs.place o.outdir := by
  show Rules.outputDir fs (o.bundleOptions fs) = _
  simp only [Rules.outputDir, BuildOptions.bundleOptions, path_fst, Bool.and_eq_true, bne_iff_ne,
    beq_iff_eq]

theorem format_plan (o : BuildOptions) (fs : FileSystem) :
    (o.plan fs).1.bundle.format =
      if o.bundle = true ∧ o.format = .preserve then Rules.usualFormat o.platform
      else o.format := by
  show Rules.format o.resolveOptions (o.bundleOptions fs) = _
  simp only [Rules.format, BuildOptions.bundleOptions, BuildOptions.resolveOptions,
    Bool.and_eq_true, beq_iff_eq]

theorem externals_plan_ne_empty_iff (o : BuildOptions) (fs : FileSystem) :
    (o.plan fs).1.resolve.externals ≠ ∅ ↔ o.externals ≠ [] := by
  show NameSet.ofList o.externals ≠ ∅ ↔ _
  rw [Ne, ← Dictionary.isEmpty_iff, NameSet.isEmpty_ofList, List.isEmpty_iff]

/-! ## What the rules are good for -/

section

variable {o : BuildOptions} {fs : FileSystem}
  (kept : ∀ rule ∈ Rule.ofBuilds, ¬ rule.Broken fs o)

include kept

/-- With a directory to write to there is no file to write. -/
theorem place_outfile_of_kept (hdir : fs.place o.outdir ≠ "") : fs.place o.outfile = "" :=
  Decidable.of_not_not fun hfile => kept .fileOrDirectory (by decide) ⟨hfile, hdir⟩

theorem outputDir_of_kept (hdir : fs.place o.outdir ≠ "") :
    (o.plan fs).1.bundle.outputDir ≠ "" ∧ (o.plan fs).1.bundle.outputFile = "" := by
  have hfile := place_outfile_of_kept kept hdir
  rw [outputDir_plan, outputFile_plan]
  exact ⟨by simpa [hfile] using hdir, hfile⟩

theorem format_of_kept (hbundle : o.bundle = false) : o.format = .preserve :=
  Decidable.of_not_not fun hformat => kept .formatNeedsBundle (by decide) ⟨hbundle, hformat⟩

/-- Without a bundle no format is filled in, and with one it is not left open. -/
theorem bundle_iff_of_kept :
    o.bundle = true ↔ (o.plan fs).1.bundle.format ≠ .preserve := by
  rw [format_plan]
  cases hbundle : o.bundle with
  | false => simp [format_of_kept kept hbundle]
  | true =>
      by_cases hformat : o.format = .preserve
      · have husual : Rules.usualFormat o.platform ≠ .preserve := by
          cases o.platform <;> decide
        simp [hformat, husual]
      · simp [hformat]

theorem splitting_of_kept (hsplitting : o.splitting = true) :
    o.bundle = true ∧ o.format = .esModule ∧ fs.place o.outdir ≠ "" := by
  have hmodules : o.format = .esModule :=
    Decidable.of_not_not fun hother =>
      kept .splittingNeedsModules (by decide) ⟨hsplitting, hother⟩
  have hdir : fs.place o.outdir ≠ "" := fun hempty =>
    kept .splittingNeedsDirectory (by decide) ⟨hempty, hsplitting⟩
  refine ⟨?_, hmodules, hdir⟩
  -- no rule says so, but without a bundle no format could have been chosen
  by_contra hbundle
  rw [format_of_kept kept (Bool.eq_false_iff.2 hbundle)] at hmodules
  cases hmodules

theorem consistent_of_kept :
    Consistent fs o (o.plan fs).1.resolve (o.plan fs).1.entries (o.plan fs).1.bundle where
  bundling_iff := bundle_iff_of_kept kept
  externals := by
    intro hexternals
    have hne := (externals_plan_ne_empty_iff o fs).1 hexternals
    by_contra hbundle
    exact kept .externalNeedsBundle (by decide) ⟨Bool.eq_false_iff.2 hbundle, hne⟩
  splitting := by
    intro hsplitting
    obtain ⟨hbundle, hmodules, hdir⟩ := splitting_of_kept kept hsplitting
    refine ⟨hbundle, ?_, outputDir_of_kept kept hdir⟩
    rw [format_plan, hmodules]
    exact if_neg fun h => absurd h.2 (by decide)
  entries := by
    intro hentries
    rw [length_plan_entries] at hentries
    exact outputDir_of_kept kept fun hdir =>
      kept .entriesNeedDirectory (by decide) ⟨hdir, hentries⟩
  directory := by
    intro hfile
    rw [outputFile_plan] at hfile
    have hdir : fs.place o.outdir = "" :=
      Decidable.of_not_not fun hdir => hfile (place_outfile_of_kept kept hdir)
    rw [outputDir_plan, outputFile_plan, if_pos ⟨hfile, hdir⟩]
  nowhere := by
    intro hfile hdir
    rw [outputFile_plan] at hfile
    have hnowhere : o.Nowhere fs := by
      refine ⟨hfile, ?_⟩
      rwa [outputDir_plan, if_neg fun h => h.1 hfile] at hdir
    refine ⟨?_, ?_, ?_⟩
    · by_contra hmap
      exact kept .externalMapNeedsOutput (by decide) ⟨hnowhere, not_or.1 hmap⟩
    · rw [metadataFile_plan]
      exact Decidable.of_not_not fun hmetafile =>
        kept .metafileNeedsOutput (by decide) ⟨hnowhere, hmetafile⟩
    · intro hloader
      have hgiven := (contains_file_loaders o.loaders).1 (List.contains_iff_mem.2 hloader)
      exact kept .fileLoaderNeedsOutput (by decide) ⟨hnowhere, hgiven⟩
  chosen := by
    intro hformat
    rw [format_plan, if_neg fun h => hformat h.2]
  derived := by
    intro hformat
    rw [format_plan] at hformat ⊢
    split at hformat
    · rename_i h
      rw [if_pos h]
      rfl
    · exact absurd rfl hformat

end

/-! ## Builds -/

/-- Without an issue, the engine is handed the options of the plan. -/
theorem Course.handed_of_no_issues {fs : FileSystem} {checked : Checked Plan} {s : Session}
    {calls : List EngineCall} {logged : List Diagnostic} {files : List OutputFile}
    (h : Course fs checked s calls logged files) (hnone : checked.2 = []) :
    .newResolver fs checked.1.resolve ∈ calls ∧
      .scan fs checked.1.entries checked.1.parse checked.1.bundle ∈ calls := by
  cases h with
  | refused hissues => exact absurd hnone hissues
  | stopped _ _ => simp [Plan.calls]
  | finished _ _ => simp [Plan.calls]

/-- Whatever options a build hands to its engine are consistent: those for the resolver, those for
the scan, and those for compiling, which are the same again. -/
theorem handed_options_consistent (o : BuildOptions) (fs fs₁ fs₂ : FileSystem) (engine : Engine)
    (display : Display) (resolve : ResolveOptions) (entries : List String) (parse : ParseOptions)
    (bundle : BundleOptions)
    (hresolve : .newResolver fs₁ resolve ∈ (build o fs engine display).calls)
    (hscan : .scan fs₂ entries parse bundle ∈ (build o fs engine display).calls) :
    Consistent fs o resolve entries bundle ∧
      ∀ compiled, .compile compiled ∈ (build o fs engine display).calls → compiled = bundle := by
  obtain ⟨logged, files, course, -⟩ := build_course o fs engine display
  -- an engine that is called is not kept out by an issue
  have hnone : (o.plan fs).2 = [] := by
    by_contra hissues
    rw [(course.of_issues hissues).1] at hresolve
    exact absurd hresolve List.not_mem_nil
  rw [issues_plan, faults_eq_nil_iff] at hnone
  have hfits := consistent_of_kept hnone.2
  have hsubset := course.calls_prefix.subset
  have hresolve' := hsubset hresolve
  have hscan' := hsubset hscan
  simp only [Plan.calls, List.mem_cons, reduceCtorEq, EngineCall.newResolver.injEq,
    EngineCall.scan.injEq, List.not_mem_nil, or_false, false_or] at hresolve' hscan'
  obtain ⟨-, rfl⟩ := hresolve'
  obtain ⟨-, rfl, -, rfl⟩ := hscan'
  refine ⟨hfits, fun compiled hcompiled => ?_⟩
  simpa [Plan.calls] using hsubset hcompiled

/-- A build of two entry points that is split, with everything set that this asks for. -/
theorem handed_options_consistent_split :
    let o : BuildOptions :=
      { entryPoints := ["a.ts", "/w/b.ts"], outdir := "out", bundle := true, splitting := true
        format := .esModule, externals := ["react"], sourcemap := .linked, metafile := "meta.json"
        loaders := .ofList [(".png", .file)], platform := .node }
    let fs : FileSystem := .host .bare "/w"
    let s : Session := ⟨[], [.warning "slow"], [], []⟩
    let calls := (build o fs s.engine false).calls
    .newResolver fs (o.plan fs).1.resolve ∈ calls ∧
    .scan fs (o.plan fs).1.entries (o.plan fs).1.parse (o.plan fs).1.bundle ∈ calls ∧
    Consistent fs o (o.plan fs).1.resolve (o.plan fs).1.entries (o.plan fs).1.bundle := by
  intro o fs s calls
  obtain ⟨logged, files, course, -⟩ := build_course o fs s.engine false
  have hnone : (o.plan fs).2 = [] := by decide +kernel
  obtain ⟨hresolve, hscan⟩ := course.handed_of_no_issues hnone
  have hconsistent := handed_options_consistent o fs fs fs s.engine false _ _ _ _ hresolve hscan
  exact ⟨hresolve, hscan, hconsistent.1⟩

end Bundler
