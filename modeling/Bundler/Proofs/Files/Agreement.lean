import Bundler.Proofs.Files.Places
import Bundler.Proofs.Protocol

/-! # File systems that agree on paths

To check the options of a build, two things are asked of a file system: the absolute form of a path,
and the directory of such a form. File systems that answer alike (`FileSystem.AgreeAt`) give the
same plan and the same issues (`plan_congr`), whatever files they hold. The file system in memory
and that of the host at its root are such a pair, for all paths without a NUL
(`agreeAt_of_noNul`). -/

set_option autoImplicit false

namespace Bundler

/-! ## Agreement -/

/-- Two file systems agree at a path: they give it one absolute form, and for that one directory. -/
def FileSystem.AgreeAt (fs fs' : FileSystem) (path : String) : Prop :=
  ∃ absolute, fs.abs path = some absolute ∧ fs'.abs path = some absolute ∧
    fs.dir absolute = fs'.dir absolute

theorem agreeAt_of_noNul (files : List (String × String)) (tree : FileTree) (here : String)
    {path : String} (hpath : '\x00' ∉ path.toList) :
    (FileSystem.memory files).AgreeAt (.host tree "/" here) path :=
  ⟨Path.resolve path "/", rfl, host_abs tree here rfl hpath,
    (host_dir tree ("/" : String) here rfl).symm⟩

section

variable {fs fs' : FileSystem}

theorem path_congr {text : String} (h : fs.AgreeAt fs' text) :
    Check.path fs text = Check.path fs' text := by
  obtain ⟨absolute, habs, habs', -⟩ := h
  unfold Check.path
  rw [habs, habs']

/-- The directory is asked for of a path that has been checked. -/
theorem dir_congr {text : String} (h : fs.AgreeAt fs' text) (hne : (Check.path fs text).1 ≠ "") :
    fs.dir (Check.path fs text).1 = fs'.dir (Check.path fs text).1 := by
  obtain ⟨absolute, habs, -, hdir⟩ := h
  unfold Check.path at hne ⊢
  rw [habs] at hne ⊢
  split
  · rename_i hempty
    rw [if_pos hempty] at hne
    exact absurd rfl hne
  · exact hdir

theorem rules_congr {b : BundleOptions} (entryCount : Nat) (r : ResolveOptions)
    (h : b.outputFile ≠ "" → fs.dir b.outputFile = fs'.dir b.outputFile) :
    Rules.build fs entryCount r b = Rules.build fs' entryCount r b := by
  have hdir : Rules.outputDir fs b = Rules.outputDir fs' b := by
    unfold Rules.outputDir
    by_cases hfile : b.outputFile = ""
    · simp [hfile]
    · rw [h hfile]
  unfold Rules.build
  rw [hdir]

/-- The paths among the options of a build. -/
def BuildOptions.paths (o : BuildOptions) : List String :=
  o.outfile :: o.outdir :: o.metafile :: o.entryPoints

/-- File systems that agree at the paths of the options give the same plan and the same issues. -/
theorem plan_congr {o : BuildOptions} (h : ∀ path ∈ o.paths, fs.AgreeAt fs' path) :
    o.plan fs = o.plan fs' := by
  simp only [BuildOptions.paths, List.forall_mem_cons] at h
  obtain ⟨hfile, hdir, hmeta, hentries⟩ := h
  have hpaths : o.entryPoints.map (Check.path fs) = o.entryPoints.map (Check.path fs') :=
    List.map_congr_left fun path hpath => path_congr (hentries path hpath)
  have hrules : ∀ entryCount r (b : BundleOptions), b.outputFile = (Check.path fs' o.outfile).1 →
      Rules.build fs entryCount r b = Rules.build fs' entryCount r b := by
    intro entryCount r b hb
    refine rules_congr entryCount r fun hne => ?_
    rw [hb, ← path_congr hfile] at hne ⊢
    exact dir_congr hfile hne
  unfold BuildOptions.plan
  rw [path_congr hfile, path_congr hdir, path_congr hmeta, hpaths]
  simp only
  rw [hrules]
  rfl

end

/-! ## Runs -/

/-- What an engine is asked before it compiles is told from the options alone. -/
theorem Course.mem_calls_iff {fs : FileSystem} {checked : Checked Plan} {s : Session}
    {calls : List EngineCall} {logged : List Diagnostic} {files : List OutputFile}
    (h : Course fs checked s calls logged files) {call : EngineCall}
    (hcall : call.step ≠ .compile) :
    call ∈ calls ↔ checked.2 = [] ∧ call ∈ checked.1.calls fs := by
  cases h with
  | refused hissues => simp [hissues]
  | stopped hnone _ =>
      have hother : call ≠ .compile checked.1.bundle := fun heq => hcall (heq ▸ rfl)
      simp [hnone, Plan.calls, hother]
  | finished hnone _ => simp [hnone]

/-- A build whose options have an issue is the same over any file system that gives this plan. -/
theorem build_congr_of_issues {o : BuildOptions} {fs fs' : FileSystem}
    (hplan : o.plan fs = o.plan fs') (hissues : (o.plan fs').2 ≠ []) (engine : Engine)
    (display : Display) : build o fs engine display = build o fs' engine display := by
  simp only [build, hplan, Log.attempt_of_issues _ hissues]

/-- The host and the file system in memory obey one set of rules for paths. From an absolute
working directory the host gives a path the absolute form that the rules for texts give it, which is
also what its pushes and pops come to on texts, and of this form both take the same directory. So
the host at its root and memory give the same absolute forms; and a build has the same issues over
both, and hands its engine the same options and entry points. -/
theorem file_systems_agree_on_paths (files : List (String × String)) (tree : FileTree)
    (here : String) :
    (∀ cwd path : String, Path.isAbsolute cwd = true → '\x00' ∉ path.toList →
      let absolute := Path.resolve path cwd
      (FileSystem.host tree cwd here).abs path = some absolute ∧
      absolute = String.ofList
        ((Path.Host.components (Path.Host.join cwd.toList path.toList)).foldl Path.build []) ∧
      (FileSystem.host tree cwd here).dir absolute = (FileSystem.memory files).dir absolute) ∧
    (∀ path : String, '\x00' ∉ path.toList →
      (FileSystem.host tree "/" here).abs path = (FileSystem.memory files).abs path) ∧
    (∀ (o : BuildOptions) (engine : Engine) (display : Display),
      (∀ path ∈ o.paths, '\x00' ∉ path.toList) →
      let inMemory := build o (.memory files) engine display
      let onHost := build o (.host tree "/" here) engine display
      (o.plan (.host tree "/" here)).2 = (o.plan (.memory files)).2 ∧
      ((o.plan (.memory files)).2 ≠ [] → onHost = inMemory) ∧
      (∀ options, .newResolver (.host tree "/" here) options ∈ onHost.calls ↔
        .newResolver (.memory files) options ∈ inMemory.calls) ∧
      (∀ entries parse bundle, .scan (.host tree "/" here) entries parse bundle ∈ onHost.calls ↔
        .scan (.memory files) entries parse bundle ∈ inMemory.calls) ∧
      (∀ bundle bundle', .compile bundle ∈ onHost.calls → .compile bundle' ∈ inMemory.calls →
        bundle = bundle')) := by
  refine ⟨?_, ?_, ?_⟩
  · intro cwd path hcwd hpath absolute
    refine ⟨host_abs tree here hcwd hpath, ?_, host_dir tree cwd here hcwd⟩
    rw [← Path.host_resolve_eq_build path hcwd, Path.host_resolve_eq path hcwd]
  · intro path hpath
    exact host_abs tree here rfl hpath
  · intro o engine display hpaths inMemory onHost
    have hplan : o.plan (.memory files) = o.plan (.host tree "/" here) :=
      plan_congr fun path hpath => agreeAt_of_noNul files tree here (hpaths path hpath)
    obtain ⟨logged, outputs, course, -⟩ := build_course o (.memory files) engine display
    obtain ⟨logged', outputs', course', -⟩ := build_course o (.host tree "/" here) engine display
    rw [hplan] at course ⊢
    refine ⟨rfl, fun hissues => ?_, ?_, ?_, ?_⟩
    · exact (build_congr_of_issues hplan hissues engine display).symm
    · intro options
      rw [course.mem_calls_iff (by simp [EngineCall.step]),
        course'.mem_calls_iff (by simp [EngineCall.step])]
      simp [Plan.calls]
    · intro entries parse bundle
      rw [course.mem_calls_iff (by simp [EngineCall.step]),
        course'.mem_calls_iff (by simp [EngineCall.step])]
      simp [Plan.calls]
    · intro bundle bundle' hbundle hbundle'
      have hhost := course'.calls_prefix.subset hbundle
      have hmemory := course.calls_prefix.subset hbundle'
      simp only [Plan.calls, List.mem_cons, reduceCtorEq, EngineCall.compile.injEq,
        List.not_mem_nil, or_false, false_or] at hhost hmemory
      rw [hhost, hmemory]

end Bundler
