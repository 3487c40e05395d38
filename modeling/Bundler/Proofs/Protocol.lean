import Bundler.Proofs.Course

/-! # How engines are called, and what becomes of their answers

Builds and transforms treat an engine alike. They call it for a first part of the three steps, stop
at an error, and sort all that is logged into errors and warnings (`engine_called_in_order`). After
compiling nothing is looked at again, so an error that is found while compiling leaves the files
where they are (`artifacts_withheld_iff`). -/

set_option autoImplicit false

namespace Bundler

/-! ## What is read off a run -/

/-- The engine is asked to compile. -/
def Compiled (calls : List EngineCall) : Prop := .compile ∈ calls.map EngineCall.step

instance (calls : List EngineCall) : Decidable (Compiled calls) :=
  inferInstanceAs (Decidable (_ ∈ _))

/-- All that is logged in a run: the errors about the options, then what each call reports. -/
def Session.logged (s : Session) (issues : List Issue) (calls : List EngineCall) :
    List Diagnostic :=
  issueErrors issues ++ (calls.map EngineCall.step).flatMap s.reported

/-- A run of an engine on checked options that treats engine and caller as it should. -/
structure Orderly (fs : FileSystem) (checked : Checked Plan) (s : Session)
    (calls : List EngineCall) (errors warnings : List Message) : Prop where
  /-- The calls are the first ones of the three that carry out the plan. -/
  calls_prefix : calls <+: [.newResolver fs checked.1.resolve,
    .scan fs checked.1.entries checked.1.parse checked.1.bundle, .compile checked.1.bundle]
  /-- No step is asked for twice. -/
  steps_nodup : (calls.map EngineCall.step).Nodup
  /-- The options of the bundle are the same for scanning and for compiling. -/
  bundle_eq : ∀ fs' entries parse scanned compiled, .scan fs' entries parse scanned ∈ calls →
    .compile compiled ∈ calls → scanned = compiled
  /-- Errors before compiling keep from it, and nothing else does. -/
  compiled_iff : Compiled calls ↔ checked.2 = [] ∧ ErrorFree s.resolving ∧ ErrorFree s.scanning
  /-- The errors and the warnings are what is logged, parted by severity and in order. -/
  errors_eq : errors = ((s.logged checked.2 calls).partition
    fun d => d.severity == .error).1.map Diagnostic.message
  warnings_eq : warnings = ((s.logged checked.2 calls).partition
    fun d => d.severity == .error).2.map Diagnostic.message
  /-- Nothing that is logged is lost or doubled. -/
  length_add : errors.length + warnings.length = (s.logged checked.2 calls).length

/-! ## Parting by severity -/

theorem warning_filter (ds : List Diagnostic) :
    (ds.filter fun d => d.severity == .warning) = ds.filter fun d => !(d.severity == .error) := by
  refine List.filter_congr fun d _ => ?_
  cases d.severity <;> rfl

theorem messagesOf_length_add (ds : List Diagnostic) :
    (messagesOf .error ds).length + (messagesOf .warning ds).length = ds.length := by
  induction ds with
  | nil => rfl
  | cons d ds ih =>
      obtain ⟨severity, text, origin⟩ := d
      cases severity
      · simp [messagesOf] at ih ⊢
        omega
      · simp [messagesOf] at ih ⊢
        omega

/-! ## Courses are orderly -/

section

variable {fs : FileSystem} {checked : Checked Plan} {s : Session} {calls : List EngineCall}
  {logged : List Diagnostic} {files : List OutputFile}

theorem Course.compiled_iff (h : Course fs checked s calls logged files) :
    Compiled calls ↔ checked.2 = [] ∧ ErrorFree s.resolving ∧ ErrorFree s.scanning := by
  rw [← errorFree_append]
  cases h with
  | refused h => simp [Compiled, h]
  | stopped h found => simp [Compiled, Plan.calls, EngineCall.step, found]
  | finished h free => simp [Compiled, Plan.calls, EngineCall.step, h, free]

/-- The calls of a course tell what is logged on it. -/
theorem Course.logged_eq (h : Course fs checked s calls logged files) :
    logged = s.logged checked.2 calls := by
  cases h with
  | refused h => simp [Session.logged]
  | stopped h found =>
      simp [Session.logged, Plan.calls, EngineCall.step, Session.reported, issueErrors, h]
  | finished h free =>
      simp [Session.logged, Plan.calls, EngineCall.step, Session.reported, issueErrors, h]

/-- The files of a course are those of the session if they are compiled, and else there are none. -/
theorem Course.files_eq (h : Course fs checked s calls logged files) :
    files = if Compiled calls then s.files else [] := by
  cases h with
  | refused h => simp [Compiled]
  | stopped h found => simp [Compiled, Plan.calls, EngineCall.step]
  | finished h free => simp [Compiled, Plan.calls, EngineCall.step]

theorem steps_calls (plan : Plan) (fs : FileSystem) :
    (plan.calls fs).map EngineCall.step = [.newResolver, .scan, .compile] := rfl

theorem Course.calls_prefix (h : Course fs checked s calls logged files) :
    calls <+: checked.1.calls fs := by
  cases h with
  | refused h => exact List.nil_prefix
  | stopped h found => exact List.take_prefix _ _
  | finished h free => exact List.prefix_rfl

theorem Course.eq_of_mem_calls (h : Course fs checked s calls logged files) {call : EngineCall}
    (hcall : call ∈ calls) :
    call = .newResolver fs checked.1.resolve ∨
      call = .scan fs checked.1.entries checked.1.parse checked.1.bundle ∨
      call = .compile checked.1.bundle := by
  simpa [Plan.calls] using h.calls_prefix.subset hcall

theorem Course.orderly (h : Course fs checked s calls logged files) :
    Orderly fs checked s calls (messagesOf .error logged) (messagesOf .warning logged) where
  calls_prefix := h.calls_prefix
  steps_nodup := by
    have hsteps : ((checked.1.calls fs).map EngineCall.step).Nodup := by
      rw [steps_calls]
      decide
    exact hsteps.sublist (h.calls_prefix.sublist.map _)
  bundle_eq := by
    intro fs' entries parse scanned compiled hscan hcompile
    have hscan' := h.calls_prefix.subset hscan
    have hcompile' := h.calls_prefix.subset hcompile
    simp only [Plan.calls, List.mem_cons, reduceCtorEq, EngineCall.scan.injEq,
      EngineCall.compile.injEq, List.not_mem_nil, or_false, false_or] at hscan' hcompile'
    rw [hscan'.2.2.2, hcompile']
  compiled_iff := h.compiled_iff
  -- a partition is two filters, and what is no error is a warning
  errors_eq := by rw [← h.logged_eq, List.partition_eq_filter_filter]; rfl
  warnings_eq := by
    rw [← h.logged_eq, List.partition_eq_filter_filter, messagesOf, warning_filter]
    rfl
  length_add := by rw [← h.logged_eq, messagesOf_length_add]

/-- When errors keep something from the files handed on: always but where compiling reports an error
and gives files that have it. `bare` says that files have nothing of the kind. -/
theorem Course.withheld_iff (h : Course fs checked s calls logged files)
    (bare : List OutputFile → Prop) (hnil : bare []) :
    (messagesOf .error logged ≠ [] → bare files) ↔
      (Compiled calls → ¬ ErrorFree s.compiling → bare s.files) := by
  rw [Ne, messagesOf_error_eq_nil_iff]
  cases h with
  | refused h => simp [Compiled, hnil]
  | stopped h found => simp [Compiled, Plan.calls, EngineCall.step, hnil]
  | finished h free =>
      have hcompiled : Compiled (checked.1.calls fs) := by
        rw [Compiled, steps_calls]
        decide
      rw [errorFree_append]
      -- what comes before compiling is free of errors, so only compiling counts
      constructor
      · intro hbare _ hfound
        exact hbare fun hfree => hfound hfree.2
      · intro hbare hfound
        exact hbare hcompiled fun hfree => hfound ⟨free, hfree⟩

end

/-! ## Runs -/

/-- The calls that a run makes of its engine are the first of making a resolver, scanning and
compiling; it compiles unless an error is logged before; without compiling nothing is handed on, and
with it the files are handed on as they come; and what is returned as errors and warnings is all
that is logged, parted by severity. This holds of builds and of transforms. -/
theorem engine_called_in_order (engine : Engine) (display : Display) :
    (∀ (o : BuildOptions) (fs : FileSystem),
      let run := build o fs engine display
      let s := engine.session fs (o.plan fs).1 .zero
      Orderly fs (o.plan fs) s run.calls run.result.errors run.result.warnings ∧
      (¬ Compiled run.calls → run.result.outputs = []) ∧
      (Compiled run.calls → run.result.outputs = s.files)) ∧
    (∀ (o : TransformOptions) (input : String),
      let run := transform o input engine display
      let s := engine.session (o.fileSystem input) (o.plan input).1 .zero
      Orderly (o.fileSystem input) (o.plan input) s run.calls run.result.errors
        run.result.warnings ∧
      (¬ Compiled run.calls → run.result.js = .empty ∧ run.result.sourceMap = .empty) ∧
      (Compiled run.calls → (run.result.js, run.result.sourceMap) = unpackOutputs s.files)) := by
  constructor
  · intro o fs run s
    obtain ⟨logged, files, course, result⟩ := build_course o fs engine display
    have hresult : run.result = _ := result
    have hfiles := course.files_eq
    rw [hresult]
    refine ⟨course.orderly, fun h => ?_, fun h => ?_⟩
    · exact hfiles.trans (if_neg h)
    · exact hfiles.trans (if_pos h)
  · intro o input run s
    obtain ⟨logged, files, course, result⟩ := transform_course o input engine display
    have hresult : run.result = _ := result
    have hfiles := course.files_eq
    rw [hresult]
    refine ⟨course.orderly, fun h => ?_, fun h => ?_⟩
    · rw [if_neg h] at hfiles
      subst hfiles
      exact ⟨rfl, rfl⟩
    · rw [if_pos h] at hfiles
      subst hfiles
      rfl

/-- A run with errors holds back its files exactly when compiling does not report an error itself
beside the files that it gives. -/
theorem artifacts_withheld_iff (engine : Engine) (display : Display) :
    (∀ (o : BuildOptions) (fs : FileSystem),
      let run := build o fs engine display
      let s := engine.session fs (o.plan fs).1 .zero
      (run.result.errors ≠ [] → run.result.outputs = []) ↔
        (Compiled run.calls → ¬ ErrorFree s.compiling → s.files = [])) ∧
    (∀ (o : TransformOptions) (input : String),
      let run := transform o input engine display
      let s := engine.session (o.fileSystem input) (o.plan input).1 .zero
      (run.result.errors ≠ [] → run.result.js = .empty ∧ run.result.sourceMap = .empty) ↔
        (Compiled run.calls → ¬ ErrorFree s.compiling →
          unpackOutputs s.files = (.empty, .empty))) := by
  constructor
  · intro o fs run s
    obtain ⟨logged, files, course, result⟩ := build_course o fs engine display
    have hresult : run.result = _ := result
    rw [hresult]
    exact course.withheld_iff (fun files => files = []) rfl
  · intro o input run s
    obtain ⟨logged, files, course, result⟩ := transform_course o input engine display
    have hresult : run.result = _ := result
    rw [hresult, ← Prod.mk.injEq]
    exact course.withheld_iff (fun files => unpackOutputs files = (.empty, .empty)) rfl

/-- Two entry points that compile to one path: the second is an error, and the first is handed on
all the same. -/
theorem outputs_beside_error :
    let s : Session :=
      { resolving := []
        scanning := []
        compiling :=
          [.error "Two output files share the same path: /out/index.js (from /b/index.js)"]
        files := [⟨"/out/index.js", "a;\n".toUTF8⟩] }
    let o : BuildOptions := { entryPoints := ["a/index.js", "b/index.js"], outdir := "out" }
    let run := build o (.memory []) s.engine false
    ¬ (run.result.errors ≠ [] → run.result.outputs = []) := by
  decide +kernel

end Bundler
