import Bundler.Proofs.Log
import Bundler.Run.Transform

/-! # The course of a run

What an engine would answer if it were asked for all three steps of a plan is its *session*; nothing
in it depends on whether a run gets that far. A run takes one of three courses through the session
(`Course`): it is refused for what is wrong with the options, it stops after an error that is found
while scanning, or it finishes. Everything else about runs is read off the course, so no proof but
`drive_course` looks into how an engine is driven. -/

set_option autoImplicit false

namespace Bundler

/-! ## Sessions -/

/-- What an engine answers when it is asked for all three steps of a plan. -/
structure Session where
  /-- What making the resolver reports. -/
  resolving : List Diagnostic
  /-- What scanning reports. -/
  scanning : List Diagnostic
  /-- What compiling reports. -/
  compiling : List Diagnostic
  /-- The files that compiling gives. -/
  files : List OutputFile

/-- The session of an engine on a plan. Each step is handed the tally of all that was reported
before it. -/
def Engine.session (engine : Engine) (fs : FileSystem) (plan : Plan) (tally : Tally) : Session :=
  let made := engine.newResolver fs tally plan.resolve
  let tally := tally.countAll made.2
  let scanned := engine.scan fs tally made.1 plan.entries plan.parse plan.bundle
  let tally := tally.countAll scanned.2
  let compiled := engine.compile scanned.1 tally plan.bundle
  ⟨made.2, scanned.2, compiled.2, compiled.1⟩

/-- The engine that reports and returns what is given, whatever it is asked. -/
def Session.engine (s : Session) : Engine where
  Resolver := Unit
  Bundle := Unit
  newResolver := fun _ _ _ => ((), s.resolving)
  scan := fun _ _ _ _ _ _ => ((), s.scanning)
  compile := fun _ _ _ => (s.files, s.compiling)

/-- So every session is the session of some engine. -/
theorem session_engine (s : Session) (fs : FileSystem) (plan : Plan) (tally : Tally) :
    s.engine.session fs plan tally = s := rfl

/-! ## Calls -/

/-- The steps that an engine can be asked for. -/
inductive EngineStep
  | newResolver
  | scan
  | compile
  deriving DecidableEq, Repr

/-- The step that a call asks for. -/
def EngineCall.step : EngineCall → EngineStep
  | .newResolver _ _ => .newResolver
  | .scan _ _ _ _ => .scan
  | .compile _ => .compile

/-- What a step reports in a session. -/
def Session.reported (s : Session) : EngineStep → List Diagnostic
  | .newResolver => s.resolving
  | .scan => s.scanning
  | .compile => s.compiling

/-- The three calls that carry out a plan, in their order. -/
def Plan.calls (plan : Plan) (fs : FileSystem) : List EngineCall :=
  [.newResolver fs plan.resolve, .scan fs plan.entries plan.parse plan.bundle,
    .compile plan.bundle]

/-! ## Courses -/

/-- The errors that issues with options are logged as. -/
def issueErrors (issues : List Issue) : List Diagnostic :=
  issues.map fun issue => .error issue.message

/-- Errors about issues are errors, so only of no issue there is none. -/
theorem errorFree_issueErrors (issues : List Issue) :
    ErrorFree (issueErrors issues) ↔ issues = [] := by
  cases issues with
  | nil => simp [issueErrors]
  | cons issue rest => simp [issueErrors, Diagnostic.error]

/-- The courses of a run: the calls made, all that is logged, and the files handed on. -/
inductive Course (fs : FileSystem) (checked : Checked Plan) (s : Session) :
    List EngineCall → List Diagnostic → List OutputFile → Prop
  /-- Something is wrong with the options, and the engine is not asked. -/
  | refused (h : checked.2 ≠ []) : Course fs checked s [] (issueErrors checked.2) []
  /-- Making the resolver or scanning reports an error, and nothing is compiled. -/
  | stopped (h : checked.2 = []) (found : ¬ ErrorFree (s.resolving ++ s.scanning)) :
      Course fs checked s ((checked.1.calls fs).take 2) (s.resolving ++ s.scanning) []
  /-- All three steps are taken, and what compiling reports changes nothing. -/
  | finished (h : checked.2 = []) (free : ErrorFree (s.resolving ++ s.scanning)) :
      Course fs checked s (checked.1.calls fs) (s.resolving ++ s.scanning ++ s.compiling) s.files

/-- With an issue, the course is that of a run that is refused. -/
theorem Course.of_issues {fs : FileSystem} {checked : Checked Plan} {s : Session}
    {calls : List EngineCall} {logged : List Diagnostic} {files : List OutputFile}
    (h : Course fs checked s calls logged files) (hissues : checked.2 ≠ []) :
    calls = [] ∧ logged = issueErrors checked.2 ∧ files = [] := by
  cases h with
  | refused _ => exact ⟨rfl, rfl, rfl⟩
  | stopped hnone _ => exact absurd hnone hissues
  | finished hnone _ => exact absurd hnone hissues

/-- Without an error among all that is logged, the course is that of a run that finishes. -/
theorem Course.of_errorFree {fs : FileSystem} {checked : Checked Plan} {s : Session}
    {calls : List EngineCall} {logged : List Diagnostic} {files : List OutputFile}
    (h : Course fs checked s calls logged files) (hfree : ErrorFree logged) :
    ErrorFree s.scanning ∧ ErrorFree s.compiling ∧ files = s.files := by
  cases h with
  | refused hissues => exact absurd ((errorFree_issueErrors _).1 hfree) hissues
  | stopped _ found => exact absurd hfree found
  | finished _ free =>
      rw [errorFree_append] at hfree free
      exact ⟨free.2, hfree.2, rfl⟩

/-- Driving an engine from a log without errors takes the stopped course or the finished one. -/
theorem Engine.drive_eq (engine : Engine) (fs : FileSystem) (plan : Plan) (log : Log) :
    engine.drive fs plan log =
      let s := engine.session fs plan log.tally
      if (log.addAll (s.resolving ++ s.scanning)).hasErrors then
        ⟨[], (plan.calls fs).take 2, log.addAll (s.resolving ++ s.scanning)⟩
      else
        ⟨s.files, plan.calls fs, log.addAll (s.resolving ++ s.scanning ++ s.compiling)⟩ := by
  simp only [Engine.drive, Engine.session, Log.addAll_append, Log.tally_addAll, Plan.calls,
    List.take_succ_cons, List.take_zero, List.cons_append, List.nil_append]

/-- With an issue the engine is not asked, whatever file system there is: the issues are errors in
the log before it could be. -/
theorem Log.attempt_of_issues (log : Log) {issues : List Issue} (h : issues ≠ []) (engine : Engine)
    (fs : FileSystem) (plan : Plan) :
    (log.addIssues issues).attempt engine fs plan = ⟨[], [], log.addAll (issueErrors issues)⟩ := by
  have hfound : (log.addAll (issueErrors issues)).hasErrors = true := by
    rw [← Bool.not_eq_false, Log.hasErrors_addAll, errorFree_issueErrors]
    exact fun hnone => h hnone.1
  exact if_pos hfound

/-- Whatever becomes of a run, its log is the one that it began with and all that has arrived. -/
theorem exists_log_attempt (log : Log) (issues : List Issue) (engine : Engine) (fs : FileSystem)
    (plan : Plan) :
    ∃ ds, ((log.addIssues issues).attempt engine fs plan).log = log.addAll ds := by
  unfold Log.attempt
  split
  · exact ⟨issueErrors issues, rfl⟩
  · rw [engine.drive_eq]
    generalize engine.session fs plan (log.addIssues issues).tally = s
    simp only
    split
    · exact ⟨issueErrors issues ++ _, (log.addAll_append _ _).symm⟩
    · exact ⟨issueErrors issues ++ _, (log.addAll_append _ _).symm⟩

/-- A run that begins with an empty log takes one of the courses. -/
theorem drive_course {engine : Engine} {fs : FileSystem} {checked : Checked Plan} {log : Log}
    {driven : Driven} (hpending : log.pending = []) (htally : log.tally = .zero)
    (hdriven : driven = (log.addIssues checked.2).attempt engine fs checked.1) :
    Course fs checked (engine.session fs checked.1 .zero) driven.calls driven.log.pending
      driven.outputs := by
  subst hdriven
  obtain ⟨plan, issues⟩ := checked
  have hlog : log.hasErrors = false := by rw [Log.hasErrors, htally]; rfl
  generalize hs : engine.session fs plan .zero = s
  cases issues with
  | cons issue rest =>
      rw [log.attempt_of_issues (List.cons_ne_nil _ _)]
      simp only [Log.pending_addAll, hpending, List.nil_append]
      exact .refused (List.cons_ne_nil _ _)
  | nil =>
      have hrun : (log.addIssues []).attempt engine fs plan = engine.drive fs plan log :=
        if_neg (Bool.eq_false_iff.1 hlog)
      rw [hrun, Engine.drive_eq, htally, hs]
      -- the one checkpoint on the way sees what the first two steps report
      by_cases free : ErrorFree (s.resolving ++ s.scanning)
      · have hno := (log.hasErrors_addAll _).2 ⟨free, hlog⟩
        simp only [hno, Bool.false_eq_true, if_false, Log.pending_addAll, hpending, List.nil_append]
        exact .finished rfl free
      · have hyes : (log.addAll (s.resolving ++ s.scanning)).hasErrors = true := by
          rw [← Bool.not_eq_false, Log.hasErrors_addAll]
          exact fun h => free h.1
        simp only [hyes, if_true, Log.pending_addAll, hpending, List.nil_append]
        exact .stopped rfl free

/-- The file system that a transform works on: it holds the text under its name. -/
def TransformOptions.fileSystem (o : TransformOptions) (input : String) : FileSystem :=
  .memory [(o.sourcefile, input)]

/-- The engine as a build drives it. -/
def BuildOptions.driven (o : BuildOptions) (fs : FileSystem) (engine : Engine) (display : Display) :
    Driven :=
  ((o.log display).addIssues (o.plan fs).2).attempt engine fs (o.plan fs).1

/-- The engine as a transform drives it. -/
def TransformOptions.driven (o : TransformOptions) (input : String) (engine : Engine)
    (display : Display) : Driven :=
  ((o.log display).addIssues (o.plan input).2).attempt engine (o.fileSystem input) (o.plan input).1

theorem calls_build (o : BuildOptions) (fs : FileSystem) (engine : Engine) (display : Display) :
    (build o fs engine display).calls = (o.driven fs engine display).calls := by
  simp only [build, BuildOptions.driven]

theorem result_build (o : BuildOptions) (fs : FileSystem) (engine : Engine) (display : Display) :
    (build o fs engine display).result =
      { errors := messagesOf .error (o.driven fs engine display).log.pending
        warnings := messagesOf .warning (o.driven fs engine display).log.pending
        outputs := (o.driven fs engine display).outputs } := by
  simp only [build, BuildOptions.driven, Log.drain]

theorem printed_build (o : BuildOptions) (fs : FileSystem) (engine : Engine) (display : Display) :
    (build o fs engine display).printed = (o.driven fs engine display).log.drain.2.printed := by
  simp only [build, BuildOptions.driven]

theorem calls_transform (o : TransformOptions) (input : String) (engine : Engine)
    (display : Display) :
    (transform o input engine display).calls = (o.driven input engine display).calls := by
  simp only [transform, TransformOptions.driven, TransformOptions.fileSystem]

theorem result_transform (o : TransformOptions) (input : String) (engine : Engine)
    (display : Display) :
    (transform o input engine display).result =
      { errors := messagesOf .error (o.driven input engine display).log.pending
        warnings := messagesOf .warning (o.driven input engine display).log.pending
        js := (unpackOutputs (o.driven input engine display).outputs).1
        sourceMap := (unpackOutputs (o.driven input engine display).outputs).2 } := by
  simp only [transform, TransformOptions.driven, TransformOptions.fileSystem, Log.drain]

theorem printed_transform (o : TransformOptions) (input : String) (engine : Engine)
    (display : Display) :
    (transform o input engine display).printed =
      (o.driven input engine display).log.drain.2.printed := by
  simp only [transform, TransformOptions.driven, TransformOptions.fileSystem]

/-- A build takes one of the courses, and what it returns is the messages logged on it, by their
severity, with the files handed on. -/
theorem build_course (o : BuildOptions) (fs : FileSystem) (engine : Engine) (display : Display) :
    ∃ logged files,
      Course fs (o.plan fs) (engine.session fs (o.plan fs).1 .zero)
        (build o fs engine display).calls logged files ∧
      (build o fs engine display).result
        = ⟨messagesOf .error logged, messagesOf .warning logged, files⟩ := by
  have hdriven : o.driven fs engine display
      = ((o.log display).addIssues (o.plan fs).2).attempt engine fs (o.plan fs).1 := rfl
  rw [calls_build, result_build]
  exact ⟨_, _, drive_course (pending_log _ _) (tally_log _ _) hdriven, rfl⟩

/-- A transform takes one of the courses too, and the files handed on are taken apart. -/
theorem transform_course (o : TransformOptions) (input : String) (engine : Engine)
    (display : Display) :
    ∃ logged files,
      Course (o.fileSystem input) (o.plan input)
        (engine.session (o.fileSystem input) (o.plan input).1 .zero)
        (transform o input engine display).calls logged files ∧
      (transform o input engine display).result
        = ⟨messagesOf .error logged, messagesOf .warning logged, (unpackOutputs files).1,
            (unpackOutputs files).2⟩ := by
  have hdriven : o.driven input engine display
      = ((o.log display).addIssues (o.plan input).2).attempt engine (o.fileSystem input)
          (o.plan input).1 := rfl
  rw [calls_transform, result_transform]
  exact ⟨_, _, drive_course (pending_log _ _) (tally_log _ _) hdriven, rfl⟩

end Bundler
