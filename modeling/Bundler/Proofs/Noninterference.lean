import Bundler.Proofs.Course

/-! # Printing decides nothing

Options say how a log prints: whether at all, from which level on, in which style, and up to how
many errors. Two logs that differ in this alone keep and count the same (`Log.Alike`), and they go
on doing so whatever is reported to them. An engine may look at the log while it works, but all that
it finds there is the tally (`Work`). So two runs whose options differ in printing alone differ in
what they print and in nothing else (`printing_decides_nothing`). -/

set_option autoImplicit false

namespace Bundler

/-! ## Logs that differ in printing -/

/-- Two logs have kept and counted the same, however they print. -/
structure Log.Alike (a b : Log) : Prop where
  pending : a.pending = b.pending
  tally : a.tally = b.tally

section

variable {a b : Log}

theorem Log.Alike.hasErrors_eq (h : a.Alike b) : a.hasErrors = b.hasErrors := by
  rw [Log.hasErrors, Log.hasErrors, h.tally]

theorem Log.Alike.add (h : a.Alike b) (d : Diagnostic) : (a.add d).Alike (b.add d) where
  pending := by rw [pending_add, pending_add, h.pending]
  tally := by rw [tally_add, tally_add, h.tally]

theorem Log.Alike.addAll (h : a.Alike b) (ds : List Diagnostic) :
    (a.addAll ds).Alike (b.addAll ds) := by
  induction ds generalizing a b with
  | nil => exact h
  | cons d ds ih => exact ih (h.add d)

/-- The logs that options ask for are alike. -/
theorem alike_log (o o' : CommonOptions) (display display' : Display) :
    (o.log display).Alike (o'.log display') where
  pending := by rw [pending_log, pending_log]
  tally := by rw [tally_log, tally_log]

/-! ## Engines at logs that are alike -/

/-- What there is after an engine has been asked is the same, save for the printing of the log. -/
structure Driven.Alike (x y : Driven) : Prop where
  outputs : x.outputs = y.outputs
  calls : x.calls = y.calls
  log : x.log.Alike y.log

theorem Engine.drive_alike (engine : Engine) (fs : FileSystem) (plan : Plan) (h : a.Alike b) :
    (engine.drive fs plan a).Alike (engine.drive fs plan b) := by
  rw [engine.drive_eq, engine.drive_eq, h.tally]
  generalize engine.session fs plan b.tally = s
  -- both logs have come to the checkpoint with the same reports
  have hfound := (h.addAll (s.resolving ++ s.scanning)).hasErrors_eq
  simp only [hfound]
  split
  · exact ⟨rfl, rfl, h.addAll _⟩
  · exact ⟨rfl, rfl, h.addAll _⟩

theorem Log.Alike.attempt (h : a.Alike b) (engine : Engine) (fs : FileSystem) (plan : Plan) :
    (a.attempt engine fs plan).Alike (b.attempt engine fs plan) := by
  unfold Log.attempt
  rw [h.hasErrors_eq]
  split
  · exact ⟨rfl, rfl, h⟩
  · exact engine.drive_alike fs plan h

end

/-! ## Work at a log -/

/-- Work that is done at a log: it reports diagnostics and may at any time look at the tally. -/
inductive Work (α : Type)
  | done (result : α)
  | report (d : Diagnostic) (rest : Work α)
  | look (rest : Tally → Work α)

namespace Work

variable {α : Type}

/-- Does the work at a log. -/
def run : Work α → Log → α × Log
  | .done result, log => (result, log)
  | .report d rest, log => rest.run (log.add d)
  | .look rest, log => (rest log.tally).run log

/-- What the work comes to, and what it reports, when it begins with a tally. -/
def outcome : Work α → Tally → α × List Diagnostic
  | .done result, _ => (result, [])
  | .report d rest, tally =>
    let (result, ds) := rest.outcome (tally.count d.severity)
    (result, d :: ds)
  | .look rest, tally => (rest tally).outcome tally

/-- What is done at a log is told from the tally that it begins with. -/
theorem run_eq (w : Work α) (log : Log) :
    w.run log = ((w.outcome log.tally).1, log.addAll (w.outcome log.tally).2) := by
  induction w generalizing log with
  | done result => rfl
  | report d rest ih =>
      show rest.run (log.add d) = _
      rw [ih, Log.tally_add]
      rfl
  | look rest ih => exact ih log.tally log

end Work

/-- An engine whose steps are work at a log. -/
structure Worker where
  /-- The resolvers that it makes. -/
  Resolver : Type
  /-- What it has after scanning. -/
  Bundle : Type
  newResolver : FileSystem → ResolveOptions → Work Resolver
  scan : FileSystem → Resolver → List String → ParseOptions → BundleOptions → Work Bundle
  compile : Bundle → BundleOptions → Work (List OutputFile)

namespace Worker

/-- The engine that a worker is. -/
def engine (w : Worker) : Engine where
  Resolver := w.Resolver
  Bundle := w.Bundle
  newResolver := fun fs tally options => (w.newResolver fs options).outcome tally
  scan := fun fs tally resolver entries parse bundle =>
    (w.scan fs resolver entries parse bundle).outcome tally
  compile := fun scanned tally bundle => (w.compile scanned bundle).outcome tally

/-- Has a worker carry out a plan, at the log itself. -/
def drive (w : Worker) (fs : FileSystem) (plan : Plan) (log : Log) : Driven :=
  let (resolver, log) := (w.newResolver fs plan.resolve).run log
  let (bundle, log) := (w.scan fs resolver plan.entries plan.parse plan.bundle).run log
  let calls := [.newResolver fs plan.resolve, .scan fs plan.entries plan.parse plan.bundle]
  if log.hasErrors then ⟨[], calls, log⟩
  else
    let (outputs, log) := (w.compile bundle plan.bundle).run log
    ⟨outputs, calls ++ [.compile plan.bundle], log⟩

/-- Working at the log itself comes to the same as handing over what there is to report after each
step. -/
theorem drive_eq (w : Worker) (fs : FileSystem) (plan : Plan) (log : Log) :
    w.drive fs plan log = w.engine.drive fs plan log := by
  simp only [drive, Work.run_eq]
  rfl

end Worker

/-! ## Runs -/

/-- Options that differ in color, in the limit on errors and in the log level alone give runs that
return the same and ask their engine for the same, in builds and in transforms. This holds of every
engine, be it one that looks at the log in the middle of its work. -/
theorem printing_decides_nothing (color : ColorMode) (errorLimit : Nat) (logLevel : LogLevel)
    (display display' : Display) :
    (∀ (o : BuildOptions) (fs : FileSystem) (engine : Engine),
      let run := build o fs engine display
      let run' := build { o with color, errorLimit, logLevel } fs engine display'
      run'.result = run.result ∧ run'.calls = run.calls) ∧
    (∀ (o : TransformOptions) (input : String) (engine : Engine),
      let run := transform o input engine display
      let run' := transform { o with color, errorLimit, logLevel } input engine display'
      run'.result = run.result ∧ run'.calls = run.calls) ∧
    (∀ (w : Worker) (fs : FileSystem) (plan : Plan) (log : Log),
      w.drive fs plan log = w.engine.drive fs plan log) := by
  refine ⟨?_, ?_, Worker.drive_eq⟩
  · intro o fs engine run run'
    have halike : (BuildOptions.driven { o with color, errorLimit, logLevel } fs engine
        display').Alike (o.driven fs engine display) :=
      ((alike_log _ _ _ _).addAll _).attempt engine fs (o.plan fs).1
    constructor
    · show (build _ fs engine display').result = (build o fs engine display).result
      rw [result_build, result_build, halike.outputs, halike.log.pending]
    · show (build _ fs engine display').calls = (build o fs engine display).calls
      rw [calls_build, calls_build, halike.calls]
  · intro o input engine run run'
    have halike : (TransformOptions.driven { o with color, errorLimit, logLevel } input engine
        display').Alike (o.driven input engine display) :=
      ((alike_log _ _ _ _).addAll _).attempt engine (o.fileSystem input) (o.plan input).1
    constructor
    · show (transform _ input engine display').result = (transform o input engine display).result
      rw [result_transform, result_transform, halike.outputs, halike.log.pending]
    · show (transform _ input engine display').calls = (transform o input engine display).calls
      rw [calls_transform, calls_transform, halike.calls]

end Bundler
