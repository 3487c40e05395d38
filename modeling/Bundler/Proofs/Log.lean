import Bundler.Options.Logging

/-! # What a log keeps and counts

Whatever a log prints, it keeps the diagnostics that arrive in their order and counts each of them
by its severity. So the two questions that are put to a log, whether an error has arrived and which
messages the caller gets, are answered from one list (`pending_addAll`, `tally_addAll`). -/

set_option autoImplicit false

namespace Bundler

/-! ## Diagnostics among which there is no error -/

/-- None of the diagnostics is an error. -/
def ErrorFree (ds : List Diagnostic) : Prop := ∀ d ∈ ds, d.severity ≠ .error

instance (ds : List Diagnostic) : Decidable (ErrorFree ds) :=
  inferInstanceAs (Decidable (∀ d ∈ ds, d.severity ≠ .error))

@[simp] theorem errorFree_nil : ErrorFree [] := fun _ h => absurd h List.not_mem_nil

@[simp] theorem errorFree_cons (d : Diagnostic) (ds : List Diagnostic) :
    ErrorFree (d :: ds) ↔ d.severity ≠ .error ∧ ErrorFree ds := List.forall_mem_cons

theorem errorFree_append (as bs : List Diagnostic) :
    ErrorFree (as ++ bs) ↔ ErrorFree as ∧ ErrorFree bs := List.forall_mem_append

/-- Diagnostics give no message of an error exactly when there is no error among them. -/
theorem messagesOf_error_eq_nil_iff (ds : List Diagnostic) :
    messagesOf .error ds = [] ↔ ErrorFree ds := by
  simp [messagesOf, ErrorFree, List.filter_eq_nil_iff]

/-! ## Tallies -/

namespace Tally

/-- The tally with several more diagnostics. -/
def countAll (t : Tally) (ds : List Diagnostic) : Tally :=
  ds.foldl (fun t d => t.count d.severity) t

theorem hasErrors_count (t : Tally) (severity : Severity) :
    (t.count severity).hasErrors = false ↔ severity ≠ .error ∧ t.hasErrors = false := by
  cases severity <;> simp [count, hasErrors]

theorem hasErrors_countAll (t : Tally) (ds : List Diagnostic) :
    (t.countAll ds).hasErrors = false ↔ ErrorFree ds ∧ t.hasErrors = false := by
  induction ds generalizing t with
  | nil => simp [countAll]
  | cons d ds ih =>
      show ((t.count d.severity).countAll ds).hasErrors = false ↔ _
      rw [ih, hasErrors_count, errorFree_cons, ← and_assoc, and_comm (a := ErrorFree ds)]

end Tally

/-! ## Logs -/

namespace Log

@[simp] theorem pending_add (log : Log) (d : Diagnostic) :
    (log.add d).pending = log.pending ++ [d] := by
  unfold add
  cases log.printing <;> rfl

@[simp] theorem tally_add (log : Log) (d : Diagnostic) :
    (log.add d).tally = log.tally.count d.severity := by
  unfold add
  cases log.printing <;> rfl

theorem addAll_append (log : Log) (as bs : List Diagnostic) :
    log.addAll (as ++ bs) = (log.addAll as).addAll bs := List.foldl_append

@[simp] theorem pending_addAll (log : Log) (ds : List Diagnostic) :
    (log.addAll ds).pending = log.pending ++ ds := by
  induction ds generalizing log with
  | nil => simp [addAll]
  | cons d ds ih =>
      show ((log.add d).addAll ds).pending = _
      rw [ih, pending_add, List.append_assoc]
      rfl

@[simp] theorem tally_addAll (log : Log) (ds : List Diagnostic) :
    (log.addAll ds).tally = log.tally.countAll ds := by
  induction ds generalizing log with
  | nil => rfl
  | cons d ds ih =>
      show ((log.add d).addAll ds).tally = _
      rw [ih, tally_add]
      rfl

/-- A log is without errors after some diagnostics exactly when it was before and none of them is
an error. -/
theorem hasErrors_addAll (log : Log) (ds : List Diagnostic) :
    (log.addAll ds).hasErrors = false ↔ ErrorFree ds ∧ log.hasErrors = false := by
  rw [hasErrors, tally_addAll]
  exact log.tally.hasErrors_countAll ds

end Log

/-! ## The log that a run begins with -/

@[simp] theorem pending_log (o : CommonOptions) (display : Display) :
    (o.log display).pending = [] := by
  unfold CommonOptions.log
  cases o.logLevel <;> rfl

@[simp] theorem tally_log (o : CommonOptions) (display : Display) :
    (o.log display).tally = .zero := by
  unfold CommonOptions.log
  cases o.logLevel <;> rfl

end Bundler
