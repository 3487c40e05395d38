import Bundler.Proofs.Log
import Mathlib.Data.List.DropRight
import Mathlib.Data.List.Induction

/-! # What a log prints

A log takes diagnostics and is drained now and then. What it prints at each of these steps is told
from the diagnostics that the whole run adds: printing ends with the last error that the limit
allows (`IsLastAllowed`), and neither what is hidden nor what comes too late is lost to a drain or
to the counts. The state of a log is described by the steps behind it (`Log.Reflects`), which holds
at first and is kept by each step; the texts follow from it (`printed_up_to_limit`). -/

set_option autoImplicit false

namespace Bundler

/-! ## Runs of steps -/

/-- One thing that is done to a log. All who hold a log hold the same one, so it does not matter
through which of them a step is taken, and a run is the steps in their order. -/
inductive LogStep
  | add (d : Diagnostic)
  | drain
  deriving DecidableEq, Repr

/-- Takes one step. Only a drain hands something out. -/
def Log.step (log : Log) : LogStep → List Diagnostic × Log
  | .add d => ([], log.add d)
  | .drain => log.drain

/-- The log behind a run of steps. -/
def Log.after (log : Log) (steps : List LogStep) : Log :=
  steps.foldl (fun log step => (log.step step).2) log

/-- The diagnostics that a run adds. -/
def added (steps : List LogStep) : List Diagnostic :=
  steps.filterMap fun
    | .add d => some d
    | .drain => none

/-- The diagnostics that a run adds behind its last drain. -/
def undrained (steps : List LogStep) : List Diagnostic :=
  added (steps.rtakeWhile fun step => step ≠ .drain)

theorem after_concat (log : Log) (steps : List LogStep) (step : LogStep) :
    log.after (steps ++ [step]) = ((log.after steps).step step).2 := by
  simp [Log.after, List.foldl_append]

theorem added_append (xs ys : List LogStep) : added (xs ++ ys) = added xs ++ added ys :=
  List.filterMap_append

theorem added_concat_add (steps : List LogStep) (d : Diagnostic) :
    added (steps ++ [.add d]) = added steps ++ [d] := added_append _ _

theorem added_concat_drain (steps : List LogStep) : added (steps ++ [.drain]) = added steps := by
  rw [added_append]
  exact List.append_nil _

theorem undrained_concat_add (steps : List LogStep) (d : Diagnostic) :
    undrained (steps ++ [.add d]) = undrained steps ++ [d] := by
  rw [undrained, List.rtakeWhile_concat_pos _ _ _ (by simp), added_concat_add]
  rfl

theorem undrained_concat_drain (steps : List LogStep) : undrained (steps ++ [.drain]) = [] := by
  rw [undrained, List.rtakeWhile_concat_neg _ _ _ (by simp)]
  rfl

/-! ## Counts -/

/-- The number of errors. -/
def errorCount (ds : List Diagnostic) : Nat := ds.countP fun d => d.severity == .error

/-- The number of warnings. -/
def warningCount (ds : List Diagnostic) : Nat := ds.countP fun d => d.severity == .warning

theorem errorCount_concat (ds : List Diagnostic) (d : Diagnostic) :
    errorCount (ds ++ [d]) = errorCount ds + if d.severity = .error then 1 else 0 := by
  simp [errorCount, List.countP_append, List.countP_singleton]

theorem warningCount_concat (ds : List Diagnostic) (d : Diagnostic) :
    warningCount (ds ++ [d]) = warningCount ds + if d.severity = .warning then 1 else 0 := by
  simp [warningCount, List.countP_append, List.countP_singleton]

theorem count_counts (ds : List Diagnostic) (d : Diagnostic) :
    Tally.count ⟨errorCount ds, warningCount ds⟩ d.severity =
      ⟨errorCount (ds ++ [d]), warningCount (ds ++ [d])⟩ := by
  rw [errorCount_concat, warningCount_concat]
  cases d.severity <;> rfl

/-! ## The last error that the limit allows -/

/-- At a position stands the last error that a limit allows: with it, there are as many errors as
the limit says. -/
def IsLastAllowed (limit : Nat) (ds : List Diagnostic) (k : Nat) : Prop :=
  ∃ d, ds[k]? = some d ∧ d.severity = .error ∧ errorCount (ds.take (k + 1)) = limit

instance (limit : Nat) (ds : List Diagnostic) (k : Nat) : Decidable (IsLastAllowed limit ds k) :=
  match h : ds[k]? with
  | none => .isFalse fun ⟨_, hd, _⟩ => by rw [h] at hd; cases hd
  | some d =>
    decidable_of_iff (d.severity = .error ∧ errorCount (ds.take (k + 1)) = limit)
      ⟨fun hd => ⟨d, h, hd⟩, fun ⟨_, hd, hrest⟩ => by
        rw [h] at hd
        cases hd
        exact hrest⟩

/-- What comes later has no part in it. -/
theorem isLastAllowed_append {limit : Nat} {ds : List Diagnostic} {k : Nat} (h : k < ds.length)
    (es : List Diagnostic) : IsLastAllowed limit (ds ++ es) k ↔ IsLastAllowed limit ds k := by
  rw [IsLastAllowed, IsLastAllowed, List.getElem?_append_left h, List.take_append_of_le_length h]

theorem isLastAllowed_length_iff (limit : Nat) (ds es : List Diagnostic) (d : Diagnostic) :
    IsLastAllowed limit (ds ++ d :: es) ds.length ↔
      d.severity = .error ∧ errorCount ds + 1 = limit := by
  have htake : (ds ++ d :: es).take (ds.length + 1) = ds ++ [d] := by
    rw [List.append_cons]
    exact List.take_left' List.length_append
  have hget : (ds ++ d :: es)[ds.length]? = some d := by
    rw [List.getElem?_append_right (Nat.le_refl _), Nat.sub_self]
    rfl
  rw [IsLastAllowed, htake, hget, errorCount_concat]
  constructor
  · rintro ⟨_, hd, herror, hcount⟩
    obtain rfl := Option.some.inj hd
    rw [if_pos herror] at hcount
    exact ⟨herror, hcount⟩
  · rintro ⟨herror, hcount⟩
    exact ⟨d, rfl, herror, by rw [if_pos herror, hcount]⟩

/-- There is such an error exactly when there are as many errors as the limit says. No limit allows
none. -/
theorem exists_isLastAllowed_iff (limit : Nat) (ds : List Diagnostic) :
    (∃ k < ds.length, IsLastAllowed limit ds k) ↔ 0 < limit ∧ limit ≤ errorCount ds := by
  induction ds using List.reverseRecOn with
  | nil =>
      constructor
      · rintro ⟨k, hk, -⟩
        exact absurd hk (Nat.not_lt_zero k)
      · rintro ⟨hpos, hle⟩
        exact absurd (Nat.lt_of_lt_of_le hpos hle) (Nat.lt_irrefl 0)
  | append_singleton ds d ih =>
      -- it stands among the earlier ones, or it is the one that is added
      have hsplit : (∃ k < (ds ++ [d]).length, IsLastAllowed limit (ds ++ [d]) k) ↔
          (∃ k < ds.length, IsLastAllowed limit ds k) ∨
            d.severity = .error ∧ errorCount ds + 1 = limit := by
        rw [← isLastAllowed_length_iff limit ds [] d, List.length_append, List.length_singleton]
        constructor
        · rintro ⟨k, hk, hlast⟩
          rcases Nat.lt_succ_iff_lt_or_eq.1 hk with hlt | rfl
          · exact .inl ⟨k, hlt, (isLastAllowed_append hlt [d]).1 hlast⟩
          · exact .inr hlast
        · rintro (⟨k, hlt, hlast⟩ | hlast)
          · exact ⟨k, Nat.lt_succ_of_lt hlt, (isLastAllowed_append hlt [d]).2 hlast⟩
          · exact ⟨ds.length, Nat.lt_succ_self _, hlast⟩
      rw [hsplit, ih, errorCount_concat]
      by_cases herror : d.severity = .error
      · simp only [herror, true_and, if_true]
        omega
      · simp only [herror, false_and, or_false, if_false]
        rfl

/-! ## The state behind a run -/

/-- A log is as a run of steps leaves a new one. -/
structure Log.Reflects (log : Log) (printing : Option Printing) (past : List LogStep) : Prop where
  printing_eq : log.printing = printing
  pending_eq : log.pending = undrained past
  tally_eq : log.tally = ⟨errorCount (added past), warningCount (added past)⟩
  limitReached_iff : log.limitReached = true ↔
    ∃ p, printing = some p ∧ 0 < p.errorLimit ∧ p.errorLimit ≤ errorCount (added past)

section

variable {log : Log} {printing : Option Printing} {past : List LogStep}

theorem reflects_new (printing : Option Printing) : (Log.new printing).Reflects printing [] where
  printing_eq := rfl
  pending_eq := rfl
  tally_eq := rfl
  limitReached_iff := by
    constructor
    · intro h
      cases h
    · rintro ⟨p, -, hpos, hle⟩
      exact absurd (Nat.lt_of_lt_of_le hpos hle) (Nat.lt_irrefl 0)

theorem Log.Reflects.tally_count (h : log.Reflects printing past) (d : Diagnostic) :
    log.tally.count d.severity =
      ⟨errorCount (added past ++ [d]), warningCount (added past ++ [d])⟩ := by
  rw [h.tally_eq, count_counts]

theorem Log.Reflects.add (h : log.Reflects printing past) (d : Diagnostic) :
    (log.add d).Reflects printing (past ++ [.add d]) := by
  have hcount := h.tally_count d
  refine ⟨?_, ?_, ?_, ?_⟩
  · rw [← h.printing_eq]
    unfold Log.add
    cases log.printing <;> rfl
  · rw [Log.pending_add, h.pending_eq, undrained_concat_add]
  · rw [Log.tally_add, hcount, added_concat_add]
  · rw [added_concat_add]
    have hreached := h.limitReached_iff
    unfold Log.add
    rw [h.printing_eq]
    cases printing with
    | none => simpa using hreached
    | some p =>
        -- the number of errors only grows, so a limit stays reached
        have hgrows := errorCount_concat (added past) d
        simp only [Option.some.injEq, exists_eq_left', hcount, Bool.or_eq_true, Bool.and_eq_true,
          decide_eq_true_eq] at hreached ⊢
        rw [hreached]
        omega

theorem Log.Reflects.drain (h : log.Reflects printing past) :
    log.drain.2.Reflects printing (past ++ [.drain]) where
  printing_eq := h.printing_eq
  pending_eq := (undrained_concat_drain past).symm
  tally_eq := by
    rw [added_concat_drain]
    exact h.tally_eq
  limitReached_iff := by
    rw [added_concat_drain]
    exact h.limitReached_iff

/-- Each step keeps the log to the steps behind it. -/
theorem Log.Reflects.step (h : log.Reflects printing past) (step : LogStep) :
    (log.step step).2.Reflects printing (past ++ [step]) := by
  cases step with
  | add d => exact h.add d
  | drain => exact h.drain

/-- So a run leaves a new log as it says. -/
theorem reflects_after (printing : Option Printing) (past : List LogStep) :
    ((Log.new printing).after past).Reflects printing past := by
  induction past using List.reverseRecOn with
  | nil => exact reflects_new printing
  | append_singleton past step ih =>
      rw [after_concat]
      exact ih.step step

end

/-! ## Texts -/

/-- A number of errors in words. -/
def errorsText (n : Nat) : String := if n = 1 then "1 error" else toString n ++ " errors"

/-- A number of warnings in words. -/
def warningsText (n : Nat) : String := if n = 1 then "1 warning" else toString n ++ " warnings"

theorem counted_eq {noun one several : String} (hone : toString 1 ++ " " ++ noun = one)
    (hseveral : " " ++ (noun ++ "s") = several) (n : Nat) :
    counted noun n = if n = 1 then one else toString n ++ several := by
  unfold counted
  by_cases h : n = 1
  · rw [if_pos h, if_pos (beq_iff_eq.2 h), h, hone]
  · rw [if_neg h, if_neg (mt beq_iff_eq.1 h), String.append_assoc, String.append_assoc, hseveral]

theorem counted_error (n : Nat) : counted "error" n = errorsText n := counted_eq rfl rfl n

theorem counted_warning (n : Nat) : counted "warning" n = warningsText n := counted_eq rfl rfl n

theorem limitLine_eq (n : Nat) :
    limitLine n = errorsText n ++ " reached (disable error limit with --error-limit=0)\n" := by
  rw [limitLine, counted_error]

namespace Printing

/-- What is printed of the diagnostic at a position among all that a run adds. Behind the last error
that the limit allows nothing is printed. Up to it, errors are printed and warnings, unless the
level is `error`; and with it comes the line that says that the limit is reached. -/
def additionText (p : Printing) (all : List Diagnostic) (i : Nat) (d : Diagnostic) : String :=
  if ∃ k < i, IsLastAllowed p.errorLimit all k then ""
  else
    (if d.severity = .error ∨ p.level ≠ .error then d.render p.includeSource p.styled else "")
      ++ (if IsLastAllowed p.errorLimit all i then
          errorsText p.errorLimit ++ " reached (disable error limit with --error-limit=0)\n"
        else "")

/-- What a drain prints when diagnostics have been added since the log was made: one line with the
numbers that are not zero. At the level `error`, warnings do not count. -/
def closingText (p : Printing) (all : List Diagnostic) : String :=
  let warnings := if p.level = .error then 0 else warningCount all
  let errors := errorCount all
  if warnings = 0 ∧ errors = 0 then ""
  else
    " and ".intercalate ((if warnings = 0 then [] else [warningsText warnings])
      ++ (if errors = 0 then [] else [errorsText errors])) ++ "\n"

end Printing

theorem shows_eq (level : Threshold) (severity : Severity) :
    level.shows severity = decide (severity = .error ∨ level ≠ .error) := by
  cases severity <;> cases level <;> rfl

section

variable {log : Log} {p : Printing} {past : List LogStep}

theorem Log.Reflects.printed_add (h : log.Reflects (some p) past) (d : Diagnostic)
    (future : List Diagnostic) :
    (log.add d).printed =
      log.printed ++ p.additionText (added past ++ d :: future) (added past).length d := by
  have hprinted : (log.add d).printed =
      log.printed ++ Log.printedOn p (log.tally.count d.severity) log.limitReached d := by
    unfold Log.add
    rw [h.printing_eq]
  rw [hprinted]
  congr 1
  -- the limit has been reached exactly when the last error allowed stands further in front
  have hbefore : (∃ k < (added past).length,
      IsLastAllowed p.errorLimit (added past ++ d :: future) k) ↔ log.limitReached = true := by
    rw [h.limitReached_iff]
    simp only [Option.some.injEq, exists_eq_left']
    rw [← exists_isLastAllowed_iff]
    exact exists_congr fun k => and_congr_right fun hk => isLastAllowed_append hk _
  unfold Log.printedOn Printing.additionText
  rw [h.tally_count]
  by_cases hreached : log.limitReached = true
  · rw [if_pos hreached, if_pos (hbefore.2 hreached)]
  · rw [if_neg hreached, if_neg (mt hbefore.1 hreached), shows_eq]
    congr 1
    · simp only [decide_eq_true_eq]
    -- short of the limit, one more error reaches it exactly or not at all
    · have hshort : ¬ (0 < p.errorLimit ∧ p.errorLimit ≤ errorCount (added past)) := by
        rw [h.limitReached_iff] at hreached
        simpa using hreached
      have hcount := errorCount_concat (added past) d
      have hlast : (decide (p.errorLimit > 0) &&
          decide (errorCount (added past ++ [d]) ≥ p.errorLimit)) = true ↔
          IsLastAllowed p.errorLimit (added past ++ d :: future) (added past).length := by
        rw [isLastAllowed_length_iff, Bool.and_eq_true, decide_eq_true_eq, decide_eq_true_eq,
          hcount]
        by_cases herror : d.severity = .error
        · simp only [herror, if_true, true_and]
          omega
        · simp only [herror, if_false, false_and, iff_false]
          omega
      by_cases hnow : IsLastAllowed p.errorLimit (added past ++ d :: future) (added past).length
      · obtain ⟨herror, hlimit⟩ := (isLastAllowed_length_iff _ _ _ _).1 hnow
        rw [if_pos hnow, if_pos (hlast.2 hnow), hcount, if_pos herror, hlimit, limitLine_eq]
      · rw [if_neg hnow, if_neg (mt hlast.1 hnow)]

/-- What closes a run is told by the counts alone. -/
theorem summary?_eq (t : Tally) : (t.summary?.map (· ++ "\n")).getD "" =
    if t.warnings = 0 ∧ t.errors = 0 then ""
    else
      " and ".intercalate ((if t.warnings = 0 then [] else [warningsText t.warnings])
        ++ (if t.errors = 0 then [] else [errorsText t.errors])) ++ "\n" := by
  simp only [Tally.summary?, counted_error, counted_warning]
  by_cases hwarnings : t.warnings = 0
  · by_cases herrors : t.errors = 0
    · simp [hwarnings, herrors]
    · simp [hwarnings, herrors]
  · by_cases herrors : t.errors = 0
    · simp [hwarnings, herrors]
    · simp [hwarnings, herrors]

theorem Log.Reflects.printed_drain (h : log.Reflects (some p) past) :
    log.drain.2.printed = log.printed ++ p.closingText (added past) := by
  show log.printed ++ log.closing = _
  unfold Log.closing Printing.closingText
  have hwarnings : (if p.level.showsWarnings then warningCount (added past) else 0) =
      if p.level = .error then 0 else warningCount (added past) := by
    cases p.level <;> rfl
  rw [h.printing_eq, h.tally_eq]
  simp only [summary?_eq, hwarnings]

theorem Log.Reflects.printed_deferred (h : log.Reflects none past) (step : LogStep) :
    (log.step step).2.printed = log.printed := by
  cases step with
  | add d =>
      show (log.add d).printed = log.printed
      unfold Log.add
      rw [h.printing_eq]
  | drain =>
      show log.printed ++ log.closing = log.printed
      rw [Log.closing, h.printing_eq]
      exact String.append_empty

end

/-! ## Runs -/

/-- What each step of a run does to a new log, whatever steps come before and after. The log prints
a diagnostic that is added up to the last error that the limit allows, and with that error the line
that the limit is reached; it closes each drain with the counts since it was made. A drain hands out
all that was added since the drain before, printed or not, and the counts go on. A deferred log does
the same and prints nothing. -/
theorem printed_up_to_limit (printing : Option Printing) (past : List LogStep) (step : LogStep)
    (future : List LogStep) :
    let log := (Log.new printing).after past
    let all := added (past ++ step :: future)
    (log.step step).2.printed = log.printed ++
      (match printing, step with
        | none, _ => ""
        | some p, .add d => p.additionText all (added past).length d
        | some p, .drain => p.closingText (added past)) ∧
    (log.step step).1 =
      (match step with
        | .add _ => []
        | .drain => undrained past) ∧
    (log.step step).2.tally =
      ⟨errorCount (added (past ++ [step])), warningCount (added (past ++ [step]))⟩ := by
  intro log all
  have hlog : log.Reflects printing past := reflects_after printing past
  refine ⟨?_, ?_, (hlog.step step).tally_eq⟩
  · cases printing with
    | none =>
        rw [hlog.printed_deferred step]
        exact String.append_empty.symm
    | some p =>
        cases step with
        | add d =>
            have hall : all = added past ++ d :: added future := added_append _ _
            rw [hall]
            exact hlog.printed_add d (added future)
        | drain => exact hlog.printed_drain
  · cases step with
    | add d => rfl
    | drain => exact hlog.pending_eq

/-- The second error is the last one allowed, and the third counts all the same. -/
example :
    ((Log.new (some ⟨true, 2, false, .error⟩)).after
      [.add (.error "a"), .add (.warning "b"), .add (.error "c"), .drain, .add (.error "d"),
        .drain]).printed =
    "error: a\nerror: c\n2 errors reached (disable error limit with --error-limit=0)\n" ++
      "2 errors\n3 errors\n" := by
  decide +kernel

end Bundler
