import Bundler.Proofs.Course
import Bundler.Proofs.Log.Printed

/-! # What is printed is what is returned

A diagnostic is printed when it arrives, and turned into a message when the log is drained. The two
are worked out apart, but what is printed can be read off the message alone (`block_message`). So
without a limit on errors the printing of a run is told from what the run returns: one block for
each message, in the order of arrival, which the caller does not get to see but for the order among
the errors and that among the warnings (`Interleaved`), and one line with the numbers of both. -/

set_option autoImplicit false

namespace Bundler

/-! ## Messages as blocks of lines -/

/-- The line under a source line: a caret below the column, and a tilde below each further character
of the span that is on the line. -/
def Location.marker (l : Location) : String :=
  let under := Underline.ofColumn l.lineText.toList l.column l.length
  String.ofList (List.replicate under.indent ' ') ++ "^" ++
    String.ofList (List.replicate (under.covered - 1) '~')

/-- The lines in which a message is printed. -/
def Message.block (severity : Severity) (m : Message) : String :=
  match m.location with
  | none => severity.label ++ ": " ++ m.text ++ "\n"
  | some l =>
    l.file ++ ":" ++ toString l.line ++ ":" ++ toString l.column ++ ": " ++ severity.label ++ ": "
      ++ m.text ++ "\n" ++ l.lineText ++ "\n" ++ l.marker ++ "\n"

/-- A diagnostic is printed as the block of its message. -/
theorem block_message (d : Diagnostic) : d.message.block d.severity = d.render true false := by
  have hplain : ∀ (style : Style) (text : String), style.paint false text = text :=
    fun _ _ => rfl
  obtain ⟨severity, text, origin⟩ := d
  unfold Diagnostic.render Message.block
  cases origin with
  | none => simp only [Diagnostic.message, Option.map_none, hplain, if_true]
  | some origin =>
      obtain ⟨source, span⟩ := origin
      simp only [Diagnostic.message, Option.map_some, Source.locate, Location.marker, hplain,
        if_true, String.toList_ofList, Underline.blanks, Underline.mark, String.append_assoc]

/-- Columns and lengths are in bytes, and the marker is in characters. -/
example :
    Message.block .error ⟨"e", some ⟨"a.ts", 1, 3, 4, "é = ö"⟩⟩ =
      "a.ts:1:3: error: e\né = ö\n  ^~~\n" := by
  decide +kernel

/-! ## Messages in one order -/

/-- Errors and warnings are brought into one order, which keeps the order of both. -/
inductive Interleaved : List Message → List Message → List (Severity × Message) → Prop
  | nil : Interleaved [] [] []
  | error {errors warnings : List Message} {order : List (Severity × Message)} (m : Message)
      (rest : Interleaved errors warnings order) :
      Interleaved (m :: errors) warnings ((.error, m) :: order)
  | warning {errors warnings : List Message} {order : List (Severity × Message)} (m : Message)
      (rest : Interleaved errors warnings order) :
      Interleaved errors (m :: warnings) ((.warning, m) :: order)

/-- The order in which diagnostics arrive is such an order of their messages. -/
theorem interleaved_messagesOf (ds : List Diagnostic) :
    Interleaved (messagesOf .error ds) (messagesOf .warning ds)
      (ds.map fun d => (d.severity, d.message)) := by
  induction ds with
  | nil => exact .nil
  | cons d ds ih =>
      obtain ⟨severity, text, origin⟩ := d
      cases severity with
      | error => exact .error _ ih
      | warning => exact .warning _ ih

theorem length_messagesOf_error (ds : List Diagnostic) :
    (messagesOf .error ds).length = errorCount ds := by
  rw [messagesOf, List.length_map, errorCount, List.countP_eq_length_filter]

theorem length_messagesOf_warning (ds : List Diagnostic) :
    (messagesOf .warning ds).length = warningCount ds := by
  rw [messagesOf, List.length_map, warningCount, List.countP_eq_length_filter]

/-- The line that closes the printing of a run with some errors and some warnings. -/
def summaryLine (errors warnings : Nat) : String :=
  match errors, warnings with
  | 0, 0 => ""
  | 0, _ => warningsText warnings ++ "\n"
  | _, 0 => errorsText errors ++ "\n"
  | _, _ => warningsText warnings ++ " and " ++ errorsText errors ++ "\n"

/-- A text is the blocks of the errors and the warnings, in an order that keeps the order of both,
and the line with their numbers. -/
def PrintedAs (printed : String) (errors warnings : List Message) : Prop :=
  ∃ order, Interleaved errors warnings order ∧
    printed = String.join (order.map fun (severity, m) => m.block severity) ++
      summaryLine errors.length warnings.length

/-! ## Logs without a limit -/

/-- Without a limit on errors no error is the last one allowed. -/
theorem not_isLastAllowed_zero (ds : List Diagnostic) (k : Nat) : ¬ IsLastAllowed 0 ds k := by
  intro hlast
  have hk : k < ds.length := by
    obtain ⟨d, hd, -⟩ := hlast
    exact (List.getElem?_eq_some_iff.1 hd).1
  have hpos := ((exists_isLastAllowed_iff 0 ds).1 ⟨k, hk, hlast⟩).1
  exact absurd hpos (Nat.lt_irrefl 0)

theorem added_map_add (ds : List Diagnostic) : added (ds.map .add) = ds := by
  rw [added, List.filterMap_map]
  exact List.filterMap_some

theorem reflects_addAll (printing : Option Printing) (ds : List Diagnostic) :
    ((Log.new printing).addAll ds).Reflects printing (ds.map .add) := by
  have hsteps : (Log.new printing).addAll ds = (Log.new printing).after (ds.map .add) := by
    rw [Log.after, List.foldl_map]
    rfl
  rw [hsteps]
  exact reflects_after printing _

namespace Printing

variable (p : Printing)

/-- The diagnostics that are printed. -/
def shown (ds : List Diagnostic) : List Diagnostic :=
  ds.filter fun d => d.severity = .error ∨ p.level ≠ .error

theorem messagesOf_error_shown (ds : List Diagnostic) :
    messagesOf .error (p.shown ds) = messagesOf .error ds := by
  rw [messagesOf, shown, List.filter_filter]
  refine congrArg (List.map Diagnostic.message) (List.filter_congr fun d _ => ?_)
  cases d.severity <;> simp

theorem messagesOf_warning_shown (ds : List Diagnostic) :
    messagesOf .warning (p.shown ds) = if p.level = .error then [] else messagesOf .warning ds := by
  rw [messagesOf, shown, List.filter_filter]
  split
  · rename_i hlevel
    rw [List.filter_eq_nil_iff.2 ?_, List.map_nil]
    intro d _
    cases d.severity <;> simp [hlevel]
  · rename_i hlevel
    refine congrArg (List.map Diagnostic.message) (List.filter_congr fun d _ => ?_)
    simp [hlevel]

variable {p}

/-- A log without a limit prints what it shows, each diagnostic by itself. -/
theorem printed_addAll (hlimit : p.errorLimit = 0) (ds : List Diagnostic) :
    ((Log.new (some p)).addAll ds).printed =
      String.join ((p.shown ds).map (Diagnostic.render p.includeSource p.styled)) := by
  induction ds using List.reverseRecOn with
  | nil => rfl
  | append_singleton ds d ih =>
      have hlast : ∀ k, ¬ IsLastAllowed p.errorLimit (added (ds.map .add) ++ [d]) k := by
        rw [hlimit]
        exact not_isLastAllowed_zero _
      rw [Log.addAll_append]
      show (((Log.new (some p)).addAll ds).add d).printed = _
      rw [(reflects_addAll (some p) ds).printed_add d [], ih, additionText, shown, shown,
        List.filter_append, List.map_append, String.join_append, if_neg (by simp [hlast]),
        if_neg (hlast _)]
      by_cases hshown : d.severity = .error ∨ p.level ≠ .error
      · simp [hshown]
      · simp [hshown]

theorem closingText_eq (ds : List Diagnostic) :
    p.closingText ds =
      summaryLine (errorCount ds) (if p.level = .error then 0 else warningCount ds) := by
  unfold closingText
  generalize (if p.level = .error then 0 else warningCount ds) = warnings
  generalize errorCount ds = errors
  cases errors with
  | zero =>
      cases warnings with
      | zero => rfl
      | succ warnings => simp [summaryLine]
  | succ errors =>
      cases warnings with
      | zero => simp [summaryLine]
      | succ warnings => simp [summaryLine]

/-- What a log without a limit and without styles has printed when it is drained. -/
theorem printedAs_drain (hlimit : p.errorLimit = 0) (hsource : p.includeSource = true)
    (hstyled : p.styled = false) (ds : List Diagnostic) :
    PrintedAs ((Log.new (some p)).addAll ds).drain.2.printed (messagesOf .error ds)
      (if p.level = .error then [] else messagesOf .warning ds) := by
  refine ⟨(p.shown ds).map fun d => (d.severity, d.message), ?_, ?_⟩
  · rw [← messagesOf_error_shown p, ← messagesOf_warning_shown p]
    exact interleaved_messagesOf (p.shown ds)
  · have hcount : (if p.level = .error then [] else messagesOf .warning ds).length =
        if p.level = .error then 0 else warningCount ds := by
      rw [← length_messagesOf_warning]
      split <;> rfl
    have hblocks : (p.shown ds).map (Diagnostic.render true false) =
        (p.shown ds).map fun d => d.message.block d.severity :=
      List.map_congr_left fun d _ => (block_message d).symm
    rw [(reflects_addAll (some p) ds).printed_drain, printed_addAll hlimit, closingText_eq,
      added_map_add, hsource, hstyled, hblocks, List.map_map, length_messagesOf_error, hcount]
    rfl

end Printing

/-! ## Runs -/

/-- The log of options with a level at which logs print, without a limit and without styles. -/
theorem log_of_threshold {o : CommonOptions} {display : Display} {level : Threshold}
    (hlevel : o.logLevel.threshold = .ok level) (hlimit : o.errorLimit = 0)
    (hcolor : o.color.styled display = false) :
    o.log display = .new (some ⟨true, 0, false, level⟩) := by
  rw [CommonOptions.log, hlevel, hlimit, hcolor]

/-- Without a limit on errors and without styles, what a log prints up to the drain at the end of a
run is told from the messages that the drain hands out. -/
theorem printedAs_of_attempt {o : CommonOptions} {display : Display} (hlimit : o.errorLimit = 0)
    (hcolor : o.color.styled display = false) (issues : List Issue) (engine : Engine)
    (fs : FileSystem) (plan : Plan) {driven : Driven}
    (hdriven : driven = ((o.log display).addIssues issues).attempt engine fs plan) :
    (o.logLevel = .info ∨ o.logLevel = .warning →
      PrintedAs driven.log.drain.2.printed (messagesOf .error driven.log.pending)
        (messagesOf .warning driven.log.pending)) ∧
      (o.logLevel = .error →
        PrintedAs driven.log.drain.2.printed (messagesOf .error driven.log.pending) []) := by
  obtain ⟨ds, hlog⟩ := exists_log_attempt (o.log display) issues engine fs plan
  rw [← hdriven] at hlog
  have hpending : driven.log.pending = ds := by
    rw [hlog, Log.pending_addAll, pending_log, List.nil_append]
  have hprinted : ∀ level, o.logLevel.threshold = .ok level →
      PrintedAs driven.log.drain.2.printed (messagesOf .error ds)
        (if level = .error then [] else messagesOf .warning ds) := by
    intro level hlevel
    rw [hlog, log_of_threshold hlevel hlimit hcolor]
    exact Printing.printedAs_drain rfl rfl rfl ds
  rw [hpending]
  constructor
  · rintro (hlevel | hlevel)
    · exact hprinted .info (by rw [hlevel]; rfl)
    · exact hprinted .warning (by rw [hlevel]; rfl)
  · intro hlevel
    exact hprinted .error (by rw [hlevel]; rfl)

/-- What a run prints is told from what it returns, in builds and in transforms, whatever engine is
asked. With no limit on errors and no styles, at the levels `info` and `warning` it prints one block
for each message that it returns, in some order that keeps the order of the errors and that of the
warnings, and then the numbers of both. At the level `error` it prints the same of the errors
alone. -/
theorem printed_as_returned (engine : Engine) (display : Display) :
    (∀ (o : BuildOptions) (fs : FileSystem),
      o.errorLimit = 0 → o.color.styled display = false →
      let run := build o fs engine display
      (o.logLevel = .info ∨ o.logLevel = .warning →
        PrintedAs run.printed run.result.errors run.result.warnings) ∧
      (o.logLevel = .error → PrintedAs run.printed run.result.errors [])) ∧
    (∀ (o : TransformOptions) (input : String),
      o.errorLimit = 0 → o.color.styled display = false →
      let run := transform o input engine display
      (o.logLevel = .info ∨ o.logLevel = .warning →
        PrintedAs run.printed run.result.errors run.result.warnings) ∧
      (o.logLevel = .error → PrintedAs run.printed run.result.errors [])) := by
  constructor
  · intro o fs hlimit hcolor run
    have hdriven : o.driven fs engine display
        = ((o.log display).addIssues (o.plan fs).2).attempt engine fs (o.plan fs).1 := rfl
    simp only [run, result_build, printed_build]
    exact printedAs_of_attempt hlimit hcolor _ engine fs _ hdriven
  · intro o input hlimit hcolor run
    have hdriven : o.driven input engine display
        = ((o.log display).addIssues (o.plan input).2).attempt engine (o.fileSystem input)
            (o.plan input).1 := rfl
    simp only [run, result_transform, printed_transform]
    exact printedAs_of_attempt hlimit hcolor _ engine (o.fileSystem input) _ hdriven

end Bundler
