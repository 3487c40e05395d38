import Bundler.Diagnostic.Render

/-! # The log of one run

A log takes every diagnostic of a run. It keeps them in order until they are drained, counts errors
and warnings, and, unless it is a deferred log, prints each one as it arrives. Printing obeys a
level and a limit on errors: with the last error that the limit allows, a line says so, and nothing
after it is printed. What is kept and counted does not depend on any of that. -/

set_option autoImplicit false

namespace Bundler

/-- The least serious diagnostics that a log prints. At `info`, it prints warnings too. -/
inductive Threshold
  | info
  | warning
  | error
  deriving DecidableEq, Repr

/-- Whether warnings are printed. -/
def Threshold.showsWarnings : Threshold → Bool
  | .info => true
  | .warning => true
  | .error => false

/-- Whether diagnostics of a severity are printed. -/
def Threshold.shows (level : Threshold) : Severity → Bool
  | .error => true
  | .warning => level.showsWarnings

/-- How a log prints. -/
structure Printing where
  includeSource : Bool
  /-- The number of errors after which printing stops, 0 standing for no limit. -/
  errorLimit : Nat
  styled : Bool
  level : Threshold
  deriving DecidableEq, Repr

/-- How many diagnostics of each severity have arrived. -/
structure Tally where
  errors : Nat
  warnings : Nat
  deriving DecidableEq, Repr

namespace Tally

/-- Nothing has arrived. -/
def zero : Tally := ⟨0, 0⟩

/-- The tally with one more diagnostic. -/
def count (t : Tally) : Severity → Tally
  | .error => { t with errors := t.errors + 1 }
  | .warning => { t with warnings := t.warnings + 1 }

/-- Whether an error has arrived. -/
def hasErrors (t : Tally) : Bool := t.errors > 0

/-- The tally in one line. -/
def describe (t : Tally) : String :=
  "Log \x7b errors: " ++ toString t.errors ++ ", warnings: " ++ toString t.warnings ++ " \x7d"

end Tally

/-- A number of things in words. -/
def counted (noun : String) (n : Nat) : String :=
  if n == 1 then toString n ++ " " ++ noun else toString n ++ " " ++ noun ++ "s"

/-- The line that closes the printing of a run, unless there is nothing to count. -/
def Tally.summary? (t : Tally) : Option String :=
  if t.warnings == 0 && t.errors == 0 then none
  else if t.errors == 0 then some (counted "warning" t.warnings)
  else if t.warnings == 0 then some (counted "error" t.errors)
  else some (counted "warning" t.warnings ++ " and " ++ counted "error" t.errors)

/-- The line that says that the limit on errors is reached. -/
def limitLine (errors : Nat) : String :=
  counted "error" errors ++ " reached (disable error limit with --error-limit=0)\n"

/-- The log of one run. -/
structure Log where
  /-- How it prints; a log without printing is deferred. -/
  printing : Option Printing
  /-- What has arrived since the last drain, in order. -/
  pending : List Diagnostic
  /-- What has arrived since the log was made. -/
  tally : Tally
  /-- Whether the limit on errors has been reached. -/
  limitReached : Bool
  /-- All that has been printed. -/
  printed : String
  deriving DecidableEq, Repr

namespace Log

/-- A new log, deferred unless it is told how to print. -/
def new (printing : Option Printing) : Log := ⟨printing, [], .zero, false, ""⟩

/-- A log that prints nothing. -/
def deferred : Log := new none

/-- Whether an error has arrived. -/
def hasErrors (log : Log) : Bool := log.tally.hasErrors

/-- What is printed when a diagnostic arrives: the diagnostic, if the level shows it, and the limit
line, if it is the last error allowed. `tally` includes the diagnostic. -/
def printedOn (p : Printing) (tally : Tally) (limitReached : Bool) (d : Diagnostic) : String :=
  if limitReached then ""
  else
    (if p.level.shows d.severity then d.render p.includeSource p.styled else "")
      ++ (if p.errorLimit > 0 && tally.errors ≥ p.errorLimit then limitLine tally.errors else "")

/-- Takes a diagnostic. -/
def add (log : Log) (d : Diagnostic) : Log :=
  let tally := log.tally.count d.severity
  let taken := { log with pending := log.pending ++ [d], tally := tally }
  match log.printing with
  | none => taken
  | some p =>
    { taken with
      limitReached := log.limitReached || (p.errorLimit > 0 && tally.errors ≥ p.errorLimit)
      printed := log.printed ++ printedOn p tally log.limitReached d }

/-- Takes diagnostics one after the other. -/
def addAll (log : Log) (ds : List Diagnostic) : Log := ds.foldl add log

/-- The line that a drain prints: the totals since the log was made, with the warnings left out
when the level does not show them. -/
def closing (log : Log) : String :=
  match log.printing with
  | none => ""
  | some p =>
    let warnings := if p.level.showsWarnings then log.tally.warnings else 0
    ({ log.tally with warnings }.summary?.map (· ++ "\n")).getD ""

/-- Hands out what has arrived since the last drain. The counts go on. -/
def drain (log : Log) : List Diagnostic × Log :=
  (log.pending, { log with pending := [], printed := log.printed ++ log.closing })

end Log

end Bundler
