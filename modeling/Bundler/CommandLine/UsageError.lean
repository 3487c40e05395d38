import Bundler.Text.Plain

/-! # Errors in arguments

What can be wrong with the arguments of the program, and how it is told. In a message the names and
values that it speaks of stand out by their looks. Where nothing is styled, all escape sequences are
taken out of the whole text, those of the looks and those that the arguments bring along. -/

set_option autoImplicit false

namespace Bundler.CommandLine

/-- Why arguments make no command. -/
inductive UsageError
  | unexpectedArgument (argument : String)
  | missingValue (flag : String)
  | invalidValue (value flag reason : String)
  | repeated (flag : String)
  | unneededValue (value flag : String)
  | unknownCommand (name : String)
  deriving DecidableEq, Repr

/-- How a part of a message looks. -/
inductive Look
  | usual
  | label
  /-- A name to be written as it stands. -/
  | literal
  /-- What is wrong. -/
  | wrong
  deriving DecidableEq, Repr

/-- A part of a message in its looks. -/
def Look.paint (look : Look) (text : String) : String :=
  let opening :=
    match look with
    | .usual => ""
    | .label => "\x1b[1m\x1b[31m"
    | .literal => "\x1b[1m"
    | .wrong => "\x1b[33m"
  if opening = "" then text else opening ++ text ++ "\x1b[0m"

namespace UsageError

/-- What is wrong, in parts. -/
def parts : UsageError → List (Look × String)
  | .unexpectedArgument argument =>
    [(.usual, "unexpected argument '"), (.wrong, argument), (.usual, "' found")]
  | .missingValue flag =>
    [(.usual, "a value is required for '"), (.wrong, flag), (.usual, "' but none was supplied")]
  | .invalidValue value flag reason =>
    [(.usual, "invalid value '"), (.wrong, value), (.usual, "' for '"), (.literal, flag),
      (.usual, "': " ++ reason)]
  | .repeated flag =>
    [(.usual, "the argument '"), (.wrong, flag), (.usual, "' cannot be used multiple times")]
  | .unneededValue value flag =>
    [(.usual, "unexpected value '"), (.wrong, value), (.usual, "' for '"), (.literal, flag),
      (.usual, "' found; no more were expected")]
  | .unknownCommand name =>
    [(.usual, "unrecognized subcommand '"), (.wrong, name), (.usual, "'")]

/-- The whole message, in parts: the label, what is wrong, and where help is. -/
def message (e : UsageError) : List (Look × String) :=
  (.label, "error:") :: (.usual, " ") :: e.parts
    ++ [(.usual, "\n\nFor more information, try '"), (.literal, "--help"), (.usual, "'.\n")]

/-- The message as it is printed. -/
def print (styled : Bool) (e : UsageError) : String :=
  let text := String.join (e.message.map fun (look, text) => look.paint text)
  if styled then text else Text.plain text

end UsageError

end Bundler.CommandLine
