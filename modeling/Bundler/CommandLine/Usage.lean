import Bundler.CommandLine.UsageError

/-! # Reading arguments by a table of flags

A flag is written with two hyphens. Its value is the next argument, unless that begins with a hyphen
and has something behind it, or the value stands behind an equals sign. Two hyphens alone end the
flags. What is no flag and no value of one is an operand, and a command may take operands or not.

A value is looked at when the next flag or operand that is known has been met, or at the end. So a
flag that nobody knows is reported before a bad value right in front of it. -/

set_option autoImplicit false

namespace Bundler.CommandLine

/-- Why reading stops before there is a command. -/
inductive Stop
  | wrong (error : UsageError)
  /-- There is no command. -/
  | noCommand
  | help
  | version
  deriving DecidableEq, Repr

/-- What is read, or why reading stops. -/
abbrev Usage := Except Stop

/-! ## Flags -/

/-- What a flag takes. -/
inductive Takes
  | nothing
  | value
  /-- A value each time that the flag is given. -/
  | values
  /-- A value, or without one what is given here. -/
  | optional (value : String)
  deriving DecidableEq, Repr

/-- Why a value is not taken. -/
inductive BadValue
  /-- The value counts as none. -/
  | missing
  | invalid (reason : String)
  deriving DecidableEq, Repr

/-- A flag that changes a record `σ`. -/
structure Flag (σ : Type) where
  name : String
  /-- What the value is called. -/
  label : String
  takes : Takes
  /-- What the value does to the record. -/
  read : String → Except BadValue (σ → σ)

namespace Flag

variable {σ : Type}

/-- A switch. -/
def switch (name : String) (turn : σ → σ) : Flag σ := ⟨name, "", .nothing, fun _ => .ok turn⟩

/-- A flag with a text. -/
def text (name label : String) (put : String → σ → σ) : Flag σ :=
  ⟨name, label, .value, fun value => .ok (put value)⟩

/-- A flag of a part of a record, as a flag of the record. -/
def within {τ : Type} (update : (τ → τ) → σ → σ) (f : Flag τ) : Flag σ :=
  ⟨f.name, f.label, f.takes, fun value => (f.read value).map update⟩

/-- The flag as messages show it. -/
def shown (f : Flag σ) : String :=
  "--" ++ f.name ++
    match f.takes with
    | .nothing => ""
    | .optional _ => " [<" ++ f.label ++ ">]"
    | _ => " <" ++ f.label ++ ">"

end Flag

/-! ## Reading -/

/-- A command: its flags, and what an operand does if there may be any. -/
structure Grammar (σ : Type) where
  flags : List (Flag σ)
  operand : Option (String → σ → σ)

/-- What has been read of a command. -/
structure Reading (σ : Type) where
  record : σ
  /-- The names of the flags that have been given. -/
  given : List String := []
  /-- The last flag, as long as its value has not been looked at. -/
  last : Option (Flag σ × Option String) := none
  /-- Whether only operands follow. -/
  ended : Bool := false

namespace Reading

variable {σ : Type}

/-- Looks at a flag with its value: first whether there is one, then whether the flag has been given
before, and last what the value says. -/
def take (r : Reading σ) (f : Flag σ) (value? : Option String) : Usage (Reading σ) := do
  let value ←
    match f.takes, value? with
    | .nothing, _ => pure ""
    | _, some value => pure value
    | .optional value, none => pure value
    | _, none => throw (.wrong (.missingValue f.shown))
  if f.name ∈ r.given ∧ f.takes ≠ .values then throw (.wrong (.repeated f.shown))
  match f.read value with
  | .ok change => return { r with record := change r.record, given := f.name :: r.given }
  | .error .missing => throw (.wrong (.missingValue f.shown))
  | .error (.invalid reason) => throw (.wrong (.invalidValue value f.shown reason))

/-- Looks at the last flag. -/
def settle (r : Reading σ) : Usage (Reading σ) :=
  match r.last with
  | none => .ok r
  | some (f, value?) => { r with last := none }.take f value?

/-- Reads an operand. -/
def readOperand (g : Grammar σ) (r : Reading σ) (argument : String) : Usage (Reading σ) := do
  match g.operand with
  | none => throw (.wrong (.unexpectedArgument argument))
  | some put =>
    let r ← r.settle
    return { r with record := put argument r.record }

/-- Stops for the help, which takes no value. -/
def stopForHelp (r : Reading σ) (attached? : Option String) : Usage (Reading σ) := do
  match attached? with
  | some value => throw (.wrong (.unneededValue value "--help"))
  | none =>
    discard r.settle
    throw .help

/-- Reads a flag by its name, with the value behind the equals sign if there is one. -/
def readFlag (g : Grammar σ) (r : Reading σ) (name : String) (attached? : Option String) :
    Usage (Reading σ) := do
  match g.flags.find? fun f => f.name == name with
  | none =>
    if name = "help" then r.stopForHelp attached?
    else throw (.wrong (.unexpectedArgument ("--" ++ name)))
  | some f =>
    match f.takes, attached? with
    | .nothing, some value => throw (.wrong (.unneededValue value f.shown))
    | .nothing, none => (← r.settle).take f none
    | _, some value => (← r.settle).take f (some value)
    | _, none => return { ← r.settle with last := some (f, none) }

/-- The name of a flag and the value behind the equals sign. -/
def splitFlag (cs : List Char) : String × Option String :=
  (String.ofList (cs.takeWhile (· ≠ '=')),
    match cs.dropWhile (· ≠ '=') with
    | [] => none
    | _ :: value => some (String.ofList value))

/-- Reads one argument. -/
def step (g : Grammar σ) (r : Reading σ) (argument : String) : Usage (Reading σ) :=
  if r.ended then r.readOperand g argument
  else
    match argument.toList with
    | ['-', '-'] => .ok { r with ended := true }
    | '-' :: '-' :: cs =>
      let (name, attached?) := splitFlag cs
      r.readFlag g name attached?
    | '-' :: c :: _ =>
      if c = 'h' then r.stopForHelp none
      else .error (.wrong (.unexpectedArgument (String.ofList ['-', c])))
    | _ =>
      match r.last with
      | some (f, none) => .ok { r with last := some (f, some argument) }
      | _ => r.readOperand g argument

end Reading

/-- The record that arguments give, beginning with one that is given. -/
def Grammar.read {σ : Type} (g : Grammar σ) (record : σ) (arguments : List String) : Usage σ := do
  let r ← arguments.foldlM (Reading.step g) { record }
  return (← r.settle).record

end Bundler.CommandLine
