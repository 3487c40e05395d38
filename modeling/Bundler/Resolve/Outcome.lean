import Bundler.Resolve.Specifier

/-! # Outcomes of a search

A search for the file of an import has a file, or has nothing so that the next place is looked at,
or fails, which ends the whole search. What a search carries along on its way (`Trail`) stays when
it fails, so that whoever goes on after a failure goes on with it. -/

set_option autoImplicit false

namespace Bundler.Resolve

/-- Why a search ends without a file. -/
inductive Failure
  /-- There is no path to look for. -/
  | emptySpecifier
  /-- There is no file where it has to be. -/
  | notFound
  /-- The description of a package is not JSON. -/
  | malformedPackage
  /-- The keys of a table are of two kinds. -/
  | mixedKeys
  /-- A table leads out of the package. -/
  | invalidTarget
  /-- The package does not offer the place. -/
  | notOffered
  /-- The package replaces the file by nothing. -/
  | ignored
  /-- The search leads back to itself. -/
  | endless
  deriving DecidableEq, Repr

/-- What a search carries along. -/
structure Trail where
  /-- The query of the last specifier that has one. -/
  query : Option String := none
  /-- The fragment of the last specifier that has one. -/
  fragment : Option String := none
  /-- What the search began anew with, if a file or a name has been replaced. -/
  replacement : Option String := none
  /-- How often the search has begun. -/
  begun : Nat := 0
  deriving DecidableEq, Repr

/-- The trail with the query and the fragment that a specifier has. -/
def Trail.carry (t : Trail) (s : Specifier) : Trail :=
  { t with query := s.query <|> t.query, fragment := s.fragment <|> t.fragment }

/-- A part of a search. -/
abbrev Seek := ExceptT Failure (StateM Trail)

/-- What a search has found so far: the absolute path of a file, nothing, or a failure. -/
abbrev Outcome := Seek (Option String)

/-- What a search finds, with a failure as something found. -/
def attempt (o : Outcome) : Seek (Except Failure (Option String)) := ExceptT.lift o.run

/-- The outcome, or where nothing was found that of the next place. -/
def Outcome.orTry (o : Outcome) (next : Unit → Outcome) : Outcome := do
  match ← o with
  | some path => return some path
  | none => next ()

/-- The outcome, or a failure where nothing was found. -/
def Outcome.orFail (o : Outcome) (failure : Failure) : Outcome := o.orTry fun _ => throw failure

/-- Looks at one place after the other until there is a file or a failure. -/
def firstOf {α : Type} (look : α → Outcome) : List α → Outcome
  | [] => return none
  | place :: rest => (look place).orTry fun _ => firstOf look rest

end Bundler.Resolve
