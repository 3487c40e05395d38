import Bundler.Files.Tree
import Bundler.Json.Data
import Bundler.Path.Host
import Bundler.Resolve.Outcome

/-! # Packages

A directory with a file `package.json` is a package, and the file describes it. A file belongs to
the nearest package above it; among installed packages that is looked for from the directory of the
whole package upwards. -/

set_option autoImplicit false

namespace Bundler.Resolve

/-- The directory, beside a package, in which the packages that it needs are installed. -/
def installedIn : String := "node_modules"

/-- A package. -/
structure Package where
  directory : String
  description : Data

namespace Package

/-- The name of the package. -/
def name? (p : Package) : Option String := (p.description.get? "name").bind Data.text?

/-- The paths that fields of the description give, in the order of the fields. -/
def entryPaths (p : Package) (fields : List String) : List String :=
  fields.filterMap fun field => (p.description.get? field).bind Data.text?

/-- What the package offers to others, if the description says so. -/
def offers? (p : Package) : Option Data := p.description.get? "exports"

/-- The names that the package has for what it imports itself. -/
def ownNames? (p : Package) : Option (List (String × Data)) :=
  match p.description.get? "imports" with
  | some (.object members) => some members
  | _ => none

/-- The files and packages that are replaced in a browser. -/
def replaced (p : Package) : List (String × Data) :=
  ((p.description.get? "browser").map Data.members).getD []

end Package

/-! ## The package of a place -/

/-- A directory and those above it, from inside outwards. Those above one that is reached by a step
up are the directories on the way to it. -/
def ancestors (path : String) : List String :=
  let rec above : List String → List (List String)
    | [] => [[]]
    | segment :: rest => (segment :: rest) :: above rest
  (above ((FileTree.stackOf path).filter (· ≠ "."))).map FileTree.pathOf

/-- A text without the mark of the byte order in front of it. -/
def withoutMark (text : String) : String :=
  match text.toList with
  | '\ufeff' :: rest => String.ofList rest
  | _ => text

/-- The package that a directory is, if it is one. -/
def packageAt (tree : FileTree) (directory : String) : Except Failure (Option Package) :=
  match tree.node? (Path.Host.resolve directory "package.json") with
  | some (.file bytes) =>
    match (String.fromUTF8? bytes).bind fun text => Data.ofText? (withoutMark text) with
    | some description => .ok (some ⟨directory, description⟩)
    | none => .error .malformedPackage
  | _ => .ok none

/-- The first package among directories. -/
def firstPackage (tree : FileTree) : List String → Except Failure (Option Package)
  | [] => .ok none
  | directory :: rest => do
    match ← packageAt tree directory with
    | some package => return some package
    | none => firstPackage tree rest

/-- The nearest package above a place, or the place itself. -/
def nearestPackage (tree : FileTree) (path : String) : Except Failure (Option Package) :=
  firstPackage tree ((ancestors path).dropWhile fun place => !tree.isDirectory place)

/-- The directory of the installed package that a path leads into: below the last directory of
installed packages, with one segment or, in a scope, two. -/
def installedPackage? (path : String) : Option String :=
  let stack := FileTree.stackOf path
  let inside := stack.takeWhile (· ≠ installedIn)
  if inside.length = stack.length then none
  else
    let size := if inside.getLast?.any (·.startsWith "@") then 2 else 1
    some (FileTree.pathOf (stack.drop (inside.length - size)))

/-- Makes sure that the package that a file belongs to is described properly. -/
def checkPackage (tree : FileTree) (path : String) : Except Failure Unit := do
  match installedPackage? path with
  | some directory => if tree.isDirectory directory then discard (nearestPackage tree directory)
  | none => discard (nearestPackage tree path)

end Bundler.Resolve
