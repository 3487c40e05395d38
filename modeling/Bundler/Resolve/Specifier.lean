import Bundler.Text.Bytes

/-! # Specifiers

What an import names its module by. A question mark begins a query and a hash sign a fragment, which
are no part of the path; the first character may be a hash sign of its own, and a NUL before a hash
sign takes its meaning away, which makes the path be read byte by byte. A specifier that names no
file names a package and a place in it. -/

set_option autoImplicit false

namespace Bundler

/-- What an import names its module by. -/
structure Specifier where
  path : String
  /-- Begins with a question mark. -/
  query : Option String := none
  /-- Begins with a hash sign. -/
  fragment : Option String := none
  deriving DecidableEq, Repr

namespace Specifier

/-- The characters before the first hash sign that does not follow a NUL, and those from there.
The first argument is the character in front of the text. -/
def splitFragment : Char → List Char → List Char × List Char
  | _, [] => ([], [])
  | before, c :: rest =>
    if c = '#' ∧ before ≠ '\x00' then ([], c :: rest)
    else
      let (front, fragment) := splitFragment c rest
      (c :: front, fragment)

/-- Whether a NUL stands before a hash sign. -/
def hasEscape : List Char → Bool
  | '\x00' :: '#' :: _ => true
  | _ :: rest => hasEscape rest
  | [] => false

/-- Leaves out the NULs that stand before hash signs. -/
def unescape : List Char → List Char
  | '\x00' :: '#' :: rest => '#' :: unescape rest
  | c :: rest => c :: unescape rest
  | [] => []

/-- One character for each byte of a text. -/
def byteChars (cs : List Char) : List Char :=
  (String.ofList cs).toUTF8.toList.map fun byte => Char.ofNat byte.toNat

/-- A text, or nothing if it is empty. -/
def part? (cs : List Char) : Option String := if cs = [] then none else some (String.ofList cs)

/-- Reads a specifier. There is none without a path. -/
def parse? (text : String) : Option Specifier :=
  match text.toList with
  | [] => none
  | first :: rest =>
    let (lead, body) := if first ∈ ['/', '.', '#'] then ([first], rest) else ([], first :: rest)
    let (front, fragment) := splitFragment first body
    let written := lead ++ front.takeWhile (· ≠ '?')
    let path := if hasEscape front then unescape (byteChars written) else written
    if path = [] then none
    else some ⟨String.ofList path, part? (front.dropWhile (· ≠ '?')), part? fragment⟩

end Specifier

/-! ## Packages by name -/

/-- The name of the package that a specifier is in, and the place in the package: nothing, or a path
that begins with a slash. The name of a package in a scope has two segments. -/
def splitPackage (specifier : String) : String × String :=
  let cs := specifier.toList
  let segment := cs.takeWhile (· ≠ '/')
  let rest := cs.dropWhile (· ≠ '/')
  let (name, place) :=
    match segment, rest with
    | '@' :: _, slash :: rest =>
      (segment ++ slash :: rest.takeWhile (· ≠ '/'), rest.dropWhile (· ≠ '/'))
    | segment, rest => (segment, rest)
  (String.ofList name, String.ofList place)

/-- A specifier in which each step up takes back the segment before it. Steps up without one are
kept. -/
def withoutDetours (specifier : String) : String :=
  let step : List (List Char) → List Char → List (List Char) := fun stack segment =>
    if segment = ['.'] then stack
    else if segment = ['.', '.'] ∧ stack ≠ [] ∧ stack.head? ≠ some ['.', '.'] then stack.tail
    else segment :: stack
  let stack := (specifier.toList.splitOn '/').foldl step []
  String.ofList (['/'].intercalate stack.reverse)

end Bundler
