/-! # Path texts

Paths that always use `/`, worked on as texts alone: `normalize` removes what a walk along the path
would undo, `resolve` makes a path absolute against a directory, and `dirname` is the directory part
as it is written. -/

set_option autoImplicit false

namespace Bundler.Path

/-- Whether the characters begin at the root. -/
def isAbsoluteChars : List Char → Bool
  | '/' :: _ => true
  | _ => false

/-- Whether a path begins at the root. -/
def isAbsolute (path : String) : Bool := isAbsoluteChars path.toList

/-- Takes one segment onto a stack of segments, the innermost first. An empty segment and `.` do
nothing. `..` takes back the segment before it; where there is none, it is lost at the root and kept
in a relative path. -/
def pushSegment (absolute : Bool) (stack : List (List Char)) (segment : List Char) :
    List (List Char) :=
  if segment = [] ∨ segment = ['.'] then stack
  else if segment = ['.', '.'] then
    match stack with
    | top :: below =>
      if top = ['.', '.'] then (if absolute then stack else segment :: stack) else below
    | [] => if absolute then [] else [segment]
  else segment :: stack

/-- The segments of a path, joined with single slashes. -/
def joinSegments (segments : List (List Char)) : List Char := ['/'].intercalate segments

/-- The normal form of a path given by its characters. -/
def normalizeChars (path : List Char) : List Char :=
  let absolute := isAbsoluteChars path
  let stack := (path.splitOn '/').foldl (pushSegment absolute) []
  let body := joinSegments stack.reverse
  if absolute then '/' :: body else if body = [] then ['.'] else body

/-- The normal form of a path: no empty segment, no `.`, `..` only at the front of a relative path,
and `.` for the path that leads nowhere. -/
def normalize (path : String) : String := String.ofList (normalizeChars path.toList)

/-- The characters of a path taken from a directory. -/
def resolveChars (path cwd : List Char) : List Char :=
  if isAbsoluteChars path then normalizeChars path else normalizeChars (cwd ++ '/' :: path)

/-- The normal form of a path, a relative one being taken from the directory `cwd`. -/
def resolve (path cwd : String) : String :=
  String.ofList (resolveChars path.toList cwd.toList)

/-- The characters before the last segment, without the slash between. -/
def dirnameChars (path : List Char) : List Char :=
  if path = [] then ['.']
  else
    let trimmed := path.reverse.dropWhile (· == '/')
    if trimmed = [] then ['/']
    else
      match trimmed.dropWhile (· != '/') with
      | [] => ['.']
      | [_] => ['/']
      | _ :: before => before.reverse

/-- The directory part of a path. Slashes at the end do not count. -/
def dirname (path : String) : String := String.ofList (dirnameChars path.toList)

end Bundler.Path
