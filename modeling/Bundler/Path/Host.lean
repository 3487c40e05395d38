import Bundler.Path.Posix

/-! # Paths of the host

How the host reads a path: as components, among which repeated slashes and `.` do not count, save
for a `.` that a relative path begins with. `absolute` walks over the components of a path from the
working directory, which has a text for its path only if each name on the way to it is one;
`parent?`, `fileName?` and `fileStem?` look at the last component and leave the text before it as it
was written. -/

set_option autoImplicit false

namespace Bundler.Path.Host

/-- One step of a path. -/
inductive Component (ν : Type)
  | root
  | here
  | up
  | name (segment : ν)
  deriving DecidableEq, Repr

/-- The step with another kind of names. -/
def Component.map {ν μ : Type} (f : ν → μ) : Component ν → Component μ
  | .root => .root
  | .here => .here
  | .up => .up
  | .name segment => .name (f segment)

/-- The step that a segment stands for, if any. -/
def component? (segment : List Char) : Option (Component (List Char)) :=
  if segment = [] ∨ segment = ['.'] then none
  else if segment = ['.', '.'] then some .up
  else some (.name segment)

/-- What stands before the body of a path: the root's slash, or the `.` at the front of a relative
path, which is a component of its own. -/
def splitLead : List Char → List Char × List Char
  | '/' :: rest => (['/'], rest)
  | ['.'] => (['.'], [])
  | '.' :: '/' :: rest => (['.'], '/' :: rest)
  | path => ([], path)

/-- The components of a path, from front to back. -/
def components (path : List Char) : List (Component (List Char)) :=
  let (lead, body) := splitLead path
  (match lead with
    | ['/'] => [.root]
    | ['.'] => [.here]
    | _ => [])
  ++ (body.splitOn '/').filterMap component?

/-! ## Absolute forms -/

/-- A path with neither `.` nor `..`: whether it begins at the root, and its segments from the
innermost outwards. -/
structure Walked (ν : Type) where
  rooted : Bool
  inner : List ν
  deriving DecidableEq, Repr

namespace Walked

variable {ν μ : Type}

/-- The walk that has not begun. -/
def start : Walked ν := ⟨false, []⟩

/-- Takes one step. A step up from the root or from nothing stays there. -/
def step (w : Walked ν) : Component ν → Walked ν
  | .root => ⟨true, []⟩
  | .here => w
  | .up => { w with inner := w.inner.tail }
  | .name segment => { w with inner := segment :: w.inner }

/-- The walk with another kind of names. -/
def map (f : ν → μ) (w : Walked ν) : Walked μ := ⟨w.rooted, w.inner.map f⟩

theorem step_map (f : ν → μ) (w : Walked ν) (c : Component ν) :
    (w.map f).step (c.map f) = (w.step c).map f := by
  cases c with
  | up => simp [step, map, Component.map]
  | _ => rfl

theorem foldl_step_map (f : ν → μ) (w : Walked ν) (steps : List (Component ν)) :
    (steps.map (Component.map f)).foldl step (w.map f) = (steps.foldl step w).map f := by
  induction steps generalizing w with
  | nil => rfl
  | cons c steps ih => rw [List.map_cons, List.foldl_cons, step_map, ih, List.foldl_cons]

/-- The path that has been walked. -/
def toChars (w : Walked (List Char)) : List Char :=
  (if w.rooted then ['/'] else []) ++ joinSegments w.inner.reverse

end Walked

/-- A directory of the host, as a walk has come to it. Names of the host need not be texts, and
`none` stands for those that are not. -/
abbrev Directory := Walked (Option (List Char))

namespace Directory

/-- The directory whose path is a text. -/
def ofText (path : String) : Directory :=
  ((components path.toList).foldl Walked.step .start).map some

instance : Coe String Directory := ⟨ofText⟩

/-- The path of a directory, if it is a text. -/
def text? (d : Directory) : Option String :=
  (d.inner.mapM id).map fun names => String.ofList (Walked.toChars ⟨d.rooted, names⟩)

end Directory

/-- One path put behind another: the second stands alone when it is absolute. -/
def join (front back : List Char) : List Char :=
  if isAbsoluteChars back then back
  else
    match front.getLast? with
    | none => back
    | some '/' => front ++ back
    | some _ => front ++ '/' :: back

/-- Where a path leads from the directory `cwd`, worked out on the texts alone. -/
def resolve (cwd path : String) : String :=
  let walked := (components (join cwd.toList path.toList)).foldl Walked.step .start
  String.ofList walked.toChars

/-- The absolute form of a path that is taken from the directory `cwd`, if there is one. A path with
a NUL in it has none, and neither has a path to a place whose path is no text. -/
def absolute (cwd : Option Directory) (path : String) : Option String :=
  if '\x00' ∈ path.toList then none
  else
    let steps := (components path.toList).map (Component.map some)
    (if isAbsolute path then some .start else cwd).bind fun front =>
      Directory.text? (steps.foldl Walked.step front)

/-! ## The last component -/

/-- Whether a segment stands for no step. -/
def isIdle (segment : List Char) : Bool := (component? segment).isNone

/-- The segments of a body from back to front, from the last one that stands for a step. -/
def trailing (body : List Char) : List (List Char) :=
  ((body.splitOn '/').reverse).dropWhile isIdle

/-- The path without its last component, in its own spelling. The root and the empty path have
none. -/
def parent? (path : String) : Option String :=
  let (lead, body) := splitLead path.toList
  match trailing body with
  | _ :: before => some (String.ofList (lead ++ joinSegments (before.dropWhile isIdle).reverse))
  | [] => if lead = ['.'] then some "" else none

/-- The last component when it is a name. -/
def fileName? (path : String) : Option (List Char) :=
  match trailing (splitLead path.toList).2 with
  | last :: _ => if last = ['.', '.'] then none else some last
  | [] => none

/-- A file name up to its last dot. A dot at the front does not count. -/
def stemOf (name : List Char) : List Char :=
  match name.reverse.dropWhile (· != '.') with
  | [] => name
  | _ :: before => if before = [] then name else before.reverse

/-- The name of the file that a path leads to, without its extension. -/
def fileStem? (path : String) : Option String :=
  (fileName? path).map fun name => String.ofList (stemOf name)

end Bundler.Path.Host
