import Bundler.Path.Posix
import Bundler.Text.Dictionary

/-! # Trees of files

A snapshot of the files that a run can see. Every file and directory is held under its normal
absolute path; the root is always a directory. `walk` follows a path through the tree as a host
does: each segment but the last has to name a directory, and a slash at the end asks for one. -/

set_option autoImplicit false

namespace Bundler

/-- What is at a place in a tree. -/
inductive FileNode
  | file (contents : ByteArray)
  | directory
  /-- A device that takes what is written and gives nothing when it is read. -/
  | sink

/-- A tree of files. -/
structure FileTree where
  /-- Files and directories under their normal absolute paths. -/
  nodes : Dictionary FileNode

namespace FileTree

/-- The tree in which there is only the root. -/
def empty : FileTree := ⟨∅⟩

/-- The tree of a host that holds nothing but the device that swallows what is written to it. -/
def bare : FileTree := ⟨.ofList [("/dev", .directory), ("/dev/null", .sink)]⟩

/-- A stack of segments, the innermost first, as an absolute path. -/
def pathOf (stack : List String) : String := "/" ++ "/".intercalate stack.reverse

/-- What is at a place given by a stack of segments. -/
def nodeAt? (tree : FileTree) (stack : List String) : Option FileNode :=
  if stack.isEmpty then some .directory else tree.nodes.get? (pathOf stack)

/-! ## Walking -/

/-- Why a path leads nowhere. -/
inductive WalkError
  | missing
  | notDirectory
  | isDirectory
  | badName
  /-- No host gives so long a name to a file. -/
  | longName
  deriving DecidableEq, Repr

/-- Follows segments from a directory given by its stack. The last segment may name nothing, which
is for the caller to judge. -/
def walkFrom (tree : FileTree) (stack : List String) :
    List String → Except WalkError (List String)
  | [] => .ok stack
  | segment :: rest =>
    match tree.nodeAt? stack with
    | none => .error .missing
    | some .directory =>
      if segment == "" || segment == "." then walkFrom tree stack rest
      else if segment == ".." then walkFrom tree stack.tail rest
      else walkFrom tree (segment :: stack) rest
    | some _ => .error .notDirectory

/-- Follows an absolute path, or a relative one from the directory `cwd`, to the stack of the place
that it names. The empty path names nothing. -/
def walk (tree : FileTree) (cwd path : String) : Except WalkError (List String) :=
  if path == "" then .error .missing
  else if '\x00' ∈ path.toList then .error .badName
  else
    let full := if Path.isAbsolute path then path else cwd ++ "/" ++ path
    walkFrom tree [] ((full.toList.splitOn '/').map String.ofList)

/-- What an absolute path leads to. -/
def node? (tree : FileTree) (path : String) : Option FileNode :=
  match tree.walk "/" path with
  | .ok stack => tree.nodeAt? stack
  | .error _ => none

/-- Whether an absolute path leads to a file. -/
def isFile (tree : FileTree) (path : String) : Bool :=
  match tree.node? path with
  | some (.file _) => true
  | _ => false

/-- Whether an absolute path leads to a directory. -/
def isDirectory (tree : FileTree) (path : String) : Bool :=
  match tree.node? path with
  | some .directory => true
  | _ => false

/-! ## Reading and writing -/

/-- The contents of the file that a path leads to. -/
def read (tree : FileTree) (cwd path : String) : Except WalkError ByteArray := do
  let stack ← tree.walk cwd path
  match tree.nodeAt? stack with
  | none => .error .missing
  | some .directory => .error .isDirectory
  | some (.file contents) => .ok contents
  | some .sink => .ok .empty

/-- The text of the file that a path leads to, if it is a file and its bytes are valid UTF-8. -/
def readText? (tree : FileTree) (cwd path : String) : Option String :=
  match tree.read cwd path with
  | .ok contents => String.fromUTF8? contents
  | .error _ => none

/-- Makes the place given by a stack a directory, with all directories above it. -/
def makeDirectories (tree : FileTree) : List String → Except WalkError FileTree
  | [] => .ok tree
  | segment :: above => do
    let tree ← tree.makeDirectories above
    match tree.nodeAt? (segment :: above) with
    | some .directory => .ok tree
    | some _ => .error .notDirectory
    | none => .ok ⟨tree.nodes.insert (pathOf (segment :: above)) .directory⟩

/-- Whether a host has names for the place given by a stack: 255 bytes are enough for each segment,
and 4095 for the path. -/
def isNameable (stack : List String) : Bool :=
  stack.all (·.utf8ByteSize ≤ 255) && (pathOf stack).utf8ByteSize ≤ 4095

/-- Writes a file at the normal absolute path given by a stack, making the directories above it. -/
def write (tree : FileTree) (stack : List String) (contents : ByteArray) :
    Except WalkError FileTree := do
  match stack with
  | [] => .error .isDirectory
  | segment :: above =>
    if !isNameable (segment :: above) then throw .longName
    let tree ← tree.makeDirectories above
    match tree.nodeAt? (segment :: above) with
    | some .directory => .error .isDirectory
    | some .sink => .ok tree
    | _ => .ok ⟨tree.nodes.insert (pathOf (segment :: above)) (.file contents)⟩

/-- The segments of an absolute path, the innermost first. -/
def stackOf (path : String) : List String :=
  ((path.toList.splitOn '/').filter (· ≠ [])).reverse.map String.ofList

/-- Adds files and, where there are no contents, directories under absolute paths. An entry that
does not fit to those before it is left out. -/
def addAll (tree : FileTree) (entries : List (String × Option ByteArray)) : FileTree :=
  entries.foldl (fun tree (path, contents?) =>
    let result :=
      match contents? with
      | some contents => tree.write (stackOf path) contents
      | none => tree.makeDirectories (stackOf path)
    match result with
    | .ok tree => tree
    | .error _ => tree) tree

/-- The files of a tree that another one does not have, or has with other contents. -/
def filesBeside (tree other : FileTree) : List (String × ByteArray) :=
  tree.nodes.entries.filterMap fun (path, node) =>
    match node, other.nodes.get? path with
    | .file contents, some (.file old) =>
      if contents.data = old.data then none else some (path, contents)
    | .file contents, _ => some (path, contents)
    | _, _ => none

end FileTree

end Bundler
