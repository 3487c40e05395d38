import Bundler.Files.Tree
import Bundler.Path.Host

/-! # File systems

What checking and engines need of a file system: the absolute form of a path, the directory that a
path lies in, and the text of a file. A file system is a value, so a run is a function of it. There
are two kinds: one in memory, over a list of files, and the host's, over a tree of files, a
directory from which paths are taken and one from which files are read. -/

set_option autoImplicit false

namespace Bundler

/-- The file system as a run sees it. -/
structure FileSystem where
  /-- The absolute form of a path, unless it has none. -/
  abs : String → Option String
  /-- The directory that a path lies in. -/
  dir : String → String
  /-- The text of a file. -/
  read : String → Option String

namespace FileSystem

/-- The file system in memory that holds the given files, the last of those at one place. All
paths are taken from `/`. -/
def memory (files : List (String × String)) : FileSystem :=
  let placed := Dictionary.ofList <|
    files.map fun (path, contents) => (Path.resolve path "/", contents)
  { abs := fun path => some (Path.resolve path "/")
    dir := Path.dirname
    read := fun path => placed.get? (Path.resolve path "/") }

/-- The file system of the host, over a tree of files. Absolute forms are taken from the directory
`cwd`, if there is one, and files are read by a process that works in the directory `here`. The
directory of the root and of the empty path is the path itself. -/
def host (tree : FileTree) (cwd : Option Path.Host.Directory) (here : String := "/") :
    FileSystem where
  abs := Path.Host.absolute cwd
  dir := fun path => (Path.Host.parent? path).getD path
  read := tree.readText? here

end FileSystem

end Bundler
