import Bundler.CommandLine.Run

/-! # The program

Shows `CommandLine.run` the surroundings, and carries out what it gives back. Of the files, those in
and below the working directory are seen. -/

set_option autoImplicit false

namespace Bundler.CommandLine

/-- The files in and below the working directory. -/
def seenFiles : IO FileTree := do
  let here ← IO.currentDir
  let mut entries : List (String × Option ByteArray) := [(here.toString, none)]
  for path in ← here.walkDir do
    if ← path.isDir then entries := (path.toString, none) :: entries
    else
      try
        let contents ← IO.FS.readBinFile path
        entries := (path.toString, some contents) :: entries
      catch _ => pure ()
  return FileTree.bare.addAll entries

/-- Whether printed text can be styled: what the environment asks for counts over whether standard
output is a terminal. -/
def stylesPossible : IO Bool := do
  if (← IO.getEnv "CLICOLOR_FORCE").any (· ≠ "0") then return true
  if (← IO.getEnv "NO_COLOR").isSome then return false
  if (← IO.getEnv "CLICOLOR") = some "0" then return false
  (← IO.getStdout).isTty

/-- What the program can see. Standard input is read only for a transform. -/
def surroundings (arguments : List String) : IO Surroundings := do
  let stdin ←
    match Command.read arguments with
    | .ok (.transform _) => (← IO.getStdin).readBinToEnd
    | _ => pure .empty
  return {
    cwd := (← IO.currentDir).toString
    files := ← seenFiles
    stdin
    styles := ← stylesPossible
    terminal := ← (← IO.getStderr).isTty }

/-- Prints what the program prints, and writes what it writes. -/
def carryOut (before : FileTree) (exit : Exit) : IO UInt32 := do
  for (path, contents) in exit.files.filesBeside before do
    if let some directory := Path.Host.parent? path then IO.FS.createDirAll directory
    IO.FS.writeBinFile path contents
  let stdout ← IO.getStdout
  stdout.write exit.stdout
  stdout.flush
  IO.eprint exit.stderr
  if exit.reported then IO.eprintln "Error: the files could not be read or written"
  return exit.code.toUInt32

end Bundler.CommandLine

/-- Runs the program. -/
def main (arguments : List String) : IO UInt32 := do
  let seen ← Bundler.CommandLine.surroundings arguments
  Bundler.CommandLine.carryOut seen.files (Bundler.CommandLine.run seen arguments)
