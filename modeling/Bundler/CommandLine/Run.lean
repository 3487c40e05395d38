import Bundler.CommandLine.Command
import Bundler.Engine.Transpile
import Bundler.Resolve.Search
import Bundler.Run.Transform
import Bundler.Script.Language

/-! # Running the program

What the program does with its arguments, as a function of what it can see (`Surroundings`): it
gives the texts that it prints, its exit code and the files that are there afterwards.

A build without an output path prints its one file. With one it writes its files and says so. A
transform prints its code. With errors nothing is written. -/

set_option autoImplicit false

namespace Bundler.CommandLine

/-- What the program can see, the display being standard error. -/
structure Surroundings extends Display where
  /-- The working directory. -/
  cwd : String
  files : FileTree
  stdin : ByteArray

/-- How the program ends. -/
structure Exit where
  code : Nat := 0
  stdout : ByteArray := .empty
  stderr : String := ""
  /-- Whether a failure outside the library is reported at the end. -/
  reported : Bool := false
  files : FileTree

/-- The name of the program with its version. -/
def versionText : String := "viper-bundle 0.1.0"

/-- What the program is for. -/
def aboutText : String := "Validate options and drive a JavaScript/TypeScript bundler"

/-- The first line of a text, without the carriage return that may belong to its end. -/
def firstLine (text : String) : String :=
  let line := text.toList.takeWhile (· ≠ '\n')
  String.ofList (if line.getLast? = some '\r' then line.dropLast else line)

/-- The end of a program that is asked for no command. Of what is wrong only the first line is
told. -/
def Stop.exit (files : FileTree) (styled : Bool) : Stop → Exit
  | .wrong error => { code := 2, stderr := firstLine (error.print styled), files }
  | .noCommand => { code := 2, stderr := aboutText, files }
  | .help => { stdout := (aboutText ++ "\n").toUTF8, files }
  | .version => { stdout := (versionText ++ "\n").toUTF8, files }

/-- The end of a program that fails outside the library. -/
def failed (printed : String) (files : FileTree) : Exit :=
  { code := 1, stderr := printed, reported := true, files }

/-! ## Commands -/

/-- The options that the flags give over those of the configuration file, if one is named. -/
def readOptions {σ : Type} [Configurable σ] (s : Surroundings) (config : Option String)
    (apply : σ → σ) : Except ConfigError σ :=
  match config with
  | none => .ok (apply Configurable.defaults)
  | some path => (loadConfig (s.files.read s.cwd path).toOption).map apply

/-- The line that says that a file has been written. -/
def wroteLine (styles : Bool) (file : OutputFile) : String :=
  Style.success.paint styles "Wrote" ++ " " ++ file.path ++ " ("
    ++ toString file.contents.size ++ " bytes)\n"

/-- Writes files one after the other, up to the first that cannot be written. Gives what is told
about it, whether all are written, and the files that are there then. -/
def writeAll (tell : OutputFile → String) (tree : FileTree) :
    List OutputFile → String × Bool × FileTree
  | [] => ("", true, tree)
  | file :: rest =>
    match tree.write (FileTree.stackOf file.path) file.contents with
    | .error _ => ("", false, tree)
    | .ok tree =>
      let (told, all, tree) := writeAll tell tree rest
      (tell file ++ told, all, tree)

/-- Builds, and prints or writes the output files. -/
def runBuild (engine : Engine) (s : Surroundings) (o : BuildOptions) : Exit :=
  let run := build o (.host s.files s.cwd s.cwd) engine s.toDisplay
  if run.result.errors ≠ [] then { code := 1, stderr := run.printed, files := s.files }
  else if o.outfile = "" ∧ o.outdir = "" then
    { stdout := run.result.outputs.foldl (fun bytes file => bytes ++ file.contents) .empty
      stderr := run.printed
      files := s.files }
  else
    let tell := if o.logLevel = .info then wroteLine s.styles else fun _ => ""
    let (told, all, files) := writeAll tell s.files run.result.outputs
    if all then { stderr := run.printed ++ told, files }
    else failed (run.printed ++ told) files

/-- Transforms standard input, prints the code, and writes the source map beside the file that the
text is said to come from. -/
def runTransform (engine : Engine) (s : Surroundings) (o : TransformOptions) : Exit :=
  match String.fromUTF8? s.stdin with
  | none => failed "" s.files
  | some input =>
    let run := transform o input engine s.toDisplay
    if run.result.errors ≠ [] then { code := 1, stderr := run.printed, files := s.files }
    else
      let done : Exit := { stdout := run.result.js, stderr := run.printed, files := s.files }
      if run.result.sourceMap.isEmpty ∨ o.sourcefile = "" then done
      else
        let place := FileTree.stackOf (Path.Host.resolve s.cwd (o.sourcefile ++ ".map"))
        match s.files.write place run.result.sourceMap with
        | .ok files => { done with files }
        | .error _ => { done with code := 1, reported := true }

/-- Carries out a command. -/
def Command.run (engine : Engine) (s : Surroundings) : Command → Exit
  | .build flags =>
    match readOptions s flags.config flags.apply with
    | .ok o => runBuild engine s o
    | .error _ => failed "" s.files
  | .transform flags =>
    match readOptions s flags.config flags.apply with
    | .ok o => runTransform engine s o
    | .error _ => failed "" s.files

/-- The engine of the program: it transpiles scripts, and finds files in a tree. -/
def engineOver (tree : FileTree) : Engine := transpileEngine scriptLanguage (Resolve.findIn tree)

/-- Runs the program. -/
def run (s : Surroundings) (arguments : List String) : Exit :=
  match Command.read arguments with
  | .ok command => command.run (engineOver s.files) s
  | .error stop => stop.exit s.files s.styles

end Bundler.CommandLine
