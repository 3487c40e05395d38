import Bundler.CommandLine.Flags
import Bundler.CommandLine.Usage
import Bundler.Options.Config

/-! # Commands

The two commands of the program and the tables of their flags. -/

set_option autoImplicit false

namespace Bundler.CommandLine

/-! ## Values -/

/-- A flag whose value is written by name. -/
def Flag.choice {σ α : Type} [Choice α] (name label : String) (put : α → σ → σ) : Flag σ :=
  ⟨name, label, .value, fun text =>
    match Choice.parse text with
    | .ok a => .ok (put a)
    | .error e => .error (.invalid e.message)⟩

/-- Reads the digits of a number of 64 bits behind the number that is given. -/
def readDigits : Nat → List Char → Except BadValue Nat
  | n, [] => .ok n
  | n, c :: cs =>
    if !c.isDigit then .error (.invalid "invalid digit found in string")
    else
      let n := n * 10 + (c.toNat - '0'.toNat)
      if n < UInt64.size then readDigits n cs
      else .error (.invalid "number too large to fit in target type")

/-- Reads a number of 64 bits, which may have a plus sign in front. -/
def readNumber (text : String) : Except BadValue Nat :=
  match text.toList with
  | [] => .error (.invalid "cannot parse integer from empty string")
  | '+' :: c :: cs => readDigits 0 (c :: cs)
  | cs => readDigits 0 cs

/-- Reads a key and a value. -/
def readPair (text : String) : Except BadValue (String × String) :=
  match splitKeyValue text with
  | .ok pair => .ok pair
  | .error e => .error (.invalid e.message)

/-- Reads an extension and its loader. -/
def readLoader (text : String) : Except BadValue (String × Loader) := do
  let (extension, name) ← readPair text
  match Choice.parse name with
  | .ok loader => return (extension, loader)
  | .error e => throw (.invalid e.message)

/-- The parts of a text between its commas. -/
def splitCommas (text : String) : List String := (text.toList.splitOn ',').map String.ofList

/-! ## Tables of flags -/

/-- The flags that both commands have. -/
def commonFlags : List (Flag CommonFlags) :=
  [ ⟨"config", "CONFIG", .value, fun path =>
      if path = "" then .error .missing else .ok fun f => { f with config := some path }⟩,
    .choice "target" "TARGET" fun v f => { f with target := some v },
    { (Flag.choice "sourcemap" "SOURCEMAP"
        fun v f => { f with sourcemap := some v } : Flag CommonFlags) with
      takes := .optional "linked" },
    ⟨"define", "DEFINES", .values, fun text => do
      let entry ← readPair text
      return fun f => { f with defines := f.defines ++ [entry] }⟩,
    .switch "minify" fun f => { f with minify := true },
    .switch "minify-whitespace" fun f => { f with minifyWhitespace := true },
    .switch "minify-identifiers" fun f => { f with minifyIdentifiers := true },
    .switch "minify-syntax" fun f => { f with minifySyntax := true },
    .text "jsx-factory" "JSX_FACTORY" fun v f => { f with jsxFactory := some v },
    .text "jsx-fragment" "JSX_FRAGMENT" fun v f => { f with jsxFragment := some v },
    .switch "strict-nullish-coalescing" fun f => { f with strictNullishCoalescing := true },
    .switch "strict-class-fields" fun f => { f with strictClassFields := true },
    .choice "log-level" "LOG_LEVEL" fun v f => { f with logLevel := some v },
    .choice "color" "COLOR" fun v f => { f with color := some v },
    ⟨"error-limit", "ERROR_LIMIT", .value, fun text => do
      let n ← readNumber text
      return fun f => { f with errorLimit := some n }⟩ ]

/-- The arguments of a build. -/
def buildGrammar : Grammar BuildFlags where
  operand := some fun entry f => { f with entryPoints := f.entryPoints ++ [entry] }
  flags :=
    [ .text "outfile" "OUTFILE" fun v f => { f with outfile := some v },
      .text "outdir" "OUTDIR" fun v f => { f with outdir := some v },
      .text "metafile" "METAFILE" fun v f => { f with metafile := some v },
      .switch "bundle" fun f => { f with bundle := true },
      .switch "splitting" fun f => { f with splitting := true },
      .choice "format" "FORMAT" fun v f => { f with format := some v },
      .choice "platform" "PLATFORM" fun v f => { f with platform := some v },
      ⟨"external", "EXTERNALS", .values, fun name =>
        .ok fun f => { f with externals := f.externals ++ [name] }⟩,
      ⟨"loader", "LOADERS", .values, fun text => do
        let entry ← readLoader text
        return fun f => { f with loaders := f.loaders ++ [entry] }⟩,
      ⟨"resolve-extensions", "RESOLVE_EXTENSIONS", .values, fun text =>
        .ok fun f => { f with resolveExtensions := f.resolveExtensions ++ splitCommas text }⟩,
      .text "global-name" "GLOBAL_NAME" fun v f => { f with globalName := some v } ]
    ++ commonFlags.map (.within fun change f =>
      { f with toCommonFlags := change f.toCommonFlags })

/-- The arguments of a transform. -/
def transformGrammar : Grammar TransformFlags where
  operand := none
  flags :=
    [ .choice "loader" "LOADER" fun v f => { f with loader := some v },
      .text "sourcefile" "SOURCEFILE" fun v f => { f with sourcefile := some v } ]
    ++ commonFlags.map (.within fun change f =>
      { f with toCommonFlags := change f.toCommonFlags })

/-! ## Commands -/

/-- What the program is asked to do. -/
inductive Command
  | build (flags : BuildFlags)
  | transform (flags : TransformFlags)
  deriving DecidableEq, Repr

/-- The names of the commands. -/
def commandNames : List String := ["build", "transform", "help"]

/-- What is said about a word of the help. -/
def helpAbout : List String → Stop
  | [] => .help
  | name :: rest =>
    if name ∈ commandNames ∧ rest = [] then .help
    else .wrong (.unknownCommand (if name ∈ commandNames then rest.headD "" else name))

/-- What a flag in front of the command stops with. -/
def stopAtFlag (cs : List Char) : Stop :=
  let (name, attached?) := Reading.splitFlag cs
  if name = "version" ∨ name = "help" then
    match attached? with
    | some value => .wrong (.unneededValue value ("--" ++ name))
    | none => if name = "version" then .version else .help
  else .wrong (.unexpectedArgument ("--" ++ name))

/-- The command that arguments give. -/
def Command.read : List String → Usage Command
  | [] => .error .noCommand
  | "build" :: rest => (buildGrammar.read {} rest).map .build
  | "transform" :: rest => (transformGrammar.read {} rest).map .transform
  | "help" :: rest => .error (helpAbout rest)
  | "--" :: [] => .error .noCommand
  | "--" :: name :: _ =>
    if name ∈ commandNames then .error (.wrong (.unexpectedArgument name))
    else .error (.wrong (.unknownCommand name))
  | first :: _ =>
    match first.toList with
    | '-' :: '-' :: cs => .error (stopAtFlag cs)
    | '-' :: 'V' :: _ => .error .version
    | '-' :: 'h' :: _ => .error .help
    | '-' :: c :: _ => .error (.wrong (.unexpectedArgument (String.ofList ['-', c])))
    | _ => .error (.wrong (.unknownCommand first))

end Bundler.CommandLine
