import Bundler.Engine.Contract
import Bundler.Engine.Language
import Bundler.Path.Host
import Bundler.Text.Quoted

/-! # The transpile engine

An engine that lowers each entry point by itself and leaves imports as they are. Scanning turns the
entry points into modules, one after the other and independently; an entry point that gives no
module gives an error. Compiling puts each module into a file of its own.

The engine works for any language and any way to find the file of an import. -/

set_option autoImplicit false

namespace Bundler

/-- What scanning an entry point gives, or the errors that say why it gives nothing. -/
abbrev Scanned (α : Type) := Except (List Diagnostic) α

/-- A module that has been lowered, with the file that it comes from. -/
structure ScannedModule where
  path : String
  code : String
  deriving DecidableEq, Repr

namespace Transpile

/-! ## Scanning -/

/-- The names of the options that are set although the engine does nothing about them. -/
def ignoredOptions (parse : ParseOptions) (bundle : BundleOptions) : List String :=
  (if parse.defines.any fun t => !t.isEmpty then ["define"] else [])
    ++ (if parse.mangleSyntax then ["minify-syntax"] else [])
    ++ (if bundle.minifyIdentifiers then ["minify-identifiers"] else [])

/-- The warnings about ignored options. -/
def warnings (parse : ParseOptions) (bundle : BundleOptions) : List Diagnostic :=
  (ignoredOptions parse bundle).map fun option =>
    .warning ("The transpile engine ignores the " ++ Text.quoted option ++ " option")

/-- The extension of the file that a path leads to, with its dot. A dot at the front of a name
begins no extension. -/
def extensionOf (path : String) : String :=
  let name := (path.toList.reverse.takeWhile fun c => c ≠ '/' ∧ c ≠ '\\').reverse
  match name with
  | [] => ""
  | _ :: rest =>
    match rest.reverse.dropWhile (· ≠ '.') with
    | [] => ""
    | _ :: _ => String.ofList ('.' :: (rest.reverse.takeWhile (· ≠ '.')).reverse)

/-- The text of an entry point, with where it comes from and how it becomes a module. -/
structure Entry where
  path : String
  contents : String
  loader : Loader
  deriving DecidableEq, Repr

/-- Finds what an entry point stands for: the text of a transform, or else a file. -/
def load (fs : FileSystem) (resolver : Resolver) (bundle : BundleOptions) (entry : String) :
    Scanned Entry :=
  match bundle.stdin with
  | some stdin => .ok ⟨entry, stdin.contents, stdin.loader⟩
  | none =>
    match resolver (fs.dir entry) entry with
    | some (.path path) =>
      match fs.read path with
      | none => .error [.error ("Could not read from file: " ++ path)]
      | some contents =>
        let extension := extensionOf path
        match bundle.loaders.get? extension with
        | some loader => .ok ⟨path, contents, loader⟩
        | none =>
          .error [.error ("No loader is configured for " ++ Text.quoted extension ++ " files: "
            ++ path)]
    | _ => .error [.error ("Could not resolve " ++ Text.quoted entry)]

/-- Whether a loader reads scripts. -/
def isScript : Loader → Bool
  | .js | .jsx | .ts | .tsx => true
  | _ => false

/-- The code that the text of one module becomes. -/
def codeOf (language : Language) (parse : ParseOptions) (bundle : BundleOptions) (source : Source)
    (loader : Loader) : Scanned String :=
  if !isScript loader then
    .error [.error ("The transpile engine does not support the "
      ++ Text.quoted (Choice.name loader) ++ " loader")]
  else
    match language.parse loader source.contents with
    | (_, problem :: problems) =>
      .error ((problem :: problems).map fun (span, text) => .errorAt source span text)
    | (program, []) =>
      match language.refusal parse.target with
      | some text => .error [.error text]
      | none =>
        match language.lower ⟨parse.target, parse.strict, parse.jsx⟩ program with
        | (_, text :: texts) =>
          .error ((text :: texts).map fun text => .errorAt source ⟨0, 0⟩ text)
        | (program, []) => .ok (language.print bundle.removeWhitespace program)

/-- The module of an entry point. -/
def scanEntry (language : Language) (fs : FileSystem) (resolver : Resolver) (parse : ParseOptions)
    (bundle : BundleOptions) (entry : String) : Scanned ScannedModule := do
  let loaded ← load fs resolver bundle entry
  let code ← codeOf language parse bundle ⟨entry, loaded.contents⟩ loaded.loader
  return ⟨loaded.path, code⟩

/-- The modules of entry points in order, and the errors about those that give none. -/
def scanEntries (language : Language) (fs : FileSystem) (resolver : Resolver) (parse : ParseOptions)
    (bundle : BundleOptions) (entries : List String) : List ScannedModule × List Diagnostic :=
  let scanned := entries.map (scanEntry language fs resolver parse bundle)
  (scanned.filterMap Except.toOption,
    scanned.flatMap fun
      | .ok _ => []
      | .error errors => errors)

/-! ## Compiling -/

/-- Where the output goes when there is no place to write to. -/
def stdoutPath : String := "<stdout>"

/-- A path without the slashes at its end. -/
def trimSlashes (path : String) : String :=
  String.ofList (path.toList.reverse.dropWhile (· = '/')).reverse

/-- The path of the file that a module goes to. -/
def outputPath (bundle : BundleOptions) (m : ScannedModule) : String :=
  if bundle.outputFile ≠ "" then bundle.outputFile
  else if bundle.outputDir = "" then stdoutPath
  else trimSlashes bundle.outputDir ++ "/" ++ (Path.Host.fileStem? m.path).getD "out" ++ ".js"

/-- The contents of the file that a module goes to. -/
def wrap (format : Format) (code : String) : String :=
  match format with
  | .iife => "(() => \x7b\n" ++ code ++ "\x7d)();\n"
  | _ => code

/-- Puts modules into files. A path that is `taken` is not given to another module. -/
def place (bundle : BundleOptions) (taken : List String) :
    List ScannedModule → List OutputFile × List Diagnostic
  | [] => ([], [])
  | m :: rest =>
    let path := outputPath bundle m
    if path ∈ taken then
      let (files, errors) := place bundle taken rest
      let clash := "Two output files share the same path: " ++ path ++ " (from " ++ m.path ++ ")"
      (files, .error clash :: errors)
    else
      let (files, errors) := place bundle (path :: taken) rest
      (⟨path, (wrap bundle.format m.code).toUTF8⟩ :: files, errors)

/-- The output files of modules. -/
def compile (bundle : BundleOptions) (modules : List ScannedModule) :
    List OutputFile × List Diagnostic :=
  let (files, errors) := place bundle [] modules
  if bundle.sourceMap = .none then (files, errors)
  else (files, .warning "Source maps are not generated by the transpile engine" :: errors)

end Transpile

/-- The transpile engine for a language and a way to find files. -/
def transpileEngine (language : Language)
    (find : ResolveOptions → String → String → Option String) : Engine where
  Resolver := Resolver
  Bundle := List ScannedModule
  newResolver := fun _ _ options => (.of options.externals (find options), [])
  scan := fun fs _ resolver entries parse bundle =>
    let (modules, errors) := Transpile.scanEntries language fs resolver parse bundle entries
    (modules, Transpile.warnings parse bundle ++ errors)
  compile := fun modules _ bundle => Transpile.compile bundle modules

end Bundler
