import Bundler.Define.Table
import Bundler.Options.Record
import Bundler.Resolve.Options

/-! # What an engine is told

The options of a run in the form in which an engine takes them: checked, with absolute paths, and
with the defaults filled in that depend on other options. -/

set_option autoImplicit false

namespace Bundler

/-! ## Loaders -/

/-- The loaders that extensions have by themselves. -/
def usualLoaders : Dictionary Loader :=
  .ofList [(".js", .js), (".mjs", .js), (".cjs", .js), (".jsx", .jsx), (".ts", .ts),
    (".tsx", .tsx), (".json", .json), (".txt", .text)]

/-- Which loader an extension has. -/
inductive LoaderTable
  /-- The usual loaders, which all runs share. -/
  | usual
  /-- A table made for the run. -/
  | custom (loaders : Dictionary Loader)
  deriving DecidableEq

namespace LoaderTable

instance : Inhabited LoaderTable := ⟨.usual⟩

/-- The loaders by their extensions. -/
def loaders : LoaderTable → Dictionary Loader
  | .usual => usualLoaders
  | .custom loaders => loaders

/-- The loader of an extension. -/
def get? (t : LoaderTable) (extension : String) : Option Loader := t.loaders.get? extension

end LoaderTable

/-! ## Modules -/

/-- What JSX elements become, as paths of identifiers; nothing stands for the usual. -/
structure JsxOptions where
  factory : Option (List String) := none
  fragment : Option (List String) := none
  deriving DecidableEq, Repr

/-- What counts for every module that is read. -/
structure ParseOptions where
  target : Target := .esNext
  strict : StrictOptions := {}
  mangleSyntax : Bool := false
  jsx : JsxOptions := {}
  /-- The table of defines, made once in a run; without defines there is none. -/
  defines : Option DefineTable := none
  platform : Platform := .browser
  isBundling : Bool := false
  deriving DecidableEq

/-- The text that a transform works on. -/
structure Stdin where
  loader : Loader
  contents : String
  sourceFile : String
  deriving DecidableEq, Repr

/-- What counts for the output. -/
structure BundleOptions where
  sourceMap : SourceMap := .none
  mangleSyntax : Bool := false
  removeWhitespace : Bool := false
  minifyIdentifiers : Bool := false
  /-- The global variable that holds the module when the output is one function. -/
  moduleName : String := ""
  isBundling : Bool := false
  codeSplitting : Bool := false
  format : Format := .preserve
  /-- The one file to write, or nothing. -/
  outputFile : String := ""
  /-- The directory to write to, or nothing. -/
  outputDir : String := ""
  metadataFile : String := ""
  loaders : LoaderTable := .usual
  /-- The text to work on instead of files. -/
  stdin : Option Stdin := none
  deriving DecidableEq

end Bundler
