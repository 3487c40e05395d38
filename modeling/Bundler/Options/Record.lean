import Bundler.Options.Choice
import Bundler.Text.Dictionary

/-! # Option records

What a caller asks for: the options of a build, which reads files, and those of a transform, which
works on one text. They share most options. -/

set_option autoImplicit false

namespace Bundler

/-- Where newer syntax is lowered exactly rather than briefly. -/
structure StrictOptions where
  nullishCoalescing : Bool := false
  classFields : Bool := false
  deriving DecidableEq, Repr, Inhabited

/-- The options that builds and transforms share. -/
structure CommonOptions where
  color : ColorMode := .auto
  /-- The number of errors after which printing stops, 0 standing for no limit. -/
  errorLimit : Nat := 0
  logLevel : LogLevel := .info
  sourcemap : SourceMap := .none
  target : Target := .esNext
  strict : StrictOptions := {}
  minifyWhitespace : Bool := false
  minifyIdentifiers : Bool := false
  minifySyntax : Bool := false
  /-- What JSX elements call, or nothing for the usual function. -/
  jsxFactory : String := ""
  /-- What JSX fragments are elements of, or nothing for the usual value. -/
  jsxFragment : String := ""
  /-- What stands for dotted identifiers: another identifier or a JSON constant. -/
  defines : Dictionary String := ∅
  deriving DecidableEq

/-- The options of a build. -/
structure BuildOptions extends CommonOptions where
  /-- The global variable that holds the module when the output is one function. -/
  globalName : String := ""
  bundle : Bool := false
  splitting : Bool := false
  outfile : String := ""
  metafile : String := ""
  outdir : String := ""
  platform : Platform := .browser
  format : Format := .preserve
  /-- Modules that stay imports. -/
  externals : List String := []
  /-- Loaders of extensions, each with its dot, over the usual ones. -/
  loaders : Dictionary Loader := ∅
  /-- The extensions to try, in order, or nothing for the usual ones. -/
  resolveExtensions : Option (List String) := none
  entryPoints : List String := []
  deriving DecidableEq

/-- The options of a transform. -/
structure TransformOptions extends CommonOptions where
  /-- The name by which diagnostics and source maps know the text. -/
  sourcefile : String := ""
  loader : Loader := .js
  deriving DecidableEq

instance : Inhabited CommonOptions := ⟨{}⟩
instance : Inhabited BuildOptions := ⟨{}⟩
instance : Inhabited TransformOptions := ⟨{}⟩

end Bundler
