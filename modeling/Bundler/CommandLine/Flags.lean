import Bundler.Options.Record

/-! # Flags over options

What the flags of a command line say, and what they change in an option record (`apply`). A flag
with one value replaces the option, a switch turns it on, and what repeated flags name is added to
what is there. The flags of two command lines can be put behind each other (`++`), and there, too,
the later single value counts. -/

set_option autoImplicit false

namespace Bundler

/-- What the flags say that both commands have. -/
structure CommonFlags where
  /-- The configuration file that gives the options under the flags. -/
  config : Option String := none
  target : Option Target := none
  sourcemap : Option SourceMap := none
  defines : List (String × String) := []
  /-- Everything that can be made smaller is. -/
  minify : Bool := false
  minifyWhitespace : Bool := false
  minifyIdentifiers : Bool := false
  minifySyntax : Bool := false
  jsxFactory : Option String := none
  jsxFragment : Option String := none
  strictNullishCoalescing : Bool := false
  strictClassFields : Bool := false
  logLevel : Option LogLevel := none
  color : Option ColorMode := none
  errorLimit : Option Nat := none
  deriving DecidableEq, Repr

/-- What the flags of a build say. -/
structure BuildFlags extends CommonFlags where
  entryPoints : List String := []
  outfile : Option String := none
  outdir : Option String := none
  metafile : Option String := none
  bundle : Bool := false
  splitting : Bool := false
  format : Option Format := none
  platform : Option Platform := none
  externals : List String := []
  loaders : List (String × Loader) := []
  resolveExtensions : List String := []
  globalName : Option String := none
  deriving DecidableEq, Repr

/-- What the flags of a transform say. -/
structure TransformFlags extends CommonFlags where
  loader : Option Loader := none
  sourcefile : Option String := none
  deriving DecidableEq, Repr

/-! ## Flags behind flags -/

/-- The flags of one command line and those of another one behind them. -/
def CommonFlags.append (f g : CommonFlags) : CommonFlags where
  config := g.config <|> f.config
  target := g.target <|> f.target
  sourcemap := g.sourcemap <|> f.sourcemap
  defines := f.defines ++ g.defines
  minify := f.minify || g.minify
  minifyWhitespace := f.minifyWhitespace || g.minifyWhitespace
  minifyIdentifiers := f.minifyIdentifiers || g.minifyIdentifiers
  minifySyntax := f.minifySyntax || g.minifySyntax
  jsxFactory := g.jsxFactory <|> f.jsxFactory
  jsxFragment := g.jsxFragment <|> f.jsxFragment
  strictNullishCoalescing := f.strictNullishCoalescing || g.strictNullishCoalescing
  strictClassFields := f.strictClassFields || g.strictClassFields
  logLevel := g.logLevel <|> f.logLevel
  color := g.color <|> f.color
  errorLimit := g.errorLimit <|> f.errorLimit

instance : Append CommonFlags := ⟨CommonFlags.append⟩

/-- The flags of one build and those of another one behind them. -/
def BuildFlags.append (f g : BuildFlags) : BuildFlags where
  toCommonFlags := f.toCommonFlags ++ g.toCommonFlags
  entryPoints := f.entryPoints ++ g.entryPoints
  outfile := g.outfile <|> f.outfile
  outdir := g.outdir <|> f.outdir
  metafile := g.metafile <|> f.metafile
  bundle := f.bundle || g.bundle
  splitting := f.splitting || g.splitting
  format := g.format <|> f.format
  platform := g.platform <|> f.platform
  externals := f.externals ++ g.externals
  loaders := f.loaders ++ g.loaders
  resolveExtensions := if g.resolveExtensions = [] then f.resolveExtensions else g.resolveExtensions
  globalName := g.globalName <|> f.globalName

instance : Append BuildFlags := ⟨BuildFlags.append⟩

/-- The flags of one transform and those of another one behind them. -/
def TransformFlags.append (f g : TransformFlags) : TransformFlags where
  toCommonFlags := f.toCommonFlags ++ g.toCommonFlags
  loader := g.loader <|> f.loader
  sourcefile := g.sourcefile <|> f.sourcefile

instance : Append TransformFlags := ⟨TransformFlags.append⟩

/-! ## Flags over options -/

/-- The options with what the flags change. -/
def CommonFlags.apply (f : CommonFlags) (o : CommonOptions) : CommonOptions where
  color := f.color.getD o.color
  errorLimit := f.errorLimit.getD o.errorLimit
  logLevel := f.logLevel.getD o.logLevel
  sourcemap := f.sourcemap.getD o.sourcemap
  target := f.target.getD o.target
  strict :=
    { nullishCoalescing := o.strict.nullishCoalescing || f.strictNullishCoalescing
      classFields := o.strict.classFields || f.strictClassFields }
  minifyWhitespace := o.minifyWhitespace || (f.minify || f.minifyWhitespace)
  minifyIdentifiers := o.minifyIdentifiers || (f.minify || f.minifyIdentifiers)
  minifySyntax := o.minifySyntax || (f.minify || f.minifySyntax)
  jsxFactory := f.jsxFactory.getD o.jsxFactory
  jsxFragment := f.jsxFragment.getD o.jsxFragment
  defines := o.defines.insertAll f.defines

/-- The options of a build with what the flags change. -/
def BuildFlags.apply (f : BuildFlags) (o : BuildOptions) : BuildOptions where
  toCommonOptions := f.toCommonFlags.apply o.toCommonOptions
  globalName := f.globalName.getD o.globalName
  bundle := o.bundle || f.bundle
  splitting := o.splitting || f.splitting
  outfile := f.outfile.getD o.outfile
  metafile := f.metafile.getD o.metafile
  outdir := f.outdir.getD o.outdir
  platform := f.platform.getD o.platform
  format := f.format.getD o.format
  externals := o.externals ++ f.externals
  loaders := o.loaders.insertAll f.loaders
  resolveExtensions :=
    if f.resolveExtensions = [] then o.resolveExtensions else some f.resolveExtensions
  entryPoints := o.entryPoints ++ f.entryPoints

/-- The options of a transform with what the flags change. -/
def TransformFlags.apply (f : TransformFlags) (o : TransformOptions) : TransformOptions where
  toCommonOptions := f.toCommonFlags.apply o.toCommonOptions
  sourcefile := f.sourcefile.getD o.sourcefile
  loader := f.loader.getD o.loader

end Bundler
