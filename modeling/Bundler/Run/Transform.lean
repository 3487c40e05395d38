import Bundler.Run.Build

/-! # Transforms

A transform works on one text. The engine works as in a build, on a file system in memory that holds
the text under its name, and its output is taken apart into code and source map. -/

set_option autoImplicit false

namespace Bundler

/-- The plan that the options of a transform give, and what is wrong with them. -/
def TransformOptions.plan (o : TransformOptions) (input : String) : Checked Plan :=
  let (factory, factoryIssues) := Check.jsx "factory" o.jsxFactory
  let (fragment, fragmentIssues) := Check.jsx "fragment" o.jsxFragment
  let (defines, defineIssues) := Check.defines o.defines
  let bundle : BundleOptions :=
    { sourceMap := o.sourcemap
      mangleSyntax := o.minifySyntax
      removeWhitespace := o.minifyWhitespace
      minifyIdentifiers := o.minifyIdentifiers
      outputFile := o.sourcefile ++ "-out"
      stdin := some ⟨o.loader, input, o.sourcefile⟩ }
  ({ resolve := {}
     entries := [o.sourcefile]
     parse :=
      { target := o.target
        strict := o.strict
        mangleSyntax := o.minifySyntax
        jsx := ⟨factory, fragment⟩
        defines }
     bundle },
    factoryIssues ++ fragmentIssues ++ defineIssues ++ Rules.transform bundle)

/-- The code and the source map among output files. A single file is code. Of two files, the one
whose path is the other's with `.map` behind it is the map. Any other list gives nothing. -/
def unpackOutputs : List OutputFile → ByteArray × ByteArray
  | [code] => (code.contents, .empty)
  | [a, b] =>
    if a.path = b.path ++ ".map" then (b.contents, a.contents)
    else if a.path ++ ".map" = b.path then (a.contents, b.contents)
    else (.empty, .empty)
  | _ => (.empty, .empty)

/-- What a transform returns. -/
structure TransformResult where
  errors : List Message
  warnings : List Message
  js : ByteArray
  sourceMap : ByteArray

/-- A transform as it went: what it returned, what was printed, and what the engine was asked. -/
structure TransformRun where
  result : TransformResult
  printed : String
  calls : List EngineCall

/-- Runs a transform, with its diagnostics printed on a display. -/
def transform (o : TransformOptions) (input : String) (engine : Engine) (display : Display) :
    TransformRun :=
  let (plan, issues) := o.plan input
  let fs := FileSystem.memory [(o.sourcefile, input)]
  let driven := ((o.log display).addIssues issues).attempt engine fs plan
  let (diagnostics, log) := driven.log.drain
  let (js, sourceMap) := unpackOutputs driven.outputs
  { result :=
      { errors := messagesOf .error diagnostics
        warnings := messagesOf .warning diagnostics
        js, sourceMap }
    printed := log.printed
    calls := driven.calls }

end Bundler
