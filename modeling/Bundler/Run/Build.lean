import Bundler.Engine.Contract
import Bundler.Options.Logging
import Bundler.Options.Rules

/-! # Builds

A build checks its options, has an engine carry out the plan that they give, and returns the output
files with every error and warning of the run. With an issue in the options, no engine is asked. -/

set_option autoImplicit false

namespace Bundler

/-- Logs what is wrong with options. -/
def Log.addIssues (log : Log) (issues : List Issue) : Log :=
  log.addAll (issues.map fun issue => .error issue.message)

/-- Asks an engine to carry out a plan, unless an error has been logged. -/
def Log.attempt (log : Log) (engine : Engine) (fs : FileSystem) (plan : Plan) : Driven :=
  if log.hasErrors then ⟨[], [], log⟩ else engine.drive fs plan log

/-- The plan that the options of a build give, and what is wrong with them. -/
def BuildOptions.plan (o : BuildOptions) (fs : FileSystem) : Checked Plan :=
  let (factory, factoryIssues) := Check.jsx "factory" o.jsxFactory
  let (fragment, fragmentIssues) := Check.jsx "fragment" o.jsxFragment
  let (defines, defineIssues) := Check.defines o.defines
  let (outputFile, fileIssues) := Check.path fs o.outfile
  let (outputDir, dirIssues) := Check.path fs o.outdir
  let (metadataFile, metafileIssues) := Check.path fs o.metafile
  let (loaders, loaderIssues) := Check.loaders o.loaders
  let (extensions, extensionIssues) := Check.extensions o.resolveExtensions
  let (externals, externalIssues) := Check.externals o.externals
  let entries := o.entryPoints.map (Check.path fs)
  let resolve := { platform := o.platform, extensions, externals }
  let (bundle, ruleIssues) := Rules.build fs entries.length resolve
    { sourceMap := o.sourcemap
      mangleSyntax := o.minifySyntax
      removeWhitespace := o.minifyWhitespace
      minifyIdentifiers := o.minifyIdentifiers
      moduleName := o.globalName
      isBundling := o.bundle
      codeSplitting := o.splitting
      format := o.format
      outputFile, outputDir, metadataFile, loaders }
  ({ resolve
     entries := entries.map Prod.fst
     parse :=
      { target := o.target
        strict := o.strict
        mangleSyntax := o.minifySyntax
        jsx := ⟨factory, fragment⟩
        defines
        platform := o.platform
        isBundling := o.bundle }
     bundle },
    factoryIssues ++ fragmentIssues ++ defineIssues ++ fileIssues ++ dirIssues ++ metafileIssues
      ++ loaderIssues ++ extensionIssues ++ externalIssues ++ entries.flatMap Prod.snd
      ++ ruleIssues)

/-- What a build returns. -/
structure BuildResult where
  errors : List Message
  warnings : List Message
  outputs : List OutputFile

/-- A build as it went: what it returned, what was printed, and what the engine was asked. -/
structure BuildRun where
  result : BuildResult
  printed : String
  calls : List EngineCall

/-- Runs a build, with its diagnostics printed on a display. -/
def build (o : BuildOptions) (fs : FileSystem) (engine : Engine) (display : Display) :
    BuildRun :=
  let (plan, issues) := o.plan fs
  let driven := ((o.log display).addIssues issues).attempt engine fs plan
  let (diagnostics, log) := driven.log.drain
  { result :=
      { errors := messagesOf .error diagnostics
        warnings := messagesOf .warning diagnostics
        outputs := driven.outputs }
    printed := log.printed
    calls := driven.calls }

end Bundler
