import Bundler.Diagnostic.Log
import Bundler.Engine.Options
import Bundler.Files.System

/-! # Engines

An engine does the work behind a run: it makes a resolver, scans the modules that the entry points
lead to, and compiles what it has scanned. What it has to report it returns as diagnostics. A step
is a function of what it is handed, and it is handed the tally of the log as well, since it may look
at how many errors and warnings there are. -/

set_option autoImplicit false

namespace Bundler

/-- A file that comes out of a run. -/
structure OutputFile where
  path : String
  contents : ByteArray

/-- An engine. -/
structure Engine where
  /-- The resolvers that it makes. -/
  Resolver : Type
  /-- What it has after scanning. -/
  Bundle : Type
  newResolver : FileSystem → Tally → ResolveOptions → Resolver × List Diagnostic
  scan : FileSystem → Tally → Resolver → List String → ParseOptions → BundleOptions →
    Bundle × List Diagnostic
  compile : Bundle → Tally → BundleOptions → List OutputFile × List Diagnostic

/-- What an engine is asked to do. -/
structure Plan where
  resolve : ResolveOptions
  /-- The entry points, by their absolute paths. -/
  entries : List String
  parse : ParseOptions
  bundle : BundleOptions
  deriving DecidableEq

/-- One step that an engine is asked to do, with what it is handed. -/
inductive EngineCall
  | newResolver (fs : FileSystem) (options : ResolveOptions)
  | scan (fs : FileSystem) (entries : List String) (parse : ParseOptions) (bundle : BundleOptions)
  | compile (bundle : BundleOptions)

/-- What is there after an engine has been asked: its output, the calls, and the log. -/
structure Driven where
  outputs : List OutputFile
  calls : List EngineCall
  log : Log

/-- Asks an engine to carry out a plan. It compiles only if no error has been logged by then. -/
def Engine.drive (engine : Engine) (fs : FileSystem) (plan : Plan) (log : Log) : Driven :=
  let (resolver, found) := engine.newResolver fs log.tally plan.resolve
  let log := log.addAll found
  let (bundle, found) :=
    engine.scan fs log.tally resolver plan.entries plan.parse plan.bundle
  let log := log.addAll found
  let calls := [.newResolver fs plan.resolve, .scan fs plan.entries plan.parse plan.bundle]
  if log.hasErrors then ⟨[], calls, log⟩
  else
    let (outputs, found) := engine.compile bundle log.tally plan.bundle
    ⟨outputs, calls ++ [.compile plan.bundle], log.addAll found⟩

end Bundler
