import Bundler.Options.Check

/-! # Rules about several options

What the options of a run must satisfy together. All rules are looked at, each gives at most one
issue, and the rules for builds fill in the output directory and the format on the way. -/

set_option autoImplicit false

namespace Bundler

namespace Rules

/-- The rule, if it is broken. -/
def breaking (broken : Bool) (rule : Rule) : List Rule := if broken then [rule] else []

/-- The format of a bundle for which the caller chose none. -/
def usualFormat : Platform → Format
  | .browser => .iife
  | .node => .commonJs

/-- The output directory: that of the one output file if no directory is given. -/
def outputDir (fs : FileSystem) (b : BundleOptions) : String :=
  if b.outputFile != "" && b.outputDir == "" then fs.dir b.outputFile else b.outputDir

/-- The output format: the usual one of the platform if a bundle has no other. -/
def format (r : ResolveOptions) (b : BundleOptions) : Format :=
  if b.isBundling && b.format == .preserve then usualFormat r.platform else b.format

/-- The rules about where output goes. -/
def placement (entryCount : Nat) (b : BundleOptions) : List Rule :=
  let hasFile := b.outputFile != ""
  let hasDir := b.outputDir != ""
  breaking (!hasDir && entryCount > 1) .entriesNeedDirectory
    ++ breaking (!hasDir && b.codeSplitting) .splittingNeedsDirectory
    ++ breaking (hasFile && hasDir) .fileOrDirectory

/-- The rules about output that goes nowhere: then there is one output alone. -/
def withoutOutput (b : BundleOptions) : List Rule :=
  if b.outputFile != "" || b.outputDir != "" then []
  else
    breaking (b.sourceMap != .none && b.sourceMap != .inside) .externalMapNeedsOutput
      ++ breaking (b.metadataFile != "") .metafileNeedsOutput
      ++ breaking (b.loaders.loaders.values.contains .file) .fileLoaderNeedsOutput

/-- The rules about options that mean something for bundles alone. -/
def withoutBundle (r : ResolveOptions) (b : BundleOptions) : List Rule :=
  if b.isBundling then []
  else
    breaking (b.format != .preserve) .formatNeedsBundle
      ++ breaking (!r.externals.isEmpty) .externalNeedsBundle

/-- The rules for builds, with the output directory and the format filled in. -/
def build (fs : FileSystem) (entryCount : Nat) (r : ResolveOptions) (b : BundleOptions) :
    Checked BundleOptions :=
  let final := { b with outputDir := outputDir fs b, format := format r b }
  (final,
    (placement entryCount b ++ withoutOutput b ++ withoutBundle r b
      ++ breaking (final.codeSplitting && final.format != .esModule) .splittingNeedsModules).map
      .rule)

/-- The rules for transforms. A source map needs the name of a file to refer to. -/
def transform (b : BundleOptions) : List Issue :=
  let named : Bool := b.stdin.any fun stdin => stdin.sourceFile != ""
  (breaking (b.sourceMap == .linked) .noLinkedMap
    ++ breaking (b.sourceMap != .none && !named) .mapNeedsName).map .rule

end Rules

end Bundler
