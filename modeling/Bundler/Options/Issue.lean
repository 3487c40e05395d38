import Bundler.Text.Quoted

/-! # What can be wrong with options

Every way in which options can be wrong, with the text that the log gets for it. An issue is about
one option by itself, or it is a rule that several options break together. -/

set_option autoImplicit false

namespace Bundler

/-- A rule about several options. -/
inductive Rule
  | entriesNeedDirectory
  | splittingNeedsDirectory
  | fileOrDirectory
  | externalMapNeedsOutput
  | metafileNeedsOutput
  | fileLoaderNeedsOutput
  | formatNeedsBundle
  | externalNeedsBundle
  | splittingNeedsModules
  /-- A transform has no output file that could name its source map. -/
  | noLinkedMap
  | mapNeedsName
  deriving DecidableEq, Repr

/-- The text of the error when the rule is broken. -/
def Rule.message : Rule → String
  | .entriesNeedDirectory => "Must use \"outdir\" when there are multiple input files"
  | .splittingNeedsDirectory => "Must use \"outdir\" when code splitting is enabled"
  | .fileOrDirectory => "Cannot use both \"outfile\" and \"outdir\""
  | .externalMapNeedsOutput => "Cannot use an external source map without an output path"
  | .metafileNeedsOutput => "Cannot use \"metafile\" without an output path"
  | .fileLoaderNeedsOutput => "Cannot use the \"file\" loader without an output path"
  | .formatNeedsBundle => "Cannot use \"format\" without \"bundle\""
  | .externalNeedsBundle => "Cannot use \"external\" without \"bundle\""
  | .splittingNeedsModules => "Splitting currently only works with the \"esm\" format"
  | .noLinkedMap => "Cannot transform with linked source maps"
  | .mapNeedsName =>
    "Must use \"sourcefile\" with \"sourcemap\" to set the original file name"

/-- Something wrong with options. -/
inductive Issue
  /-- What JSX becomes is no dotted path; `role` says which of the two options. -/
  | jsx (role text : String)
  | defineKey (key : String)
  | defineValue (value : String)
  | path (text : String)
  | extension (text : String)
  | moduleName (text : String)
  | rule (rule : Rule)
  deriving DecidableEq, Repr

/-- The text of the error. -/
def Issue.message : Issue → String
  | .jsx role text => "Invalid JSX " ++ role ++ ": " ++ Text.quoted text
  | .defineKey key => "Invalid define key: " ++ Text.quoted key
  | .defineValue value => "Invalid define value: " ++ Text.quoted value
  | .path text => "Invalid path: " ++ text
  | .extension text => "Invalid file extension: " ++ Text.quoted text
  | .moduleName text => "Invalid module name: " ++ Text.quoted text
  | .rule r => r.message

end Bundler
