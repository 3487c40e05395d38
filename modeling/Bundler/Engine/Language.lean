import Bundler.Diagnostic.Message
import Bundler.Engine.Options

/-! # Languages of modules

What an engine that handles each module by itself needs of the language that modules are written in:
to read a text, to lower it to an older version of the language, and to print it. -/

set_option autoImplicit false

namespace Bundler

/-- How modules are lowered. -/
structure Lowering where
  target : Target
  strict : StrictOptions
  jsx : JsxOptions
  deriving DecidableEq, Repr

/-- A language of modules. -/
structure Language where
  /-- The modules that have been read. -/
  Program : Type
  /-- Reads a text, and says what is wrong with it and where. -/
  parse : Loader → String → Program × List (Span × String)
  /-- Why nothing can be lowered to a target, if so. -/
  refusal : Target → Option String
  /-- Lowers a module, and says what in it cannot be lowered. -/
  lower : Lowering → Program → Program × List String
  /-- The text of a module, with or without the blanks that are there for readers. -/
  print : Bool → Program → String

end Bundler
