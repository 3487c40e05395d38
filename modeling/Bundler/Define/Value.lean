import Bundler.Json.Reader
import Bundler.Text.Identifier

/-! # What a define stands for

A define replaces a dotted identifier by another identifier or by a constant. Its text is first read
as an identifier, save for the words that cannot be one, and then as a JSON constant. An identifier
is looked up only where it is put in, so a replacement becomes an expression (`Replacement.expand`)
through a function that finds symbols. -/

set_option autoImplicit false

namespace Bundler

/-- What a define stands for. -/
inductive Replacement
  /-- An identifier, looked up where it is put in. -/
  | identifier (name : String)
  | null
  | boolean (value : Bool)
  | text (value : String)
  /-- A double, by its bits: they tell apart what is not a number too. -/
  | number (bits : UInt64)
  deriving DecidableEq, Repr

/-- The expression that takes the place of a dotted identifier, over symbols of some kind. -/
inductive Expansion (σ : Type)
  | symbol (s : σ)
  | null
  | boolean (value : Bool)
  | text (value : String)
  /-- A double, by its bits: they tell apart what is not a number too. -/
  | number (bits : UInt64)
  deriving DecidableEq, Repr

namespace Replacement

/-- The expression for one place where the define applies. -/
def expand {σ : Type} (findSymbol : String → σ) : Replacement → Expansion σ
  | .identifier name => .symbol (findSymbol name)
  | .null => .null
  | .boolean value => .boolean value
  | .text value => .text value
  | .number bits => .number bits

/-- The words that are no identifiers to put in. -/
def reservedWords : List String :=
  ["break", "case", "catch", "class", "const", "continue", "debugger", "default", "delete",
    "do", "else", "enum", "export", "extends", "false", "finally", "for", "function", "if",
    "import", "in", "instanceof", "new", "null", "return", "super", "switch", "this", "throw",
    "true", "try", "typeof", "var", "void", "while", "with"]

/-- The constant that a JSON text gives, if it is null, a truth value, a text or a number. -/
def ofJson? (text : String) : Option Replacement :=
  let document := Document.read text
  if document.trailing then none
  else
    match document.value with
    | .null => some .null
    | .bool b => some (.boolean b)
    | .text q => q.decode.toOption.map .text
    | .numeral n => n.value?.map fun quantity => .number quantity.toFloat.toBits
    | _ => none

/-- What the text of a define stands for. -/
def parse? (text : String) : Option Replacement :=
  if Text.isIdentifier text && !reservedWords.contains text then some (.identifier text)
  else ofJson? text

end Replacement

end Bundler
