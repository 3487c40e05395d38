import Bundler.Text.NumberedTable

/-! # Quoted text

The form in which messages show a text that a user gave: between double quotes, on one line, with
every character either readable or given by its number. -/

set_option autoImplicit false

namespace Bundler.Text

/-- Whether a character cannot be read off the page. The space can. -/
def isNumbered (c : Char) : Bool :=
  if c.toNat < 0x80 then c.toNat < 0x20 || c.toNat == 0x7F else numberedCharacters.contains c

/-- The number of a character in hexadecimal, without leading zeros. -/
def hexNumber (c : Char) : List Char := Nat.toDigits 16 c.toNat

/-- How one character stands in quoted text. -/
def quotedChar (c : Char) : List Char :=
  match c with
  | '"' => ['\\', '"']
  | '\\' => ['\\', '\\']
  | '\n' => ['\\', 'n']
  | '\r' => ['\\', 'r']
  | '\t' => ['\\', 't']
  | '\x00' => ['\\', '0']
  | c => if isNumbered c then ['\\', 'u', '\x7b'] ++ hexNumber c ++ ['\x7d'] else [c]

/-- The text between quotes, as messages show it. -/
def quoted (text : String) : String :=
  String.ofList ('"' :: text.toList.flatMap quotedChar ++ ['"'])

end Bundler.Text
