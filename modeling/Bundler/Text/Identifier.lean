import Bundler.Text.IdentifierTable

/-! # Identifiers

An identifier begins with a letter, `$`, `_` or another character of the Unicode class `ID_Start`,
and goes on with those, digits, characters of `ID_Continue` and the two zero-width joiners. A dotted
path is a list of identifiers written with a dot between neighbours. -/

set_option autoImplicit false

namespace Bundler.Text

/-- Whether a character may begin an identifier. -/
def isIdentifierStart (c : Char) : Bool :=
  if c.toNat < 0x80 then c.isAlpha || c == '$' || c == '_' else identifierStarts.contains c

/-- Whether a character may follow the first one of an identifier. -/
def isIdentifierPart (c : Char) : Bool :=
  if c.toNat < 0x80 then c.isAlphanum || c == '$' || c == '_'
  else identifierContinues.contains c || c == '\u200c' || c == '\u200d'

/-- Whether the characters form one identifier. -/
def isIdentifierChars : List Char → Bool
  | [] => false
  | c :: cs => isIdentifierStart c && cs.all isIdentifierPart

/-- Whether a text is one identifier. Reserved words count: they are identifiers too. -/
def isIdentifier (text : String) : Bool := isIdentifierChars text.toList

/-! ## Dotted paths -/

/-- The parts of a text between its dots; a text without a dot is its own only part. -/
def dottedParts (text : String) : List String := (text.toList.splitOn '.').map String.ofList

/-- The text whose parts between dots are given. -/
def dotted (parts : List String) : String := ".".intercalate parts

/-- Whether a text is a list of identifiers with dots between them. -/
def isDottedPath (text : String) : Bool := (dottedParts text).all isIdentifier

end Bundler.Text
