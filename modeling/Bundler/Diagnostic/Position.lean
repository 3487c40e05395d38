import Bundler.Text.Bytes

/-! # Places in a source text

A place in a text is given as a byte offset and shown as a line and a column. A line ends at a line
feed, a carriage return, U+2028 or U+2029, and a carriage return with a line feed after it ends one
line, not two. `Position.ofOffset` reads the characters before the offset one by one with a
`Cursor`; `lineAt` is the text of the line that begins at an offset. -/

set_option autoImplicit false

namespace Bundler

/-- Whether a character ends a line. -/
def isLineEnd (c : Char) : Bool :=
  c == '\n' || c == '\r' || c == '\u2028' || c == '\u2029'

/-- Where reading has come to in a text. -/
structure Cursor where
  /-- How many lines have ended. -/
  line : Nat
  /-- The byte offset at which the current line begins. -/
  lineStart : Nat
  /-- The byte offset of the next character. -/
  offset : Nat
  /-- Whether the character before is a carriage return. -/
  afterReturn : Bool
  deriving DecidableEq, Repr

namespace Cursor

/-- The cursor before the first character. -/
def start : Cursor := ⟨0, 0, 0, false⟩

/-- Reads one character. A line feed after a carriage return moves the start of the line past
itself and ends no further line. -/
def advance (k : Cursor) (c : Char) : Cursor :=
  let next := k.offset + c.utf8Size
  if c == '\n' then ⟨if k.afterReturn then k.line else k.line + 1, next, next, false⟩
  else if isLineEnd c then ⟨k.line + 1, next, next, c == '\r'⟩
  else ⟨k.line, k.lineStart, next, false⟩

end Cursor

/-- A place in a text, all three numbers counting from zero. -/
structure Position where
  line : Nat
  /-- In bytes from the start of the line. -/
  column : Nat
  /-- The byte offset at which the line begins. -/
  lineStart : Nat
  deriving DecidableEq, Repr

/-- The place of a byte offset. An offset past the end stands for the end, and one inside a
character for that character's beginning. -/
def Position.ofOffset (contents : List Char) (offset : Nat) : Position :=
  let k := (Text.takeBytes offset contents).foldl Cursor.advance Cursor.start
  ⟨k.line, k.offset - k.lineStart, k.lineStart⟩

/-- The characters from a byte offset up to the end of their line. There are none when the offset
is no character's beginning. -/
def lineAt (contents : List Char) (lineStart : Nat) : List Char :=
  match Text.splitBytes? lineStart contents with
  | some (_, rest) => rest.takeWhile fun c => !isLineEnd c
  | none => []

end Bundler
