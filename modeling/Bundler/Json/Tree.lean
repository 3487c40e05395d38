import Bundler.Json.Numeral

/-! # JSON documents as trees

A text is read into a tree before anything asks what the values mean. The tree of a text that is not
JSON goes as far as the text does, and holds a fault where reading had to stop. So whoever walks
over a tree from front to back meets a fault exactly when the walk gets there, and a problem of
another kind that stands before it is met first.

Three things are kept as they are written, since they are judged only where they are used: the
escapes of a quoted text, which may form no character; a numeral, which may be too large; and a
numeral that breaks off. -/

set_option autoImplicit false

namespace Bundler

/-- Why reading had to stop. -/
inductive Fault
  /-- A character stands where it must not. -/
  | malformed
  /-- The text ends too early. -/
  | truncated
  deriving DecidableEq, Repr

/-- How a list of things stops. -/
inductive Ending
  | closed
  | broken (fault : Fault)
  deriving DecidableEq, Repr

/-- Passes over an ending. -/
def Ending.check : Ending → Except Fault Unit
  | .closed => .ok ()
  | .broken fault => .error fault

/-- A part of a quoted text: a character, or a unit of 16 bits given by four digits. -/
inductive Piece
  | char (c : Char)
  | unit (code : Nat)
  deriving DecidableEq, Repr

/-- A quoted text as it is written. -/
structure Quote where
  pieces : List Piece
  ending : Ending
  deriving DecidableEq, Repr

/-- A JSON value as it is written. -/
inductive Json
  | null
  | bool (value : Bool)
  | numeral (n : Numeral)
  /-- A numeral that breaks off. -/
  | brokenNumeral (fault : Fault)
  | text (q : Quote)
  | array (items : List Json) (ending : Ending)
  | object (members : List (Quote × Json)) (ending : Ending)
  /-- No value at all. -/
  | broken (fault : Fault)

/-! ## Quoted texts -/

namespace Quote

/-- Whether a unit is the first of a pair that stands for one character. -/
def isLeading (code : Nat) : Bool := 0xD800 ≤ code && code < 0xDC00

/-- Whether a unit is the second of such a pair. -/
def isTrailing (code : Nat) : Bool := 0xDC00 ≤ code && code < 0xE000

/-- The character of a pair of units. -/
def pairChar (leading trailing : Nat) : Char :=
  Char.ofNat (0x10000 + (leading - 0xD800) * 0x400 + (trailing - 0xDC00))

/-- The characters that the pieces stand for. A unit of a pair without the other is a fault. -/
def decodePieces (ending : Ending) : List Piece → Except Fault (List Char)
  | [] => do ending.check; return []
  | .char c :: rest => return c :: (← decodePieces ending rest)
  | .unit u :: rest =>
    if isTrailing u then .error .malformed
    else if isLeading u then
      match rest with
      | .unit v :: rest =>
        if isTrailing v then do return pairChar u v :: (← decodePieces ending rest)
        else .error .malformed
      | .char _ :: _ => .error .malformed
      | [] => do ending.check; .error .malformed
    else do return Char.ofNat u :: (← decodePieces ending rest)

/-- The text that is quoted. -/
def decode (q : Quote) : Except Fault String :=
  (decodePieces q.ending q.pieces).map String.ofList

end Quote

/-! ## Passing over values -/

namespace Json

mutual

/-- Passes over a value that nobody asks for. Only its form counts: escapes need not form
characters, and numbers may be of any size. -/
def skip : Json → Except Fault Unit
  | .null => .ok ()
  | .bool _ => .ok ()
  | .numeral _ => .ok ()
  | .brokenNumeral _ => .error .malformed
  | .text q => q.ending.check
  | .array items ending => do skipItems items; ending.check
  | .object members ending => do skipMembers members; ending.check
  | .broken fault => .error fault

/-- Passes over the items of an array. -/
def skipItems : List Json → Except Fault Unit
  | [] => .ok ()
  | item :: rest => do skip item; skipItems rest

/-- Passes over the members of an object. -/
def skipMembers : List (Quote × Json) → Except Fault Unit
  | [] => .ok ()
  | (key, value) :: rest => do key.ending.check; skip value; skipMembers rest

end

end Json

/-- A whole text: one value, and whether anything but blanks follows it. -/
structure Document where
  value : Json
  trailing : Bool

end Bundler
