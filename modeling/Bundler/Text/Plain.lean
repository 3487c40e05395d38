/-! # Text without escape sequences

A text that goes to a file and not to a terminal has no use for escape sequences and controls.
`plain` leaves them out. An escape begins a sequence, and the character behind it says of which kind
the sequence is and so where it ends (`Sequence.next`); another escape begins a new one at any time.
Blanks that controls stand for, such as the end of a line, are kept. -/

set_option autoImplicit false

namespace Bundler.Text

/-- What is being read when text and escape sequences are told apart. -/
inductive Sequence
  /-- Text, and no sequence. -/
  | text
  /-- The character behind an escape. -/
  | escape
  /-- A sequence that ends with a letter or a sign from the digits on. -/
  | selection
  /-- A control sequence, which ends with a letter. -/
  | control
  /-- A command to the system, which ends with a bell. -/
  | command
  /-- The front of a string for a device, before its parameters. -/
  | device
  /-- The parameters of a string for a device. -/
  | parameters
  /-- What stands behind the parameters of a string for a device. -/
  | deviceSelection
  /-- A string that ends with the byte `0x9c`, also as a part of a character. -/
  | string
  deriving DecidableEq, Repr

/-- Whether the code of a character is in a range. -/
def between (low high : Nat) (c : Char) : Bool := low ≤ c.toNat && c.toNat ≤ high

/-- Whether a character is a control that stands for a blank. -/
def isBlankControl (c : Char) : Bool := c == '\t' || c == '\n' || c == '\x0c' || c == '\r'

/-- Whether a byte of a character ends a string. -/
def endsString (c : Char) : Bool := c.toString.toUTF8.toList.contains 0x9c

namespace Sequence

/-- What is being read after one more character. -/
def next (s : Sequence) (c : Char) : Sequence :=
  if c = '\x1b' then .escape
  else if c = '\x18' ∨ c = '\x1a' then .text
  else
    match s with
    | .text => .text
    | .escape =>
      if c = '[' then .control
      else if c = ']' then .command
      else if c = 'P' then .device
      else if c = 'X' ∨ c = '^' ∨ c = '_' then .string
      else if between 0x20 0x2f c then .selection
      else if between 0x30 0x7e c then .text
      else .escape
    | .selection => if between 0x30 0x7e c then .text else .selection
    | .control => if between 0x40 0x7e c then .text else .control
    | .command => if c = '\x07' then .text else .command
    | .device =>
      if between 0x20 0x2f c then .deviceSelection
      else if between 0x30 0x3f c then .parameters
      else if between 0x40 0x7e c then .string
      else .device
    | .parameters =>
      if between 0x20 0x2f c then .deviceSelection
      else if between 0x3c 0x7e c then .string
      else .parameters
    | .deviceSelection => if between 0x30 0x7e c then .string else .deviceSelection
    | .string => if endsString c then .text else .string

/-- Whether a character is kept. In a sequence that is not a string, blanks that controls stand for
are. -/
def keeps (s : Sequence) (c : Char) : Bool :=
  match s with
  | .text => isBlankControl c || (0x20 ≤ c.toNat && c ≠ '\x7f')
  | .escape => isBlankControl c
  | .selection => isBlankControl c
  | .control => isBlankControl c
  | _ => false

end Sequence

/-- The characters that are kept of a text. What follows a kept character is text, up to the next
character that text does not keep; if a sequence was interrupted by a blank, it goes on there. -/
def plainChars : Sequence → Bool → List Char → List Char
  | _, _, [] => []
  | s, follows, c :: rest =>
    if (if follows then Sequence.text else s).keeps c then
      c :: plainChars (if c.toNat < 0x80 then s else .text) true rest
    else plainChars (s.next c) false rest

/-- A text without escape sequences and controls. -/
def plain (text : String) : String := String.ofList (plainChars .text false text.toList)

end Bundler.Text
