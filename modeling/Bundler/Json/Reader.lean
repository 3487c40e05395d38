import Bundler.Json.Tree
import Bundler.Text.Bytes

/-! # Reading JSON

`Document.read` turns a text into a tree. Each reader takes the characters that are left and gives
back what it read with the characters after it; where reading has to stop, none are left. The
readers of values, items and members call each other, and a bound on the depth of the calls makes
them total: twice the length of the text is enough, since of any two calls, one inside the other,
one takes a character away. -/

set_option autoImplicit false

namespace Bundler

namespace Json

/-- Whether a character may stand between the parts of a document. -/
def isBlank (c : Char) : Bool := c == ' ' || c == '\n' || c == '\t' || c == '\r'

/-- The characters from the first that is no blank. -/
def skipBlanks (cs : List Char) : List Char := cs.dropWhile isBlank

/-- Reads the rest of a word that stands for a value. -/
def readWord (value : Json) : List Char → List Char → Json × List Char
  | [], cs => (value, cs)
  | _ :: _, [] => (.broken .truncated, [])
  | w :: ws, c :: cs => if c = w then readWord value ws cs else (.broken .malformed, [])

/-! ## Quoted texts -/

/-- The value of a hexadecimal digit. -/
def hexDigit? (c : Char) : Option Nat :=
  if '0' ≤ c ∧ c ≤ '9' then some (c.toNat - '0'.toNat)
  else if 'a' ≤ c ∧ c ≤ 'f' then some (c.toNat - 'a'.toNat + 10)
  else if 'A' ≤ c ∧ c ≤ 'F' then some (c.toNat - 'A'.toNat + 10)
  else none

/-- The number of four hexadecimal digits. -/
def hexUnit? (a b c d : Char) : Option Nat := do
  let a ← hexDigit? a
  let b ← hexDigit? b
  let c ← hexDigit? c
  let d ← hexDigit? d
  return ((a * 16 + b) * 16 + c) * 16 + d

/-- The character that a backslash and one character stand for. -/
def escaped? : Char → Option Char
  | '"' => some '"'
  | '\\' => some '\\'
  | '/' => some '/'
  | 'b' => some '\x08'
  | 'f' => some '\x0c'
  | 'n' => some '\n'
  | 'r' => some '\r'
  | 't' => some '\t'
  | _ => none

/-- A quoted text that stops here. -/
def stopped (fault : Fault) : Quote × List Char := (⟨[], .broken fault⟩, [])

/-- A quoted text with one more piece in front. -/
def withPiece (p : Piece) (read : Quote × List Char) : Quote × List Char :=
  (⟨p :: read.1.pieces, read.1.ending⟩, read.2)

/-- Reads a quoted text after its first quote. With fewer than four bytes after `\u`, the text ends
too early, whatever these bytes are. -/
def readQuote : List Char → Quote × List Char
  | [] => stopped .truncated
  | '"' :: rest => (⟨[], .closed⟩, rest)
  | '\\' :: 'u' :: a :: b :: c :: d :: rest =>
    match hexUnit? a b c d with
    | some code => withPiece (.unit code) (readQuote rest)
    | none => stopped .malformed
  | '\\' :: 'u' :: rest => stopped (if Text.byteSize rest < 4 then .truncated else .malformed)
  | '\\' :: c :: rest =>
    match escaped? c with
    | some c => withPiece (.char c) (readQuote rest)
    | none => stopped .malformed
  | ['\\'] => stopped .truncated
  | c :: rest => if c.toNat < 0x20 then stopped .malformed else withPiece (.char c) (readQuote rest)

/-! ## Numerals -/

/-- The digits in front, as numbers, and the characters after them. -/
def readDigits (cs : List Char) : List Nat × List Char :=
  ((cs.takeWhile Char.isDigit).map fun c => c.toNat - '0'.toNat, cs.dropWhile Char.isDigit)

/-- The fault of a text that lacks what it needs in front of the given characters. -/
def lacking (rest : List Char) : Fault := if rest = [] then .truncated else .malformed

/-- Reads the exponent of a numeral, if there is one. -/
def readExponent (n : Numeral) (cs : List Char) : Json × List Char :=
  match cs with
  | c :: rest =>
    if c == 'e' || c == 'E' then
      let (negative, rest) :=
        match rest with
        | '-' :: rest => (true, rest)
        | '+' :: rest => (false, rest)
        | rest => (false, rest)
      match readDigits rest with
      | ([], rest) => (.brokenNumeral (lacking rest), [])
      | (digits, rest) => (.numeral { n with exponent := some (negative, digits) }, rest)
    else (.numeral n, cs)
  | [] => (.numeral n, [])

/-- Reads the fraction of a numeral, if there is one, and the exponent. -/
def readFraction (n : Numeral) (cs : List Char) : Json × List Char :=
  match cs with
  | '.' :: rest =>
    match readDigits rest with
    | ([], rest) => (.brokenNumeral (lacking rest), [])
    | (digits, rest) => readExponent { n with fraction := digits, pointed := true } rest
  | cs => readExponent n cs

/-- Reads a numeral. A whole part of several digits does not begin with zero. -/
def readNumeral (cs : List Char) : Json × List Char :=
  let (negative, cs) :=
    match cs with
    | '-' :: rest => (true, rest)
    | cs => (false, cs)
  match readDigits cs with
  | ([], rest) => (.brokenNumeral (lacking rest), [])
  | (0 :: _ :: _, _) => (.brokenNumeral .malformed, [])
  | (digits, rest) => readFraction ⟨negative, digits, [], false, none⟩ rest

/-! ## Values -/

mutual

/-- Reads a value. -/
def readValue : Nat → List Char → Json × List Char
  | 0, _ => (.broken .truncated, [])
  | depth + 1, cs =>
    match skipBlanks cs with
    | [] => (.broken .truncated, [])
    | 'n' :: rest => readWord .null ['u', 'l', 'l'] rest
    | 't' :: rest => readWord (.bool true) ['r', 'u', 'e'] rest
    | 'f' :: rest => readWord (.bool false) ['a', 'l', 's', 'e'] rest
    | '"' :: rest =>
      let (q, rest) := readQuote rest
      (.text q, rest)
    | '[' :: rest =>
      let (items, ending, rest) := readItems depth true rest
      (.array items ending, rest)
    | '\x7b' :: rest =>
      let (members, ending, rest) := readMembers depth true rest
      (.object members ending, rest)
    | c :: rest =>
      if c == '-' || c.isDigit then readNumeral (c :: rest) else (.broken .malformed, [])

/-- Reads the items of an array up to the bracket that closes it. Before each item but the first
stands a comma. -/
def readItems : Nat → Bool → List Char → List Json × Ending × List Char
  | 0, _, _ => ([], .broken .truncated, [])
  | depth + 1, first, cs =>
    match skipBlanks cs with
    | [] => ([], .broken .truncated, [])
    | ']' :: rest => ([], .closed, rest)
    | c :: rest =>
      if !first && c != ',' then ([], .broken .malformed, [])
      else
        let (item, rest) := readValue depth (if first then c :: rest else rest)
        let (items, ending, rest) := readItems depth false rest
        (item :: items, ending, rest)

/-- Reads the members of an object up to the brace that closes it. Before each member but the first
stands a comma. -/
def readMembers : Nat → Bool → List Char → List (Quote × Json) × Ending × List Char
  | 0, _, _ => ([], .broken .truncated, [])
  | depth + 1, first, cs =>
    match skipBlanks cs with
    | [] => ([], .broken .truncated, [])
    | '\x7d' :: rest => ([], .closed, rest)
    | c :: rest =>
      if !first && c != ',' then ([], .broken .malformed, [])
      else
        match if first then c :: rest else skipBlanks rest with
        | [] => ([], .broken .truncated, [])
        | '"' :: rest =>
          let (key, rest) := readQuote rest
          match skipBlanks rest with
          | ':' :: rest =>
            let (value, rest) := readValue depth rest
            let (members, ending, rest) := readMembers depth false rest
            ((key, value) :: members, ending, rest)
          | rest => ([(key, .broken (lacking rest))], .broken (lacking rest), [])
        | _ => ([], .broken .malformed, [])

end

end Json

/-- Reads a whole text. -/
def Document.read (text : String) : Document :=
  let cs := text.toList
  let (value, rest) := Json.readValue (2 * cs.length + 2) cs
  ⟨value, !(Json.skipBlanks rest).isEmpty⟩

end Bundler
