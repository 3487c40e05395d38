import Bundler.Json.Reader

/-! # JSON values

The value that a whole JSON text stands for, for whoever looks at any part of it and in any order.
Nobody who does asks for the value of a number, so it is left out; but a number has to be one that
can be held. A unit of 16 bits that is no character stands for the replacement character. -/

set_option autoImplicit false

namespace Bundler

/-- A JSON value. -/
inductive Data
  | null
  | bool (value : Bool)
  | number
  | text (value : String)
  | array (items : List Data)
  /-- An object, with its members in the order in which they are written. -/
  | object (members : List (String × Data))

/-! ## Numbers that can be held -/

namespace Numeral

/-- Whether the digits of an exponent can be taken one by one: more of them may follow only as long
as the exponent is at most 2³². -/
def countsUp (digits : List Nat) : Bool :=
  (digits.foldl (fun (held? : Option Nat) digit =>
    held?.bind fun held => if held ≤ UInt32.size then some (held * 10 + digit) else none)
    (some 0)).isSome

/-- The numbers from here on are too large for a double: half a step past the largest one. -/
def doubleBound : Nat := Nat.pow 2 1024 - Nat.pow 2 970

/-- Whether `digits * 10 ^ exponent` is the size of a number that a double can hold. Ten to the power
of 309 is past every double. -/
def isFinite (digits : List Nat) (exponent : Int) : Bool :=
  let significant := digits.dropWhile (· = 0)
  let places := significant.length + exponent
  if significant = [] ∨ places ≤ 0 then true
  else if 309 < places then false
  else
    let value := digitsValue significant
    if 0 ≤ exponent then value * Nat.pow 10 exponent.natAbs < doubleBound
    else value < doubleBound * Nat.pow 10 exponent.natAbs

/-- Whether the number can be held: a whole number in 64 bits, any other one in a double. -/
def isHeld (n : Numeral) : Bool :=
  if n.pointed || n.exponent.isSome then
    n.exponent.all (fun (_, digits) => countsUp digits)
      && isFinite (n.whole ++ n.fraction) (n.writtenExponent - n.fraction.length)
  else digitsValue n.whole < if n.negative then UInt64.size / 2 + 1 else UInt64.size

end Numeral

/-! ## Quoted texts -/

namespace Quote

/-- The characters that the pieces stand for, whatever the units are. -/
def repairPieces : List Piece → List Char
  | [] => []
  | .char c :: rest => c :: repairPieces rest
  | .unit u :: .unit v :: rest =>
    if isLeading u && isTrailing v then pairChar u v :: repairPieces rest
    else repairUnit u :: repairPieces (.unit v :: rest)
  | .unit u :: rest => repairUnit u :: repairPieces rest
where
  repairUnit (u : Nat) : Char := if isLeading u || isTrailing u then '\ufffd' else Char.ofNat u

/-- The text that is quoted, if the quote is closed. -/
def repaired (q : Quote) : Except Fault String := do
  q.ending.check
  return String.ofList (repairPieces q.pieces)

end Quote

/-! ## Values -/

namespace Json

mutual

/-- The value that a tree stands for, unless there is a fault in it. -/
def data : Json → Except Fault Data
  | .null => .ok .null
  | .bool b => .ok (.bool b)
  | .numeral n => if n.isHeld then .ok .number else .error .malformed
  | .brokenNumeral fault => .error fault
  | .text q => return .text (← q.repaired)
  | .array items ending => do
    let items ← dataOfItems items
    ending.check
    return .array items
  | .object members ending => do
    let members ← dataOfMembers members
    ending.check
    return .object members
  | .broken fault => .error fault

/-- The values of the items of an array. -/
def dataOfItems : List Json → Except Fault (List Data)
  | [] => .ok []
  | item :: rest => return (← data item) :: (← dataOfItems rest)

/-- The values of the members of an object, under their keys. -/
def dataOfMembers : List (Quote × Json) → Except Fault (List (String × Data))
  | [] => .ok []
  | (key, value) :: rest => return (← key.repaired, ← data value) :: (← dataOfMembers rest)

end

end Json

namespace Data

/-- The value that a whole text stands for, if it is JSON. -/
def ofText? (text : String) : Option Data :=
  let document := Document.read text
  match document.value.data with
  | .ok data => if document.trailing then none else some data
  | .error _ => none

/-- The members of an object. Other values have none. -/
def members : Data → List (String × Data)
  | .object members => members
  | _ => []

/-- A member of an object, the first one with the key. -/
def get? (data : Data) (key : String) : Option Data := data.members.lookup key

/-- The text that a value is. -/
def text? : Data → Option String
  | .text value => some value
  | _ => none

end Data

end Bundler
