/-! # Numerals

A numeral is a number as it is written: sign, whole digits, fraction, exponent. `Numeral.value?` is
the number that it stands for. A whole number that fits 64 bits keeps its value. Any other number
becomes a double: the digits are gathered into a 64-bit significand, those that do not fit being
dropped, and the significand is multiplied or divided by a power of ten. A number past the largest
double has no value. -/

set_option autoImplicit false

namespace Bundler

/-- A number as it is written. Digits are numbers below ten. -/
structure Numeral where
  negative : Bool
  whole : List Nat
  /-- The digits after the point, of which there are none without a point. -/
  fraction : List Nat
  /-- Whether there is a point. -/
  pointed : Bool
  /-- The sign and the digits of the exponent. -/
  exponent : Option (Bool × List Nat)
  deriving DecidableEq, Repr

/-- The number that a numeral stands for. -/
inductive Quantity
  | natural (n : Nat)
  /-- The negative of a positive number. -/
  | negative (n : Nat)
  | double (value : Float)
  deriving Repr

/-- The number as a double. -/
def Quantity.toFloat : Quantity → Float
  | .natural n => (UInt64.ofNat n).toFloat
  | .negative n => -(UInt64.ofNat n).toFloat
  | .double value => value

/-! ## Significands -/

/-- Digits gathered into a number of 64 bits. -/
structure Significand where
  value : Nat
  /-- How many powers of ten the dropped whole digits take away. -/
  dropped : Nat
  /-- How many digits after the point are in the value. -/
  taken : Nat
  /-- Whether a digit after the point did not fit. -/
  full : Bool
  deriving DecidableEq, Repr

namespace Significand

/-- Without digits. -/
def zero : Significand := ⟨0, 0, 0, false⟩

/-- Whether one more digit fits. -/
def fits (s : Significand) (digit : Nat) : Bool := s.value * 10 + digit < UInt64.size

/-- Takes a digit before the point. After one that does not fit, the others only count. -/
def pushWhole (s : Significand) (digit : Nat) : Significand :=
  if s.dropped = 0 && s.fits digit then { s with value := s.value * 10 + digit }
  else { s with dropped := s.dropped + 1 }

/-- Takes a digit after the point. After one that does not fit, the others are lost. -/
def pushFraction (s : Significand) (digit : Nat) : Significand :=
  if !s.full && s.fits digit then { s with value := s.value * 10 + digit, taken := s.taken + 1 }
  else { s with full := true }

end Significand

/-- A power of ten as a double. -/
def powerOfTen (n : Nat) : Float := Float.ofScientific 1 false n

/-- A double times a power of ten, in as many steps as the largest power of a double asks for.
There is no product past the largest double. -/
def scale (f : Float) (exponent : Int) : Option Float :=
  if exponent.natAbs ≤ 308 then
    if 0 ≤ exponent then
      let product := f * powerOfTen exponent.natAbs
      if product.isInf then none else some product
    else some (f / powerOfTen exponent.natAbs)
  else if f == 0 then some f
  else if 0 ≤ exponent then none
  else scale (f / powerOfTen 308) (exponent + 308)
termination_by exponent.natAbs
decreasing_by omega

namespace Numeral

/-- The number that a list of digits writes. -/
def digitsValue (digits : List Nat) : Nat := digits.foldl (fun n d => n * 10 + d) 0

/-- The exponent as it is written. -/
def writtenExponent (n : Numeral) : Int :=
  match n.exponent with
  | none => 0
  | some (true, digits) => -(digitsValue digits : Int)
  | some (false, digits) => digitsValue digits

/-- The number that the numeral stands for, unless it is too large. Minus zero is a double. -/
def value? (n : Numeral) : Option Quantity :=
  let whole := n.whole.foldl Significand.pushWhole .zero
  if !n.pointed && n.exponent.isNone && whole.dropped = 0 then
    if !n.negative then some (.natural whole.value)
    else if 0 < whole.value && whole.value ≤ UInt64.size / 2 then some (.negative whole.value)
    else some (.double (-(UInt64.ofNat whole.value).toFloat))
  else
    let all := n.fraction.foldl Significand.pushFraction whole
    let exponent := n.writtenExponent + all.dropped - all.taken
    (scale (UInt64.ofNat all.value).toFloat exponent).map fun f =>
      .double (if n.negative then -f else f)

end Numeral

end Bundler
