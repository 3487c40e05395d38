/-! # Classes of code points

A class of characters is held as the ascending code points at which membership changes: the first
begins a run of members, the second ends it, and so on. A code point is a member when the number of
changes up to it is odd. -/

set_option autoImplicit false

namespace Bundler.Text

/-- A class of code points, given by where its runs of members begin and end. -/
structure CodePoints where
  /-- The ascending code points at which membership changes. -/
  changes : Array Nat

/-- Whether a character belongs to the class. -/
def CodePoints.contains (cls : CodePoints) (c : Char) : Bool :=
  cls.changes.countP (· ≤ c.toNat) % 2 == 1

end Bundler.Text
