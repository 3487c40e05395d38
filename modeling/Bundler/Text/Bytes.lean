/-! # Texts measured in bytes

Offsets, columns and lengths of this library count the bytes of a text written in UTF-8, while a
text itself is a list of characters. `byteSize` is the measure, `takeBytes` the longest part that
fits into a number of bytes, and `splitBytes?` the cut at a byte offset, which exists only where a
character begins. -/

set_option autoImplicit false

namespace Bundler.Text

/-- The number of bytes that a list of characters takes in UTF-8. -/
def byteSize : List Char → Nat
  | [] => 0
  | c :: cs => c.utf8Size + byteSize cs

/-- The longest part from the front that takes at most the given number of bytes. -/
def takeBytes : Nat → List Char → List Char
  | _, [] => []
  | n, c :: cs => if c.utf8Size ≤ n then c :: takeBytes (n - c.utf8Size) cs else []

/-- The cut at a byte offset, unless the offset lies inside a character or past the end. -/
def splitBytes? : Nat → List Char → Option (List Char × List Char)
  | 0, cs => some ([], cs)
  | _ + 1, [] => none
  | n + 1, c :: cs =>
    if c.utf8Size ≤ n + 1 then
      (splitBytes? (n + 1 - c.utf8Size) cs).map fun (front, back) => (c :: front, back)
    else none

/-! ## Laws of the cuts -/

theorem byteSize_append (xs ys : List Char) : byteSize (xs ++ ys) = byteSize xs + byteSize ys := by
  induction xs with
  | nil => simp [byteSize]
  | cons c cs ih => simp [byteSize, ih, Nat.add_assoc]

theorem takeBytes_prefix (n : Nat) (cs : List Char) : takeBytes n cs <+: cs := by
  induction cs generalizing n with
  | nil => simp [takeBytes]
  | cons c cs ih =>
    unfold takeBytes
    split
    · exact List.cons_prefix_cons.2 ⟨rfl, ih _⟩
    · exact List.nil_prefix

theorem byteSize_takeBytes_le (n : Nat) (cs : List Char) : byteSize (takeBytes n cs) ≤ n := by
  induction cs generalizing n with
  | nil => simp [takeBytes, byteSize]
  | cons c cs ih =>
    unfold takeBytes
    split
    · have := ih (n - c.utf8Size)
      simp only [byteSize]
      omega
    · simp [byteSize]

/-- A cut at the end of a front part gives back the two parts. -/
theorem splitBytes?_append (xs ys : List Char) :
    splitBytes? (byteSize xs) (xs ++ ys) = some (xs, ys) := by
  induction xs with
  | nil => simp [byteSize, splitBytes?]
  | cons c cs ih =>
    have hpos : 0 < c.utf8Size := Char.utf8Size_pos c
    obtain ⟨k, hk⟩ : ∃ k, c.utf8Size + byteSize cs = k + 1 :=
      ⟨c.utf8Size + byteSize cs - 1, by omega⟩
    have hcut : k + 1 - c.utf8Size = byteSize cs := by omega
    simp only [byteSize, List.cons_append, hk, splitBytes?, hcut, ih]
    rw [if_pos (by omega)]
    rfl

end Bundler.Text
