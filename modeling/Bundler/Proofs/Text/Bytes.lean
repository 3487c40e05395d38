import Bundler.Text.Bytes
import Mathlib.Data.List.Infix
import Mathlib.Order.Bounds.Basic

/-! # Cuts between characters

A byte offset is a place to cut a text at only where a character begins or the text ends
(`IsBoundary`). What is in front of a cut is determined by its number of bytes, since a character
takes at least one (`prefix_of_byteSize_le`); so `splitBytes?` finds the cut if there is one
(`splitBytes?_eq_some_iff`), and `takeBytes` cuts at the last boundary that is not past the offset
(`isGreatest_takeBytes`). -/

set_option autoImplicit false

namespace Bundler.Text

/-! ## Sizes -/

theorem byteSize_eq_zero_iff (cs : List Char) : byteSize cs = 0 ↔ cs = [] := by
  cases cs with
  | nil => simp [byteSize]
  | cons c cs =>
      have hpos : 0 < c.utf8Size := Char.utf8Size_pos c
      simp only [byteSize, reduceCtorEq, iff_false]
      omega

theorem byteSize_singleton (c : Char) : byteSize [c] = c.utf8Size := rfl

/-- Of two parts from the front of a text, the one with fewer bytes is in front of the other. -/
theorem prefix_of_byteSize_le {xs ys cs : List Char} (hxs : xs <+: cs) (hys : ys <+: cs)
    (h : byteSize xs ≤ byteSize ys) : xs <+: ys := by
  rcases List.prefix_or_prefix_of_prefix hxs hys with hxy | ⟨more, rfl⟩
  · exact hxy
  · -- the longer one has no more bytes, so nothing is behind the shorter one
    rw [byteSize_append] at h
    have hmore : more = [] := (byteSize_eq_zero_iff more).1 (by omega)
    rw [hmore, List.append_nil]

/-- A part from the front of a text is determined by its number of bytes. -/
theorem eq_of_byteSize_eq {xs ys cs : List Char} (hxs : xs <+: cs) (hys : ys <+: cs)
    (h : byteSize xs = byteSize ys) : xs = ys :=
  (prefix_of_byteSize_le hxs hys h.le).eq_of_length_le
    (prefix_of_byteSize_le hys hxs h.ge).length_le

/-! ## Cuts -/

/-- The cut at an offset is the one that has as many bytes in front of it. -/
theorem splitBytes?_eq_some_iff {n : Nat} {cs front back : List Char} :
    splitBytes? n cs = some (front, back) ↔ cs = front ++ back ∧ byteSize front = n := by
  constructor
  · intro h
    fun_induction splitBytes? n cs generalizing front with
    | case1 cs =>
        obtain ⟨rfl, rfl⟩ := Prod.mk.inj (Option.some.inj h)
        exact ⟨rfl, rfl⟩
    | case2 => cases h
    | case3 n c cs hle ih =>
        obtain ⟨⟨front, back'⟩, hcut, heq⟩ := Option.map_eq_some_iff.1 h
        obtain ⟨rfl, rfl⟩ := Prod.mk.inj heq
        obtain ⟨rfl, hsize⟩ := ih hcut
        refine ⟨rfl, ?_⟩
        simp only [byteSize]
        omega
    | case4 => cases h
  · rintro ⟨rfl, rfl⟩
    exact splitBytes?_append front back

/-- A byte offset is where a character of a text begins, or where the text ends. -/
def IsBoundary (contents : List Char) (offset : Nat) : Prop :=
  ∃ front, front <+: contents ∧ byteSize front = offset

/-- The part that fits into a number of bytes has every other part in front of it that does. -/
theorem prefix_takeBytes {n : Nat} {xs cs : List Char} (hxs : xs <+: cs) (h : byteSize xs ≤ n) :
    xs <+: takeBytes n cs := by
  induction cs generalizing n xs with
  | nil => exact hxs
  | cons c cs ih =>
      cases xs with
      | nil => exact List.nil_prefix
      | cons x xs =>
          obtain ⟨rfl, htail⟩ := List.cons_prefix_cons.1 hxs
          simp only [byteSize] at h
          have hc : x.utf8Size ≤ n := by omega
          have hrest : byteSize xs ≤ n - x.utf8Size := by omega
          unfold takeBytes
          rw [if_pos hc]
          exact List.cons_prefix_cons.2 ⟨rfl, ih htail hrest⟩

/-- What is in front of a cut fits into its number of bytes, and nothing more does. -/
theorem takeBytes_append (front back : List Char) :
    takeBytes (byteSize front) (front ++ back) = front := by
  have htaken := takeBytes_prefix (byteSize front) (front ++ back)
  have hfront := List.prefix_append front back
  have hle := prefix_of_byteSize_le htaken hfront (byteSize_takeBytes_le _ _)
  have hge := prefix_takeBytes hfront (Nat.le_refl (byteSize front))
  exact hle.eq_of_length_le hge.length_le

/-- The next character does not fit any more. -/
theorem lt_byteSize_takeBytes_add {n : Nat} {cs after : List Char} {c : Char}
    (h : cs = takeBytes n cs ++ c :: after) : n < byteSize (takeBytes n cs) + c.utf8Size := by
  by_contra hfits
  have hsize : byteSize (takeBytes n cs ++ [c]) ≤ n := by
    rw [byteSize_append, byteSize_singleton]
    omega
  have hprefix : takeBytes n cs ++ [c] <+: cs := ⟨after, by rw [← List.append_cons, ← h]⟩
  have hlength := (prefix_takeBytes hprefix hsize).length_le
  rw [List.length_append, List.length_singleton] at hlength
  omega

/-- Taking bytes cuts at the last boundary that is not past the offset, and not past the end. -/
theorem isGreatest_takeBytes (offset : Nat) (contents : List Char) :
    IsGreatest {b | IsBoundary contents b ∧ b ≤ min offset (byteSize contents)}
      (byteSize (takeBytes offset contents)) := by
  have hprefix := takeBytes_prefix offset contents
  constructor
  · refine ⟨⟨_, hprefix, rfl⟩, ?_⟩
    have hoffset := byteSize_takeBytes_le offset contents
    obtain ⟨rest, hrest⟩ := hprefix
    have hsize : byteSize (takeBytes offset contents) + byteSize rest = byteSize contents := by
      rw [← byteSize_append, hrest]
    omega
  · rintro b ⟨⟨front, hfront, rfl⟩, hb⟩
    obtain ⟨more, hmore⟩ := prefix_takeBytes hfront (hb.trans (Nat.min_le_left _ _))
    rw [← hmore, byteSize_append]
    omega

end Bundler.Text
