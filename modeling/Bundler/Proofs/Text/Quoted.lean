import Bundler.Text.Quoted
import Mathlib.Tactic.IntervalCases

/-! # Quoted text reads back

Quoted text shows a text (`Text.shows_quoted`): there is no character in it that cannot be read off
the page, and whoever reads it (`Text.unquote?`) gets the text again. So no two texts are quoted
alike. The reader takes what stands between the quotes from front to back, and within the number of
a character it keeps what the digits have come to. -/

set_option autoImplicit false

namespace Bundler.Text

/-! ## The reader -/

/-- The value of a hexadecimal digit. -/
def hexValue? (c : Char) : Option Nat :=
  if '0' ≤ c ∧ c ≤ '9' then some (c.toNat - '0'.toNat)
  else if 'a' ≤ c ∧ c ≤ 'f' then some (c.toNat - 'a'.toNat + 10)
  else none

/-- What a character behind a backslash stands for. -/
def escaped? : Char → Option Char
  | '"' => some '"'
  | '\\' => some '\\'
  | 'n' => some '\n'
  | 'r' => some '\r'
  | 't' => some '\t'
  | '0' => some '\x00'
  | _ => none

/-- Reads on behind the first quote or, when there is a number, among the digits that have come to
it. -/
def unquoteFrom : Option Nat → List Char → Option (List Char)
  | none, ['"'] => some []
  | none, '\\' :: 'u' :: '\x7b' :: rest => unquoteFrom (some 0) rest
  | none, '\\' :: c :: rest => (escaped? c).bind fun d => (unquoteFrom none rest).map (d :: ·)
  | none, c :: rest =>
    if c = '"' ∨ c = '\\' then none else (unquoteFrom none rest).map (c :: ·)
  | some n, '\x7d' :: rest => (unquoteFrom none rest).map (Char.ofNat n :: ·)
  | some n, c :: rest => (hexValue? c).bind fun d => unquoteFrom (some (16 * n + d)) rest
  | _, [] => none

/-- The text that quoted text stands for. -/
def unquote? (shown : String) : Option String :=
  match shown.toList with
  | '"' :: rest => (unquoteFrom none rest).map String.ofList
  | _ => none

/-! ## Numbers -/

/-- What the reader makes of a digit, which is a character that can be read. -/
structure IsDigitOf (c : Char) (d : Nat) : Prop where
  value : hexValue? c = some d
  readable : isNumbered c = false
  noBrace : c ≠ '\x7d'

theorem isDigitOf_digitChar {d : Nat} (h : d < 16) : IsDigitOf d.digitChar d := by
  interval_cases d <;> exact ⟨by decide, by decide, by decide⟩

theorem unquoteFrom_digit {c : Char} {d : Nat} (h : IsDigitOf c d) (n : Nat) (rest : List Char) :
    unquoteFrom (some n) (c :: rest) = unquoteFrom (some (16 * n + d)) rest := by
  rw [unquoteFrom, h.value, Option.bind_some]
  exact h.noBrace

/-- The digits of a number come to the number, with no digits in front. -/
theorem unquoteFrom_toDigits (m : Nat) (rest : List Char) :
    unquoteFrom (some 0) (Nat.toDigits 16 m ++ rest) = unquoteFrom (some m) rest := by
  induction m using Nat.strongRecOn generalizing rest with
  | ind m ih =>
      by_cases hlt : m < 16
      · rw [Nat.toDigits_of_lt_base hlt, List.singleton_append,
          unquoteFrom_digit (isDigitOf_digitChar hlt), Nat.zero_add]
      · have hdigit := isDigitOf_digitChar (Nat.mod_lt m (by decide : 0 < 16))
        rw [Nat.toDigits_of_base_le (by decide) (Nat.le_of_not_lt hlt), List.append_assoc,
          ih (m / 16) (Nat.div_lt_self (by omega) (by decide)), List.singleton_append,
          unquoteFrom_digit hdigit, Nat.div_add_mod]

theorem readable_of_mem_toDigits {m : Nat} {c : Char} (h : c ∈ Nat.toDigits 16 m) :
    isNumbered c = false := by
  induction m using Nat.strongRecOn with
  | ind m ih =>
      by_cases hlt : m < 16
      · rw [Nat.toDigits_of_lt_base hlt, List.mem_singleton] at h
        exact h ▸ (isDigitOf_digitChar hlt).readable
      · rw [Nat.toDigits_of_base_le (by decide) (Nat.le_of_not_lt hlt), List.mem_append,
          List.mem_singleton] at h
        rcases h with h | rfl
        · exact ih (m / 16) (Nat.div_lt_self (by omega) (by decide)) h
        · exact (isDigitOf_digitChar (Nat.mod_lt m (by decide))).readable

/-! ## Characters -/

/-- How a character stands in quoted text: behind a backslash, as itself or by its number. -/
theorem quotedChar_cases (c : Char) :
    (∃ letter, letter ≠ 'u' ∧ isNumbered letter = false ∧ escaped? letter = some c ∧
      quotedChar c = ['\\', letter]) ∨
    (isNumbered c = false ∧ c ≠ '"' ∧ c ≠ '\\' ∧ quotedChar c = [c]) ∨
    quotedChar c = ['\\', 'u', '\x7b'] ++ hexNumber c ++ ['\x7d'] := by
  fun_cases quotedChar c with
  | case1 => exact .inl ⟨'"', by decide⟩
  | case2 => exact .inl ⟨'\\', by decide⟩
  | case3 => exact .inl ⟨'n', by decide⟩
  | case4 => exact .inl ⟨'r', by decide⟩
  | case5 => exact .inl ⟨'t', by decide⟩
  | case6 => exact .inl ⟨'0', by decide⟩
  | case7 => exact .inr (.inr rfl)
  | case8 _ hquote hslash _ _ _ _ hreadable =>
      exact .inr (.inl ⟨Bool.eq_false_iff.2 hreadable, hquote, hslash, rfl⟩)

theorem unquoteFrom_quotedChar (c : Char) (rest : List Char) :
    unquoteFrom none (quotedChar c ++ rest) = (unquoteFrom none rest).map (c :: ·) := by
  rcases quotedChar_cases c with ⟨letter, hletter, -, hstands, hquoted⟩ |
    ⟨-, hquote, hslash, hquoted⟩ | hquoted
  · rw [hquoted, List.cons_append, List.singleton_append, unquoteFrom, hstands, Option.bind_some]
    exact fun _ hu => absurd hu hletter
  · rw [hquoted, List.singleton_append, unquoteFrom, if_neg (not_or.2 ⟨hquote, hslash⟩)]
    -- the reader's cases for a quote and for a backslash are left, and it is neither
    all_goals grind
  · rw [hquoted, hexNumber]
    show unquoteFrom (some 0) (Nat.toDigits 16 c.toNat ++ ['\x7d'] ++ rest) = _
    rw [List.append_assoc, unquoteFrom_toDigits, List.singleton_append, unquoteFrom,
      Char.ofNat_toNat]

theorem readable_of_mem_quotedChar {c d : Char} (h : d ∈ quotedChar c) : isNumbered d = false := by
  rcases quotedChar_cases c with ⟨letter, -, hreadable, -, hquoted⟩ |
    ⟨hreadable, -, -, hquoted⟩ | hquoted
  · rw [hquoted, List.mem_cons, List.mem_singleton] at h
    rcases h with rfl | rfl
    · decide
    · exact hreadable
  · rw [hquoted, List.mem_singleton] at h
    exact h ▸ hreadable
  · rw [hquoted, List.mem_append, List.mem_append, List.mem_singleton] at h
    rcases h with (hfront | hdigit) | rfl
    · simp only [List.mem_cons, List.not_mem_nil, or_false] at hfront
      rcases hfront with rfl | rfl | rfl <;> decide
    · exact readable_of_mem_toDigits hdigit
    · decide

/-! ## Texts -/

/-- A text is shown by another one, which can be read off the page and reads back as it. -/
structure Shows (shown text : String) : Prop where
  readable : ∀ c ∈ shown.toList, isNumbered c = false
  reads : unquote? shown = some text

theorem unquoteFrom_quoted (cs : List Char) :
    unquoteFrom none (cs.flatMap quotedChar ++ ['"']) = some cs := by
  induction cs with
  | nil => rfl
  | cons c cs ih =>
      rw [List.flatMap_cons, List.append_assoc, unquoteFrom_quotedChar, ih, Option.map_some]

theorem shows_quoted (text : String) : Shows (quoted text) text where
  readable := by
    intro c hc
    rw [quoted, String.toList_ofList, List.mem_append, List.mem_cons, List.mem_singleton] at hc
    rcases hc with (rfl | hc) | rfl
    · decide
    · obtain ⟨d, -, hc⟩ := List.mem_flatMap.1 hc
      exact readable_of_mem_quotedChar hc
    · decide
  reads := by
    rw [unquote?, quoted, String.toList_ofList]
    show (unquoteFrom none (text.toList.flatMap quotedChar ++ ['"'])).map String.ofList = _
    rw [unquoteFrom_quoted, Option.map_some, String.ofList_toList]

end Bundler.Text
