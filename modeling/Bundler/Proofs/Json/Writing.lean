import Bundler.Proofs.Json.Codec

/-! # Every value can be written

For each codec, whatever fits can be written (`Codec.Writable`): every text can be quoted
(`exists_quote`), every natural number has its digits (`exists_digits`), and what can be written by
itself can be written as an item or as a member. So what is said of the texts that write a value is
said of some text. -/

set_option autoImplicit false

namespace Bundler

namespace Json

/-! ## Texts and numbers -/

/-- The digits of a control character. -/
theorem hexUnit?_of_control : ∀ n < 0x20,
    hexUnit? '0' '0' (if n < 16 then '0' else '1') (Nat.digitChar (n % 16)) = some n := by
  decide

theorem Spells.unit_of_control {c : Char} (hc : c.toNat < 0x20) {ps : List Piece} {cs : List Char}
    (h : Spells ps cs) : Spells (.unit c.toNat :: ps) (c :: cs) := by
  have hleading : Quote.isLeading c.toNat = false := by
    simp only [Quote.isLeading, Bool.and_eq_false_iff, decide_eq_false_iff_not]
    omega
  have htrailing : Quote.isTrailing c.toNat = false := by
    simp only [Quote.isTrailing, Bool.and_eq_false_iff, decide_eq_false_iff_not]
    omega
  have hunit := Spells.unit hleading htrailing h
  rwa [Char.ofNat_toNat] at hunit

/-- Every list of characters can be quoted. -/
theorem exists_quoteBody (text : List Char) : ∃ cs ps, QuoteBody cs ps ∧ Spells ps text := by
  induction text with
  | nil => exact ⟨_, _, .close, .nil⟩
  | cons c text ih =>
      obtain ⟨cs, ps, hbody, hspells⟩ := ih
      by_cases hquote : c = '"'
      · exact ⟨_, _, .escape (c := '"') rfl hbody, hquote ▸ .char hspells⟩
      · by_cases hslash : c = '\\'
        · exact ⟨_, _, .escape (c := '\\') rfl hbody, hslash ▸ .char hspells⟩
        · by_cases hcontrol : c.toNat < 0x20
          · exact ⟨_, _, .unit (hexUnit?_of_control c.toNat hcontrol) hbody,
              .unit_of_control hcontrol hspells⟩
          · exact ⟨_, _, .char hquote hslash hcontrol hbody, .char hspells⟩

theorem exists_quote (text : String) :
    ∃ body ps, QuoteBody body ps ∧ Quote.Says ⟨ps, .closed⟩ text := by
  obtain ⟨body, ps, hbody, hspells⟩ := exists_quoteBody text.toList
  exact ⟨body, ps, hbody, rfl, hspells⟩

/-- The character of a digit. -/
theorem digits_digitChar : ∀ d < 10, (Nat.digitChar d).isDigit = true ∧
    (Nat.digitChar d).toNat - '0'.toNat = d := by
  decide

/-- Every natural number has its digits. -/
theorem exists_digits (n : Nat) : ∃ cs digits, Digits cs digits ∧
    Numeral.digitsValue digits = n ∧ (digits.head? = some 0 → digits = [0]) := by
  induction n using Nat.strongRecOn with
  | ind n ih =>
      have hlast := digits_digitChar (n % 10) (Nat.mod_lt n (by decide))
      by_cases hsmall : n < 10
      · have hmod : n % 10 = n := Nat.mod_eq_of_lt hsmall
        rw [hmod] at hlast
        refine ⟨[Nat.digitChar n], [n], ⟨by simp, by simpa using hlast.1, ?_⟩, ?_, ?_⟩
        · rw [List.map_singleton, hlast.2]
        · simp [Numeral.digitsValue]
        · intro hzero
          rw [Option.some.inj hzero]
      · obtain ⟨cs, digits, hdigits, hvalue, hzero⟩ := ih (n / 10) (by omega)
        have hne := digits_ne_nil hdigits
        refine ⟨cs ++ [Nat.digitChar (n % 10)], digits ++ [n % 10], ⟨by simp, ?_, ?_⟩, ?_, ?_⟩
        · intro c hc
          rcases List.mem_append.1 hc with hc | hc
          · exact hdigits.isDigit c hc
          · rw [List.mem_singleton.1 hc]
            exact hlast.1
        · rw [List.map_append, ← hdigits.eq_map, List.map_singleton, hlast.2]
        · have hfold : Numeral.digitsValue (digits ++ [n % 10]) =
              Numeral.digitsValue digits * 10 + n % 10 := List.foldl_append
          rw [hfold, hvalue]
          omega
        · -- a number of several digits does not begin with zero
          intro hhead
          rw [List.head?_append_of_ne_nil _ hne] at hhead
          rw [hzero hhead] at hvalue
          have hten : 0 = n / 10 := hvalue
          omega

/-! ## Items and members -/

theorem exists_gap (first : Bool) : ∃ gap, Gap first gap := by
  cases first with
  | true => exact ⟨[], .first (List.forall_mem_nil _)⟩
  | false => exact ⟨[','], .next (List.forall_mem_nil _) (List.forall_mem_nil _)⟩

/-- What can be written by itself can be written as items. -/
theorem exists_writtenItems {items : List Json} (h : ∀ j ∈ items, ∃ cs, Written cs j)
    (first : Bool) : ∃ cs, WrittenItems first cs items := by
  induction items generalizing first with
  | nil => exact ⟨[] ++ [']'], .close (List.forall_mem_nil _)⟩
  | cons j items ih =>
      obtain ⟨⟨cs, hj⟩, hitems⟩ := List.forall_mem_cons.1 h
      obtain ⟨rest, hrest⟩ := ih hitems false
      obtain ⟨gap, hgap⟩ := exists_gap first
      exact ⟨_, .item hgap hj hrest⟩

/-- A member with a key and a value that can be written. -/
def Writable (member : Quote × Json) : Prop :=
  (∃ body ps, QuoteBody body ps ∧ member.1 = ⟨ps, .closed⟩) ∧ ∃ cs, Written cs member.2

theorem exists_writtenMembers {members : List (Quote × Json)}
    (h : ∀ member ∈ members, Writable member) (first : Bool) :
    ∃ cs, WrittenMembers first cs members := by
  induction members generalizing first with
  | nil => exact ⟨[] ++ ['\x7d'], .close (List.forall_mem_nil _)⟩
  | cons member members ih =>
      obtain ⟨key, j⟩ := member
      obtain ⟨⟨⟨body, ps, hbody, rfl⟩, cs, hj⟩, hmembers⟩ := List.forall_mem_cons.1 h
      obtain ⟨rest, hrest⟩ := ih hmembers false
      obtain ⟨gap, hgap⟩ := exists_gap first
      have hnone : Blanks [] := List.forall_mem_nil _
      exact ⟨_, .member hgap hbody hnone hnone hj hrest⟩

/-- Every text can be the key of a value that can be written. -/
theorem exists_member (name : String) {j : Json} (h : ∃ cs, Written cs j) :
    ∃ key : Quote, key.Says name ∧ Writable (key, j) := by
  obtain ⟨body, ps, hbody, hmeans⟩ := exists_quote name
  exact ⟨⟨ps, .closed⟩, hmeans, ⟨body, ps, hbody, rfl⟩, h⟩

end Json

/-! ## Codecs -/

namespace Codec

variable {α : Type}

/-- Every value that there is room for can be written. -/
def Writable (c : Codec α) : Prop :=
  ∀ a, c.Fits a → ∃ j, c.Writes a j ∧ ∃ cs, Json.Written cs j

theorem writable_bool : bool.Writable := by
  intro b _
  cases b with
  | false => exact ⟨_, rfl, _, .false⟩
  | true => exact ⟨_, rfl, _, .true⟩

theorem writable_text : text.Writable := by
  intro text _
  obtain ⟨body, ps, hbody, hmeans⟩ := Json.exists_quote text
  exact ⟨_, ⟨⟨ps, .closed⟩, rfl, hmeans⟩, _, .text hbody⟩

theorem writable_choice [Choice α] : (choice : Codec α).Writable :=
  fun a _ => writable_text (Choice.name a) trivial

theorem writable_natural : natural.Writable := by
  intro n _
  obtain ⟨cs, digits, hdigits, hvalue, hzero⟩ := Json.exists_digits n
  refine ⟨_, ⟨digits, rfl, hvalue⟩, [] ++ cs ++ [] ++ [], .numeral ?_⟩
  exact .intro .none hdigits hzero .none .none

theorem writable_list {c : Codec α} (h : c.Writable) : c.list.Writable := by
  intro as hfits
  obtain ⟨items, hitems⟩ := exists_forall₂ fun a ha => h a (hfits a ha)
  obtain ⟨cs, hcs⟩ :=
    Json.exists_writtenItems (forall_mem_of_forall₂ hitems fun _ _ hitem => hitem.2) true
  exact ⟨_, ⟨items, rfl, hitems.imp fun _ _ hitem => hitem.1⟩, _, .array hcs⟩

theorem writable_option {c : Codec α} (h : c.Writable) (hnull : ∀ a, ¬ c.Writes a .null) :
    c.option.Writable := by
  intro a? hfits
  cases a? with
  | none => exact ⟨.null, rfl, _, .null⟩
  | some a =>
      obtain ⟨j, hwrites, hwritten⟩ := h a (hfits a rfl)
      refine ⟨j, ⟨hwrites, ?_⟩, hwritten⟩
      rintro rfl
      exact hnull a hwrites

theorem writable_dictionary {c : Codec α} (h : c.Writable) : c.dictionary.Writable := by
  intro d hfits
  have hmember : ∀ entry ∈ d.entries, ∃ member : Quote × Json,
      (member.1.Says entry.1 ∧ c.Writes entry.2 member.2) ∧ Json.Writable member := by
    intro entry hentry
    obtain ⟨j, hwrites, hwritten⟩ := h entry.2 (hfits entry hentry)
    obtain ⟨key, hkey, hmember⟩ := Json.exists_member entry.1 hwritten
    exact ⟨(key, j), ⟨hkey, hwrites⟩, hmember⟩
  obtain ⟨members, hmembers⟩ := exists_forall₂ hmember
  obtain ⟨cs, hcs⟩ :=
    Json.exists_writtenMembers (forall_mem_of_forall₂ hmembers fun _ _ hmember => hmember.2) true
  exact ⟨_, ⟨members, d.entries, rfl, .refl _, hmembers.imp fun _ _ hmember => hmember.1⟩, _,
    .object hcs⟩

/-- A record can be written with all its fields. -/
theorem writable_record {σ : Type} {slots : List (Slot σ)} (h : IsTable slots)
    (hslots : ∀ slot ∈ slots, slot.codec.Writable) (defaults : σ) :
    (record slots defaults).Writable := by
  intro s hfits
  have hmember : ∀ slot ∈ slots, ∃ member : Quote × Json,
      (member.1.Says slot.name ∧ ∀ other ∈ slots, other.name = slot.name →
        other.codec.Writes (other.get s) member.2) ∧ Json.Writable member := by
    intro slot hslot
    obtain ⟨j, hwrites, hwritten⟩ := hslots slot hslot _ (hfits slot hslot)
    obtain ⟨key, hkey, hmember⟩ := Json.exists_member slot.name hwritten
    refine ⟨(key, j), ⟨hkey, fun other hother hname => ?_⟩, hmember⟩
    obtain rfl := h.eq_of_name hother hslot hname
    exact hwrites
  obtain ⟨members, hmembers⟩ := exists_forall₂ hmember
  obtain ⟨cs, hcs⟩ :=
    Json.exists_writtenMembers (forall_mem_of_forall₂ hmembers fun _ _ hmember => hmember.2) true
  refine ⟨_, ⟨members, rfl, writesRecord_of_names _ ?_ h.names ?_⟩, _, .object hcs⟩
  · exact List.forall₂_map_left_iff.2 (hmembers.imp fun _ _ hmember => hmember.1)
  · exact fun slot hslot hleft => absurd (List.mem_map_of_mem hslot) hleft

end Codec

end Bundler
