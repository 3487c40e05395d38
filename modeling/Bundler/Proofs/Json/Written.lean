import Bundler.Proofs.Json.Constant
import Mathlib.Data.List.DropRight

/-! # Texts of JSON values

The grammar of JSON values of any depth, as a relation between a text and the tree that is read from
it (`Written`): how a value is spelled is kept in the tree, and blanks are not. Whatever the grammar
has for the text of a tree is read as this tree (`read_of_isDocument`), and as a value that nobody
asks for it is passed over (`Written.skip`). Nothing else is read and passed over without a fault
(`isDocument_iff`). -/

set_option autoImplicit false

namespace Bundler.Json

/-! ## The grammar -/

/-- There are only blanks. -/
def Blanks (cs : List Char) : Prop := ∀ c ∈ cs, isBlank c = true

/-- What stands before an item or a member: blanks, and behind another one a comma. -/
inductive Gap : Bool → List Char → Prop
  | first {blanks : List Char} (h : Blanks blanks) : Gap true blanks
  | next {before after : List Char} (hbefore : Blanks before) (hafter : Blanks after) :
      Gap false (before ++ ',' :: after)

mutual

/-- The whole text of a value without blanks around it. -/
inductive Written : List Char → Json → Prop
  | null : Written ['n', 'u', 'l', 'l'] .null
  | true : Written ['t', 'r', 'u', 'e'] (.bool true)
  | false : Written ['f', 'a', 'l', 's', 'e'] (.bool false)
  | numeral {cs : List Char} {n : Numeral} (h : NumeralText cs n) : Written cs (.numeral n)
  | text {cs : List Char} {ps : List Piece} (h : QuoteBody cs ps) :
      Written ('"' :: cs) (.text ⟨ps, .closed⟩)
  | array {cs : List Char} {items : List Json} (h : WrittenItems true cs items) :
      Written ('[' :: cs) (.array items .closed)
  | object {cs : List Char} {members : List (Quote × Json)} (h : WrittenMembers true cs members) :
      Written ('\x7b' :: cs) (.object members .closed)

/-- What stands in an array from the first of the given items on, up to and with the bracket that
closes it. -/
inductive WrittenItems : Bool → List Char → List Json → Prop
  | close {first : Bool} {blanks : List Char} (h : Blanks blanks) :
      WrittenItems first (blanks ++ [']']) []
  | item {first : Bool} {gap cs rest : List Char} {j : Json} {items : List Json}
      (hgap : Gap first gap) (h : Written cs j) (hrest : WrittenItems false rest items) :
      WrittenItems first (gap ++ (cs ++ rest)) (j :: items)

/-- What stands in an object from the first of the given members on, up to and with the brace that
closes it. -/
inductive WrittenMembers : Bool → List Char → List (Quote × Json) → Prop
  | close {first : Bool} {blanks : List Char} (h : Blanks blanks) :
      WrittenMembers first (blanks ++ ['\x7d']) []
  | member {first : Bool} {gap key before after cs rest : List Char} {ps : List Piece} {j : Json}
      {members : List (Quote × Json)} (hgap : Gap first gap) (hkey : QuoteBody key ps)
      (hbefore : Blanks before) (hafter : Blanks after) (h : Written cs j)
      (hrest : WrittenMembers false rest members) :
      WrittenMembers first (gap ++ '"' :: (key ++ (before ++ ':' :: (after ++ (cs ++ rest)))))
        ((⟨ps, .closed⟩, j) :: members)

end

/-- A text is that of a value with blanks around it. -/
def IsDocument (text : String) (j : Json) : Prop :=
  ∃ before cs after, text.toList = before ++ (cs ++ after) ∧ Blanks before ∧ Blanks after ∧
    Written cs j

/-! ## Passing over values -/

/-- Two steps that give nothing are both taken, or there is a problem. -/
theorem ok_of_bind {ε : Type} {x : Except ε Unit} {f : Unit → Except ε Unit}
    (h : x >>= f = .ok ()) : x = .ok () ∧ f () = .ok () := by
  cases x with
  | error e => cases h
  | ok _ => exact ⟨rfl, h⟩

mutual

theorem Written.skip {cs : List Char} {j : Json} (h : Written cs j) : j.skip = .ok () := by
  cases h with
  | null | true | false | numeral _ | text _ => rfl
  | array h =>
      rw [Json.skip, h.skip]
      rfl
  | object h =>
      rw [Json.skip, h.skip]
      rfl

theorem WrittenItems.skip {first : Bool} {cs : List Char} {items : List Json}
    (h : WrittenItems first cs items) : skipItems items = .ok () := by
  cases h with
  | close _ => rfl
  | item _ h hrest =>
      rw [skipItems, h.skip]
      exact hrest.skip

theorem WrittenMembers.skip {first : Bool} {cs : List Char} {members : List (Quote × Json)}
    (h : WrittenMembers first cs members) : skipMembers members = .ok () := by
  cases h with
  | close _ => rfl
  | member _ _ _ _ h hrest =>
      rw [skipMembers, h.skip]
      exact hrest.skip

end

/-! ## How texts begin -/

/-- The first character of a value. It is no blank and ends no array. -/
theorem head_of_written {cs : List Char} {j : Json} (h : Written cs j) :
    ∃ c left, cs = c :: left ∧ isBlank c = false ∧ c ≠ ']' := by
  cases h with
  | null | true | false | text _ | array _ | object _ =>
      exact ⟨_, _, rfl, rfl, by decide⟩
  | numeral h =>
      obtain ⟨c, left, rfl, hc⟩ := head_of_numeralText h
      refine ⟨c, left, rfl, isBlank_of_numeral hc, ?_⟩
      rintro rfl
      exact absurd hc (by decide)

theorem stops_append {blanks : List Char} (h : Blanks blanks) {rest : List Char}
    (hrest : Stops rest) : Stops (blanks ++ rest) := by
  cases blanks with
  | nil => exact hrest
  | cons c blanks =>
      rintro d ⟨⟩
      have hblank : Stops [c] := stops_of_blanks (by simpa using h c List.mem_cons_self)
      exact hblank c rfl

theorem stops_cons {c : Char} (h : c ∈ [',', ']', '\x7d']) (rest : List Char) :
    Stops (c :: rest) := by
  rintro d ⟨⟩
  simp only [List.mem_cons, List.not_mem_nil, or_false] at h
  obtain rfl | rfl | rfl := h <;> decide

theorem Gap.stops {gap : List Char} (h : Gap false gap) (rest : List Char) :
    Stops (gap ++ rest) := by
  cases h with
  | next hbefore _ =>
      rw [List.append_assoc]
      exact stops_append hbefore (stops_cons (by decide) _)

/-- No numeral goes on behind an item. -/
theorem WrittenItems.stops {cs : List Char} {items : List Json}
    (h : WrittenItems false cs items) (rest : List Char) : Stops (cs ++ rest) := by
  cases h with
  | close h =>
      rw [List.append_assoc]
      exact stops_append h (stops_cons (by decide) _)
  | item hgap _ _ =>
      rw [List.append_assoc]
      exact hgap.stops _

/-- No numeral goes on behind a member. -/
theorem WrittenMembers.stops {cs : List Char} {members : List (Quote × Json)}
    (h : WrittenMembers false cs members) (rest : List Char) : Stops (cs ++ rest) := by
  cases h with
  | close h =>
      rw [List.append_assoc]
      exact stops_append h (stops_cons (by decide) _)
  | member hgap _ _ _ _ _ =>
      rw [List.append_assoc]
      exact hgap.stops _

/-! ## Reading -/

/-- Behind the gap before an item or a member, the readers go on with it. -/
theorem skipBlanks_gap {first : Bool} {gap : List Char} (h : Gap first gap) {c : Char}
    (hblank : isBlank c = false) (left : List Char) :
    ∃ d rest, skipBlanks (gap ++ c :: left) = d :: rest ∧ (!first && d != ',') = false ∧
      (d = c ∨ d = ',') ∧ (if first then d :: rest else skipBlanks rest) = c :: left := by
  cases h with
  | first hblanks =>
      refine ⟨c, left, ?_, rfl, .inl rfl, rfl⟩
      rw [skipBlanks_append hblanks, skipBlanks_cons hblank]
  | @next before after hbefore hafter =>
      refine ⟨',', after ++ c :: left, ?_, rfl, .inr rfl, ?_⟩
      · rw [List.append_assoc, skipBlanks_append hbefore]
        exact skipBlanks_cons rfl
      · exact (skipBlanks_append hafter).trans (skipBlanks_cons hblank)

theorem skipBlanks_skipBlanks (cs : List Char) : skipBlanks (skipBlanks cs) = skipBlanks cs :=
  List.dropWhile_idempotent _ cs

theorem readValue_skipBlanks (depth : Nat) (cs : List Char) :
    readValue depth (skipBlanks cs) = readValue depth cs := by
  cases depth with
  | zero => rw [readValue, readValue]
  | succ depth =>
      rw [readValue, readValue, skipBlanks_skipBlanks]

/-- The readers of the three kinds of text, at a depth of calls: a call takes a character away or is
one inside a call that does, so twice the number of characters is deep enough. -/
structure ReadsAt (depth : Nat) : Prop where
  value {cs : List Char} {j : Json} (h : Written cs j) (hdepth : 2 * cs.length ≤ depth)
    {rest : List Char} (hrest : Stops rest) : readValue depth (cs ++ rest) = (j, rest)
  items {first : Bool} {cs : List Char} {items : List Json} (h : WrittenItems first cs items)
    (hdepth : 2 * cs.length + 1 ≤ depth) (rest : List Char) :
    readItems depth first (cs ++ rest) = (items, .closed, rest)
  members {first : Bool} {cs : List Char} {members : List (Quote × Json)}
    (h : WrittenMembers first cs members) (hdepth : 2 * cs.length + 1 ≤ depth)
    (rest : List Char) : readMembers depth first (cs ++ rest) = (members, .closed, rest)

section

variable {depth : Nat} (ih : ReadsAt depth)

include ih

theorem readValue_of_written {cs : List Char} {j : Json} (h : Written cs j)
    (hdepth : 2 * cs.length ≤ depth + 1) {rest : List Char} (hrest : Stops rest) :
    readValue (depth + 1) (cs ++ rest) = (j, rest) := by
  cases h with
  | null => exact readWord_of_word .null ['u', 'l', 'l'] rest
  | true => exact readWord_of_word (.bool true) ['r', 'u', 'e'] rest
  | false => exact readWord_of_word (.bool false) ['a', 'l', 's', 'e'] rest
  | numeral h =>
      obtain ⟨c, left, rfl, hc⟩ := head_of_numeralText h
      rw [List.cons_append, readValue_of_numeral depth (skipBlanks_cons (isBlank_of_numeral hc)) hc]
      exact readNumeral_of_numeralText h hrest
  | text h =>
      rw [List.cons_append, readValue, skipBlanks_cons rfl]
      simp only [readQuote_of_body h]
  | array h =>
      rw [List.length_cons] at hdepth
      rw [List.cons_append, readValue, skipBlanks_cons rfl]
      simp only [ih.items h (by omega) rest]
  | object h =>
      rw [List.length_cons] at hdepth
      rw [List.cons_append, readValue, skipBlanks_cons rfl]
      simp only [ih.members h (by omega) rest]

theorem readItems_of_written {first : Bool} {cs : List Char} {items : List Json}
    (h : WrittenItems first cs items) (hdepth : 2 * cs.length + 1 ≤ depth + 1)
    (rest : List Char) : readItems (depth + 1) first (cs ++ rest) = (items, .closed, rest) := by
  cases h with
  | close h =>
      rw [List.append_assoc, readItems, skipBlanks_append h]
      rfl
  | @item _ gap cs left j items hgap h hleft =>
      obtain ⟨c, cs, rfl, hblank, hclose⟩ := head_of_written h
      obtain ⟨d, back, hskip, hgo, hd, hback⟩ := skipBlanks_gap hgap hblank (cs ++ (left ++ rest))
      simp only [List.length_append, List.length_cons] at hdepth
      -- the gap is passed over, the item is read, and then the items behind it
      have hvalue : readValue depth (if first then d :: back else back) = (j, left ++ rest) := by
        have hread := ih.value h (by rw [List.length_cons]; omega) (hleft.stops rest)
        cases first with
        | true => exact (congrArg (readValue depth) hback).trans hread
        | false =>
            rw [← readValue_skipBlanks]
            exact (congrArg (readValue depth) hback).trans hread
      have hitems := ih.items hleft (by omega) rest
      have hassoc : gap ++ (c :: cs ++ left) ++ rest = gap ++ c :: (cs ++ (left ++ rest)) := by
        simp
      have hopen : d ≠ ']' := by
        obtain rfl | rfl := hd
        · exact hclose
        · decide
      rw [hassoc, readItems, hskip]
      split
      · rename_i heq
        cases heq
      · rename_i heq
        exact absurd (List.cons.inj heq).1 hopen
      · rename_i heq
        obtain ⟨rfl, rfl⟩ := List.cons.inj heq
        rw [if_neg (by simp [hgo])]
        simp only [hvalue, hitems]

theorem readMembers_of_written {first : Bool} {cs : List Char} {members : List (Quote × Json)}
    (h : WrittenMembers first cs members) (hdepth : 2 * cs.length + 1 ≤ depth + 1)
    (rest : List Char) :
    readMembers (depth + 1) first (cs ++ rest) = (members, .closed, rest) := by
  cases h with
  | close h =>
      rw [List.append_assoc, readMembers, skipBlanks_append h]
      rfl
  | @member _ gap key before after cs left ps j members hgap hkey hbefore hafter h hleft =>
      obtain ⟨d, back, hskip, hgo, hd, hback⟩ := skipBlanks_gap hgap (c := '"') rfl
        (key ++ (before ++ ':' :: (after ++ (cs ++ (left ++ rest)))))
      simp only [List.length_append, List.length_cons] at hdepth
      -- the gap is passed over, and the key, the colon and the value are read before the rest
      have hquote : readQuote (key ++ (before ++ ':' :: (after ++ (cs ++ (left ++ rest))))) =
          (⟨ps, .closed⟩, before ++ ':' :: (after ++ (cs ++ (left ++ rest)))) :=
        readQuote_of_body hkey
      have hcolon : skipBlanks (before ++ ':' :: (after ++ (cs ++ (left ++ rest)))) =
          ':' :: (after ++ (cs ++ (left ++ rest))) := by
        rw [skipBlanks_append hbefore]
        exact skipBlanks_cons rfl
      have hvalue : readValue depth (after ++ (cs ++ (left ++ rest))) = (j, left ++ rest) := by
        rw [← readValue_skipBlanks, skipBlanks_append hafter, readValue_skipBlanks]
        exact ih.value h (by omega) (hleft.stops rest)
      have hmembers := ih.members hleft (by omega) rest
      have hassoc : gap ++ '"' :: (key ++ (before ++ ':' :: (after ++ (cs ++ left)))) ++ rest =
          gap ++ '"' :: (key ++ (before ++ ':' :: (after ++ (cs ++ (left ++ rest))))) := by
        simp
      have hopen : d ≠ '\x7d' := by
        obtain rfl | rfl := hd <;> decide
      rw [hassoc, readMembers, hskip]
      split
      · rename_i heq
        cases heq
      · rename_i heq
        exact absurd (List.cons.inj heq).1 hopen
      · rename_i heq
        obtain ⟨rfl, rfl⟩ := List.cons.inj heq
        rw [if_neg (by simp [hgo])]
        simp only [hback, hquote, hcolon, hvalue, hmembers]

end

/-- Every depth is enough for the texts that are short enough for it. -/
theorem readsAt (depth : Nat) : ReadsAt depth := by
  induction depth with
  | zero =>
      refine ⟨fun h hdepth => ?_, fun h hdepth => ?_, fun h hdepth => ?_⟩
      · obtain ⟨c, left, rfl, -, -⟩ := head_of_written h
        simp at hdepth
      · omega
      · omega
  | succ depth ih =>
      exact ⟨fun h hdepth _ hrest => readValue_of_written ih h hdepth hrest,
        fun h hdepth rest => readItems_of_written ih h hdepth rest,
        fun h hdepth rest => readMembers_of_written ih h hdepth rest⟩

/-- The text of a value is read as this value, with nothing behind it. -/
theorem read_of_isDocument {text : String} {j : Json} (h : IsDocument text j) :
    Document.read text = ⟨j, false⟩ := by
  obtain ⟨before, cs, after, htext, hbefore, hafter, hwritten⟩ := h
  have hlength : 2 * cs.length ≤ 2 * text.toList.length + 2 := by
    rw [htext, List.length_append, List.length_append]
    omega
  have hread : readValue (2 * text.toList.length + 2) text.toList = (j, after) := by
    have hvalue := (readsAt _).value hwritten hlength (stops_of_blanks hafter)
    rw [← readValue_skipBlanks, congrArg skipBlanks htext, skipBlanks_append hbefore,
      readValue_skipBlanks]
    exact hvalue
  have hrest : skipBlanks after = [] := (skipBlanks_eq_nil_iff after).2 hafter
  simp [Document.read, hread, hrest]

/-! ## What is read without a fault -/

theorem eq_closed_of_check {ending : Ending} (h : ending.check = .ok ()) : ending = .closed := by
  cases ending with
  | closed => rfl
  | broken fault => cases h

theorem skipBlanks_first {cs rest : List Char} {c : Char} (hskip : skipBlanks cs = c :: rest)
    (first : Bool) :
    skipBlanks (if first then c :: rest else rest) =
      if first then c :: rest else skipBlanks rest := by
  cases first with
  | true =>
      rw [if_pos rfl, if_pos rfl, ← hskip]
      exact skipBlanks_skipBlanks cs
  | false => rfl

/-- What stands before an item or a member that is read is a gap. -/
theorem exists_gap_of_skipBlanks {first : Bool} {cs rest front : List Char} {c : Char}
    (hskip : skipBlanks cs = c :: rest) (hgo : ¬ (!first && c != ',') = true)
    (hfront : (if first then c :: rest else skipBlanks rest) = front) :
    ∃ gap, cs = gap ++ front ∧ Gap first gap := by
  obtain ⟨before, hcs, hbefore⟩ := exists_blanks cs
  rw [hskip] at hcs
  cases first with
  | true =>
      rw [if_pos rfl] at hfront
      exact ⟨before, hfront ▸ hcs, .first hbefore⟩
  | false =>
      rw [if_neg Bool.false_ne_true] at hfront
      obtain rfl : c = ',' := by simpa using hgo
      obtain ⟨after, hrest, hafter⟩ := exists_blanks rest
      refine ⟨before ++ ',' :: after, ?_, .next hbefore hafter⟩
      rw [← hfront, List.append_assoc, List.cons_append, ← hrest]
      exact hcs

/-- The readers of the three kinds of text give trees without a fault only for such texts. -/
structure WrittenAt (depth : Nat) : Prop where
  value {cs rest : List Char} {j : Json} (h : readValue depth cs = (j, rest))
    (hj : j.skip = .ok ()) : ∃ front, skipBlanks cs = front ++ rest ∧ Written front j
  items {first : Bool} {cs rest : List Char} {items : List Json}
    (h : readItems depth first cs = (items, .closed, rest)) (hitems : skipItems items = .ok ()) :
    ∃ front, cs = front ++ rest ∧ WrittenItems first front items
  members {first : Bool} {cs rest : List Char} {members : List (Quote × Json)}
    (h : readMembers depth first cs = (members, .closed, rest))
    (hmembers : skipMembers members = .ok ()) :
    ∃ front, cs = front ++ rest ∧ WrittenMembers first front members

section

variable {depth : Nat} (ih : WrittenAt depth)

include ih

theorem written_of_readValue {cs rest : List Char} {j : Json}
    (h : readValue (depth + 1) cs = (j, rest)) (hj : j.skip = .ok ()) :
    ∃ front, skipBlanks cs = front ++ rest ∧ Written front j := by
  have hbroken : ∀ f, j ≠ .broken f := by
    rintro f rfl
    cases hj
  rw [readValue] at h
  -- one case for each way in which a value begins
  split at h
  case h_1 =>
    obtain ⟨rfl, -⟩ := Prod.mk.inj h
    exact absurd rfl (hbroken _)
  case h_2 rest heq =>
    obtain ⟨rfl, rfl⟩ := word_of_readWord h hbroken
    exact ⟨_, heq, .null⟩
  case h_3 rest heq =>
    obtain ⟨rfl, rfl⟩ := word_of_readWord h hbroken
    exact ⟨_, heq, .true⟩
  case h_4 rest heq =>
    obtain ⟨rfl, rfl⟩ := word_of_readWord h hbroken
    exact ⟨_, heq, .false⟩
  case h_5 left heq =>
    obtain ⟨⟨ps, ending⟩, back, hread⟩ : ∃ q back, readQuote left = (q, back) := ⟨_, _, rfl⟩
    simp only [hread] at h
    obtain ⟨rfl, rfl⟩ := Prod.mk.inj h
    obtain rfl : ending = .closed := eq_closed_of_check hj
    obtain ⟨front, rfl, hbody⟩ := body_of_readQuote hread
    exact ⟨'"' :: front, heq, .text hbody⟩
  case h_6 left heq =>
    obtain ⟨items, ending, back, hread⟩ :
        ∃ items ending back, readItems depth true left = (items, ending, back) := ⟨_, _, _, rfl⟩
    simp only [hread] at h
    obtain ⟨rfl, rfl⟩ := Prod.mk.inj h
    obtain ⟨hitems, hending⟩ := ok_of_bind hj
    obtain rfl := eq_closed_of_check hending
    obtain ⟨front, rfl, hfront⟩ := ih.items hread hitems
    exact ⟨'[' :: front, heq, .array hfront⟩
  case h_7 left heq =>
    obtain ⟨members, ending, back, hread⟩ :
        ∃ members ending back, readMembers depth true left = (members, ending, back) :=
      ⟨_, _, _, rfl⟩
    simp only [hread] at h
    obtain ⟨rfl, rfl⟩ := Prod.mk.inj h
    obtain ⟨hmembers, hending⟩ := ok_of_bind hj
    obtain rfl := eq_closed_of_check hending
    obtain ⟨front, rfl, hfront⟩ := ih.members hread hmembers
    exact ⟨'\x7b' :: front, heq, .object hfront⟩
  case h_8 c left _ _ _ _ _ _ heq =>
    split at h
    · have hkind := isNumeral_readNumeral (c :: left)
      rw [h] at hkind
      cases j with
      | numeral n =>
          obtain ⟨front, hfront, htext⟩ := numeralText_of_readNumeral h
          exact ⟨front, heq.trans hfront, .numeral htext⟩
      | brokenNumeral f => cases hj
      | _ => cases hkind
    · obtain ⟨rfl, -⟩ := Prod.mk.inj h
      exact absurd rfl (hbroken _)

theorem written_of_readItems {first : Bool} {cs rest : List Char} {items : List Json}
    (h : readItems (depth + 1) first cs = (items, .closed, rest))
    (hitems : skipItems items = .ok ()) :
    ∃ front, cs = front ++ rest ∧ WrittenItems first front items := by
  rw [readItems] at h
  split at h
  case h_1 => cases h
  case h_2 left heq =>
    obtain ⟨before, hcs, hbefore⟩ := exists_blanks cs
    obtain ⟨rfl, hback⟩ := Prod.mk.inj h
    obtain ⟨-, rfl⟩ := Prod.mk.inj hback
    refine ⟨before ++ [']'], ?_, .close hbefore⟩
    rw [hcs, heq]
    simp
  case h_3 c left _ heq =>
    split at h
    · cases h
    · rename_i hgo
      obtain ⟨j, middle, hvalue⟩ :
          ∃ j middle, readValue depth (if first then c :: left else left) = (j, middle) :=
        ⟨_, _, rfl⟩
      obtain ⟨others, ending, back, hothers⟩ :
          ∃ others ending back, readItems depth false middle = (others, ending, back) :=
        ⟨_, _, _, rfl⟩
      simp only [hvalue, hothers, Prod.mk.injEq] at h
      obtain ⟨rfl, rfl, rfl⟩ := h
      obtain ⟨hj, hskips⟩ := ok_of_bind hitems
      obtain ⟨value, hfront, hwritten⟩ := ih.value hvalue hj
      obtain ⟨tail, rfl, htail⟩ := ih.items hothers hskips
      rw [skipBlanks_first heq] at hfront
      obtain ⟨gap, rfl, hgap⟩ := exists_gap_of_skipBlanks heq hgo hfront
      exact ⟨gap ++ (value ++ tail), by simp, .item hgap hwritten htail⟩

theorem written_of_readMembers {first : Bool} {cs rest : List Char}
    {members : List (Quote × Json)}
    (h : readMembers (depth + 1) first cs = (members, .closed, rest))
    (hmembers : skipMembers members = .ok ()) :
    ∃ front, cs = front ++ rest ∧ WrittenMembers first front members := by
  rw [readMembers] at h
  split at h
  case h_1 => cases h
  case h_2 left heq =>
    obtain ⟨before, hcs, hbefore⟩ := exists_blanks cs
    obtain ⟨rfl, hback⟩ := Prod.mk.inj h
    obtain ⟨-, rfl⟩ := Prod.mk.inj hback
    refine ⟨before ++ ['\x7d'], ?_, .close hbefore⟩
    rw [hcs, heq]
    simp
  case h_3 c left _ heq =>
    split at h
    · cases h
    · rename_i hgo
      split at h
      case h_1 => cases h
      case h_2 quoted hquoted =>
        obtain ⟨⟨ps, kending⟩, behind, hquote⟩ : ∃ q behind, readQuote quoted = (q, behind) :=
          ⟨_, _, rfl⟩
        simp only [hquote] at h
        split at h
        case h_1 colon hcolon =>
          obtain ⟨j, middle, hvalue⟩ : ∃ j middle, readValue depth colon = (j, middle) :=
            ⟨_, _, rfl⟩
          obtain ⟨others, ending, back, hothers⟩ :
              ∃ others ending back, readMembers depth false middle = (others, ending, back) :=
            ⟨_, _, _, rfl⟩
          simp only [hvalue, hothers, Prod.mk.injEq] at h
          obtain ⟨rfl, rfl, rfl⟩ := h
          obtain ⟨hkey, hskips⟩ := ok_of_bind hmembers
          obtain ⟨hj, hskips⟩ := ok_of_bind hskips
          obtain rfl : kending = .closed := eq_closed_of_check hkey
          obtain ⟨key, rfl, hbody⟩ := body_of_readQuote hquote
          obtain ⟨value, hfront, hwritten⟩ := ih.value hvalue hj
          obtain ⟨tail, rfl, htail⟩ := ih.members hothers hskips
          -- blanks stand before the colon and behind it
          obtain ⟨before, hbehind, hbefore⟩ := exists_blanks behind
          obtain ⟨after, hafter', hafter⟩ := exists_blanks colon
          obtain ⟨gap, rfl, hgap⟩ := exists_gap_of_skipBlanks heq hgo hquoted
          refine ⟨gap ++ '"' :: (key ++ (before ++ ':' :: (after ++ (value ++ tail)))), ?_,
            .member hgap hbody hbefore hafter hwritten htail⟩
          rw [hcolon, hafter', hfront] at hbehind
          rw [hbehind]
          simp
        case h_2 => cases h
      case h_3 => cases h

end

theorem writtenAt (depth : Nat) : WrittenAt depth := by
  induction depth with
  | zero =>
      refine ⟨fun h hj => ?_, fun h _ => ?_, fun h _ => ?_⟩
      · rw [readValue] at h
        obtain ⟨rfl, -⟩ := Prod.mk.inj h
        cases hj
      · cases h
      · cases h
  | succ depth ih =>
      exact ⟨fun h hj => written_of_readValue ih h hj,
        fun h hitems => written_of_readItems ih h hitems,
        fun h hmembers => written_of_readMembers ih h hmembers⟩

/-- The texts of a value are those that are read as the value with nothing behind it, if there is no
fault in it. -/
theorem isDocument_iff (text : String) (j : Json) :
    IsDocument text j ↔ Document.read text = ⟨j, false⟩ ∧ j.skip = .ok () := by
  constructor
  · intro h
    obtain ⟨_, _, _, -, -, -, hwritten⟩ := id h
    exact ⟨read_of_isDocument h, hwritten.skip⟩
  · rintro ⟨hdocument, hskip⟩
    obtain ⟨j', rest, hread⟩ :
        ∃ j' rest, readValue (2 * text.toList.length + 2) text.toList = (j', rest) := ⟨_, _, rfl⟩
    simp only [Document.read, hread, Document.mk.injEq] at hdocument
    obtain ⟨rfl, htrailing⟩ := hdocument
    obtain ⟨front, hfront, hwritten⟩ := (writtenAt _).value hread hskip
    obtain ⟨before, htext, hbefore⟩ := exists_blanks text.toList
    rw [hfront] at htext
    have hrest : skipBlanks rest = [] := by simpa using htrailing
    exact ⟨before, front, rest, htext, hbefore, (skipBlanks_eq_nil_iff rest).1 hrest, hwritten⟩

/-! ## Constants among documents -/

/-- A constant is the text of a value that stands for the same. -/
theorem Constant.exists_written {cs : List Char} {value : Replacement} (h : Constant cs value) :
    ∃ j, Written cs j ∧ j.constant? = some value := by
  cases h with
  | null => exact ⟨_, .null, rfl⟩
  | true => exact ⟨_, .true, rfl⟩
  | false => exact ⟨_, .false, rfl⟩
  | @text cs value ps hbody hvalue =>
      have hdecode : Quote.decode ⟨ps, .closed⟩ = .ok (String.ofList value) :=
        (decode_eq_ok_iff _ _).2 ⟨rfl, value, hvalue, rfl⟩
      refine ⟨_, .text hbody, ?_⟩
      simp only [constant?, hdecode]
      rfl
  | number htext hvalue =>
      refine ⟨_, .numeral htext, ?_⟩
      simp only [constant?, hvalue, Option.map_some]

theorem IsConstant.exists_isDocument {text : String} {value : Replacement}
    (h : IsConstant text value) : ∃ j, IsDocument text j ∧ j.constant? = some value := by
  obtain ⟨before, cs, after, htext, hbefore, hafter, hconstant⟩ := h
  obtain ⟨j, hwritten, hvalue⟩ := hconstant.exists_written
  rw [List.append_assoc] at htext
  exact ⟨j, ⟨before, cs, after, htext, hbefore, hafter, hwritten⟩, hvalue⟩

/-- What a document gives as a constant is told from its tree. -/
theorem ofJson?_of_isDocument {text : String} {j : Json} (h : IsDocument text j) :
    Replacement.ofJson? text = j.constant? := by
  show (if (Document.read text).trailing then none
    else (Document.read text).value.constant?) = j.constant?
  rw [read_of_isDocument h]
  rfl

end Bundler.Json
