import Bundler.Define.Value
import Mathlib.Data.List.TakeWhile

/-! # The grammar of JSON constants

Which texts are a JSON constant (`null`, a truth value, a quoted text or a number, with blanks
around it) and what each of them stands for, as a grammar. `Replacement.ofJson?` accepts exactly
these texts and gives exactly these values (`ofJson?_eq_some_iff`). Each relation of the grammar is
about a whole text; for each reader there is a lemma for either direction, with what is left over
after the text. -/

set_option autoImplicit false

namespace Bundler.Json

/-! ## The grammar -/

/-- What stands after the first quote of a quoted text, and its pieces. -/
inductive QuoteBody : List Char → List Piece → Prop
  | close : QuoteBody ['"'] []
  | char {c : Char} {cs : List Char} {ps : List Piece} (hquote : c ≠ '"') (hslash : c ≠ '\\')
      (hcontrol : ¬ c.toNat < 0x20) (h : QuoteBody cs ps) : QuoteBody (c :: cs) (.char c :: ps)
  | escape {c d : Char} {cs : List Char} {ps : List Piece} (hc : escaped? c = some d)
      (h : QuoteBody cs ps) : QuoteBody ('\\' :: c :: cs) (.char d :: ps)
  | unit {a b c d : Char} {code : Nat} {cs : List Char} {ps : List Piece}
      (hcode : hexUnit? a b c d = some code) (h : QuoteBody cs ps) :
      QuoteBody ('\\' :: 'u' :: a :: b :: c :: d :: cs) (.unit code :: ps)

/-- The characters that pieces stand for. Units of a pair come together or not at all. -/
inductive Spells : List Piece → List Char → Prop
  | nil : Spells [] []
  | char {c : Char} {ps : List Piece} {cs : List Char} (h : Spells ps cs) :
      Spells (.char c :: ps) (c :: cs)
  | unit {u : Nat} {ps : List Piece} {cs : List Char} (hleading : Quote.isLeading u = false)
      (htrailing : Quote.isTrailing u = false) (h : Spells ps cs) :
      Spells (.unit u :: ps) (Char.ofNat u :: cs)
  | pair {u v : Nat} {ps : List Piece} {cs : List Char} (hleading : Quote.isLeading u = true)
      (htrailing : Quote.isTrailing v = true) (h : Spells ps cs) :
      Spells (.unit u :: .unit v :: ps) (Quote.pairChar u v :: cs)

/-- At least one digit, with the numbers that the digits stand for. -/
structure Digits (cs : List Char) (digits : List Nat) : Prop where
  ne_nil : cs ≠ []
  isDigit : ∀ c ∈ cs, c.isDigit = true
  eq_map : digits = cs.map fun c => c.toNat - '0'.toNat

/-- A minus sign or nothing. -/
inductive Sign : List Char → Bool → Prop
  | none : Sign [] false
  | minus : Sign ['-'] true

/-- The fraction of a numeral with its point, or nothing. -/
inductive Fraction : List Char → Bool → List Nat → Prop
  | none : Fraction [] false []
  | some {cs : List Char} {digits : List Nat} (h : Digits cs digits) :
      Fraction ('.' :: cs) true digits

/-- The exponent of a numeral with its letter, or nothing. -/
inductive Exponent : List Char → Option (Bool × List Nat) → Prop
  | none : Exponent [] none
  | bare {e : Char} {cs : List Char} {digits : List Nat} (he : e = 'e' ∨ e = 'E')
      (h : Digits cs digits) : Exponent (e :: cs) (some (false, digits))
  | plus {e : Char} {cs : List Char} {digits : List Nat} (he : e = 'e' ∨ e = 'E')
      (h : Digits cs digits) : Exponent (e :: '+' :: cs) (some (false, digits))
  | minus {e : Char} {cs : List Char} {digits : List Nat} (he : e = 'e' ∨ e = 'E')
      (h : Digits cs digits) : Exponent (e :: '-' :: cs) (some (true, digits))

/-- The whole text of a numeral. Its whole part begins with zero only if it is zero. -/
inductive NumeralText : List Char → Numeral → Prop
  | intro {sign whole fraction exponent : List Char} {n : Numeral} (hsign : Sign sign n.negative)
      (hwhole : Digits whole n.whole) (hzero : n.whole.head? = some 0 → n.whole = [0])
      (hfraction : Fraction fraction n.pointed n.fraction)
      (hexponent : Exponent exponent n.exponent) :
      NumeralText (sign ++ whole ++ fraction ++ exponent) n

/-- The whole text of a constant without blanks, and what it stands for. -/
inductive Constant : List Char → Replacement → Prop
  | null : Constant ['n', 'u', 'l', 'l'] .null
  | true : Constant ['t', 'r', 'u', 'e'] (.boolean true)
  | false : Constant ['f', 'a', 'l', 's', 'e'] (.boolean false)
  | text {cs value : List Char} {ps : List Piece} (hbody : QuoteBody cs ps)
      (hvalue : Spells ps value) : Constant ('"' :: cs) (.text (String.ofList value))
  | number {cs : List Char} {n : Numeral} {quantity : Quantity} (htext : NumeralText cs n)
      (hvalue : n.value? = some quantity) : Constant cs (.number quantity.toFloat.toBits)

/-- A text is a constant with blanks around it. -/
def IsConstant (text : String) (value : Replacement) : Prop :=
  ∃ before cs after, text.toList = before ++ cs ++ after ∧ (∀ c ∈ before, isBlank c = true) ∧
    (∀ c ∈ after, isBlank c = true) ∧ Constant cs value

/-! ## Quoted texts -/

theorem withPiece_eq_iff (p : Piece) (read : Quote × List Char) (ps : List Piece)
    (rest : List Char) :
    withPiece p read = (⟨ps, .closed⟩, rest) ↔
      ∃ ps', ps = p :: ps' ∧ read = (⟨ps', .closed⟩, rest) := by
  obtain ⟨⟨pieces, ending⟩, left⟩ := read
  constructor
  · intro h
    simp only [withPiece, Prod.mk.injEq, Quote.mk.injEq] at h
    obtain ⟨⟨rfl, rfl⟩, rfl⟩ := h
    exact ⟨pieces, rfl, rfl⟩
  · rintro ⟨ps', rfl, h⟩
    rw [h]
    rfl

theorem readQuote_of_body {cs rest : List Char} {ps : List Piece} (h : QuoteBody cs ps) :
    readQuote (cs ++ rest) = (⟨ps, .closed⟩, rest) := by
  induction h with
  | close => rfl
  | char hquote hslash hcontrol h ih =>
      rw [List.cons_append, readQuote]
      · rw [if_neg hcontrol, ih]
        rfl
      all_goals simp_all
  | @escape c d cs ps hc h ih =>
      -- `u` stands for no character by itself, so the rules for units do not apply
      have hu : c ≠ 'u' := by
        rintro rfl
        simp [escaped?] at hc
      rw [List.cons_append, List.cons_append, readQuote]
      · simp only [hc, ih]
        rfl
      · exact fun _ _ _ _ _ hcu => absurd hcu hu
      · exact hu
  | unit hcode h ih =>
      rw [List.cons_append, List.cons_append, List.cons_append, List.cons_append, List.cons_append,
        List.cons_append, readQuote]
      simp only [hcode, ih]
      rfl

theorem body_of_readQuote {cs rest : List Char} {ps : List Piece}
    (h : readQuote cs = (⟨ps, .closed⟩, rest)) :
    ∃ front, cs = front ++ rest ∧ QuoteBody front ps := by
  fun_induction readQuote cs generalizing ps rest with
  | case2 left =>
      simp only [Prod.mk.injEq, Quote.mk.injEq] at h
      obtain ⟨⟨rfl, -⟩, rfl⟩ := h
      exact ⟨['"'], rfl, .close⟩
  | case3 a b c d left code hcode ih =>
      obtain ⟨ps', rfl, hread⟩ := (withPiece_eq_iff _ _ _ _).1 h
      obtain ⟨front, rfl, hfront⟩ := ih hread
      exact ⟨'\\' :: 'u' :: a :: b :: c :: d :: front, rfl, .unit hcode hfront⟩
  | case6 c left hunit hu d hc ih =>
      obtain ⟨ps', rfl, hread⟩ := (withPiece_eq_iff _ _ _ _).1 h
      obtain ⟨front, rfl, hfront⟩ := ih hread
      exact ⟨'\\' :: c :: front, rfl, .escape hc hfront⟩
  | case10 c left hquote hunit hshort hescape hlone hcontrol ih =>
      obtain ⟨ps', rfl, hread⟩ := (withPiece_eq_iff _ _ _ _).1 h
      have hslash : c ≠ '\\' := by
        intro hc
        cases left with
        | nil => exact hlone hc rfl
        | cons d ds => exact hescape d ds hc rfl
      obtain ⟨front, rfl, hfront⟩ := ih hread
      exact ⟨c :: front, rfl, .char hquote hslash hcontrol hfront⟩
  -- in every other case reading stops and the quotes are not closed
  | _ => simp [stopped] at h

/-- A character put before what is read of pieces. -/
theorem cons_eq_ok_iff (c : Char) (read : Except Fault (List Char)) (cs : List Char) :
    (do return c :: (← read)) = Except.ok cs ↔ ∃ cs', read = .ok cs' ∧ cs = c :: cs' := by
  cases read with
  | error f => simp [bind, Except.bind]
  | ok cs' => simp [bind, Except.bind, pure, Except.pure, eq_comm]

theorem isTrailing_of_isLeading {u : Nat} (h : Quote.isLeading u = true) :
    Quote.isTrailing u = false := by
  simp only [Quote.isLeading, Quote.isTrailing, Bool.and_eq_true, decide_eq_true_eq,
    Bool.and_eq_false_iff, decide_eq_false_iff_not] at h ⊢
  omega

/-- Pieces are decoded as the grammar has them, and only where the quotes are closed. -/
theorem decodePieces_eq_ok_iff (ending : Ending) (ps : List Piece) (cs : List Char) :
    Quote.decodePieces ending ps = .ok cs ↔ ending = .closed ∧ Spells ps cs := by
  fun_induction Quote.decodePieces ending ps generalizing cs with
  | case1 =>
      cases ending with
      | closed =>
          constructor
          · intro h
            obtain rfl := Except.ok.inj h
            exact ⟨rfl, .nil⟩
          · rintro ⟨-, ⟨⟩⟩
            rfl
      | broken f => simp [Ending.check, bind, Except.bind]
  | case2 c ps ih =>
      rw [cons_eq_ok_iff]
      constructor
      · rintro ⟨cs', hread, rfl⟩
        obtain ⟨hclosed, h⟩ := (ih cs').1 hread
        exact ⟨hclosed, .char h⟩
      · rintro ⟨hclosed, h⟩
        cases h with
        | char h => exact ⟨_, (ih _).2 ⟨hclosed, h⟩, rfl⟩
  | case3 u ps htrailing =>
      -- the second unit of a pair comes first here, and no rule begins with it
      refine ⟨fun h => by simp at h, fun ⟨_, h⟩ => ?_⟩
      cases h with
      | unit _ hno _ => simp [htrailing] at hno
      | pair hleading _ _ => simp [isTrailing_of_isLeading hleading] at htrailing
  | case4 u htrailing hleading v ps hv ih =>
      rw [cons_eq_ok_iff]
      constructor
      · rintro ⟨cs', hread, rfl⟩
        obtain ⟨hclosed, h⟩ := (ih cs').1 hread
        exact ⟨hclosed, .pair hleading hv h⟩
      · rintro ⟨hclosed, h⟩
        cases h with
        | unit hno _ _ => simp [hleading] at hno
        | pair _ _ h => exact ⟨_, (ih _).2 ⟨hclosed, h⟩, rfl⟩
  | case5 u htrailing hleading v ps hv =>
      refine ⟨fun h => by simp at h, fun ⟨_, h⟩ => ?_⟩
      cases h with
      | unit hno _ _ => simp [hleading] at hno
      | pair _ hyes _ => exact absurd hyes hv
  | case6 u htrailing hleading c ps =>
      refine ⟨fun h => by simp at h, fun ⟨_, h⟩ => ?_⟩
      cases h with
      | unit hno _ _ => simp [hleading] at hno
  | case7 u htrailing hleading =>
      -- the text ends between the units of a pair
      refine ⟨fun h => ?_, fun ⟨_, h⟩ => ?_⟩
      · cases ending <;> simp [Ending.check, bind, Except.bind] at h
      · cases h with
        | unit hno _ _ => simp [hleading] at hno
  | case8 u ps htrailing hleading ih =>
      rw [cons_eq_ok_iff]
      constructor
      · rintro ⟨cs', hread, rfl⟩
        obtain ⟨hclosed, h⟩ := (ih cs').1 hread
        exact ⟨hclosed, .unit (Bool.eq_false_iff.2 hleading) (Bool.eq_false_iff.2 htrailing) h⟩
      · rintro ⟨hclosed, h⟩
        cases h with
        | unit _ _ h => exact ⟨_, (ih _).2 ⟨hclosed, h⟩, rfl⟩
        | pair hyes _ _ => exact absurd hyes hleading

theorem decode_eq_ok_iff (q : Quote) (text : String) :
    q.decode = .ok text ↔
      q.ending = .closed ∧ ∃ cs, Spells q.pieces cs ∧ text = String.ofList cs := by
  unfold Quote.decode
  cases hread : Quote.decodePieces q.ending q.pieces with
  | error f =>
      refine ⟨fun h => (by cases h), ?_⟩
      rintro ⟨hclosed, cs, h, -⟩
      rw [(decodePieces_eq_ok_iff _ _ cs).2 ⟨hclosed, h⟩] at hread
      cases hread
  | ok cs =>
      obtain ⟨hclosed, h⟩ := (decodePieces_eq_ok_iff _ _ _).1 hread
      constructor
      · intro htext
        exact ⟨hclosed, cs, h, (Except.ok.inj htext).symm⟩
      · rintro ⟨-, cs', h', rfl⟩
        rw [(decodePieces_eq_ok_iff _ _ cs').2 ⟨hclosed, h'⟩] at hread
        obtain rfl := Except.ok.inj hread
        rfl

/-! ## Digits -/

/-- No character of a numeral comes next. -/
def Stops (rest : List Char) : Prop :=
  ∀ c ∈ rest.head?, c.isDigit = false ∧ c ≠ '.' ∧ c ≠ 'e' ∧ c ≠ 'E'

theorem readDigits_of_digits {cs rest : List Char} {digits : List Nat} (h : Digits cs digits)
    (hrest : ∀ c ∈ rest.head?, c.isDigit = false) : readDigits (cs ++ rest) = (digits, rest) := by
  have htake : rest.takeWhile Char.isDigit = [] := by
    cases rest with
    | nil => rfl
    | cons c rest => exact List.takeWhile_cons_of_neg (by simp [hrest c rfl])
  have hdrop : rest.dropWhile Char.isDigit = rest := by
    cases rest with
    | nil => rfl
    | cons c rest => exact List.dropWhile_cons_of_neg (by simp [hrest c rfl])
  rw [readDigits, List.takeWhile_append_of_pos h.isDigit, List.dropWhile_append_of_pos h.isDigit,
    htake, hdrop, List.append_nil, h.eq_map]

/-- What is read as digits is digits, unless it is nothing. -/
theorem digits_of_readDigits {cs rest : List Char} {digits : List Nat}
    (h : readDigits cs = (digits, rest)) (hne : digits ≠ []) :
    ∃ front, cs = front ++ rest ∧ Digits front digits := by
  obtain ⟨rfl, rfl⟩ := Prod.mk.inj h
  refine ⟨cs.takeWhile Char.isDigit, List.takeWhile_append_dropWhile.symm, ?_, ?_, rfl⟩
  · intro hnil
    rw [hnil] at hne
    exact hne rfl
  · exact fun c hc => List.all_eq_true.1 List.all_takeWhile c hc

theorem digits_ne_nil {cs : List Char} {digits : List Nat} (h : Digits cs digits) :
    digits ≠ [] := by
  rw [h.eq_map]
  exact fun hnil => h.ne_nil (List.map_eq_nil_iff.1 hnil)

/-- Digits do not begin with a sign. -/
theorem head_of_digits {cs : List Char} {digits : List Nat} (h : Digits cs digits) :
    ∃ c left, cs = c :: left ∧ c ≠ '-' ∧ c ≠ '+' ∧ c.isDigit = true := by
  cases cs with
  | nil => exact absurd rfl h.ne_nil
  | cons c left =>
      have hc : c.isDigit = true := h.isDigit c List.mem_cons_self
      refine ⟨c, left, rfl, ?_, ?_, hc⟩
      · rintro rfl
        simp [Char.isDigit] at hc
      · rintro rfl
        simp [Char.isDigit] at hc

/-! ## What is read as a numeral -/

/-- What is read as an exponent is one, or nothing. -/
theorem exponent_of_readExponent {n n' : Numeral} {cs rest : List Char} (hn : n.exponent = none)
    (h : readExponent n cs = (.numeral n', rest)) :
    ∃ front e, cs = front ++ rest ∧ Exponent front e ∧ n' = { n with exponent := e } := by
  have habsent : n = { n with exponent := none } := by rw [← hn]
  unfold readExponent at h
  split at h
  · rename_i c cs
    split at h
    · rename_i he
      have he : c = 'e' ∨ c = 'E' := by simpa using he
      split at h
      rename_i negative left hsign
      split at h
      · simp at h
      · rename_i digits back hne hdigits
        obtain ⟨front, rfl, hfront⟩ := digits_of_readDigits hdigits hne
        simp only [Prod.mk.injEq, Json.numeral.injEq] at h
        obtain ⟨rfl, rfl⟩ := h
        split at hsign
        · obtain ⟨rfl, rfl⟩ := Prod.mk.inj hsign
          exact ⟨c :: '-' :: front, some (true, digits), rfl, .minus he hfront, rfl⟩
        · obtain ⟨rfl, rfl⟩ := Prod.mk.inj hsign
          exact ⟨c :: '+' :: front, some (false, digits), rfl, .plus he hfront, rfl⟩
        · obtain ⟨rfl, rfl⟩ := Prod.mk.inj hsign
          exact ⟨c :: front, some (false, digits), rfl, .bare he hfront, rfl⟩
    · simp only [Prod.mk.injEq, Json.numeral.injEq] at h
      obtain ⟨rfl, rfl⟩ := h
      exact ⟨[], none, rfl, .none, habsent⟩
  · simp only [Prod.mk.injEq, Json.numeral.injEq] at h
    obtain ⟨rfl, rfl⟩ := h
    exact ⟨[], none, rfl, .none, habsent⟩

/-- What is read as a fraction with an exponent is that. -/
theorem fraction_of_readFraction {negative : Bool} {whole : List Nat} {n : Numeral}
    {cs rest : List Char}
    (h : readFraction ⟨negative, whole, [], false, none⟩ cs = (.numeral n, rest)) :
    ∃ fraction exponent, cs = fraction ++ exponent ++ rest ∧
      Fraction fraction n.pointed n.fraction ∧ Exponent exponent n.exponent ∧
      n.negative = negative ∧ n.whole = whole := by
  unfold readFraction at h
  split at h
  · rename_i cs
    split at h
    · simp at h
    · rename_i digits back hne hdigits
      obtain ⟨front, rfl, hfront⟩ := digits_of_readDigits hdigits hne
      obtain ⟨exponent, e, rfl, hexponent, rfl⟩ := exponent_of_readExponent rfl h
      exact ⟨'.' :: front, exponent, by simp, .some hfront, hexponent, rfl, rfl⟩
  · obtain ⟨exponent, e, rfl, hexponent, rfl⟩ := exponent_of_readExponent rfl h
    exact ⟨[], exponent, rfl, .none, hexponent, rfl, rfl⟩

/-- What is read as a numeral is one. -/
theorem numeralText_of_readNumeral {n : Numeral} {cs rest : List Char}
    (h : readNumeral cs = (.numeral n, rest)) :
    ∃ front, cs = front ++ rest ∧ NumeralText front n := by
  unfold readNumeral at h
  split at h
  rename_i negative left hleft
  have hsign : ∃ sign, Sign sign negative ∧ cs = sign ++ left := by
    split at hleft
    · obtain ⟨rfl, rfl⟩ := Prod.mk.inj hleft
      exact ⟨['-'], .minus, rfl⟩
    · obtain ⟨rfl, rfl⟩ := Prod.mk.inj hleft
      exact ⟨[], .none, rfl⟩
  obtain ⟨sign, hsign, rfl⟩ := hsign
  split at h
  · simp at h
  · simp at h
  · rename_i digits back hne hzero hdigits
    obtain ⟨whole, rfl, hwhole⟩ := digits_of_readDigits hdigits hne
    obtain ⟨fraction, exponent, rfl, hfraction, hexponent, rfl, rfl⟩ := fraction_of_readFraction h
    refine ⟨sign ++ whole ++ fraction ++ exponent, by simp,
      hsign, hwhole, fun hhead => ?_, hfraction, hexponent⟩
    cases hn : n.whole with
    | nil => exact absurd hn hne
    | cons d ds =>
        rw [hn] at hhead hzero
        obtain rfl := Option.some.inj hhead
        cases ds with
        | nil => rfl
        | cons d' ds => exact absurd rfl (hzero d' ds)

/-! ## What a numeral is read as -/

/-- What stops a numeral is not read as an exponent. -/
theorem readExponent_of_stops {n : Numeral} {rest : List Char} (hrest : Stops rest) :
    readExponent n rest = (.numeral n, rest) := by
  cases rest with
  | nil => rfl
  | cons c rest =>
      obtain ⟨-, -, hlower, hupper⟩ := hrest c rfl
      simp [readExponent, hlower, hupper]

theorem readExponent_of_exponent {n : Numeral} {cs rest : List Char}
    {e : Option (Bool × List Nat)} (hn : n.exponent = none) (h : Exponent cs e)
    (hrest : Stops rest) :
    readExponent n (cs ++ rest) = (.numeral { n with exponent := e }, rest) := by
  have hdigit : ∀ c ∈ rest.head?, c.isDigit = false := fun c hc => (hrest c hc).1
  -- in each case `hne` rules out the branch of the reader for missing digits
  cases h with
  | none =>
      rw [List.nil_append, readExponent_of_stops hrest, ← hn]
  | @bare c cs digits he h =>
      have hread := readDigits_of_digits h hdigit
      have hne := digits_ne_nil h
      obtain ⟨d, left, rfl, hminus, hplus, -⟩ := head_of_digits h
      have he : (c == 'e' || c == 'E') = true := by simpa using he
      rw [List.cons_append, List.cons_append, readExponent, if_pos he]
      · rw [List.cons_append] at hread
        simp only [hread]
      · rintro left ⟨⟩
        exact hminus rfl
      · rintro left ⟨⟩
        exact hplus rfl
  | @plus c cs digits he h =>
      have he : (c == 'e' || c == 'E') = true := by simpa using he
      have hne := digits_ne_nil h
      rw [List.cons_append, List.cons_append, readExponent, if_pos he]
      simp only [readDigits_of_digits h hdigit]
  | @minus c cs digits he h =>
      have he : (c == 'e' || c == 'E') = true := by simpa using he
      have hne := digits_ne_nil h
      rw [List.cons_append, List.cons_append, readExponent, if_pos he]
      simp only [readDigits_of_digits h hdigit]

theorem head_of_exponent {cs rest : List Char} {e : Option (Bool × List Nat)}
    (h : Exponent cs e) (hrest : Stops rest) :
    ∀ c ∈ (cs ++ rest).head?, c.isDigit = false ∧ c ≠ '.' := by
  cases h with
  | none => exact fun c hc => ⟨(hrest c hc).1, (hrest c hc).2.1⟩
  | bare he _ | plus he _ | minus he _ =>
      rintro c ⟨⟩
      obtain rfl | rfl := he <;> decide

theorem head_of_fraction {fraction exponent rest : List Char} {pointed : Bool} {digits : List Nat}
    {e : Option (Bool × List Nat)} (hfraction : Fraction fraction pointed digits)
    (hexponent : Exponent exponent e) (hrest : Stops rest) :
    ∀ c ∈ (fraction ++ (exponent ++ rest)).head?, c.isDigit = false := by
  cases hfraction with
  | none => exact fun c hc => (head_of_exponent hexponent hrest c hc).1
  | some _ =>
      rintro c ⟨⟩
      decide

theorem readFraction_of_fraction {negative pointed : Bool} {whole digits : List Nat}
    {e : Option (Bool × List Nat)} {fraction exponent rest : List Char}
    (hfraction : Fraction fraction pointed digits) (hexponent : Exponent exponent e)
    (hrest : Stops rest) :
    readFraction ⟨negative, whole, [], false, none⟩ (fraction ++ (exponent ++ rest)) =
      (.numeral ⟨negative, whole, digits, pointed, e⟩, rest) := by
  have hhead := head_of_exponent hexponent hrest
  cases hfraction with
  | none =>
      rw [List.nil_append, readFraction, readExponent_of_exponent rfl hexponent hrest]
      intro left hleft
      rw [hleft] at hhead
      exact (hhead '.' rfl).2 rfl
  | some h =>
      have hne := digits_ne_nil h
      rw [List.cons_append, readFraction]
      simp only [readDigits_of_digits h fun c hc => (hhead c hc).1]
      exact readExponent_of_exponent rfl hexponent hrest

/-- The readers of a numeral go past its sign. -/
theorem readNumeral_of_unsigned {negative : Bool} {sign cs : List Char} {digits : List Nat}
    {left : List Char} (hsign : Sign sign negative) (hwhole : Digits cs digits)
    (hread : readDigits (cs ++ left) = (digits, left))
    (hzero : digits.head? = some 0 → digits = [0]) :
    readNumeral (sign ++ (cs ++ left)) = readFraction ⟨negative, digits, [], false, none⟩ left := by
  -- the reader fails without digits and at a zero with more digits behind it
  have hne := digits_ne_nil hwhole
  have hlong : ∀ d ds, digits ≠ 0 :: d :: ds := by
    rintro d ds rfl
    cases hzero rfl
  cases hsign with
  | none =>
      obtain ⟨c, front, rfl, hminus, -, -⟩ := head_of_digits hwhole
      rw [List.cons_append] at hread
      rw [List.nil_append, List.cons_append, readNumeral]
      · simp only [hread]
      · rintro left ⟨⟩
        exact hminus rfl
  | minus =>
      rw [List.cons_append, List.nil_append, readNumeral]
      simp only [hread]

theorem readNumeral_of_numeralText {n : Numeral} {cs rest : List Char} (h : NumeralText cs n)
    (hrest : Stops rest) : readNumeral (cs ++ rest) = (.numeral n, rest) := by
  obtain ⟨hsign, hwhole, hzero, hfraction, hexponent⟩ := h
  have hread := readDigits_of_digits hwhole (head_of_fraction hfraction hexponent hrest)
  rw [List.append_assoc, List.append_assoc, List.append_assoc,
    readNumeral_of_unsigned hsign hwhole hread hzero,
    readFraction_of_fraction hfraction hexponent hrest]

/-- Whether a tree is a numeral, broken or not. -/
def isNumeral : Json → Bool
  | .numeral _ | .brokenNumeral _ => true
  | _ => false

theorem isNumeral_readExponent (n : Numeral) (cs : List Char) :
    (readExponent n cs).1.isNumeral = true := by
  unfold readExponent
  split
  · split
    · simp only
      split <;> rfl
    · rfl
  · rfl

theorem isNumeral_readFraction (n : Numeral) (cs : List Char) :
    (readFraction n cs).1.isNumeral = true := by
  unfold readFraction
  split
  · split
    · rfl
    · exact isNumeral_readExponent _ _
  · exact isNumeral_readExponent _ _

theorem isNumeral_readNumeral (cs : List Char) : (readNumeral cs).1.isNumeral = true := by
  unfold readNumeral
  simp only
  split
  · rfl
  · rfl
  · exact isNumeral_readFraction _ _

/-! ## Words -/

theorem readWord_of_word (value : Json) (word rest : List Char) :
    readWord value word (word ++ rest) = (value, rest) := by
  induction word with
  | nil => rfl
  | cons w ws ih =>
      rw [List.cons_append, readWord, if_pos rfl, ih]

theorem word_of_readWord {value result : Json} {word cs rest : List Char}
    (h : readWord value word cs = (result, rest)) (hresult : ∀ f, result ≠ .broken f) :
    result = value ∧ cs = word ++ rest := by
  induction word generalizing cs with
  | nil =>
      obtain ⟨rfl, rfl⟩ := Prod.mk.inj h
      exact ⟨rfl, rfl⟩
  | cons w ws ih =>
      cases cs with
      | nil =>
          obtain ⟨rfl, -⟩ := Prod.mk.inj h
          exact absurd rfl (hresult _)
      | cons c cs =>
          rw [readWord] at h
          split at h
          · rename_i hcw
            obtain ⟨hvalue, hcs⟩ := ih h
            exact ⟨hvalue, by rw [hcw, hcs, List.cons_append]⟩
          · obtain ⟨rfl, -⟩ := Prod.mk.inj h
            exact absurd rfl (hresult _)

/-! ## Blanks -/

theorem skipBlanks_eq_nil_iff (cs : List Char) :
    skipBlanks cs = [] ↔ ∀ c ∈ cs, isBlank c = true := by
  unfold skipBlanks
  exact List.dropWhile_eq_nil_iff

theorem skipBlanks_append {before cs : List Char} (h : ∀ c ∈ before, isBlank c = true) :
    skipBlanks (before ++ cs) = skipBlanks cs := List.dropWhile_append_of_pos h

theorem skipBlanks_cons {c : Char} {cs : List Char} (h : isBlank c = false) :
    skipBlanks (c :: cs) = c :: cs := List.dropWhile_cons_of_neg (by simp [h])

/-- What is left after blanks are skipped stands behind blanks. -/
theorem exists_blanks (cs : List Char) :
    ∃ before, cs = before ++ skipBlanks cs ∧ ∀ c ∈ before, isBlank c = true :=
  ⟨cs.takeWhile isBlank, List.takeWhile_append_dropWhile.symm,
    fun c hc => List.all_eq_true.1 List.all_takeWhile c hc⟩

theorem stops_of_blanks {rest : List Char} (h : ∀ c ∈ rest, isBlank c = true) : Stops rest := by
  intro c hc
  have hblank : isBlank c = true := h c (List.mem_of_mem_head? hc)
  simp only [isBlank, Bool.or_eq_true, beq_iff_eq] at hblank
  obtain ((rfl | rfl) | rfl) | rfl := hblank <;> decide

/-! ## Constants -/

/-- What a tree stands for, if it is a constant. -/
def constant? : Json → Option Replacement
  | .null => some .null
  | .bool b => some (.boolean b)
  | .text q => q.decode.toOption.map .text
  | .numeral n => n.value?.map fun quantity => .number quantity.toFloat.toBits
  | _ => none

/-- The first character of a numeral. -/
theorem head_of_numeralText {cs : List Char} {n : Numeral} (h : NumeralText cs n) :
    ∃ c left, cs = c :: left ∧ (c == '-' || c.isDigit) = true := by
  obtain ⟨hsign, hwhole, -, -, -⟩ := h
  rename_i sign whole fraction exponent
  obtain ⟨c, left, rfl, -, -, hc⟩ := head_of_digits hwhole
  generalize n.negative = negative at hsign
  cases hsign with
  | none => exact ⟨c, left ++ fraction ++ exponent, rfl, by simp [hc]⟩
  | minus => exact ⟨'-', c :: left ++ fraction ++ exponent, rfl, rfl⟩

theorem isBlank_of_numeral {c : Char} (hc : (c == '-' || c.isDigit) = true) :
    isBlank c = false := by
  rw [Bool.eq_false_iff]
  intro hblank
  simp only [isBlank, Bool.or_eq_true, beq_iff_eq] at hblank
  obtain ((rfl | rfl) | rfl) | rfl := hblank <;> exact absurd hc (by decide)

theorem readValue_of_numeral {c : Char} {cs left : List Char} (depth : Nat)
    (hcs : skipBlanks cs = c :: left) (hc : (c == '-' || c.isDigit) = true) :
    readValue (depth + 1) cs = readNumeral (c :: left) := by
  rw [readValue, hcs]
  split
  -- a digit or a minus sign is none of the characters that other values begin with
  case h_8 c left _ _ _ _ _ _ heq =>
    obtain ⟨rfl, rfl⟩ := List.cons.inj heq
    rw [if_pos hc]
  case h_1 heq => cases heq
  all_goals
    rename_i heq
    obtain ⟨rfl, rfl⟩ := List.cons.inj heq
    exact absurd hc (by decide)

/-- A constant is read behind blanks, with blanks left over. -/
theorem readValue_of_constant {before cs after : List Char} {value : Replacement} (depth : Nat)
    (hbefore : ∀ c ∈ before, isBlank c = true) (hafter : ∀ c ∈ after, isBlank c = true)
    (h : Constant cs value) :
    ∃ j, readValue (depth + 1) (before ++ (cs ++ after)) = (j, after) ∧
      j.constant? = some value := by
  have hskip : skipBlanks (before ++ (cs ++ after)) = skipBlanks (cs ++ after) :=
    skipBlanks_append hbefore
  cases h with
  | null =>
      rw [readValue, hskip]
      exact ⟨.null, readWord_of_word .null ['u', 'l', 'l'] after, rfl⟩
  | true =>
      rw [readValue, hskip]
      exact ⟨.bool true, readWord_of_word (.bool true) ['r', 'u', 'e'] after, rfl⟩
  | false =>
      rw [readValue, hskip]
      exact ⟨.bool false, readWord_of_word (.bool false) ['a', 'l', 's', 'e'] after, rfl⟩
  | @text cs text ps hbody hvalue =>
      rw [readValue, hskip, List.cons_append, skipBlanks_cons rfl]
      simp only [readQuote_of_body hbody]
      have hdecode : Quote.decode ⟨ps, .closed⟩ = .ok (String.ofList text) :=
        (decode_eq_ok_iff _ _).2 ⟨rfl, text, hvalue, rfl⟩
      refine ⟨.text ⟨ps, .closed⟩, rfl, ?_⟩
      simp only [constant?, hdecode]
      rfl
  | @number cs n quantity htext hvalue =>
      -- blanks end a numeral, so nothing of what follows is taken for a part of it
      have hread := readNumeral_of_numeralText htext (stops_of_blanks hafter)
      obtain ⟨c, left, rfl, hc⟩ := head_of_numeralText htext
      rw [List.cons_append, skipBlanks_cons (isBlank_of_numeral hc)] at hskip
      refine ⟨.numeral n, ?_, by simp only [constant?, hvalue, Option.map_some]⟩
      rw [List.cons_append, readValue_of_numeral depth hskip hc]
      exact hread

/-- The text of a quoted text that is a constant. -/
theorem text_of_constant {q : Quote} {value : Replacement} (h : constant? (.text q) = some value) :
    ∃ ps cs, q = ⟨ps, .closed⟩ ∧ Spells ps cs ∧ value = .text (String.ofList cs) := by
  obtain ⟨text, hdecode, rfl⟩ := Option.map_eq_some_iff.1 h
  obtain ⟨pieces, ending⟩ := q
  cases hread : Quote.decode ⟨pieces, ending⟩ with
  | error f =>
      rw [hread] at hdecode
      cases hdecode
  | ok text' =>
      rw [hread] at hdecode
      obtain rfl := Option.some.inj hdecode
      obtain ⟨rfl, cs, hcs, rfl⟩ := (decode_eq_ok_iff _ _).1 hread
      exact ⟨pieces, cs, rfl, hcs, rfl⟩

/-- What is read as a constant is one. -/
theorem constant_of_readValue {cs rest : List Char} {j : Json} {value : Replacement} {depth : Nat}
    (h : readValue depth cs = (j, rest)) (hj : j.constant? = some value) :
    ∃ front, skipBlanks cs = front ++ rest ∧ Constant front value := by
  have hbroken : ∀ f, j ≠ .broken f := by
    rintro f rfl
    cases hj
  cases depth with
  | zero =>
      rw [readValue] at h
      obtain ⟨rfl, -⟩ := Prod.mk.inj h
      exact absurd rfl (hbroken _)
  | succ depth =>
      rw [readValue] at h
      -- one case for each way in which a value begins
      split at h
      case h_1 =>
        obtain ⟨rfl, -⟩ := Prod.mk.inj h
        exact absurd rfl (hbroken _)
      case h_2 rest heq =>
        obtain ⟨rfl, rfl⟩ := word_of_readWord h hbroken
        cases hj
        exact ⟨_, heq, .null⟩
      case h_3 rest heq =>
        obtain ⟨rfl, rfl⟩ := word_of_readWord h hbroken
        cases hj
        exact ⟨_, heq, .true⟩
      case h_4 rest heq =>
        obtain ⟨rfl, rfl⟩ := word_of_readWord h hbroken
        cases hj
        exact ⟨_, heq, .false⟩
      case h_5 left heq =>
        cases hread : readQuote left with
        | mk q back =>
            simp only [hread] at h
            obtain ⟨rfl, rfl⟩ := Prod.mk.inj h
            obtain ⟨ps, text, rfl, hvalue, rfl⟩ := text_of_constant hj
            obtain ⟨front, rfl, hbody⟩ := body_of_readQuote hread
            exact ⟨'"' :: front, heq, .text hbody hvalue⟩
      case h_6 =>
        obtain ⟨rfl, -⟩ := Prod.mk.inj h
        cases hj
      case h_7 =>
        obtain ⟨rfl, -⟩ := Prod.mk.inj h
        cases hj
      case h_8 c left _ _ _ _ _ _ heq =>
        split at h
        · have hkind := isNumeral_readNumeral (c :: left)
          rw [h] at hkind
          cases j with
          | numeral n =>
              obtain ⟨front, hfront, htext⟩ := numeralText_of_readNumeral h
              obtain ⟨quantity, hvalue, rfl⟩ := Option.map_eq_some_iff.1 hj
              exact ⟨front, heq.trans hfront, .number htext hvalue⟩
          | brokenNumeral f => cases hj
          | _ => cases hkind
        · obtain ⟨rfl, -⟩ := Prod.mk.inj h
          exact absurd rfl (hbroken _)

/-- The texts read as a constant are those of the grammar, and they stand for the same. -/
theorem ofJson?_eq_some_iff (text : String) (value : Replacement) :
    Replacement.ofJson? text = some value ↔ IsConstant text value := by
  have hdocument : Replacement.ofJson? text =
      if (Document.read text).trailing then none else (Document.read text).value.constant? := rfl
  obtain ⟨j, rest, hread⟩ :
      ∃ j rest, readValue (2 * text.toList.length + 2) text.toList = (j, rest) := ⟨_, _, rfl⟩
  simp only [hdocument, Document.read, hread]
  constructor
  · intro h
    split at h
    · cases h
    · rename_i htrailing
      have hrest : skipBlanks rest = [] := by simpa using htrailing
      obtain ⟨before, htext, hbefore⟩ := exists_blanks text.toList
      obtain ⟨cs, hcs, hconstant⟩ := constant_of_readValue hread h
      exact ⟨before, cs, rest, by rw [List.append_assoc, ← hcs, ← htext], hbefore,
        (skipBlanks_eq_nil_iff rest).1 hrest, hconstant⟩
  · rintro ⟨before, cs, after, htext, hbefore, hafter, hconstant⟩
    obtain ⟨j', hread', hvalue⟩ :=
      readValue_of_constant (2 * text.toList.length + 1) hbefore hafter hconstant
    rw [← List.append_assoc, ← htext, hread] at hread'
    obtain ⟨rfl, rfl⟩ := Prod.mk.inj hread'
    rw [(skipBlanks_eq_nil_iff rest).2 hafter]
    exact hvalue

end Bundler.Json
