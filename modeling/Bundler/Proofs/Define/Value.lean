import Bundler.Proofs.Json.Written
import Bundler.Proofs.Options.WellFormed
import Mathlib.Tactic.IntervalCases

/-! # What the text of a define stands for

The text of a define is an identifier or a JSON constant. An identifier is a JSON document only if
it is one of the words for values (`isDocument_iff_of_isIdentifier`), and these are reserved. So no
text is both, the order in which the two are tried does not matter, and a text stands for one thing
at most (`parse?_eq_some_iff`). -/

set_option autoImplicit false

namespace Bundler

/-- What the text of a define stands for: an identifier that is no reserved word stands for itself,
and a JSON constant for its value. -/
inductive StandsFor (text : String) : Replacement → Prop
  | identifier (h : Text.isIdentifier text = true) (hfree : text ∉ Replacement.reservedWords) :
      StandsFor text (.identifier text)
  | constant {value : Replacement} (h : Json.IsConstant text value) : StandsFor text value

theorem isDefineValue_iff (text : String) :
    IsDefineValue text ↔ ∃ replacement, StandsFor text replacement := by
  constructor
  · rintro (⟨h, hfree⟩ | ⟨value, h⟩)
    · exact ⟨_, .identifier h hfree⟩
    · exact ⟨value, .constant h⟩
  · rintro ⟨_, ⟨h, hfree⟩ | h⟩
    · exact .inl ⟨h, hfree⟩
    · exact .inr ⟨_, h⟩

/-! ## Identifiers and constants -/

theorem exists_of_isIdentifier {text : String} (h : Text.isIdentifier text = true) :
    ∃ c cs, text.toList = c :: cs ∧ Text.isIdentifierStart c = true ∧
      ∀ d ∈ cs, Text.isIdentifierPart d = true := by
  unfold Text.isIdentifier at h
  cases htext : text.toList with
  | nil =>
      rw [htext] at h
      cases h
  | cons c cs =>
      rw [htext] at h
      simp only [Text.isIdentifierChars, Bool.and_eq_true, List.all_eq_true] at h
      exact ⟨c, cs, rfl, h⟩

theorem not_isIdentifier_of_isBlank {c : Char} (h : Json.isBlank c = true) :
    Text.isIdentifierStart c = false ∧ Text.isIdentifierPart c = false := by
  simp only [Json.isBlank, Bool.or_eq_true, beq_iff_eq] at h
  obtain ((rfl | rfl) | rfl) | rfl := h <;> decide

/-- A minus sign or a digit begins no identifier. -/
theorem not_isIdentifierStart_of_numeral {c : Char} (h : (c == '-' || c.isDigit) = true) :
    Text.isIdentifierStart c = false := by
  rcases Bool.or_eq_true_iff.1 h with hminus | hdigit
  · obtain rfl := beq_iff_eq.1 hminus
    decide
  · have hrange : 48 ≤ c.toNat ∧ c.toNat ≤ 57 := by
      simpa [Char.isDigit, UInt32.le_iff_toNat_le] using hdigit
    have hc : c = Char.ofNat c.toNat := (Char.ofNat_toNat c).symm
    generalize c.toNat = n at hrange hc
    obtain ⟨hlow, hhigh⟩ := hrange
    subst hc
    interval_cases n <;> decide

/-- There is no blank in an identifier. -/
theorem isBlank_of_mem_identifier {text : String} (h : Text.isIdentifier text = true) {c : Char}
    (hc : c ∈ text.toList) : Json.isBlank c = false := by
  obtain ⟨first, rest, htext, hstart, hparts⟩ := exists_of_isIdentifier h
  rw [Bool.eq_false_iff]
  intro hblank
  obtain ⟨hnoStart, hnoPart⟩ := not_isIdentifier_of_isBlank hblank
  rw [htext] at hc
  rcases List.mem_cons.1 hc with rfl | hc
  · rw [hstart] at hnoStart
    cases hnoStart
  · rw [hparts c hc] at hnoPart
    cases hnoPart

/-- An identifier that is a document has no blanks around the value. -/
theorem written_of_isIdentifier {text : String} (h : Text.isIdentifier text = true) {j : Json}
    (hdocument : Json.IsDocument text j) : Json.Written text.toList j := by
  obtain ⟨before, cs, after, htext, hbefore, hafter, hwritten⟩ := hdocument
  have hnone : ∀ blanks, Json.Blanks blanks → blanks ⊆ text.toList → blanks = [] := by
    intro blanks hblanks hsubset
    refine List.eq_nil_iff_forall_not_mem.2 fun c hc => ?_
    have hblank := hblanks c hc
    rw [isBlank_of_mem_identifier h (hsubset hc)] at hblank
    cases hblank
  have hfront : before = [] := by
    apply hnone before hbefore
    rw [htext]
    exact List.subset_append_left _ _
  have hback : after = [] := by
    apply hnone after hafter
    rw [htext]
    exact List.Subset.trans (List.subset_append_right cs after) (List.subset_append_right _ _)
  rw [hfront, hback, List.nil_append, List.append_nil] at htext
  rw [htext]
  exact hwritten

/-- Of all identifiers, three words are documents. -/
theorem isDocument_iff_of_isIdentifier {text : String} (h : Text.isIdentifier text = true) :
    (∃ j, Json.IsDocument text j) ↔ text ∈ ["null", "true", "false"] := by
  obtain ⟨c, rest, htext, hstart, -⟩ := exists_of_isIdentifier h
  constructor
  · rintro ⟨j, hdocument⟩
    have hwritten := written_of_isIdentifier h hdocument
    -- how a value begins: with a word, or with a character that begins no identifier
    have hclash : ∀ {d : Char} {left : List Char}, text.toList = d :: left →
        Text.isIdentifierStart d = false → False := by
      intro d left hcs hd
      rw [htext] at hcs
      rw [← (List.cons.inj hcs).1, hstart] at hd
      cases hd
    have hword (word : String) (hcs : text.toList = word.toList) : text = word :=
      String.toList_inj.1 hcs
    generalize hcs : text.toList = cs at hwritten
    cases hwritten with
    | null => simp [hword "null" hcs]
    | true => simp [hword "true" hcs]
    | false => simp [hword "false" hcs]
    | text _ => exact (hclash hcs (by decide)).elim
    | array _ => exact (hclash hcs (by decide)).elim
    | object _ => exact (hclash hcs (by decide)).elim
    | numeral hnumeral =>
        obtain ⟨d, left, rfl, hd⟩ := Json.head_of_numeralText hnumeral
        exact (hclash hcs (not_isIdentifierStart_of_numeral hd)).elim
  · intro hmem
    have hwords : ∀ word ∈ ["null", "true", "false"], ∃ j, Json.IsDocument word j := by
      simp only [List.forall_mem_cons]
      refine ⟨⟨.null, [], _, [], ?_, ?_, ?_, .null⟩, ⟨.bool true, [], _, [], ?_, ?_, ?_, .true⟩,
        ⟨.bool false, [], _, [], ?_, ?_, ?_, .false⟩, ?_⟩
      all_goals simp [Json.Blanks]
    exact hwords text hmem

/-- The words among them are reserved. -/
theorem not_isDocument_of_isIdentifier {text : String} (h : Text.isIdentifier text = true)
    (hfree : text ∉ Replacement.reservedWords) : ¬ ∃ j, Json.IsDocument text j := by
  rw [isDocument_iff_of_isIdentifier h]
  have hreserved : ["null", "true", "false"] ⊆ Replacement.reservedWords := by decide
  exact fun hmem => hfree (hreserved hmem)

/-! ## What is read -/

/-- What a text stands for as an identifier, unless it is a reserved word. -/
def Replacement.identifier? (text : String) : Option Replacement :=
  if Text.isIdentifier text && !reservedWords.contains text then some (.identifier text) else none

theorem identifier?_eq_some_iff (text : String) (replacement : Replacement) :
    Replacement.identifier? text = some replacement ↔
      (Text.isIdentifier text = true ∧ text ∉ Replacement.reservedWords) ∧
        .identifier text = replacement := by
  unfold Replacement.identifier?
  split
  · rename_i h
    simp only [Bool.and_eq_true, Bool.not_eq_true', List.contains_eq_mem,
      decide_eq_false_iff_not] at h
    simp [h]
  · rename_i h
    simp only [Bool.and_eq_true, Bool.not_eq_true', List.contains_eq_mem,
      decide_eq_false_iff_not] at h
    simp [h]

/-- A document has no reading as an identifier. -/
theorem identifier?_of_isDocument {text : String} {j : Json} (h : Json.IsDocument text j) :
    Replacement.identifier? text = none := by
  rw [Option.eq_none_iff_forall_ne_some]
  intro replacement hread
  obtain ⟨⟨hidentifier, hfree⟩, -⟩ := (identifier?_eq_some_iff text replacement).1 hread
  exact not_isDocument_of_isIdentifier hidentifier hfree ⟨j, h⟩

theorem parse?_eq_or (text : String) :
    Replacement.parse? text = (Replacement.identifier? text).or (Replacement.ofJson? text) := by
  unfold Replacement.parse? Replacement.identifier?
  split <;> rfl

/-- A text is read as what it stands for, and it stands for one thing at most. -/
theorem parse?_eq_some_iff (text : String) (replacement : Replacement) :
    Replacement.parse? text = some replacement ↔ StandsFor text replacement := by
  rw [parse?_eq_or, Option.or_eq_some_iff, identifier?_eq_some_iff, Json.ofJson?_eq_some_iff]
  constructor
  · rintro (⟨⟨hidentifier, hfree⟩, rfl⟩ | ⟨-, hconstant⟩)
    · exact .identifier hidentifier hfree
    · exact .constant hconstant
  · rintro (⟨hidentifier, hfree⟩ | hconstant)
    · exact .inl ⟨⟨hidentifier, hfree⟩, rfl⟩
    · obtain ⟨j, hdocument, -⟩ := hconstant.exists_isDocument
      exact .inr ⟨identifier?_of_isDocument hdocument, hconstant⟩

/-! ## The order of the readings -/

/-- A text that is no document is no constant. -/
theorem ofJson?_of_not_isDocument {text : String} (h : ¬ ∃ j, Json.IsDocument text j) :
    Replacement.ofJson? text = none := by
  rw [Option.eq_none_iff_forall_ne_some]
  intro value hread
  obtain ⟨j, hdocument, -⟩ := ((Json.ofJson?_eq_some_iff text value).1 hread).exists_isDocument
  exact h ⟨j, hdocument⟩

/-- The text of a define has one reading. Of all identifiers, the three words for values are JSON
documents, and no others; these are reserved, so an identifier to put in is no document. Therefore
it does not matter whether a text is tried as JSON first: a document stands for what its tree stands
for, and any other text for itself, if it is an identifier to put in. A text stands for nothing
exactly when it is neither that nor a constant. -/
theorem value_has_one_reading (text : String) :
    (Text.isIdentifier text = true →
      ((∃ j, Json.IsDocument text j) ↔ text ∈ ["null", "true", "false"])) ∧
    (Text.isIdentifier text = true ∧ text ∉ Replacement.reservedWords →
      ¬ ∃ j, Json.IsDocument text j) ∧
    Replacement.parse? text = (Replacement.ofJson? text).or (Replacement.identifier? text) ∧
    (∀ j, Json.IsDocument text j → Replacement.parse? text = j.constant?) ∧
    ((¬ ∃ j, Json.IsDocument text j) →
      Replacement.parse? text = Replacement.identifier? text) ∧
    (Replacement.parse? text = none ↔
      ¬ (Text.isIdentifier text = true ∧ text ∉ Replacement.reservedWords) ∧
        ¬ ∃ value, Json.IsConstant text value) := by
  have hdocument (j : Json) (h : Json.IsDocument text j) : Replacement.parse? text = j.constant? := by
    rw [parse?_eq_or, identifier?_of_isDocument h, Option.none_or, Json.ofJson?_of_isDocument h]
  have hother (h : ¬ ∃ j, Json.IsDocument text j) :
      Replacement.parse? text = Replacement.identifier? text := by
    rw [parse?_eq_or, ofJson?_of_not_isDocument h, Option.or_none]
  refine ⟨isDocument_iff_of_isIdentifier, fun h => not_isDocument_of_isIdentifier h.1 h.2, ?_,
    hdocument, hother, ?_⟩
  · by_cases h : ∃ j, Json.IsDocument text j
    · obtain ⟨j, h⟩ := h
      rw [hdocument j h, Json.ofJson?_of_isDocument h, identifier?_of_isDocument h, Option.or_none]
    · rw [hother h, ofJson?_of_not_isDocument h, Option.none_or]
  · rw [← not_or, ← IsDefineValue, ← isSome_parse?_iff, Option.not_isSome_iff_eq_none]

/-- Reserved words stand for nothing, unless they are words for values. -/
example :
    ["this", "null", "nullable", " true\n", "[true]"].map Replacement.parse? =
      [none, some .null, some (.identifier "nullable"), some (.boolean true), none] := by
  decide +kernel

end Bundler
