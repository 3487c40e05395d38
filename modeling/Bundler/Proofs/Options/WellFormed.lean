import Bundler.Options.Check
import Bundler.Proofs.Json.Constant
import Bundler.Proofs.Text.Split

/-! # Well-formed items of options

What one item of an option has to be, said of its text alone: what JSX becomes, the key and the
value of a define, a path, the extension of a loader, an extension to try, a module that stays an
import. Each predicate comes with the test of the program that decides it. -/

set_option autoImplicit false

namespace Bundler

/-! ## Dotted paths -/

/-- A text is identifiers with a dot between neighbours. -/
def IsDottedPath (text : String) : Prop :=
  ∃ parts : List String, parts ≠ [] ∧ (∀ part ∈ parts, Text.isIdentifier part = true) ∧
    text = Text.dotted parts

/-- An identifier has no dot in it, so the dots of a path are those between its parts. -/
theorem dot_not_mem_of_isIdentifier {text : String} (h : Text.isIdentifier text = true) :
    '.' ∉ text.toList := by
  unfold Text.isIdentifier at h
  cases hcs : text.toList with
  | nil => simp
  | cons c cs =>
      rw [hcs] at h
      simp only [Text.isIdentifierChars, Bool.and_eq_true, List.all_eq_true] at h
      obtain ⟨hstart, hparts⟩ := h
      intro hmem
      -- a dot can neither begin an identifier nor go on with one
      rcases List.mem_cons.1 hmem with hc | hc
      · rw [← hc] at hstart
        exact absurd hstart (by decide)
      · exact absurd (hparts '.' hc) (by decide)

theorem isDottedPath_iff (text : String) : Text.isDottedPath text = true ↔ IsDottedPath text := by
  unfold Text.isDottedPath IsDottedPath
  rw [List.all_eq_true]
  constructor
  · intro h
    refine ⟨Text.dottedParts text, ?_, h, (dotted_dottedParts text).symm⟩
    simp [Text.dottedParts]
  · rintro ⟨parts, hne, hparts, rfl⟩
    rw [dottedParts_dotted hne fun part hpart => dot_not_mem_of_isIdentifier (hparts part hpart)]
    exact hparts

instance (text : String) : Decidable (IsDottedPath text) :=
  decidable_of_iff _ (isDottedPath_iff text)

/-- A text is nothing, or what JSX elements or fragments may become. -/
def IsJsxName (text : String) : Prop := text = "" ∨ IsDottedPath text

instance (text : String) : Decidable (IsJsxName text) := inferInstanceAs (Decidable (_ ∨ _))

/-! ## Values of defines -/

/-- A text is an identifier that is no reserved word, or a JSON constant. -/
def IsDefineValue (text : String) : Prop :=
  (Text.isIdentifier text = true ∧ text ∉ Replacement.reservedWords) ∨
    ∃ value, Json.IsConstant text value

theorem isSome_parse?_iff (text : String) :
    (Replacement.parse? text).isSome = true ↔ IsDefineValue text := by
  have hconstant : (Replacement.ofJson? text).isSome = true ↔
      ∃ value, Json.IsConstant text value := by
    rw [Option.isSome_iff_exists]
    exact exists_congr fun value => Json.ofJson?_eq_some_iff text value
  unfold Replacement.parse? IsDefineValue
  rw [← hconstant]
  split
  · rename_i h
    simp only [Bool.and_eq_true, Bool.not_eq_true', List.contains_eq_mem,
      decide_eq_false_iff_not] at h
    exact ⟨fun _ => .inl h, fun _ => rfl⟩
  · rename_i h
    simp only [Bool.and_eq_true, Bool.not_eq_true', List.contains_eq_mem,
      decide_eq_false_iff_not] at h
    exact ⟨.inr, fun hvalue => hvalue.resolve_left h⟩

instance (text : String) : Decidable (IsDefineValue text) :=
  decidable_of_iff _ (isSome_parse?_iff text)

/-! ## Paths -/

/-- A path is nothing, or it has an absolute form. -/
def IsLocated (fs : FileSystem) (text : String) : Prop :=
  text = "" ∨ ∃ absolute, fs.abs text = some absolute

instance (fs : FileSystem) (text : String) : Decidable (IsLocated fs text) :=
  decidable_of_iff (text = "" ∨ (fs.abs text).isSome = true) (by
    rw [IsLocated, Option.isSome_iff_exists])

/-! ## Extensions -/

/-- An extension has at least two bytes and begins with a dot. -/
def IsExtension (text : String) : Prop :=
  2 ≤ Text.byteSize text.toList ∧ text.toList.head? = some '.'

/-- The extension of a loader has no further dot. -/
def IsLoaderKey (text : String) : Prop := IsExtension text ∧ '.' ∉ text.toList.tail

instance (text : String) : Decidable (IsExtension text) := inferInstanceAs (Decidable (_ ∧ _))
instance (text : String) : Decidable (IsLoaderKey text) := inferInstanceAs (Decidable (_ ∧ _))

theorem isExtension_iff (text : String) : Check.isExtension text = true ↔ IsExtension text := by
  unfold Check.isExtension IsExtension
  cases htext : text.toList with
  | nil => simp
  | cons c cs =>
      cases cs with
      | nil =>
          -- one character with two bytes is no dot
          refine ⟨fun h => by split at h <;> simp_all, ?_⟩
          rintro ⟨hsize, hdot⟩
          obtain rfl := Option.some.inj hdot
          exact absurd hsize (by decide)
      | cons d ds =>
          have hc : 0 < c.utf8Size := Char.utf8Size_pos c
          have hd : 0 < d.utf8Size := Char.utf8Size_pos d
          have hsize : 2 ≤ Text.byteSize (c :: d :: ds) := by
            simp only [Text.byteSize]
            omega
          rw [List.head?_cons, Option.some.injEq]
          constructor
          · intro h
            split at h
            · simp_all
            · cases h
          · rintro ⟨-, rfl⟩
            rfl

theorem isLoaderKey_iff (text : String) : Check.isLoaderKey text = true ↔ IsLoaderKey text := by
  unfold Check.isLoaderKey IsLoaderKey
  rw [Bool.and_eq_true, isExtension_iff]
  simp

/-! ## Names of modules -/

/-- A name is that of a file: it begins at the root, at the directory of the importing module or
above it, or at a drive. -/
def IsFileName (text : String) : Prop :=
  text ∈ [".", ".."] ∨ (∃ front ∈ ["/", "./", "../"], front.toList <+: text.toList) ∨
    ∃ drive separator rest, text.toList = drive :: ':' :: separator :: rest ∧
      drive.isAlpha = true ∧ separator ∈ ['/', '\\']

theorem namesFile_iff (text : String) : namesFile text = true ↔ IsFileName text := by
  have hwhole : text ∈ [".", ".."] ↔ text.toList = ['.'] ∨ text.toList = ['.', '.'] := by
    rw [List.mem_cons, List.mem_singleton, ← String.toList_inj, ← String.toList_inj]
    exact Iff.rfl
  have hfront : (∃ front ∈ ["/", "./", "../"], front.toList <+: text.toList) ↔
      ['/'] <+: text.toList ∨ ['.', '/'] <+: text.toList ∨ ['.', '.', '/'] <+: text.toList := by
    simp
  unfold namesFile IsFileName
  rw [hwhole, hfront]
  generalize text.toList = cs
  constructor
  · intro h
    split at h
    · exact .inr (.inl (.inl ⟨_, rfl⟩))
    · exact .inl (.inl rfl)
    · exact .inl (.inr rfl)
    · exact .inr (.inl (.inr (.inl ⟨_, rfl⟩)))
    · exact .inr (.inl (.inr (.inr ⟨_, rfl⟩)))
    · rename_i drive separator rest _
      simp only [Bool.and_eq_true, Bool.or_eq_true, beq_iff_eq] at h
      exact .inr (.inr ⟨drive, separator, rest, rfl, h.1, by simpa using h.2⟩)
    · cases h
  · rintro ((rfl | rfl) | (⟨rest, rfl⟩ | ⟨rest, rfl⟩ | ⟨rest, rfl⟩) | ⟨drive, separator, rest, rfl,
      hdrive, hseparator⟩)
    · rfl
    · rfl
    · rfl
    · rfl
    · rfl
    -- a drive is a letter, so no earlier pattern takes its name
    · have hdrive' : drive ≠ '/' ∧ drive ≠ '.' := by
        constructor
        all_goals
          rintro rfl
          exact absurd hdrive (by decide)
      simp_all

instance (text : String) : Decidable (IsFileName text) :=
  decidable_of_iff _ (namesFile_iff text)

end Bundler
