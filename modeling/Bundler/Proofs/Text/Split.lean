import Bundler.Text.Identifier
import Mathlib.Logic.Function.Basic

/-! # Texts split at a character

Splitting at a character gives pieces without it, and joining puts the pieces together again. For
the parts of a dotted path this goes both ways: a text has one list of parts, and parts without dots
have one text. -/

set_option autoImplicit false

namespace Bundler

/-- What is split at a character has pieces without it. -/
theorem not_mem_of_mem_splitOn {α : Type} [DecidableEq α] {sep : α} {xs piece : List α}
    (h : piece ∈ xs.splitOn sep) : sep ∉ piece := by
  induction xs generalizing piece with
  | nil =>
      rw [List.splitOn_nil, List.mem_singleton] at h
      rw [h]
      exact List.not_mem_nil
  | cons x xs ih =>
      rw [List.splitOn_cons_eq_if_modifyHead] at h
      obtain ⟨first, others, hsplit⟩ := List.exists_cons_of_ne_nil (List.splitOn_ne_nil sep xs)
      rw [hsplit] at h ih
      split at h
      · rcases List.mem_cons.1 h with rfl | h
        · exact List.not_mem_nil
        · exact ih h
      -- the first piece goes on with a character that is another one
      · rename_i hx
        rcases List.mem_cons.1 h with rfl | h
        · have hne : sep ≠ x := fun heq => hx (beq_iff_eq.2 heq.symm)
          simp [hne, ih List.mem_cons_self]
        · exact ih (List.mem_cons_of_mem _ h)

/-! ## Parts between dots -/

theorem dottedParts_ne_nil (text : String) : Text.dottedParts text ≠ [] := by
  simp [Text.dottedParts]

theorem dot_not_mem_of_mem_dottedParts {text part : String} (h : part ∈ Text.dottedParts text) :
    '.' ∉ part.toList := by
  obtain ⟨piece, hpiece, rfl⟩ := List.mem_map.1 h
  rw [String.toList_ofList]
  exact not_mem_of_mem_splitOn hpiece

/-- The parts between dots, put together again. -/
theorem dotted_dottedParts (text : String) : Text.dotted (Text.dottedParts text) = text := by
  have hid : String.toList ∘ String.ofList = id := funext fun _ => String.toList_ofList
  rw [← String.toList_inj, Text.dotted, Text.dottedParts, String.toList_intercalate, List.map_map,
    hid, List.map_id]
  exact List.intercalate_splitOn '.'

/-- The parts of a text determine it. -/
theorem dottedParts_injective : Function.Injective Text.dottedParts :=
  Function.LeftInverse.injective dotted_dottedParts

/-- Parts without dots, put together and taken apart again. -/
theorem dottedParts_dotted {parts : List String} (hne : parts ≠ [])
    (h : ∀ part ∈ parts, '.' ∉ part.toList) : Text.dottedParts (Text.dotted parts) = parts := by
  have hsplit : (['.'].intercalate (parts.map String.toList)).splitOn '.'
      = parts.map String.toList :=
    List.splitOn_intercalate '.' (by simpa using h) (by simpa using hne)
  have hid : String.ofList ∘ String.toList = id := funext fun _ => String.ofList_toList
  rw [Text.dottedParts, Text.dotted, String.toList_intercalate]
  show ((['.'].intercalate (parts.map String.toList)).splitOn '.').map String.ofList = parts
  rw [hsplit, List.map_map, hid, List.map_id]

end Bundler
