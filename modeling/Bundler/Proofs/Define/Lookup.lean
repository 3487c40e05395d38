import Bundler.Define.Table
import Bundler.Proofs.Text.Split
import Mathlib.Data.Finset.Card
import Mathlib.Data.List.Induction

/-! # What a table of defines answers

A table keeps the defines of single identifiers apart from the others, and the others in groups, but
it answers as a plain list of defines would in which the last one of a path counts
(`last_define_counts`). All of it comes from what one insertion does: it changes the answer for the
path of its key and for no other (`lookup_insert`), and the table grows exactly when there was no
answer before (`size_insert`). -/

set_option autoImplicit false

namespace Bundler

/-! ## Groups -/

namespace DefineTable

/-- The group of the paths with a last part, which may be empty. -/
def group (t : DefineTable) (last : String) : List DotDefine := (t.dots.get? last).getD []

theorem find?_putDot (parts wanted : List String) (value : Replacement) (ds : List DotDefine) :
    ((putDot parts value ds).find? fun d => d.parts == wanted) =
      if parts = wanted then some ⟨parts, value⟩ else ds.find? fun d => d.parts == wanted := by
  induction ds with
  | nil => by_cases h : parts = wanted <;> simp [putDot, h]
  | cons d ds ih =>
      unfold putDot
      split
      · rename_i hparts
        by_cases h : parts = wanted
        · simp [h]
        · simp [h, hparts]
      · rename_i hparts
        rw [List.find?_cons, List.find?_cons, ih]
        by_cases h : parts = wanted
        · have hd : (d.parts == wanted) = false := beq_eq_false_iff_ne.2 (h ▸ hparts)
          simp [h, hd]
        · simp [h]

theorem length_putDot (parts : List String) (value : Replacement) (ds : List DotDefine) :
    (putDot parts value ds).length =
      ds.length + if (ds.find? fun d => d.parts == parts).isSome then 0 else 1 := by
  induction ds with
  | nil => rfl
  | cons d ds ih =>
      unfold putDot
      split
      · rename_i hparts
        simp [hparts]
      · rename_i hparts
        have hd : (d.parts == parts) = false := beq_eq_false_iff_ne.2 hparts
        simp only [List.length_cons, List.find?_cons, hd, ih]
        omega

/-- The path of several parts is looked up in the group of its last part. -/
theorem lookup_several (t : DefineTable) (first second : String) (others : List String) :
    let parts := first :: second :: others
    t.lookup parts =
      ((t.group (parts.getLast?.getD "")).find? fun d => d.parts == parts).map DotDefine.value := by
  intro parts
  show (t.dots.get? (parts.getLast?.getD "")).bind _ = _
  unfold group
  cases t.dots.get? (parts.getLast?.getD "") with
  | none => rfl
  | some ds =>
      show (ds.find? _).bind _ = (ds.find? _).map _
      cases ds.find? fun d => d.parts == parts <;> rfl

/-! ## Insertions -/

/-- The path of a key is that of an identifier, or it has several parts. -/
theorem insert_cases (t : DefineTable) (key : String) (value : Replacement) :
    (∃ name, Text.dottedParts key = [name] ∧
      t.insert key value = { t with identifiers := t.identifiers.insert name value }) ∨
    (∃ first second others, Text.dottedParts key = first :: second :: others ∧
      let last := (Text.dottedParts key).getLast?.getD ""
      t.insert key value =
        { t with dots := t.dots.insert last (putDot (Text.dottedParts key) value (t.group last)) })
    := by
  unfold insert
  cases hparts : Text.dottedParts key with
  | nil => exact absurd hparts (dottedParts_ne_nil key)
  | cons first rest =>
      cases rest with
      | nil => exact .inl ⟨first, rfl, rfl⟩
      | cons second others => exact .inr ⟨first, second, others, rfl, rfl⟩

/-- An insertion changes the answer for the path of its key and for no other. -/
theorem lookup_insert (t : DefineTable) (key : String) (value : Replacement)
    (parts : List String) :
    (t.insert key value).lookup parts =
      if Text.dottedParts key = parts then some value else t.lookup parts := by
  rcases t.insert_cases key value with
    ⟨name, hkey, hinsert⟩ | ⟨first, second, others, hkey, hinsert⟩
  · rw [hinsert, hkey]
    match parts with
    | [] => simp [lookup]
    | [wanted] =>
        show (t.identifiers.insert name value).get? wanted = _
        rw [Dictionary.get?_insert]
        simp [lookup]
    | _ :: _ :: _ =>
        rw [lookup_several, lookup_several]
        simp [group]
  · rw [hinsert]
    match parts with
    | [] => simp [lookup, hkey]
    | [wanted] => simp [lookup, hkey]
    | a :: b :: rest =>
        rw [lookup_several, lookup_several]
        simp only [group, Dictionary.get?_insert]
        -- a path in another group has another last part
        split
        · rename_i hlast
          rw [Option.getD_some, find?_putDot, hlast]
          split <;> rfl
        · rename_i hlast
          have hne : Text.dottedParts key ≠ a :: b :: rest := fun h => hlast (by rw [h])
          rw [if_neg hne]

/-- The size as the lengths of two lists, each made of the values of one of the dictionaries. -/
theorem size_eq (t : DefineTable) :
    t.size = (t.identifiers.values.flatMap fun value => [value]).length +
      (t.dots.values.flatMap id).length := by
  rw [List.flatMap_singleton', List.flatMap_id, Dictionary.values, List.length_map]
  rfl

/-- The table grows exactly when the path of the key had no define. -/
theorem size_insert (t : DefineTable) (key : String) (value : Replacement) :
    (t.insert key value).size =
      t.size + if (t.lookup (Text.dottedParts key)).isSome then 0 else 1 := by
  rcases t.insert_cases key value with
    ⟨name, hkey, hinsert⟩ | ⟨first, second, others, hkey, hinsert⟩
  · have hlength := t.identifiers.length_flatMap_insert name value fun value => [value]
    have hlookup : t.lookup (Text.dottedParts key) = t.identifiers.get? name := by
      rw [hkey, lookup]
    rw [hlookup, hinsert, size_eq, size_eq]
    cases hget : t.identifiers.get? name with
    | none =>
        rw [hget] at hlength
        simp only [Option.map_none, Option.getD_none, Option.isSome_none, Bool.false_eq_true,
          if_false, List.length_nil, List.length_singleton] at hlength ⊢
        omega
    | some old =>
        rw [hget] at hlength
        simp only [Option.map_some, Option.getD_some, Option.isSome_some, if_true,
          List.length_singleton] at hlength ⊢
        omega
  · generalize hlast : (Text.dottedParts key).getLast?.getD "" = last at hinsert
    have hlength := t.dots.length_flatMap_insert last
      (putDot (Text.dottedParts key) value (t.group last)) id
    have hgroup : ((t.dots.get? last).map id).getD [] = t.group last := by
      rw [Option.map_id, group]
      rfl
    have hlookup : t.lookup (Text.dottedParts key) =
        ((t.group last).find? fun d => d.parts == Text.dottedParts key).map DotDefine.value := by
      rw [← hlast, hkey, lookup_several]
    rw [hgroup, id, length_putDot] at hlength
    rw [hlookup, hinsert, size_eq, size_eq, Option.isSome_map]
    dsimp only
    omega

/-! ## Lists of defines -/

theorem ofList_concat (defines : List (String × Replacement)) (key : String)
    (value : Replacement) :
    ofList (defines ++ [(key, value)]) = (ofList defines).insert key value := by
  rw [ofList, List.foldl_append]
  rfl

theorem lookup_empty (parts : List String) : empty.lookup parts = none := by
  match parts with
  | [] => rfl
  | [_] => rfl
  | _ :: _ :: _ =>
      rw [lookup_several]
      rfl

/-- The answer for a path is that of the last define for it. -/
theorem lookup_ofList (defines : List (String × Replacement)) (parts : List String) :
    (ofList defines).lookup parts =
      (defines.reverse.find? fun entry => Text.dottedParts entry.1 == parts).map Prod.snd := by
  induction defines using List.reverseRecOn with
  | nil => exact lookup_empty parts
  | append_singleton defines entry ih =>
      rw [ofList_concat, lookup_insert, ih, List.reverse_concat, List.find?_cons]
      by_cases hkey : Text.dottedParts entry.1 = parts
      · simp [hkey]
      · have hno : (Text.dottedParts entry.1 == parts) = false := beq_eq_false_iff_ne.2 hkey
        simp [hkey, hno]

/-- So no define comes after it that is for the same path. -/
theorem lookup_ofList_eq_some_iff (defines : List (String × Replacement)) (parts : List String)
    (value : Replacement) :
    (ofList defines).lookup parts = some value ↔
      ∃ front key back, defines = front ++ (key, value) :: back ∧
        Text.dottedParts key = parts ∧ ∀ entry ∈ back, Text.dottedParts entry.1 ≠ parts := by
  rw [lookup_ofList, Option.map_eq_some_iff]
  constructor
  · rintro ⟨⟨key, _⟩, hfind, rfl⟩
    obtain ⟨front, back, hsplit, hkey, hback⟩ := find?_reverse_eq_some_iff.1 hfind
    exact ⟨front, key, back, hsplit, beq_iff_eq.1 hkey,
      fun entry hentry => beq_eq_false_iff_ne.1 (hback entry hentry)⟩
  · rintro ⟨front, key, back, hsplit, hkey, hback⟩
    refine ⟨(key, value), find?_reverse_eq_some_iff.2 ⟨front, back, hsplit, ?_⟩, rfl⟩
    exact ⟨beq_iff_eq.2 hkey, fun entry hentry => beq_eq_false_iff_ne.2 (hback entry hentry)⟩

/-- Where no two defines have one key, each of them is the last for its path. -/
theorem lookup_ofList_iff_of_nodup {defines : List (String × Replacement)}
    (h : (defines.map Prod.fst).Nodup) (parts : List String) (value : Replacement) :
    (ofList defines).lookup parts = some value ↔
      ∃ key, (key, value) ∈ defines ∧ Text.dottedParts key = parts := by
  rw [lookup_ofList_eq_some_iff]
  constructor
  · rintro ⟨front, key, back, rfl, hkey, -⟩
    exact ⟨key, List.mem_append_right _ List.mem_cons_self, hkey⟩
  · rintro ⟨key, hmem, rfl⟩
    obtain ⟨front, back, rfl⟩ := List.append_of_mem hmem
    refine ⟨front, key, back, rfl, rfl, fun entry hentry hparts => ?_⟩
    have hkey : entry.1 = key := dottedParts_injective hparts
    rw [List.map_append, List.map_cons] at h
    have hback : key ∉ back.map Prod.fst := (List.nodup_cons.1 h.of_append_right).1
    exact hback (hkey ▸ List.mem_map_of_mem hentry)

/-- A path has no answer exactly when no define is for it. -/
theorem lookup_ofList_eq_none_iff (defines : List (String × Replacement)) (parts : List String) :
    (ofList defines).lookup parts = none ↔
      ∀ entry ∈ defines, Text.dottedParts entry.1 ≠ parts := by
  rw [lookup_ofList, Option.map_eq_none_iff, List.find?_eq_none]
  simp

/-- The size is the number of different keys. -/
theorem size_ofList (defines : List (String × Replacement)) :
    (ofList defines).size = (defines.map Prod.fst).toFinset.card := by
  induction defines using List.reverseRecOn with
  | nil => rfl
  | append_singleton defines entry ih =>
      obtain ⟨key, value⟩ := entry
      have hknown : ((ofList defines).lookup (Text.dottedParts key)).isSome = true ↔
          key ∈ (defines.map Prod.fst).toFinset := by
        rw [← Option.ne_none_iff_isSome, Ne, lookup_ofList_eq_none_iff]
        simp [dottedParts_injective.eq_iff]
      have hkeys : ((defines ++ [(key, value)]).map Prod.fst).toFinset =
          Insert.insert key (defines.map Prod.fst).toFinset := by
        rw [List.map_append, List.toFinset_append, Finset.union_comm]
        rfl
      rw [ofList_concat, size_insert, ih, hkeys]
      by_cases h : key ∈ (defines.map Prod.fst).toFinset
      · rw [if_pos (hknown.2 h), Finset.insert_eq_of_mem h]
        rfl
      · rw [if_neg (mt hknown.1 h), Finset.card_insert_of_notMem h]

end DefineTable

/-! ## The table as a list of defines -/

/-- A table of defines answers as the list of the defines does in which the last one for a path
counts. There is no answer for a path that is not exactly that of a define, so not for the empty
path, nor for one with a dot inside a part. -/
theorem last_define_counts (defines : List (String × Replacement)) (parts : List String) :
    let table := DefineTable.ofList defines
    (∀ value, table.lookup parts = some value ↔
      ∃ front key back, defines = front ++ (key, value) :: back ∧
        Text.dottedParts key = parts ∧ ∀ entry ∈ back, Text.dottedParts entry.1 ≠ parts) ∧
    (table.lookup parts = none ↔ ∀ entry ∈ defines, Text.dottedParts entry.1 ≠ parts) ∧
    (parts = [] ∨ (∃ part ∈ parts, '.' ∈ part.toList) → table.lookup parts = none) := by
  refine ⟨DefineTable.lookup_ofList_eq_some_iff defines parts,
    DefineTable.lookup_ofList_eq_none_iff defines parts, fun hparts => ?_⟩
  rw [DefineTable.lookup_ofList_eq_none_iff]
  rintro entry - rfl
  rcases hparts with hnil | ⟨part, hpart, hdot⟩
  · exact dottedParts_ne_nil entry.1 hnil
  · exact dot_not_mem_of_mem_dottedParts hpart hdot

/-- The later define of a path replaces the earlier one, and the group it shares stays. -/
example :
    let table := DefineTable.ofList
      [("a.b", .null), ("c.b", .boolean true), ("a.b", .text "last"), ("b", .boolean false)]
    [["a", "b"], ["c", "b"], ["b"], ["a"], ["a.b"], []].map table.lookup =
      [some (.text "last"), some (.boolean true), some (.boolean false), none, none, none] := by
  decide +kernel

end Bundler
