import Bundler.Proofs.Define.Lookup

/-! # How a table of defines is kept

A table keeps a define of one part under its name, and the others in groups by their last part. That
each define stands where it is looked for is an invariant of the insertions (`DefineTable.Keeps`).
What a group says of the order of its defines is said of their paths alone (`IsGroup`), since a
define that replaces another one takes its place, and its path is the same. -/

set_option autoImplicit false

namespace Bundler

/-! ## The paths of a group -/

/-- The paths of a group: several parts each, the last of which is that of the group, with no path
twice, and in the order in which they come first among the keys. -/
structure IsGroup (keys : List String) (last : String) (paths : List (List String)) : Prop where
  several : ∀ path ∈ paths, 2 ≤ path.length
  noDot : ∀ path ∈ paths, ∀ part ∈ path, '.' ∉ part.toList
  ends : ∀ path ∈ paths, path.getLast? = some last
  nodup : paths.Nodup
  known : ∀ path ∈ paths, Text.dotted path ∈ keys
  inOrder : paths.Pairwise fun a b =>
    keys.idxOf (Text.dotted a) < keys.idxOf (Text.dotted b)

namespace IsGroup

variable {keys : List String} {last : String} {paths : List (List String)}

theorem nil : IsGroup keys last [] where
  several := List.forall_mem_nil _
  noDot := List.forall_mem_nil _
  ends := List.forall_mem_nil _
  nodup := .nil
  known := List.forall_mem_nil _
  inOrder := .nil

/-- More keys behind the others do not change where a path comes first. -/
theorem append (h : IsGroup keys last paths) (more : List String) :
    IsGroup (keys ++ more) last paths where
  several := h.several
  noDot := h.noDot
  ends := h.ends
  nodup := h.nodup
  known := fun path hpath => List.mem_append_left _ (h.known path hpath)
  inOrder := by
    refine h.inOrder.imp_of_mem fun ha hb hlt => ?_
    rwa [List.idxOf_append_of_mem (h.known _ ha), List.idxOf_append_of_mem (h.known _ hb)]

/-- The path of a new key comes behind the paths that are there. -/
theorem concat (h : IsGroup keys last paths) {key : String}
    (hseveral : 2 ≤ (Text.dottedParts key).length)
    (hends : (Text.dottedParts key).getLast? = some last)
    (hnew : Text.dottedParts key ∉ paths) (hkey : key ∉ keys) :
    IsGroup (keys ++ [key]) last (paths ++ [Text.dottedParts key]) := by
  have hgrown := h.append [key]
  refine ⟨?_, ?_, ?_, ?_, ?_, ?_⟩
  · exact List.forall_mem_append.2 ⟨hgrown.several, List.forall_mem_singleton.2 hseveral⟩
  · refine List.forall_mem_append.2 ⟨hgrown.noDot, List.forall_mem_singleton.2 fun part hpart => ?_⟩
    exact dot_not_mem_of_mem_dottedParts hpart
  · exact List.forall_mem_append.2 ⟨hgrown.ends, List.forall_mem_singleton.2 hends⟩
  · exact hgrown.nodup.append (List.nodup_singleton _)
      (List.disjoint_singleton.2 hnew)
  · refine List.forall_mem_append.2 ⟨hgrown.known, List.forall_mem_singleton.2 ?_⟩
    rw [dotted_dottedParts]
    exact List.mem_append_right _ (List.mem_singleton_self key)
  · refine List.pairwise_append.2 ⟨hgrown.inOrder, List.pairwise_singleton _ _,
      fun path hpath => List.forall_mem_singleton.2 ?_⟩
    have hfirst : keys.idxOf (Text.dotted path) < keys.length :=
      List.idxOf_lt_length_iff.2 (h.known path hpath)
    rw [dotted_dottedParts, List.idxOf_append_of_mem (h.known path hpath),
      List.idxOf_append_of_notMem hkey]
    omega

end IsGroup

namespace DefineTable

/-- A define that is put into a group replaces the one of its path, or comes behind the others. -/
theorem map_parts_putDot (parts : List String) (value : Replacement) (ds : List DotDefine) :
    (putDot parts value ds).map DotDefine.parts =
      if parts ∈ ds.map DotDefine.parts then ds.map DotDefine.parts
      else ds.map DotDefine.parts ++ [parts] := by
  induction ds with
  | nil => rfl
  | cons d ds ih =>
      unfold putDot
      split
      · rename_i hparts
        simp [hparts]
      · rename_i hparts
        rw [List.map_cons, ih, List.map_cons]
        by_cases hmem : parts ∈ ds.map DotDefine.parts
        · rw [if_pos hmem, if_pos (List.mem_cons_of_mem _ hmem)]
        · have hnew : parts ∉ d.parts :: ds.map DotDefine.parts :=
            List.not_mem_cons_of_ne_of_not_mem (Ne.symm hparts) hmem
          rw [if_neg hmem, if_neg hnew, List.cons_append]

theorem mem_map_parts_putDot {parts path : List String} {value : Replacement}
    {ds : List DotDefine} :
    path ∈ (putDot parts value ds).map DotDefine.parts ↔
      path = parts ∨ path ∈ ds.map DotDefine.parts := by
  rw [map_parts_putDot]
  split
  · rename_i hmem
    exact ⟨Or.inr, fun h => h.elim (fun heq => heq ▸ hmem) id⟩
  · rw [List.mem_append, List.mem_singleton, or_comm]

theorem putDot_ne_nil (parts : List String) (value : Replacement) (ds : List DotDefine) :
    putDot parts value ds ≠ [] := by
  intro hnil
  have hmem : parts ∈ (putDot parts value ds).map DotDefine.parts :=
    mem_map_parts_putDot.2 (Or.inl rfl)
  rw [hnil] at hmem
  exact absurd hmem List.not_mem_nil

/-! ## The invariant -/

/-- A table keeps the defines of the keys: those of one part under names without dots, and the
others in groups, none of which is empty. -/
structure Keeps (t : DefineTable) (keys : List String) : Prop where
  noDot : ∀ name value, t.identifiers.get? name = some value → '.' ∉ name.toList
  ne_nil : ∀ last, t.dots.get? last ≠ some []
  isGroup : ∀ last ds, t.dots.get? last = some ds → IsGroup keys last (ds.map DotDefine.parts)
  /-- Every path of several parts is found in its group. -/
  grouped : ∀ key ∈ keys, ∀ last, 2 ≤ (Text.dottedParts key).length →
    (Text.dottedParts key).getLast? = some last →
    Text.dottedParts key ∈ (t.group last).map DotDefine.parts

theorem keeps_empty : empty.Keeps [] where
  noDot := by
    rintro name value hget
    cases hget
  ne_nil := by
    rintro last hget
    cases hget
  isGroup := by
    rintro last ds hget
    cases hget
  grouped := List.forall_mem_nil _

namespace Keeps

variable {t : DefineTable} {keys : List String}

/-- The group of a last part, which may be empty, has its paths in order. -/
theorem isGroup_group (h : t.Keeps keys) (last : String) :
    IsGroup keys last ((t.group last).map DotDefine.parts) := by
  unfold group
  cases hget : t.dots.get? last with
  | none => exact .nil
  | some ds => exact h.isGroup last ds hget

/-- A define of one part is kept beside the groups. -/
theorem insert_identifier (h : t.Keeps keys) {key name : String}
    (hkey : Text.dottedParts key = [name]) (value : Replacement) :
    Keeps { t with identifiers := t.identifiers.insert name value } (keys ++ [key]) where
  noDot := by
    intro other found hget
    rw [Dictionary.get?_insert] at hget
    split at hget
    · rename_i hname
      subst hname
      exact dot_not_mem_of_mem_dottedParts (hkey ▸ List.mem_singleton_self name)
    · exact h.noDot other found hget
  ne_nil := h.ne_nil
  isGroup := fun last ds hget => (h.isGroup last ds hget).append [key]
  grouped := by
    refine List.forall_mem_append.2 ⟨h.grouped, List.forall_mem_singleton.2 ?_⟩
    intro last hseveral
    rw [hkey] at hseveral
    exact absurd hseveral (Nat.lt_irrefl 1)

/-- The group of a path holds it after the insertion, in the place that it has or behind the
others. -/
theorem isGroup_putDot (h : t.Keeps keys) {key last : String}
    (hseveral : 2 ≤ (Text.dottedParts key).length)
    (hends : (Text.dottedParts key).getLast? = some last) (value : Replacement) :
    IsGroup (keys ++ [key]) last
      ((putDot (Text.dottedParts key) value (t.group last)).map DotDefine.parts) := by
  rw [map_parts_putDot]
  split
  · exact (h.isGroup_group last).append [key]
  · rename_i hnew
    refine (h.isGroup_group last).concat hseveral hends hnew fun hkey => hnew ?_
    exact h.grouped key hkey last hseveral hends

/-- A define of several parts is kept in the group of its last part. -/
theorem insert_dotted (h : t.Keeps keys) {key last : String}
    (hseveral : 2 ≤ (Text.dottedParts key).length)
    (hends : (Text.dottedParts key).getLast? = some last) (value : Replacement) :
    Keeps { t with dots := t.dots.insert last (putDot (Text.dottedParts key) value (t.group last)) }
      (keys ++ [key]) where
  noDot := h.noDot
  ne_nil := by
    intro other hget
    rw [Dictionary.get?_insert] at hget
    split at hget
    · exact putDot_ne_nil _ _ _ (Option.some.inj hget)
    · exact h.ne_nil other hget
  isGroup := by
    intro other ds hget
    rw [Dictionary.get?_insert] at hget
    split at hget
    · rename_i hlast
      subst hlast
      rw [← Option.some.inj hget]
      exact h.isGroup_putDot hseveral hends value
    · exact (h.isGroup other ds hget).append [key]
  grouped := by
    intro other hother wanted hparts hlast
    simp only [group, Dictionary.get?_insert]
    split
    · rename_i hsame
      subst hsame
      rw [Option.getD_some, mem_map_parts_putDot]
      rcases List.mem_append.1 hother with hother | hother
      · exact Or.inr (h.grouped other hother _ hparts hlast)
      · exact Or.inl (by rw [List.mem_singleton.1 hother])
    · rename_i hne
      rcases List.mem_append.1 hother with hother | hother
      · exact h.grouped other hother _ hparts hlast
      · rw [List.mem_singleton.1 hother, hends] at hlast
        exact absurd (Option.some.inj hlast) hne

/-- An insertion keeps what is kept, and its own define. -/
theorem insert (h : t.Keeps keys) (key : String) (value : Replacement) :
    (t.insert key value).Keeps (keys ++ [key]) := by
  rcases t.insert_cases key value with
    ⟨name, hkey, hinsert⟩ | ⟨first, second, others, hkey, hinsert⟩
  · rw [hinsert]
    exact h.insert_identifier hkey value
  · have hseveral : 2 ≤ (Text.dottedParts key).length := by simp [hkey]
    obtain ⟨last, hends⟩ : ∃ last, (Text.dottedParts key).getLast? = some last :=
      ⟨_, List.getLast?_eq_some_getLast (dottedParts_ne_nil key)⟩
    rw [hinsert, hends, Option.getD_some]
    exact h.insert_dotted hseveral hends value

end Keeps

/-! ## The table of a list -/

/-- The table of a list keeps the defines of its keys. -/
theorem keeps_ofList (defines : List (String × Replacement)) :
    (ofList defines).Keeps (defines.map Prod.fst) := by
  induction defines using List.reverseRecOn with
  | nil => exact keeps_empty
  | append_singleton defines entry ih =>
      rw [ofList_concat, List.map_append]
      exact ih.insert entry.1 entry.2

theorem isEmpty_ofList (defines : List (String × Replacement)) :
    (ofList defines).isEmpty = true ↔ defines = [] := by
  rw [isEmpty, beq_iff_eq, size_ofList, Finset.card_eq_zero, List.toFinset_eq_empty_iff,
    List.map_eq_nil_iff]

end DefineTable

/-- A table of defines keeps each define in its one place: those of one part under names without
dots, the others in groups by their last part, where they stand in the order in which their keys
come first. So its size is the number of different keys. -/
theorem defines_kept_in_place (defines : List (String × Replacement)) :
    let table := DefineTable.ofList defines
    let keys := defines.map Prod.fst
    (∀ name value, table.identifiers.get? name = some value → '.' ∉ name.toList) ∧
    (∀ last ds, table.dots.get? last = some ds →
      ds ≠ [] ∧ IsGroup keys last (ds.map DotDefine.parts)) ∧
    table.size = keys.toFinset.card ∧
    (table.isEmpty = true ↔ defines = []) := by
  intro table keys
  have hkeeps : table.Keeps keys := DefineTable.keeps_ofList defines
  refine ⟨hkeeps.noDot, fun last ds hget => ⟨?_, hkeeps.isGroup last ds hget⟩,
    DefineTable.size_ofList defines, DefineTable.isEmpty_ofList defines⟩
  rintro rfl
  exact hkeeps.ne_nil last hget

/-- A define that comes again takes the place of the first one. Parts may be empty. -/
example :
    let table := DefineTable.ofList [("c.b", .null), ("b", .null), ("a.b", .null), (".b", .null),
      ("c.b", .boolean true), ("b.", .null)]
    table.dots.entries.map (fun entry => (entry.1, entry.2.map DotDefine.parts)) =
        [("", [["b", ""]]), ("b", [["c", "b"], ["a", "b"], ["", "b"]])] ∧ table.size = 5 := by
  decide +kernel

end Bundler
