import Bundler.Proofs.Define.Lookup
import Bundler.Proofs.Define.Value
import Bundler.Proofs.Options.Faults
import Bundler.Proofs.Text.Quoted

/-! # Defines that are checked

Among the defines that a caller gives there may be bad ones, with a key that is no dotted path or a
value that stands for nothing. Each of them is one error, and the table is made of the others, as if
the bad ones had not been given (`bad_defines_left_out`). Two good entries never meet in the table:
their keys differ, and so do the parts of the keys. -/

set_option autoImplicit false

namespace Bundler

/-- An entry of the defines is as it has to be. -/
def IsDefine (entry : String × String) : Prop := IsDottedPath entry.1 ∧ IsDefineValue entry.2

instance : DecidablePred IsDefine := fun _ => inferInstanceAs (Decidable (_ ∧ _))

/-- The text of the error about a bad entry. It names the key if that is bad, and else the value. -/
def defineError (entry : String × String) : String :=
  if IsDottedPath entry.1 then "Invalid define value: " ++ Text.quoted entry.2
  else "Invalid define key: " ++ Text.quoted entry.1

/-- The error about an entry shows what is bad. -/
structure ShowsFault (text : String) (entry : String × String) : Prop where
  key : ¬ IsDottedPath entry.1 →
    ∃ shown, text = "Invalid define key: " ++ shown ∧ Text.Shows shown entry.1
  value : IsDottedPath entry.1 →
    ∃ shown, text = "Invalid define value: " ++ shown ∧ Text.Shows shown entry.2

theorem showsFault_defineError (entry : String × String) :
    ShowsFault (defineError entry) entry where
  key := fun hkey => ⟨_, if_neg hkey, Text.shows_quoted entry.1⟩
  value := fun hkey => ⟨_, if_pos hkey, Text.shows_quoted entry.2⟩

/-! ## The good entries -/

/-- The defines that good entries give, in the order of their keys. -/
def goodDefines (entries : Dictionary String) : List (String × Replacement) :=
  entries.entries.filterMap fun entry => (Check.define entry.1 entry.2).toOption

/-- An entry gives a define if its key is a path and its value stands for something. -/
theorem define_toOption_eq_some_iff (entry : String × String) (define : String × Replacement) :
    (Check.define entry.1 entry.2).toOption = some define ↔
      IsDottedPath entry.1 ∧ define.1 = entry.1 ∧ StandsFor entry.2 define.2 := by
  obtain ⟨key, replacement⟩ := define
  rw [← parse?_eq_some_iff]
  unfold Check.define
  by_cases hkey : IsDottedPath entry.1
  · rw [(isDottedPath_iff entry.1).2 hkey]
    cases Replacement.parse? entry.2 with
    | none => simp [Except.toOption]
    | some found => simp [Except.toOption, hkey, eq_comm]
  · have hno : Text.isDottedPath entry.1 = false := by
      rw [← Bool.not_eq_true, isDottedPath_iff]
      exact hkey
    simp [Except.toOption, hkey, hno]

theorem mem_goodDefines_iff (entries : Dictionary String) (key : String)
    (replacement : Replacement) :
    (key, replacement) ∈ goodDefines entries ↔
      ∃ value, entries.get? key = some value ∧ IsDottedPath key ∧ StandsFor value replacement := by
  rw [goodDefines, List.mem_filterMap]
  simp only [define_toOption_eq_some_iff, Dictionary.get?_eq_some_iff]
  constructor
  · rintro ⟨⟨key', value⟩, hmem, hkey, rfl, hvalue⟩
    exact ⟨value, hmem, hkey, hvalue⟩
  · rintro ⟨value, hmem, hkey, hvalue⟩
    exact ⟨(key, value), hmem, hkey, rfl, hvalue⟩

/-- No two good defines have one key. -/
theorem nodup_goodDefines (entries : Dictionary String) :
    ((goodDefines entries).map Prod.fst).Nodup := by
  have hascending : (goodDefines entries).Pairwise fun a b => a.1 < b.1 := by
    rw [goodDefines, List.pairwise_filterMap]
    refine entries.ascending.imp fun {a b} hlt x hx y hy => ?_
    rw [((define_toOption_eq_some_iff a x).1 hx).2.1, ((define_toOption_eq_some_iff b y).1 hy).2.1]
    exact hlt
  rw [List.nodup_iff_pairwise_ne, List.pairwise_map]
  refine hascending.imp fun {a b} hlt heq => ?_
  rw [heq] at hlt
  exact String.lt_irrefl _ hlt

theorem length_goodDefines (entries : Dictionary String) :
    (goodDefines entries).length = entries.entries.countP IsDefine := by
  rw [goodDefines, List.length_filterMap_eq_countP]
  refine List.countP_congr fun entry _ => ?_
  rw [Option.isSome_iff_exists, decide_eq_true_eq, IsDefine, isDefineValue_iff]
  simp only [define_toOption_eq_some_iff]
  constructor
  · rintro ⟨define, hkey, -, hvalue⟩
    exact ⟨hkey, _, hvalue⟩
  · rintro ⟨hkey, replacement, hvalue⟩
    exact ⟨(entry.1, replacement), hkey, rfl, hvalue⟩

/-! ## The table -/

theorem defines_eq_none_iff (entries : Dictionary String) :
    (Check.defines entries).1 = none ↔ entries = ∅ := by
  rw [← Dictionary.isEmpty_iff]
  unfold Check.defines
  split
  · rename_i h
    simp [h]
  · rename_i h
    simp [h]

theorem table_of_defines {entries : Dictionary String} {table : DefineTable}
    (h : (Check.defines entries).1 = some table) :
    table = DefineTable.ofList (goodDefines entries) := by
  unfold Check.defines at h
  split at h
  · cases h
  · rw [← Option.some.inj h, goodDefines, List.filterMap_map]
    rfl

/-- The table answers for the paths of the good entries and for no others. -/
theorem lookup_defines_iff {entries : Dictionary String} {table : DefineTable}
    (h : (Check.defines entries).1 = some table) (parts : List String)
    (replacement : Replacement) :
    table.lookup parts = some replacement ↔
      ∃ key value, entries.get? key = some value ∧ IsDottedPath key ∧
        StandsFor value replacement ∧ Text.dottedParts key = parts := by
  rw [table_of_defines h, DefineTable.lookup_ofList_iff_of_nodup (nodup_goodDefines entries)]
  simp only [mem_goodDefines_iff]
  constructor
  · rintro ⟨key, ⟨value, hget, hkey, hvalue⟩, hparts⟩
    exact ⟨key, value, hget, hkey, hvalue, hparts⟩
  · rintro ⟨key, value, hget, hkey, hvalue, hparts⟩
    exact ⟨key, ⟨value, hget, hkey, hvalue⟩, hparts⟩

/-- There is an answer for every good entry. -/
theorem exists_lookup_of_isDefine {entries : Dictionary String} {table : DefineTable}
    (h : (Check.defines entries).1 = some table) {key value : String}
    (hget : entries.get? key = some value) (hdefine : IsDefine (key, value)) :
    ∃ replacement, StandsFor value replacement ∧
      table.lookup (Text.dottedParts key) = some replacement := by
  obtain ⟨hkey, hvalue⟩ := hdefine
  obtain ⟨replacement, hstands⟩ := (isDefineValue_iff value).1 hvalue
  exact ⟨replacement, hstands, (lookup_defines_iff h _ _).2 ⟨key, value, hget, hkey, hstands, rfl⟩⟩

/-- An entry is in the table or it is an error. -/
theorem size_add_errors {entries : Dictionary String} {table : DefineTable}
    (h : (Check.defines entries).1 = some table) :
    table.size + (Check.defines entries).2.length = entries.size := by
  have hsize : table.size = entries.entries.countP IsDefine := by
    rw [table_of_defines h, DefineTable.size_ofList,
      List.toFinset_card_of_nodup (nodup_goodDefines entries), List.length_map,
      length_goodDefines]
  have herrors : (Check.defines entries).2.length =
      entries.entries.countP fun entry => ¬ IsDefine entry := by
    rw [issues_defines, Faults.defines, length_issuesOf]
    rfl
  have hparted := List.length_eq_countP_add_countP (fun entry => decide (IsDefine entry))
    (l := entries.entries)
  rw [hsize, herrors, Dictionary.size, hparted]
  simp

/-! ## The errors -/

theorem pending_addIssues_defines (log : Log) (entries : Dictionary String) :
    (log.addIssues (Check.defines entries).2).pending =
      log.pending ++ (entries.entries.filter fun entry => ¬ IsDefine entry).map fun entry =>
        .error (defineError entry) := by
  have hmessage : ∀ entry : String × String,
      Issue.message (if IsDottedPath entry.1 then .defineValue entry.2 else .defineKey entry.1) =
        defineError entry := by
    intro entry
    unfold defineError
    split <;> rfl
  rw [Log.addIssues, Log.pending_addAll, issues_defines, Faults.defines, issuesOf, List.map_map]
  simp only [Function.comp_def, hmessage]
  rfl

/-! ## Good and bad entries together -/

/-- Defines give a table unless there are none. The table answers for the path of each good entry
with what its value stands for, and for no other path; each bad entry is one error, in the order of
the keys, which shows its key if that is bad and else its value; and every entry is one or the
other. So defines with the same good entries have tables that answer alike, whatever bad entries are
added, changed or removed. -/
theorem bad_defines_left_out (entries : Dictionary String) :
    let checked := Check.defines entries
    let bad := entries.entries.filter fun entry => ¬ IsDefine entry
    (checked.1 = none ↔ entries = ∅) ∧
    (∀ table, checked.1 = some table →
      (∀ key value, entries.get? key = some value → IsDefine (key, value) →
        ∃ replacement, StandsFor value replacement ∧
          table.lookup (Text.dottedParts key) = some replacement) ∧
      (∀ parts replacement, table.lookup parts = some replacement ↔
        ∃ key value, entries.get? key = some value ∧ IsDottedPath key ∧
          StandsFor value replacement ∧ Text.dottedParts key = parts) ∧
      table.size + checked.2.length = entries.size) ∧
    (∀ log : Log, (log.addIssues checked.2).pending =
      log.pending ++ bad.map fun entry => .error (defineError entry)) ∧
    (∀ entry, ShowsFault (defineError entry) entry) ∧
    bad.Pairwise (fun a b => a.1 < b.1) ∧
    (∀ other : Dictionary String,
      (∀ key value, IsDefine (key, value) →
        (entries.get? key = some value ↔ other.get? key = some value)) →
      ∀ table table', checked.1 = some table → (Check.defines other).1 = some table' →
        ∀ parts, table.lookup parts = table'.lookup parts) := by
  intro checked bad
  refine ⟨defines_eq_none_iff entries, fun table htable => ⟨fun key value => ?_,
    lookup_defines_iff htable, size_add_errors htable⟩,
    fun log => pending_addIssues_defines log entries, showsFault_defineError,
    entries.ascending.sublist List.filter_sublist, ?_⟩
  · exact exists_lookup_of_isDefine htable
  intro other hgood table table' htable htable' parts
  refine Option.ext fun replacement => ?_
  rw [lookup_defines_iff htable, lookup_defines_iff htable']
  refine exists_congr fun key => exists_congr fun value => ?_
  constructor
  · rintro ⟨hget, hkey, hvalue, hparts⟩
    have hdefine : IsDefine (key, value) := ⟨hkey, (isDefineValue_iff value).2 ⟨_, hvalue⟩⟩
    exact ⟨(hgood key value hdefine).1 hget, hkey, hvalue, hparts⟩
  · rintro ⟨hget, hkey, hvalue, hparts⟩
    have hdefine : IsDefine (key, value) := ⟨hkey, (isDefineValue_iff value).2 ⟨_, hvalue⟩⟩
    exact ⟨(hgood key value hdefine).2 hget, hkey, hvalue, hparts⟩

/-- Of four entries one is good: the others have a bad key, a bad value or both. -/
example :
    let entries := Dictionary.ofList
      [("a.b", "null"), ("a-b", "c"), ("a.c", "if"), ("1", "{}")]
    let (table, issues) := Check.defines entries
    table.map (fun table => [["a", "b"], ["a", "c"]].map table.lookup) =
        some [some .null, none] ∧
      issues.map Issue.message =
        ["Invalid define key: \"1\"", "Invalid define key: \"a-b\"",
          "Invalid define value: \"if\""] := by
  decide +kernel

end Bundler
