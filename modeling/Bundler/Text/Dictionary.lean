/-! # Dictionaries

Finite maps from texts, held as the list of their entries in ascending order of the keys, so that
whatever walks the entries sees them sorted. `get?_insert` says that an insertion changes the value
of its own key and of no other. -/

set_option autoImplicit false

namespace Bundler

/-- The last element of a list that passes a test has none behind it that does. -/
theorem find?_reverse_eq_some_iff {α : Type} {test : α → Bool} {xs : List α} {x : α} :
    xs.reverse.find? test = some x ↔
      ∃ front back, xs = front ++ x :: back ∧ test x = true ∧ ∀ y ∈ back, test y = false := by
  rw [List.find?_eq_some_iff_append]
  constructor
  · rintro ⟨hx, back, front, hsplit, hback⟩
    refine ⟨front.reverse, back.reverse, ?_, hx, fun y hy => ?_⟩
    · rw [← List.reverse_inj, hsplit]
      simp
    · simpa using hback y (List.mem_reverse.1 hy)
  · rintro ⟨front, back, rfl, hx, hback⟩
    refine ⟨hx, back.reverse, front.reverse, by simp, fun y hy => ?_⟩
    simpa using hback y (List.mem_reverse.1 hy)

/-- A finite map from texts. -/
structure Dictionary (α : Type) where
  /-- The entries, in ascending order of their keys. -/
  entries : List (String × α)
  ascending : entries.Pairwise fun a b => a.1 < b.1

namespace Dictionary

variable {α : Type}

instance [DecidableEq α] : DecidableEq (Dictionary α) := fun a b =>
  if h : a.entries = b.entries then
    .isTrue (by cases a; cases b; cases h; rfl)
  else .isFalse fun hab => h (hab ▸ rfl)

@[ext] theorem ext {a b : Dictionary α} (h : a.entries = b.entries) : a = b := by
  cases a; cases b; cases h; rfl

/-! ## Entries in order -/

/-- Puts an entry in its place, over the entry of the same key if there is one. -/
def insertEntry (key : String) (value : α) : List (String × α) → List (String × α)
  | [] => [(key, value)]
  | (k, v) :: rest =>
    if key < k then (key, value) :: (k, v) :: rest
    else if key = k then (key, value) :: rest
    else (k, v) :: insertEntry key value rest

theorem mem_insertEntry {key : String} {value : α} {e : String × α} {es : List (String × α)}
    (h : e ∈ insertEntry key value es) : e = (key, value) ∨ e ∈ es := by
  induction es with
  | nil => simpa [insertEntry] using h
  | cons head rest ih =>
    obtain ⟨k, v⟩ := head
    unfold insertEntry at h
    split at h
    · simpa using h
    · split at h
      · rcases List.mem_cons.1 h with h | h
        · exact Or.inl h
        · exact Or.inr (List.mem_cons_of_mem _ h)
      · rcases List.mem_cons.1 h with h | h
        · exact Or.inr (h ▸ List.mem_cons_self)
        · exact (ih h).imp id (List.mem_cons_of_mem _)

theorem pairwise_insertEntry (key : String) (value : α) {es : List (String × α)}
    (h : es.Pairwise fun a b => a.1 < b.1) :
    (insertEntry key value es).Pairwise fun a b => a.1 < b.1 := by
  induction es with
  | nil => simp [insertEntry]
  | cons head rest ih =>
    obtain ⟨k, v⟩ := head
    obtain ⟨hhead, hrest⟩ := List.pairwise_cons.1 h
    unfold insertEntry
    split
    · rename_i hlt
      refine List.pairwise_cons.2 ⟨fun e he => ?_, h⟩
      rcases List.mem_cons.1 he with rfl | he
      · exact hlt
      · exact String.lt_trans hlt (hhead e he)
    · split
      · rename_i heq
        subst heq
        exact List.pairwise_cons.2 ⟨hhead, hrest⟩
      · rename_i hlt hne
        refine List.pairwise_cons.2 ⟨fun e he => ?_, ih hrest⟩
        rcases mem_insertEntry he with rfl | he
        · exact Std.lt_of_le_of_ne (Std.not_lt.1 hlt) (Ne.symm hne)
        · exact hhead e he

/-! ## Operations -/

/-- The dictionary without entries. -/
def empty : Dictionary α := ⟨[], .nil⟩

instance : Inhabited (Dictionary α) := ⟨empty⟩
instance : EmptyCollection (Dictionary α) := ⟨empty⟩

/-- Gives a key a value, whatever value it had before. -/
def insert (d : Dictionary α) (key : String) (value : α) : Dictionary α :=
  ⟨insertEntry key value d.entries, pairwise_insertEntry key value d.ascending⟩

/-- The value of a key. -/
def get? (d : Dictionary α) (key : String) : Option α :=
  (d.entries.find? fun e => e.1 == key).map Prod.snd

/-- Whether a key has a value. -/
def contains (d : Dictionary α) (key : String) : Bool := (d.get? key).isSome

/-- Whether there is no entry. -/
def isEmpty (d : Dictionary α) : Bool := d.entries.isEmpty

/-- The number of entries. -/
def size (d : Dictionary α) : Nat := d.entries.length

/-- The keys, in ascending order. -/
def keys (d : Dictionary α) : List String := d.entries.map Prod.fst

/-- The values, in the order of their keys. -/
def values (d : Dictionary α) : List α := d.entries.map Prod.snd

/-- Inserts the entries of a list one after the other, so that the last one of a key stays. -/
def insertAll (d : Dictionary α) (es : List (String × α)) : Dictionary α :=
  es.foldl (fun d e => d.insert e.1 e.2) d

/-- The dictionary of a list of entries, the last one of a key winning. -/
def ofList (es : List (String × α)) : Dictionary α := empty.insertAll es

/-! ## Lookup -/

@[simp] theorem get?_empty (key : String) : (empty : Dictionary α).get? key = none := rfl

private theorem find?_insertEntry (key k' : String) (value : α) (es : List (String × α)) :
    ((insertEntry key value es).find? fun e => e.1 == k')
      = if key = k' then some (key, value) else es.find? fun e => e.1 == k' := by
  induction es with
  | nil => by_cases h : key = k' <;> simp [insertEntry, h]
  | cons head rest ih =>
    obtain ⟨k, v⟩ := head
    unfold insertEntry
    split
    · by_cases h : key = k' <;> simp [h]
    · split
      · rename_i heq
        subst heq
        by_cases h : key = k' <;> simp [h]
      · rename_i hne
        by_cases hk : k = k'
        · subst hk
          simp [hne]
        · simp [hk, ih]

/-- After an insertion the key has the new value and every other key the old one. -/
theorem get?_insert (d : Dictionary α) (key k' : String) (value : α) :
    (d.insert key value).get? k' = if key = k' then some value else d.get? k' := by
  simp only [get?, insert, find?_insertEntry]
  split <;> rfl

/-- Looking up a key finds its entry, of which there is only one. -/
theorem get?_eq_some_iff (d : Dictionary α) (key : String) (value : α) :
    d.get? key = some value ↔ (key, value) ∈ d.entries := by
  obtain ⟨es, hes⟩ := d
  show (es.find? fun e => e.1 == key).map Prod.snd = some value ↔ (key, value) ∈ es
  induction es with
  | nil => simp
  | cons head rest ih =>
    obtain ⟨k, v⟩ := head
    obtain ⟨hhead, hrest⟩ := List.pairwise_cons.1 hes
    by_cases hk : k = key
    · subst hk
      have hno : (k, value) ∉ rest := fun hmem => String.lt_irrefl k (hhead _ hmem)
      simp [hno, eq_comm]
    · have hne : (key, value) ≠ (k, v) := fun h => hk (Prod.mk.inj h).1.symm
      simp [hk, hne, ih hrest]

theorem mem_values_iff (d : Dictionary α) (value : α) :
    value ∈ d.values ↔ ∃ key, d.get? key = some value := by
  simp only [get?_eq_some_iff, values, List.mem_map, Prod.exists, exists_eq_right]

/-- One dictionary put over another: its entries count first. -/
theorem get?_insertAll_entries (d above : Dictionary α) (key : String) :
    (d.insertAll above.entries).get? key = (above.get? key).or (d.get? key) := by
  obtain ⟨es, hes⟩ := above
  show (es.foldl (fun d e => d.insert e.1 e.2) d).get? key
    = ((es.find? fun e => e.1 == key).map Prod.snd).or (d.get? key)
  induction es generalizing d with
  | nil => rfl
  | cons head rest ih =>
    obtain ⟨k, v⟩ := head
    obtain ⟨hhead, hrest⟩ := List.pairwise_cons.1 hes
    rw [List.foldl_cons, ih _ hrest, get?_insert]
    by_cases hk : k = key
    · subst hk
      -- the keys behind are greater, so what is found here is not found again
      have hnone : (rest.find? fun e => e.1 == k) = none := by
        rw [List.find?_eq_none]
        intro e he hkey
        have hlt : k < e.1 := hhead e he
        rw [beq_iff_eq.1 hkey] at hlt
        exact String.lt_irrefl k hlt
      simp [hnone]
    · simp [hk]

/-- After several insertions a key has the last value that was inserted for it, and the old one if
there was none. -/
theorem get?_insertAll (d : Dictionary α) (es : List (String × α)) (key : String) :
    (d.insertAll es).get? key =
      ((es.reverse.find? fun e => e.1 == key).map Prod.snd).or (d.get? key) := by
  induction es generalizing d with
  | nil => rfl
  | cons e rest ih =>
    show ((d.insert e.1 e.2).insertAll rest).get? key = _
    rw [ih, get?_insert, List.reverse_cons, List.find?_append]
    cases hrest : rest.reverse.find? fun e => e.1 == key with
    | some later => rfl
    | none => by_cases hkey : e.1 = key <;> simp [hkey]

/-- The dictionary of a list has the last entry of each key. -/
theorem get?_ofList_eq_some_iff (es : List (String × α)) (key : String) (value : α) :
    (ofList es).get? key = some value ↔
      ∃ front back, es = front ++ (key, value) :: back ∧ ∀ e ∈ back, e.1 ≠ key := by
  rw [ofList, get?_insertAll, get?_empty, Option.or_none, Option.map_eq_some_iff]
  constructor
  · rintro ⟨⟨_, _⟩, hfind, rfl⟩
    obtain ⟨front, back, hsplit, hkey, hback⟩ := find?_reverse_eq_some_iff.1 hfind
    obtain rfl := beq_iff_eq.1 hkey
    exact ⟨front, back, hsplit, fun e he => beq_eq_false_iff_ne.1 (hback e he)⟩
  · rintro ⟨front, back, hsplit, hback⟩
    refine ⟨(key, value), find?_reverse_eq_some_iff.2 ⟨front, back, hsplit, ?_⟩, rfl⟩
    exact ⟨beq_iff_eq.2 rfl, fun e he => beq_eq_false_iff_ne.2 (hback e he)⟩

/-- It has no entry for the keys that are not in the list. -/
theorem get?_ofList_eq_none_iff (es : List (String × α)) (key : String) :
    (ofList es).get? key = none ↔ ∀ e ∈ es, e.1 ≠ key := by
  rw [ofList, get?_insertAll, get?_empty, Option.or_none, Option.map_eq_none_iff,
    List.find?_eq_none]
  simp

/-- Insertions give a value to the keys that are inserted, and take it from no other. -/
theorem contains_insertAll (d : Dictionary α) (es : List (String × α)) (key : String) :
    (d.insertAll es).contains key = true ↔ key ∈ es.map Prod.fst ∨ d.contains key = true := by
  rw [contains, contains, get?_insertAll, Option.isSome_or, Bool.or_eq_true, Option.isSome_map,
    List.find?_isSome]
  simp

/-! ## Lists made of the values -/

private theorem length_flatMap_insertEntry {β : Type} (key : String) (value : α) (f : α → List β)
    {es : List (String × α)} (h : es.Pairwise fun a b => a.1 < b.1) :
    ((insertEntry key value es).flatMap fun e => f e.2).length
        + (((es.find? fun e => e.1 == key).map fun e => f e.2).getD []).length
      = (es.flatMap fun e => f e.2).length + (f value).length := by
  induction es with
  | nil => simp [insertEntry]
  | cons head rest ih =>
    obtain ⟨k, v⟩ := head
    obtain ⟨hhead, hrest⟩ := List.pairwise_cons.1 h
    have ih := ih hrest
    unfold insertEntry
    split
    · rename_i hlt
      -- the key comes before all others, so it is none of them
      have hnone : (((k, v) :: rest).find? fun e => e.1 == key) = none := by
        rw [List.find?_eq_none]
        intro e he hkey
        have hlt' : key < e.1 := by
          rcases List.mem_cons.1 he with rfl | he
          · exact hlt
          · exact String.lt_trans hlt (hhead e he)
        rw [beq_iff_eq.1 hkey] at hlt'
        exact String.lt_irrefl key hlt'
      simp only [hnone, Option.map_none, Option.getD_none, List.length_nil, List.flatMap_cons,
        List.length_append]
      omega
    · split
      · rename_i heq
        subst heq
        simp only [List.flatMap_cons, List.length_append, List.find?_cons, beq_self_eq_true,
          Option.map_some, Option.getD_some]
        omega
      · rename_i hne
        have hk : (k == key) = false := beq_eq_false_iff_ne.2 (Ne.symm hne)
        simp only [List.flatMap_cons, List.length_append, List.find?_cons, hk]
        omega

/-- An insertion adds to a list made of the values what the new one gives, and takes away what the
old one gave. -/
theorem length_flatMap_insert {β : Type} (d : Dictionary α) (key : String) (value : α)
    (f : α → List β) :
    ((d.insert key value).values.flatMap f).length + (((d.get? key).map f).getD []).length
      = (d.values.flatMap f).length + (f value).length := by
  have hentries := length_flatMap_insertEntry key value f d.ascending
  simpa [values, insert, get?, List.flatMap_map, Function.comp_def] using hentries

/-! ## Emptiness -/

theorem isEmpty_iff (d : Dictionary α) : d.isEmpty = true ↔ d = ∅ := by
  constructor
  · intro h
    exact ext (List.isEmpty_iff.1 h)
  · rintro rfl
    rfl

theorem isEmpty_insert (d : Dictionary α) (key : String) (value : α) :
    (d.insert key value).isEmpty = false := by
  show (insertEntry key value d.entries).isEmpty = false
  cases d.entries with
  | nil => rfl
  | cons head rest =>
    unfold insertEntry
    split
    · rfl
    · split <;> rfl

/-- Insertions make a dictionary that is not empty, unless nothing is inserted. -/
theorem isEmpty_insertAll (d : Dictionary α) (es : List (String × α)) :
    (d.insertAll es).isEmpty = (d.isEmpty && es.isEmpty) := by
  induction es generalizing d with
  | nil => simp [insertAll]
  | cons e rest ih =>
    show ((d.insert e.1 e.2).insertAll rest).isEmpty = _
    rw [ih, isEmpty_insert]
    simp

end Dictionary

/-! ## Sets of names -/

/-- A finite set of texts. -/
abbrev NameSet := Dictionary Unit

/-- The set of the texts in a list. -/
def NameSet.ofList (names : List String) : NameSet := Dictionary.ofList (names.map (·, ()))

theorem NameSet.isEmpty_ofList (names : List String) :
    (NameSet.ofList names).isEmpty = names.isEmpty := by
  rw [ofList, Dictionary.ofList, Dictionary.isEmpty_insertAll]
  simp [Dictionary.isEmpty, Dictionary.empty]

/-- The set of the texts in a list contains these and no others. -/
theorem NameSet.contains_ofList (names : List String) (name : String) :
    (NameSet.ofList names).contains name = true ↔ name ∈ names := by
  have hempty : (Dictionary.empty : NameSet).contains name = false := rfl
  rw [ofList, Dictionary.ofList, Dictionary.contains_insertAll, hempty]
  simp

end Bundler
