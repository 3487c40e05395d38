import Bundler.Proofs.Options.Written

/-! # Option records by position

An option record may be written as an array, with the values of its first fields in the order of the
table, and so may its `strict`. What such an array gives can be told by its values
(`FirstValues`, `IsTable.decode_array_iff`). An object with the same values under the names of the
fields, in any order, gives the same, and each of both forms may hold `strict` in each of both
(`positions_agree_with_names`). -/

set_option autoImplicit false

namespace Bundler

/-! ## Values by position -/

/-- A record has values, as they are read, in its first fields, and its other fields are as by
default. -/
structure FirstValues {σ : Type} (slots : List (Slot σ)) (defaults o : σ) (values : List Json) :
    Prop where
  length_le : values.length ≤ slots.length
  read : ∀ entry ∈ slots.zip values, entry.1.codec.decode entry.2 = .ok (entry.1.get o)
  others : ∀ slot ∈ slots.drop values.length, slot.get o = slot.get defaults

section

variable {σ : Type} {slots : List (Slot σ)} {slot : Slot σ} {s o o' : σ} {j : Json}
  {values : List Json}

theorem firstValues_nil : FirstValues slots s o [] ↔ ∀ slot ∈ slots, slot.get o = slot.get s :=
  ⟨fun h => h.others, fun h => ⟨Nat.zero_le _, by simp, h⟩⟩

theorem firstValues_cons : FirstValues (slot :: slots) s o (j :: values) ↔
    slot.codec.decode j = .ok (slot.get o) ∧ FirstValues slots s o values := by
  constructor
  · rintro ⟨hlength, hread, hothers⟩
    rw [List.zip_cons_cons, List.forall_mem_cons] at hread
    exact ⟨hread.1, Nat.le_of_succ_le_succ hlength, hread.2, hothers⟩
  · rintro ⟨hvalue, hlength, hread, hothers⟩
    refine ⟨Nat.succ_le_succ hlength, ?_, hothers⟩
    rw [List.zip_cons_cons, List.forall_mem_cons]
    exact ⟨hvalue, hread⟩

/-- The values say what is in all fields. -/
theorem FirstValues.get_eq (h : FirstValues slots s o values) (h' : FirstValues slots s o' values) :
    ∀ slot ∈ slots, slot.get o = slot.get o' := by
  induction slots generalizing values with
  | nil => exact List.forall_mem_nil _
  | cons slot slots ih =>
      cases values with
      | nil =>
          rw [firstValues_nil] at h h'
          exact fun slot hslot => (h slot hslot).trans (h' slot hslot).symm
      | cons j values =>
          obtain ⟨hvalue, hvalues⟩ := firstValues_cons.1 h
          obtain ⟨hvalue', hvalues'⟩ := firstValues_cons.1 h'
          exact List.forall_mem_cons.2
            ⟨Except.ok.inj (hvalue.symm.trans hvalue'), ih hvalues hvalues'⟩

/-- What is read of an array, value by value. -/
theorem decodeItems_cons_iff :
    Record.decodeItems ((slot :: slots).map Slot.field) (j :: values) .closed s = .ok o ↔
      ∃ v, slot.codec.decode j = .ok v ∧
        Record.decodeItems (slots.map Slot.field) values .closed (slot.put v s) = .ok o := by
  have hread : slot.field.read j = (slot.codec.decode j).map slot.put := rfl
  rw [List.map_cons, Record.decodeItems, hread]
  cases slot.codec.decode j with
  | error problem => simp [Except.map, bind, Except.bind]
  | ok v => simp [Except.map, bind, Except.bind]

theorem decodeItems_nil_iff :
    Record.decodeItems (slots.map Slot.field) [] .closed s = .ok o ↔ s = o := by
  rw [Record.decodeItems]
  exact Except.ok.injEq s o ▸ Iff.rfl

/-- A field that is apart from all slots stays as it is. -/
theorem get_of_decodeItems {other : Slot σ} (hapart : ∀ slot ∈ slots, other.Apart slot)
    (h : Record.decodeItems (slots.map Slot.field) values .closed s = .ok o) :
    other.get o = other.get s := by
  induction values generalizing slots s with
  | nil => rw [decodeItems_nil_iff.1 h]
  | cons j values ih =>
      cases slots with
      | nil => cases h
      | cons slot slots =>
          obtain ⟨v, -, hrest⟩ := decodeItems_cons_iff.1 h
          obtain ⟨hslot, hslots⟩ := List.forall_mem_cons.1 hapart
          rw [ih hslots hrest]
          exact hslot.2 v s

/-- What an array has given: its values in the first fields. The other fields are as they were. -/
theorem firstValues_of_decodeItems (hget : ∀ slot ∈ slots, ∀ v s, slot.get (slot.put v s) = v)
    (hframe : slots.Pairwise Slot.Apart)
    (h : Record.decodeItems (slots.map Slot.field) values .closed s = .ok o) :
    FirstValues slots s o values := by
  induction values generalizing slots s with
  | nil =>
      rw [decodeItems_nil_iff.1 h]
      exact firstValues_nil.2 fun _ _ => rfl
  | cons j values ih =>
      cases slots with
      | nil => cases h
      | cons slot slots =>
          obtain ⟨v, hv, hrest⟩ := decodeItems_cons_iff.1 h
          obtain ⟨hslot, hslots⟩ := List.forall_mem_cons.1 hget
          obtain ⟨happart, hframe⟩ := List.pairwise_cons.1 hframe
          obtain ⟨hlength, hread, hothers⟩ := ih hslots hframe hrest
          -- the other slots neither change the value of the first one nor depend on it
          have hvalue : slot.get o = v := (get_of_decodeItems happart hrest).trans (hslot v s)
          refine firstValues_cons.2 ⟨hvalue ▸ hv, hlength, hread, fun other hother => ?_⟩
          rw [hothers other hother]
          exact (happart other (List.mem_of_mem_drop hother)).1 v s

/-- Values for the first fields are taken. -/
theorem exists_decodeItems (hlength : values.length ≤ slots.length)
    (hread : ∀ entry ∈ slots.zip values, ∃ v, entry.1.codec.decode entry.2 = .ok v) (s : σ) :
    ∃ o, Record.decodeItems (slots.map Slot.field) values .closed s = .ok o := by
  induction values generalizing slots s with
  | nil => exact ⟨s, decodeItems_nil_iff.2 rfl⟩
  | cons j values ih =>
      cases slots with
      | nil => exact absurd hlength (Nat.not_succ_le_zero _)
      | cons slot slots =>
          rw [List.zip_cons_cons, List.forall_mem_cons] at hread
          obtain ⟨⟨v, hv⟩, hread⟩ := hread
          obtain ⟨o, ho⟩ := ih (Nat.le_of_succ_le_succ hlength) hread (slot.put v s)
          exact ⟨o, decodeItems_cons_iff.2 ⟨v, hv, ho⟩⟩

/-- An array gives a record if and only if it has values for first fields, and then the record with
these values. -/
theorem IsTable.decode_array_iff (h : IsTable slots) :
    Record.decode (slots.map Slot.field) s (.array values .closed) = .ok o ↔
      FirstValues slots s o values := by
  constructor
  · exact firstValues_of_decodeItems h.get_put h.frame
  · intro hfirst
    obtain ⟨o', ho'⟩ := exists_decodeItems hfirst.length_le
      (fun entry hentry => ⟨_, hfirst.read entry hentry⟩) s
    have hsame := hfirst.get_eq (firstValues_of_decodeItems h.get_put h.frame ho')
    rw [h.ext o o' hsame]
    exact ho'

end

/-! ## Values by name -/

/-- The slot with a codec for which a tree writes a value if it is read as the value. So members
that are read write the record. -/
def Slot.reading {σ : Type} (slot : Slot σ) : Slot σ where
  name := slot.name
  codec :=
    { decode := slot.codec.decode
      Fits := fun _ => True
      Writes := fun a j => slot.codec.decode j = .ok a }
  get := slot.get
  put := slot.put

section

variable {σ : Type} {slots : List (Slot σ)}

theorem map_field_reading : (slots.map Slot.reading).map Slot.field = slots.map Slot.field := by
  rw [List.map_map]
  rfl

theorem IsTable.reading (h : IsTable slots) : IsTable (slots.map Slot.reading) where
  names := by
    rw [List.map_map]
    exact h.names
  get_put := List.forall_mem_map.2 h.get_put
  frame := List.pairwise_map.2 h.frame
  ext := fun s t hsame => h.ext s t (List.forall_mem_map.1 hsame)
  faithful := List.forall_mem_map.2 fun _ _ _ _ _ hread _ => hread

end

theorem skip_of_mem_members {members : List (Quote × Json)}
    (h : Json.skipMembers members = .ok ()) : ∀ member ∈ members, member.2.skip = .ok () := by
  induction members with
  | nil => exact List.forall_mem_nil _
  | cons member members ih =>
      obtain ⟨hmember, hmembers⟩ := Codec.skip_of_skipMembers h
      exact List.forall_mem_cons.2 ⟨hmember, ih hmembers⟩

/-! ## Both forms -/

/-- A tree gives values by position or by name. The values may be in it in other forms that are
alike. -/
inductive Gives (alike : String → Json → Json → Prop) (entries : List (String × Json)) :
    Json → Prop
  | array (items : List Json)
      (hitems : List.Forall₂ (fun entry item => alike entry.1 entry.2 item) entries items) :
      Gives alike entries (.array items .closed)
  | object (order : List (String × Json)) (members : List (Quote × Json))
      (hperm : order.Perm entries)
      (hmembers : List.Forall₂ (fun entry member => member.1.Says entry.1 ∧
        alike entry.1 entry.2 member.2) order members) :
      Gives alike entries (.object members .closed)

/-- The forms that are alike are read alike, under the name of a slot. -/
def Respects {σ : Type} (slots : List (Slot σ)) (alike : String → Json → Json → Prop) : Prop :=
  ∀ slot ∈ slots, ∀ j j', alike slot.name j j' → j'.skip = .ok () →
    ∀ v, slot.codec.decode j = .ok v → slot.codec.decode j' = .ok v

section

variable {σ : Type} {slots : List (Slot σ)} {alike : String → Json → Json → Prop} {s o : σ}
  {values : List Json}

/-- Values by position may be in other forms that are alike. -/
theorem FirstValues.of_alike (hrespects : Respects slots alike) (h : FirstValues slots s o values)
    {items : List Json}
    (hitems : List.Forall₂ (fun entry item => alike entry.1 entry.2 item)
      ((slots.map Slot.name).zip values) items)
    (hskip : Json.skipItems items = .ok ()) : FirstValues slots s o items := by
  induction values generalizing slots items with
  | nil =>
      rw [List.zip_nil_right] at hitems
      cases hitems
      exact h
  | cons j values ih =>
      cases slots with
      | nil => exact absurd h.length_le (Nat.not_succ_le_zero _)
      | cons slot slots =>
          rw [List.map_cons, List.zip_cons_cons] at hitems
          obtain ⟨hslot, hslots⟩ := List.forall_mem_cons.1 hrespects
          obtain ⟨hvalue, hvalues⟩ := firstValues_cons.1 h
          cases hitems with
          | cons hitem hrest =>
              obtain ⟨hskip, hskips⟩ := Codec.skip_of_skipItems hskip
              exact firstValues_cons.2
                ⟨hslot j _ hitem hskip _ hvalue, ih hslots hvalues hrest hskips⟩

/-- The names of the first fields, and a value for each. -/
theorem map_fst_entries (h : FirstValues slots s o values) :
    ((slots.map Slot.name).zip values).map Prod.fst = (slots.take values.length).map Slot.name := by
  have hmin : min (slots.map Slot.name).length values.length = values.length := by
    simpa using h.length_le
  rw [List.zip_eq_zip_take_min, hmin, List.take_length, ← List.map_take]
  exact List.map_fst_zip (by simp)

/-- A field has the value under its name. -/
theorem FirstValues.read_of_mem (htable : IsTable slots) (h : FirstValues slots s o values)
    {name : String} {j : Json} (hentry : (name, j) ∈ (slots.map Slot.name).zip values)
    {slot : Slot σ} (hslot : slot ∈ slots) (hname : slot.name = name) :
    slot.codec.decode j = .ok (slot.get o) := by
  rw [List.zip_map_left] at hentry
  obtain ⟨⟨other, j'⟩, hother, hsame⟩ := List.mem_map.1 hentry
  obtain ⟨rfl, rfl⟩ := Prod.mk.inj hsame
  obtain rfl := htable.eq_of_name hslot (List.of_mem_zip hother).1 hname
  exact h.read _ hother

/-- Values by name write the record. -/
theorem FirstValues.writesRecord (htable : IsTable slots) (hrespects : Respects slots alike)
    (h : FirstValues slots s o values) {order : List (String × Json)}
    {members : List (Quote × Json)} (hperm : order.Perm ((slots.map Slot.name).zip values))
    (hmembers : List.Forall₂ (fun entry member => member.1.Says entry.1 ∧
      alike entry.1 entry.2 member.2) order members)
    (hskip : Json.skipMembers members = .ok ()) :
    WritesRecord (slots.map Slot.reading) s o members := by
  have hnames : (order.map Prod.fst).Perm ((slots.take values.length).map Slot.name) :=
    map_fst_entries h ▸ hperm.map Prod.fst
  refine writesRecord_of_names (order.map Prod.fst) (List.forall₂_map_left_iff.2 ?_) ?_ ?_
  · rw [List.forall₂_iff_zip] at hmembers ⊢
    refine ⟨hmembers.1, fun {entry member} hpair => ?_⟩
    obtain ⟨hentry, hmember⟩ := List.of_mem_zip hpair
    obtain ⟨hmeans, halike⟩ := hmembers.2 hpair
    refine ⟨hmeans, List.forall_mem_map.2 fun slot hslot hname => ?_⟩
    have hname : slot.name = entry.1 := hname
    rw [← hname] at halike
    exact hrespects slot hslot _ _ halike (skip_of_mem_members hskip member hmember) _
      (h.read_of_mem htable (hperm.subset hentry) hslot hname)
  · refine hnames.nodup_iff.2 (htable.names.sublist ?_)
    exact (List.take_sublist _ _).map Slot.name
  · refine List.forall_mem_map.2 fun slot hslot hleft => ?_
    rw [← List.take_append_drop values.length slots] at hslot
    rcases List.mem_append.1 hslot with hfirst | hother
    · exact absurd (hnames.symm.subset (List.mem_map_of_mem hfirst)) hleft
    · exact h.others slot hother

/-- A tree that gives values for first fields, in whatever form, is read as the record that has
them. -/
theorem decode_of_gives (htable : IsTable slots) (hrespects : Respects slots alike)
    (h : FirstValues slots s o values) {j : Json}
    (hgives : Gives alike ((slots.map Slot.name).zip values) j) (hskip : j.skip = .ok ()) :
    Record.decode (slots.map Slot.field) s j = .ok o := by
  cases hgives with
  | array items hitems =>
      exact htable.decode_array_iff.2 (h.of_alike hrespects hitems (Codec.skipItems_of_skip hskip))
  | object order members hperm hmembers =>
      have hskip := Codec.skipMembers_of_skip hskip
      have hwrites := h.writesRecord htable hrespects hperm hmembers hskip
      rw [← map_field_reading]
      exact htable.reading.decodeMembers_of_writes (List.forall_mem_map.2 fun _ _ => trivial) hskip
        hwrites fun _ _ _ hname => absurd hname List.not_mem_nil

end

/-! ## Option records -/

/-- The same value, or `strict` by name or by position where it is given by position. -/
def StrictAlike (name : String) (j j' : Json) : Prop :=
  j = j' ∨ name = "strict" ∧ ∃ inner, j = .array inner .closed ∧
    Gives (fun _ => Eq) ((strictSlots.map Slot.name).zip inner) j'

/-- An array has more values than there are fields, in an option record or in its `strict`. -/
inductive TooMany {σ : Type} (slots : List (Slot σ)) : Json → Prop
  | fields (items : List Json) (hmany : slots.length < items.length) :
      TooMany slots (.array items .closed)
  | strictItem (items inner : List Json)
      (hitem : ("strict", .array inner .closed) ∈ (slots.map Slot.name).zip items)
      (hmany : strictSlots.length < inner.length) : TooMany slots (.array items .closed)
  | strictMember (members : List (Quote × Json)) (key : Quote) (inner : List Json)
      (hmember : (key, .array inner .closed) ∈ members) (hkey : key.Says "strict")
      (hmany : strictSlots.length < inner.length) : TooMany slots (.object members .closed)

theorem respects_eq {σ : Type} (slots : List (Slot σ)) : Respects slots fun _ => Eq := by
  rintro slot - j _ rfl - v hv
  exact hv

section

variable {σ : Type} {slots : List (Slot σ)} {part : σ → CommonOptions}
  {update : (CommonOptions → CommonOptions) → σ → σ}

theorem respects_strictAlike (htable : IsTable slots)
    (hstrict : strictSlot.within part update ∈ slots) : Respects slots StrictAlike := by
  rintro slot hslot j j' (rfl | ⟨hname, inner, rfl, hgives⟩) hskip v hv
  · exact hv
  · obtain rfl := htable.eq_of_name hslot hstrict hname
    have hfirst := isTable_strictSlots.decode_array_iff.1 hv
    exact decode_of_gives isTable_strictSlots (respects_eq _) hfirst hgives hskip

/-- An array that is read as `strict` has values for its fields only. -/
theorem length_le_of_decode_strict {inner : List Json} {v : StrictOptions}
    (h : strictSlot.codec.decode (.array inner .closed) = .ok v) :
    inner.length ≤ strictSlots.length := (isTable_strictSlots.decode_array_iff.1 h).length_le

theorem not_tooMany_of_decode (htable : IsTable slots)
    (hstrict : strictSlot.within part update ∈ slots) {j : Json} {s o : σ}
    (h : Record.decode (slots.map Slot.field) s j = .ok o) : ¬ TooMany slots j := by
  intro htoo
  cases htoo with
  | fields items hmany => exact absurd (htable.decode_array_iff.1 h).length_le hmany.not_ge
  | strictItem items inner hitem hmany =>
      have hread := (htable.decode_array_iff.1 h).read_of_mem htable hitem hstrict rfl
      exact absurd (length_le_of_decode_strict hread) hmany.not_ge
  | strictMember members key inner hmember hkey hmany =>
      have hfind := find?_field htable.names hstrict
      have hmeans : key.Says (strictSlot.within part update).field.name := hkey
      obtain ⟨change, hread⟩ := exists_read_of_decodeMembers h hfind hmember hmeans
      obtain ⟨v, hdecode⟩ := Slot.exists_decode_of_read hread
      exact absurd (length_le_of_decode_strict hdecode) hmany.not_ge

end

/-- Values are each of the type of their field. -/
def WellTyped {σ : Type} (slots : List (Slot σ)) (values : List Json) : Prop :=
  ∀ entry ∈ slots.zip values, ∃ v, entry.1.codec.decode entry.2 = .ok v

/-- The values of the first fields of a record say what the record is. -/
theorem IsTable.exists_firstValues {σ : Type} {slots : List (Slot σ)} (h : IsTable slots)
    {values : List Json} (hlength : values.length ≤ slots.length) (htyped : WellTyped slots values)
    (defaults : σ) : ∃ o, FirstValues slots defaults o values := by
  obtain ⟨o, ho⟩ := exists_decodeItems hlength htyped defaults
  exact ⟨o, h.decode_array_iff.1 ho⟩

/-- Texts that give an option record by position and those that give it by name are loaded alike. -/
structure FormsAgree {σ : Type} [Configurable σ] (slots : List (Slot σ)) : Prop where
  /-- The fields are those that are loaded, in their order. -/
  fields : slots.map Slot.field = Configurable.fields
  loaded : ∀ values, values.length ≤ slots.length → WellTyped slots values →
    ∃ o, FirstValues slots Configurable.defaults o values ∧
      ∀ text j, Json.IsDocument text j →
        Gives StrictAlike ((slots.map Slot.name).zip values) j →
          loadConfig (some text.toUTF8) = .ok o
  refused : ∀ text j, Json.IsDocument text j → TooMany slots j →
    ∃ problem, (loadConfig (some text.toUTF8) : Except ConfigError σ) = .error (.invalid problem)

theorem formsAgree_of_isTable {σ : Type} [Configurable σ] {slots : List (Slot σ)}
    {part : σ → CommonOptions} {update : (CommonOptions → CommonOptions) → σ → σ}
    (hfields : slots.map Slot.field = Configurable.fields) (htable : IsTable slots)
    (hstrict : strictSlot.within part update ∈ slots) : FormsAgree slots where
  fields := hfields
  loaded := by
    intro values hlength htyped
    obtain ⟨o, ho⟩ := htable.exists_firstValues hlength htyped Configurable.defaults
    refine ⟨o, ho, fun text j hdocument hgives => ?_⟩
    have hskip : j.skip = .ok () := ((Json.isDocument_iff text j).1 hdocument).2
    have hread := decode_of_gives htable (respects_strictAlike htable hstrict) ho hgives hskip
    rw [loadConfig_toUTF8, loadText_of_isDocument hdocument, ← hfields, hread]
  refused := by
    intro text j hdocument htoo
    refine exists_problem_of_ne_ok hfields hdocument fun o hread => ?_
    exact not_tooMany_of_decode htable hstrict hread htoo

theorem strictSlot_mem_commonSlots : strictSlot ∈ commonSlots := by
  simp [commonSlots]

/-- Option records by position are those by name, for as many first fields as there are values. With
more values than fields nothing is loaded. The same is true of `strict`, which may have either form
in each form of the options. -/
theorem positions_agree_with_names :
    FormsAgree buildSlots ∧ FormsAgree transformSlots ∧
    strictSlots.map Slot.field = strictFields ∧
    (∀ values, values.length ≤ strictSlots.length → WellTyped strictSlots values →
      ∃ o, FirstValues strictSlots {} o values ∧
        ∀ j, j.skip = .ok () → Gives (fun _ => Eq) ((strictSlots.map Slot.name).zip values) j →
          Record.decode strictFields {} j = .ok o) ∧
    ∀ values, strictSlots.length < values.length →
      ∀ o, Record.decode strictFields {} (.array values .closed) ≠ .ok o := by
  refine ⟨formsAgree_of_isTable field_buildSlots isTable_buildSlots
      (List.mem_append_left _ (List.mem_map_of_mem strictSlot_mem_commonSlots)),
    formsAgree_of_isTable field_transformSlots isTable_transformSlots
      (List.mem_append_left _ (List.mem_map_of_mem strictSlot_mem_commonSlots)), rfl, ?_, ?_⟩
  · intro values hlength htyped
    obtain ⟨o, ho⟩ := isTable_strictSlots.exists_firstValues hlength htyped {}
    exact ⟨o, ho, fun j hskip hgives =>
      decode_of_gives isTable_strictSlots (respects_eq _) ho hgives hskip⟩
  · intro values hmany o hread
    exact absurd (length_le_of_decode_strict hread) hmany.not_ge

/-! ### Options with values of both forms -/

/-- Values of the first six fields, the last one with a value of the first field of `strict`. -/
def firstSix : List Json :=
  [ .text (.plain "always"), .numeral ⟨false, [3], [], false, none⟩, .text (.plain "silent"),
    .text (.plain "linked"), .text (.plain "es6"), .array [.bool true] .closed ]

/-- The options with these values. -/
def firstSixOptions : TransformOptions :=
  { color := .always, errorLimit := 3, logLevel := .silent, sourcemap := .linked,
    target := .es2015, strict := { nullishCoalescing := true } }

theorem wellTyped_firstSix : WellTyped transformSlots firstSix := by
  simp only [WellTyped, transformSlots, commonSlots, firstSix, List.map_cons, List.cons_append,
    List.zip_cons_cons, List.zip_nil_right, List.forall_mem_cons]
  exact ⟨⟨_, rfl⟩, ⟨_, rfl⟩, ⟨_, rfl⟩, ⟨_, rfl⟩, ⟨_, rfl⟩, ⟨_, rfl⟩, List.forall_mem_nil _⟩

theorem firstValues_firstSix : FirstValues transformSlots {} firstSixOptions firstSix :=
  isTable_transformSlots.decode_array_iff.1 rfl

/-- The values by position, with those of `strict` by name. -/
def outerText : String :=
  "[\"always\", 3, \"silent\", \"linked\", \"es6\", \x7b\"nullishCoalescing\": true\x7d]"

/-- The items of the text. -/
def outerItems : List Json :=
  [ .text (.plain "always"), .numeral ⟨false, [3], [], false, none⟩, .text (.plain "silent"),
    .text (.plain "linked"), .text (.plain "es6"),
    .object [(.plain "nullishCoalescing", .bool true)] .closed ]

theorem isDocument_outerText : Json.IsDocument outerText (.array outerItems .closed) := by
  refine (Json.isDocument_iff _ _).2 ⟨?_, rfl⟩
  unfold outerText outerItems Quote.plain
  cbv

theorem gives_outerItems :
    Gives StrictAlike ((transformSlots.map Slot.name).zip firstSix)
      (.array outerItems .closed) := by
  have hstrict : Gives (fun _ => Eq) ((strictSlots.map Slot.name).zip [.bool true])
      (.object [(.plain "nullishCoalescing", .bool true)] .closed) :=
    .object _ _ (.refl _) (.cons ⟨Quote.says_plain _, rfl⟩ .nil)
  exact .array _ (.cons (.inl rfl) (.cons (.inl rfl) (.cons (.inl rfl) (.cons (.inl rfl)
    (.cons (.inl rfl) (.cons (.inr ⟨rfl, _, rfl, hstrict⟩) .nil))))))

/-- The values by name, with those of `strict` by position. -/
def innerText : String :=
  "\x7b\"strict\": [true], \"color\": \"always\", \"errorLimit\": 3, \"logLevel\": \"silent\"," ++
  " \"sourcemap\": \"linked\", \"target\": \"es6\"\x7d"

/-- The members of the text. -/
def innerMembers : List (Quote × Json) :=
  [ (.plain "strict", .array [.bool true] .closed), (.plain "color", .text (.plain "always")),
    (.plain "errorLimit", .numeral ⟨false, [3], [], false, none⟩),
    (.plain "logLevel", .text (.plain "silent")), (.plain "sourcemap", .text (.plain "linked")),
    (.plain "target", .text (.plain "es6")) ]

theorem isDocument_innerText : Json.IsDocument innerText (.object innerMembers .closed) := by
  refine (Json.isDocument_iff _ _).2 ⟨?_, rfl⟩
  unfold innerText innerMembers Quote.plain
  cbv

theorem gives_innerMembers :
    Gives StrictAlike ((transformSlots.map Slot.name).zip firstSix)
      (.object innerMembers .closed) := by
  have hperm : ("strict", Json.array [.bool true] .closed) ::
      (["color", "errorLimit", "logLevel", "sourcemap", "target"].zip firstSix) |>.Perm
      ((transformSlots.map Slot.name).zip firstSix) := (List.perm_append_singleton _ _).symm
  exact .object _ _ hperm (.cons ⟨Quote.says_plain _, .inl rfl⟩
    (.cons ⟨Quote.says_plain _, .inl rfl⟩ (.cons ⟨Quote.says_plain _, .inl rfl⟩
      (.cons ⟨Quote.says_plain _, .inl rfl⟩ (.cons ⟨Quote.says_plain _, .inl rfl⟩
        (.cons ⟨Quote.says_plain _, .inl rfl⟩ .nil))))))

/-- Options in whose `strict` there are three values. -/
def longText : String := "\x7b\"strict\": [true, false, true]\x7d"

theorem isDocument_longText : Json.IsDocument longText
    (.object [(.plain "strict", .array [.bool true, .bool false, .bool true] .closed)]
      .closed) := by
  refine (Json.isDocument_iff _ _).2 ⟨?_, rfl⟩
  unfold longText Quote.plain
  cbv

theorem positions_agree_with_names_mixed :
    (firstSix.length ≤ transformSlots.length ∧ WellTyped transformSlots firstSix ∧
      loadConfig (some outerText.toUTF8) = .ok firstSixOptions ∧
      loadConfig (some innerText.toUTF8) = .ok firstSixOptions) ∧
    (∃ problem, (loadConfig (some longText.toUTF8) : Except ConfigError BuildOptions) =
      .error (.invalid problem)) ∧
    ∃ o, Record.decode strictFields {} (.array [.bool true] .closed) = .ok o ∧
      Record.decode strictFields {} (.object [(.plain "nullishCoalescing", .bool true)] .closed) =
        .ok o := by
  obtain ⟨hbuild, htransform, -, hstrict, -⟩ := positions_agree_with_names
  refine ⟨⟨by decide, wellTyped_firstSix, ?_⟩, ?_, ?_⟩
  · obtain ⟨o, ho, hloaded⟩ := htransform.loaded firstSix (by decide) wellTyped_firstSix
    obtain rfl : o = firstSixOptions :=
      isTable_transformSlots.ext _ _ (ho.get_eq firstValues_firstSix)
    exact ⟨hloaded _ _ isDocument_outerText gives_outerItems,
      hloaded _ _ isDocument_innerText gives_innerMembers⟩
  · exact hbuild.refused _ _ isDocument_longText
      (.strictMember _ _ _ List.mem_cons_self (Quote.says_plain _) (by decide))
  · have htyped : WellTyped strictSlots [.bool true] := by
      simp only [WellTyped, strictSlots, List.zip_cons_cons, List.zip_nil_right,
        List.forall_mem_cons]
      exact ⟨⟨_, rfl⟩, List.forall_mem_nil _⟩
    obtain ⟨o, -, hread⟩ := hstrict [.bool true] (by decide) htyped
    exact ⟨o, hread _ rfl (.array _ (.cons rfl .nil)),
      hread _ rfl (.object _ _ (.refl _) (.cons ⟨Quote.says_plain _, rfl⟩ .nil))⟩

end Bundler
