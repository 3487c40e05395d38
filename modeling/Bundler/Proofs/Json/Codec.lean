import Bundler.Json.Decode
import Bundler.Proofs.Json.Written
import Mathlib.Data.List.Forall2
import Mathlib.Data.List.Nodup
import Mathlib.Data.List.Pairwise

/-! # Written forms of values

How the values of a type are written as JSON, apart from how they are read: a `Codec` has a decoder
and the trees that write a value. A text may be escaped in any way, a dictionary may be in any
order, and a record (`Codec.record`) may be in any order, may leave out what is as by default, and
may hold members that it knows nothing of. A codec is faithful if what writes a value is read as
this value; every way to put codecs together keeps that. -/

set_option autoImplicit false

namespace Bundler

open Json (Spells)

/-! ## Lists that are related -/

section

universe u v

variable {α : Type u} {β : Type v} {R : α → β → Prop} {as : List α} {bs : List β}

/-- What is related to something one by one is so all together. -/
theorem exists_forall₂ (h : ∀ a ∈ as, ∃ b, R a b) : ∃ bs, List.Forall₂ R as bs := by
  induction as with
  | nil => exact ⟨[], .nil⟩
  | cons a as ih =>
      obtain ⟨⟨b, hb⟩, has⟩ := List.forall_mem_cons.1 h
      obtain ⟨bs, hbs⟩ := ih has
      exact ⟨b :: bs, .cons hb hbs⟩

theorem forall_mem_of_forall₂ {P : β → Prop} (h : List.Forall₂ R as bs)
    (hP : ∀ a b, R a b → P b) : ∀ b ∈ bs, P b := by
  induction h with
  | nil => exact List.forall_mem_nil _
  | cons hhead _ ih => exact List.forall_mem_cons.2 ⟨hP _ _ hhead, ih⟩

theorem exists_mem_of_forall₂ (h : List.Forall₂ R as bs) {a : α} (ha : a ∈ as) :
    ∃ b ∈ bs, R a b := by
  induction h with
  | nil => exact absurd ha List.not_mem_nil
  | @cons head b _ _ hhead _ ih =>
      rcases List.mem_cons.1 ha with rfl | ha
      · exact ⟨b, List.mem_cons_self, hhead⟩
      · obtain ⟨b', hb', hrelated⟩ := ih ha
        exact ⟨b', List.mem_cons_of_mem _ hb', hrelated⟩

/-- What holds between any two of the one list holds between those of the other. -/
theorem pairwise_of_forall₂ {S : α → α → Prop} {T : β → β → Prop} (h : List.Forall₂ R as bs)
    (has : as.Pairwise S) (hT : ∀ {a a' b b'}, R a b → R a' b' → S a a' → T b b') :
    bs.Pairwise T := by
  induction h with
  | nil => exact .nil
  | @cons a b as bs hhead htail ih =>
      obtain ⟨ha, has⟩ := List.pairwise_cons.1 has
      refine List.pairwise_cons.2 ⟨fun b' hb' => ?_, ih has⟩
      obtain ⟨a', ha', hrelated⟩ := exists_mem_of_forall₂ htail.flip hb'
      exact hT hhead hrelated (ha a' ha')

end

/-! ## Keys -/

/-- A quoted text stands for a text. -/
structure Quote.Says (q : Quote) (text : String) : Prop where
  closed : q.ending = .closed
  spells : Spells q.pieces text.toList

theorem Quote.says_iff (q : Quote) (text : String) : q.Says text ↔ q.decode = .ok text := by
  rw [Json.decode_eq_ok_iff]
  constructor
  · rintro ⟨hclosed, hspells⟩
    exact ⟨hclosed, text.toList, hspells, String.ofList_toList.symm⟩
  · rintro ⟨hclosed, cs, hspells, rfl⟩
    exact ⟨hclosed, by rwa [String.toList_ofList]⟩

/-- It stands for no other text. -/
theorem Quote.Says.unique {q : Quote} {text text' : String} (h : q.Says text) (h' : q.Says text') :
    text = text' := by
  have hsame := ((q.says_iff text).1 h).symm.trans ((q.says_iff text').1 h')
  exact Except.ok.inj hsame

/-! ## Codecs -/

/-- How the values of a type are read and written. -/
structure Codec (α : Type) where
  decode : Json → Decoded α
  /-- The values that there is room for. -/
  Fits : α → Prop
  /-- The trees that write a value. -/
  Writes : α → Json → Prop

/-- What writes a value is read as this value, if its form is that of JSON. -/
def Codec.Faithful {α : Type} (c : Codec α) : Prop :=
  ∀ a j, c.Fits a → c.Writes a j → j.skip = .ok () → c.decode j = .ok a

namespace Codec

variable {α : Type}

/-- Truth values. -/
def bool : Codec Bool where
  decode := Json.asBool
  Fits := fun _ => True
  Writes := fun b j => j = .bool b

/-- Texts, with any escapes. -/
def text : Codec String where
  decode := Json.asText
  Fits := fun _ => True
  Writes := fun text j => ∃ q, j = .text q ∧ q.Says text

/-- Natural numbers in decimal. -/
def natural : Codec Nat where
  decode := Json.asNatural
  Fits := fun n => n < UInt64.size
  Writes := fun n j => ∃ digits, j = .numeral ⟨false, digits, [], false, none⟩ ∧
    Numeral.digitsValue digits = n

/-- Values that are written by their own names. -/
def choice [Choice α] : Codec α where
  decode := Json.asChoice
  Fits := fun _ => True
  Writes := fun a j => text.Writes (Choice.name a) j

/-- Lists. -/
def list (c : Codec α) : Codec (List α) where
  decode := Json.asList c.decode
  Fits := fun as => ∀ a ∈ as, c.Fits a
  Writes := fun as j => ∃ items, j = .array items .closed ∧ List.Forall₂ c.Writes as items

/-- Something, or `null` for nothing. -/
def option (c : Codec α) : Codec (Option α) where
  decode := Json.asOption c.decode
  Fits := fun a? => ∀ a, a? = some a → c.Fits a
  Writes := fun a? j =>
    match a? with
    | none => j = .null
    | some a => c.Writes a j ∧ j ≠ .null

/-- Dictionaries, with their entries in any order. -/
def dictionary (c : Codec α) : Codec (Dictionary α) where
  decode := Json.asDictionary c.decode
  Fits := fun d => ∀ entry ∈ d.entries, c.Fits entry.2
  Writes := fun d j => ∃ members entries, j = .object members .closed ∧ entries.Perm d.entries ∧
    List.Forall₂ (fun entry member => member.1.Says entry.1 ∧ c.Writes entry.2 member.2) entries
      members

end Codec

/-! ## Records -/

/-- A field of a record `σ` with its place in the record and the codec of its values. -/
structure Slot (σ : Type) where
  name : String
  {Value : Type}
  codec : Codec Value
  get : σ → Value
  put : Value → σ → σ

namespace Slot

variable {σ τ : Type}

/-- The field as it is read. -/
def field (slot : Slot σ) : Field σ := .of slot.name slot.codec.decode slot.put

/-- A field of a part of a record, as a field of the record. -/
def within (part : σ → τ) (update : (τ → τ) → σ → σ) (slot : Slot τ) : Slot σ where
  name := slot.name
  codec := slot.codec
  get := fun s => slot.get (part s)
  put := fun v => update (slot.put v)

theorem field_within (part : σ → τ) (update : (τ → τ) → σ → σ) (slot : Slot τ) :
    (slot.within part update).field = slot.field.within update := by
  unfold field within Field.within Field.of
  simp only [Field.mk.injEq, true_and]
  funext j
  cases slot.codec.decode j <;> rfl

/-- What is read as a change of the field has a value for it. -/
theorem exists_decode_of_read {slot : Slot σ} {j : Json} {change : σ → σ}
    (h : slot.field.read j = .ok change) : ∃ v, slot.codec.decode j = .ok v := by
  have hfield : slot.field.read j = (slot.codec.decode j).map slot.put := rfl
  cases hdecode : slot.codec.decode j with
  | error problem =>
      rw [hfield, hdecode] at h
      cases h
  | ok v => exact ⟨v, rfl⟩

/-- Two fields can be changed apart from each other. -/
def Apart (a b : Slot σ) : Prop :=
  (∀ v s, b.get (a.put v s) = b.get s) ∧ ∀ v s, a.get (b.put v s) = a.get s

instance : Std.Symm (@Apart σ) := ⟨fun _ _ => And.symm⟩

end Slot

/-- Members write a record over its defaults. -/
structure WritesRecord {σ : Type} (slots : List (Slot σ)) (defaults s : σ)
    (members : List (Quote × Json)) : Prop where
  /-- Each member has a name. -/
  named : ∀ member ∈ members, ∃ name, member.1.Says name
  /-- The value under the name of a field is that of the field. What stands under other names is
  left open. -/
  values : ∀ member ∈ members, ∀ slot ∈ slots, member.1.Says slot.name →
    slot.codec.Writes (slot.get s) member.2
  /-- No field is written twice. -/
  once : members.Pairwise fun a b => ∀ slot ∈ slots, ¬ (a.1.Says slot.name ∧ b.1.Says slot.name)
  /-- What is left out is as by default. -/
  leftOut : ∀ slot ∈ slots, (∀ member ∈ members, ¬ member.1.Says slot.name) →
    slot.get s = slot.get defaults

/-- Members write a record if they have names of their own, if what stands under the name of a field
is its value, and if all other fields are as by default. -/
theorem writesRecord_of_names {σ : Type} {slots : List (Slot σ)} {defaults s : σ}
    {members : List (Quote × Json)} (names : List String)
    (hmembers : List.Forall₂ (fun name member => member.1.Says name ∧
      ∀ slot ∈ slots, slot.name = name → slot.codec.Writes (slot.get s) member.2) names members)
    (honce : names.Nodup)
    (hleft : ∀ slot ∈ slots, slot.name ∉ names → slot.get s = slot.get defaults) :
    WritesRecord slots defaults s members := by
  refine ⟨?_, ?_, ?_, fun slot hslot hnone => hleft slot hslot fun hname => ?_⟩
  · exact forall_mem_of_forall₂ hmembers fun name _ hmember => ⟨name, hmember.1⟩
  · refine forall_mem_of_forall₂ hmembers fun name _ hmember slot hslot hmeans => ?_
    exact hmember.2 slot hslot (hmeans.unique hmember.1)
  · refine pairwise_of_forall₂ hmembers honce fun ha hb hne slot _ hboth => hne ?_
    exact (ha.1.unique hboth.1).trans (hb.1.unique hboth.2).symm
  · obtain ⟨member, hmember, hmeans, -⟩ := exists_mem_of_forall₂ hmembers hname
    exact hnone member hmember hmeans

/-- Records, as objects. -/
def Codec.record {σ : Type} (slots : List (Slot σ)) (defaults : σ) : Codec σ where
  decode := Record.decode (slots.map Slot.field) defaults
  Fits := fun s => ∀ slot ∈ slots, slot.codec.Fits (slot.get s)
  Writes := fun s j => ∃ members, j = .object members .closed ∧
    WritesRecord slots defaults s members

/-- The slots are the fields of a record: each can be changed by itself, and together they are all
that there is in it. -/
structure IsTable {σ : Type} (slots : List (Slot σ)) : Prop where
  names : (slots.map Slot.name).Nodup
  get_put : ∀ slot ∈ slots, ∀ v s, slot.get (slot.put v s) = v
  frame : slots.Pairwise Slot.Apart
  ext : ∀ s t, (∀ slot ∈ slots, slot.get s = slot.get t) → s = t
  faithful : ∀ slot ∈ slots, slot.codec.Faithful

/-! ## Dictionaries from their entries -/

namespace Dictionary

variable {α : Type}

theorem perm_insertEntry {key : String} (value : α) {es : List (String × α)}
    (hkey : key ∉ es.map Prod.fst) : (insertEntry key value es).Perm ((key, value) :: es) := by
  induction es with
  | nil => exact List.Perm.refl _
  | cons head rest ih =>
      obtain ⟨k, v⟩ := head
      obtain ⟨hk, hrest⟩ : key ≠ k ∧ key ∉ rest.map Prod.fst := by simpa using hkey
      unfold insertEntry
      split
      · exact List.Perm.refl _
      · exact ((ih hrest).cons (k, v)).trans (.swap _ _ _)

/-- Entries with keys of their own all stay when they are inserted. -/
theorem perm_insertAll (d : Dictionary α) {es : List (String × α)}
    (h : ((d.entries ++ es).map Prod.fst).Nodup) :
    (d.insertAll es).entries.Perm (d.entries ++ es) := by
  induction es generalizing d with
  | nil => simp [insertAll]
  | cons e es ih =>
      have hmiddle : (d.entries ++ e :: es).Perm (e :: d.entries ++ es) := List.perm_middle
      have hnodup : ((e :: d.entries ++ es).map Prod.fst).Nodup := (hmiddle.map _).nodup_iff.1 h
      have hkey : e.1 ∉ d.entries.map Prod.fst := by
        rw [List.cons_append, List.map_cons, List.nodup_cons, List.map_append] at hnodup
        exact fun hmem => hnodup.1 (List.mem_append_left _ hmem)
      have hinsert : (d.insert e.1 e.2).entries.Perm (e :: d.entries) := perm_insertEntry e.2 hkey
      have hstep := ih (d.insert e.1 e.2)
        (((hinsert.append_right es).map Prod.fst).nodup_iff.2 hnodup)
      exact hstep.trans ((hinsert.append_right es).trans hmiddle.symm)

theorem nodup_keys (d : Dictionary α) : d.keys.Nodup := by
  refine (List.pairwise_map.2 d.ascending).imp ?_
  intro a b hlt heq
  exact String.lt_irrefl b (heq ▸ hlt)

/-- The entries of a dictionary give the dictionary, in whatever order they come. -/
theorem ofList_perm {d : Dictionary α} {es : List (String × α)} (h : es.Perm d.entries) :
    ofList es = d := by
  have hnodup : (((∅ : Dictionary α).entries ++ es).map Prod.fst).Nodup :=
    ((h.map Prod.fst).nodup_iff).2 d.nodup_keys
  have hperm : (ofList es).entries.Perm d.entries := (perm_insertAll ∅ hnodup).trans h
  refine Dictionary.ext (hperm.eq_of_pairwise ?_ (ofList es).ascending d.ascending)
  intro a b _ _ hab hba
  exact absurd (String.lt_trans hab hba) (String.lt_irrefl a.1)

end Dictionary

/-! ## Faithful codecs -/

namespace Codec

theorem skipItems_of_skip {items : List Json} {ending : Ending}
    (h : (Json.array items ending).skip = .ok ()) : Json.skipItems items = .ok () :=
  (Json.ok_of_bind h).1

theorem skipMembers_of_skip {members : List (Quote × Json)} {ending : Ending}
    (h : (Json.object members ending).skip = .ok ()) : Json.skipMembers members = .ok () :=
  (Json.ok_of_bind h).1

theorem skip_of_skipItems {item : Json} {items : List Json}
    (h : Json.skipItems (item :: items) = .ok ()) :
    item.skip = .ok () ∧ Json.skipItems items = .ok () := Json.ok_of_bind h

theorem skip_of_skipMembers {key : Quote} {value : Json} {members : List (Quote × Json)}
    (h : Json.skipMembers ((key, value) :: members) = .ok ()) :
    value.skip = .ok () ∧ Json.skipMembers members = .ok () :=
  Json.ok_of_bind (Json.ok_of_bind h).2

variable {α : Type}

theorem faithful_bool : bool.Faithful := by
  rintro b j - rfl -
  rfl

theorem faithful_text : text.Faithful := by
  rintro text j - ⟨q, rfl, hmeans⟩ -
  show Decoded.ofFault q.decode = _
  rw [(q.says_iff text).1 hmeans]
  rfl

theorem faithful_choice [Choice α] (h : ∀ a : α, Choice.parse (Choice.name a) = .ok a) :
    (choice : Codec α).Faithful := by
  intro a j hfits hwrites hskip
  have htext : j.asText = .ok (Choice.name a) := faithful_text _ j trivial hwrites hskip
  show Json.asChoice j = _
  unfold Json.asChoice
  simp only [htext, bind, Except.bind, h a]
  rfl

/-- More digits never make a number smaller. -/
theorem le_foldl_digits (digits : List Nat) (n : Nat) :
    n ≤ digits.foldl (fun n d => n * 10 + d) n := by
  induction digits generalizing n with
  | nil => exact Nat.le_refl n
  | cons d digits ih =>
      have hstep : n ≤ n * 10 + d := by omega
      exact hstep.trans (ih _)

/-- As long as all digits fit, a significand takes them as they are. -/
theorem foldl_pushWhole (digits : List Nat) (s : Significand) (hdropped : s.dropped = 0)
    (hsize : digits.foldl (fun n d => n * 10 + d) s.value < UInt64.size) :
    digits.foldl Significand.pushWhole s =
      { s with value := digits.foldl (fun n d => n * 10 + d) s.value } := by
  induction digits generalizing s with
  | nil => rfl
  | cons d digits ih =>
      have hfits : s.value * 10 + d < UInt64.size := (le_foldl_digits digits _).trans_lt hsize
      have hstep : s.pushWhole d = { s with value := s.value * 10 + d } := by
        simp [Significand.pushWhole, Significand.fits, hdropped, hfits]
      rw [List.foldl_cons, hstep, ih { s with value := s.value * 10 + d } hdropped hsize]
      rfl

theorem faithful_natural : natural.Faithful := by
  rintro n j hfits ⟨digits, rfl, rfl⟩ -
  have hwhole : digits.foldl Significand.pushWhole .zero =
      ⟨Numeral.digitsValue digits, 0, 0, false⟩ := foldl_pushWhole digits .zero rfl hfits
  show Json.asNatural (.numeral ⟨false, digits, [], false, none⟩) = _
  unfold Json.asNatural Numeral.value?
  simp [hwhole]

theorem faithful_option {c : Codec α} (h : c.Faithful) : c.option.Faithful := by
  intro a? j hfits hwrites hskip
  cases a? with
  | none =>
      obtain rfl : j = .null := hwrites
      rfl
  | some a =>
      obtain ⟨hwrites, hnull⟩ : c.Writes a j ∧ j ≠ .null := hwrites
      have hread := h a j (hfits a rfl) hwrites hskip
      show Json.asOption c.decode j = _
      unfold Json.asOption
      split
      · exact absurd rfl hnull
      · rw [hread]
        rfl

theorem asItems_of_writes {c : Codec α} (h : c.Faithful) {as : List α} {items : List Json}
    (hwrites : List.Forall₂ c.Writes as items) (hfits : ∀ a ∈ as, c.Fits a)
    (hskip : Json.skipItems items = .ok ()) : Json.asItems c.decode items = .ok as := by
  induction hwrites with
  | nil => rfl
  | @cons a item as items ha _ ih =>
      obtain ⟨hfit, hfits⟩ := List.forall_mem_cons.1 hfits
      obtain ⟨hitem, hitems⟩ := skip_of_skipItems hskip
      rw [Json.asItems, h a item hfit ha hitem, ih hfits hitems]
      rfl

theorem faithful_list {c : Codec α} (h : c.Faithful) : c.list.Faithful := by
  rintro as j hfits ⟨items, rfl, hwrites⟩ hskip
  show Json.asList c.decode (.array items .closed) = .ok as
  rw [Json.asList, asItems_of_writes h hwrites hfits (skipItems_of_skip hskip)]
  rfl

theorem asEntries_of_writes {c : Codec α} (h : c.Faithful) {entries : List (String × α)}
    {members : List (Quote × Json)}
    (hwrites : List.Forall₂ (fun entry member => member.1.Says entry.1 ∧
      c.Writes entry.2 member.2) entries members)
    (hfits : ∀ entry ∈ entries, c.Fits entry.2) (hskip : Json.skipMembers members = .ok ())
    (d : Dictionary α) : Json.asEntries c.decode d members = .ok (d.insertAll entries) := by
  induction hwrites generalizing d with
  | nil => rfl
  | @cons entry member entries members hmember _ ih =>
      obtain ⟨key, j⟩ := member
      obtain ⟨hmeans, hvalue⟩ := hmember
      obtain ⟨hfit, hfits⟩ := List.forall_mem_cons.1 hfits
      obtain ⟨hj, hmembers⟩ := skip_of_skipMembers hskip
      rw [Json.asEntries, (key.says_iff entry.1).1 hmeans, h entry.2 j hfit hvalue hj]
      exact ih hfits hmembers (d.insert entry.1 entry.2)

theorem faithful_dictionary {c : Codec α} (h : c.Faithful) : c.dictionary.Faithful := by
  rintro d j hfits ⟨members, entries, rfl, hperm, hwrites⟩ hskip
  have hentries : ∀ entry ∈ entries, c.Fits entry.2 := fun entry hentry =>
    hfits entry (hperm.subset hentry)
  show Json.asDictionary c.decode (.object members .closed) = .ok d
  rw [Json.asDictionary,
    asEntries_of_writes h hwrites hentries (skipMembers_of_skip hskip) ∅]
  exact congrArg Except.ok (Dictionary.ofList_perm hperm)

end Codec

/-! ## Faithful records -/

section

variable {σ : Type} {slots : List (Slot σ)}

/-- A name stands for the one field that has it. -/
theorem find?_field {slot : Slot σ} (hnames : (slots.map Slot.name).Nodup) (hslot : slot ∈ slots) :
    ((slots.map Slot.field).find? fun f => f.name == slot.name) = some slot.field := by
  induction slots with
  | nil => exact absurd hslot List.not_mem_nil
  | cons head rest ih =>
      rw [List.map_cons, List.nodup_cons] at hnames
      rw [List.map_cons, List.find?_cons]
      rcases List.mem_cons.1 hslot with rfl | hrest
      · simp [Slot.field, Field.of]
      · have hne : head.name ≠ slot.name := fun heq =>
          hnames.1 (heq ▸ List.mem_map_of_mem hrest)
        have hother : (head.field.name == slot.name) = false := beq_eq_false_iff_ne.2 hne
        rw [hother]
        exact ih hnames.2 hrest

theorem find?_field_eq_none {name : String} (h : ∀ slot ∈ slots, slot.name ≠ name) :
    ((slots.map Slot.field).find? fun f => f.name == name) = none := by
  rw [List.find?_eq_none]
  intro f hf
  obtain ⟨slot, hslot, rfl⟩ := List.mem_map.1 hf
  exact bne_iff_ne.1 (by simpa [Slot.field, Field.of] using h slot hslot)

/-- Fields with one name are one field. -/
theorem IsTable.eq_of_name (h : IsTable slots) {a b : Slot σ} (ha : a ∈ slots) (hb : b ∈ slots)
    (hname : a.name = b.name) : a = b := List.inj_on_of_nodup_map h.names ha hb hname

/-- A change of one field leaves the others as they are. -/
theorem IsTable.get_put_of_ne (h : IsTable slots) {a b : Slot σ} (ha : a ∈ slots) (hb : b ∈ slots)
    (hname : a.name ≠ b.name) (v : a.Value) (s : σ) : b.get (a.put v s) = b.get s := by
  have hapart : a.Apart b := h.frame.forall ha hb fun heq => hname (heq ▸ rfl)
  exact hapart.1 v s

/-- Behind a member of a field, the others write the record over the value of this field. -/
theorem WritesRecord.tail_known (h : IsTable slots) {s o : σ} {key : Quote} {j : Json}
    {rest : List (Quote × Json)} (hwrites : WritesRecord slots s o ((key, j) :: rest))
    {slot : Slot σ} (hslot : slot ∈ slots) (hkey : key.Says slot.name) :
    WritesRecord slots (slot.put (slot.get o) s) o rest where
  named := fun member hmember => hwrites.named member (List.mem_cons_of_mem _ hmember)
  values := fun member hmember => hwrites.values member (List.mem_cons_of_mem _ hmember)
  once := (List.pairwise_cons.1 hwrites.once).2
  leftOut := by
    intro other hother hrest
    by_cases hname : slot.name = other.name
    · obtain rfl := h.eq_of_name hslot hother hname
      exact (h.get_put slot hslot _ s).symm
    · rw [h.get_put_of_ne hslot hother hname]
      refine hwrites.leftOut other hother (List.forall_mem_cons.2 ⟨fun hmeans => ?_, hrest⟩)
      exact hname (hkey.unique hmeans)

/-- Behind a member that is no field, the others write the record as before. -/
theorem WritesRecord.tail_unknown {s o : σ} {key : Quote} {j : Json}
    {rest : List (Quote × Json)} (hwrites : WritesRecord slots s o ((key, j) :: rest))
    (hkey : ∀ slot ∈ slots, ¬ key.Says slot.name) : WritesRecord slots s o rest where
  named := fun member hmember => hwrites.named member (List.mem_cons_of_mem _ hmember)
  values := fun member hmember => hwrites.values member (List.mem_cons_of_mem _ hmember)
  once := (List.pairwise_cons.1 hwrites.once).2
  leftOut := fun slot hslot hrest =>
    hwrites.leftOut slot hslot (List.forall_mem_cons.2 ⟨hkey slot hslot, hrest⟩)

/-- Members that write a record over what has been read so far make it the record. -/
theorem IsTable.decodeMembers_of_writes (h : IsTable slots) {o : σ}
    (hfits : ∀ slot ∈ slots, slot.codec.Fits (slot.get o)) {members : List (Quote × Json)}
    (hskip : Json.skipMembers members = .ok ()) {s : σ} (hwrites : WritesRecord slots s o members)
    {seen : List String} (hseen : ∀ member ∈ members, ∀ name ∈ seen, ¬ member.1.Says name) :
    Record.decodeMembers (slots.map Slot.field) seen members .closed s = .ok o := by
  induction members generalizing s seen with
  | nil =>
      have hsame : o = s := h.ext o s fun slot hslot =>
        hwrites.leftOut slot hslot fun member hmember => absurd hmember List.not_mem_nil
      rw [hsame]
      rfl
  | cons member rest ih =>
      obtain ⟨key, j⟩ := member
      obtain ⟨hj, hrest⟩ := Codec.skip_of_skipMembers hskip
      obtain ⟨name, hname⟩ := hwrites.named _ List.mem_cons_self
      have hkey : key.decode = .ok name := (key.says_iff name).1 hname
      obtain ⟨hfresh, hseen⟩ := List.forall_mem_cons.1 hseen
      rw [Record.decodeMembers, hkey]
      by_cases hknown : ∃ slot ∈ slots, slot.name = name
      · obtain ⟨slot, hslot, rfl⟩ := hknown
        have hread : slot.codec.decode j = .ok (slot.get o) :=
          h.faithful slot hslot _ j (hfits slot hslot)
            (hwrites.values _ List.mem_cons_self slot hslot hname) hj
        have hnew : seen.contains slot.name = false := by
          rw [Bool.eq_false_iff, ne_eq, List.contains_iff_mem]
          exact fun hmem => hfresh slot.name hmem hname
        have hothers : ∀ member ∈ rest, ∀ name ∈ slot.name :: seen, ¬ member.1.Says name := by
          intro member hmember
          refine List.forall_mem_cons.2 ⟨fun hmeans => ?_, hseen member hmember⟩
          exact (List.pairwise_cons.1 hwrites.once).1 member hmember slot hslot ⟨hname, hmeans⟩
        have hgo := ih hrest (hwrites.tail_known h hslot hname) hothers
        simp only [Decoded.ofFault, bind, Except.bind, find?_field h.names hslot, hnew]
        simp only [Slot.field, Field.of, hread, Except.map] at hgo ⊢
        exact hgo
      · have hunknown : ∀ slot ∈ slots, slot.name ≠ name := fun slot hslot heq =>
          hknown ⟨slot, hslot, heq⟩
        have hgo := ih hrest (hwrites.tail_unknown fun slot hslot hmeans =>
          hunknown slot hslot (hmeans.unique hname)) hseen
        simp only [Decoded.ofFault, bind, Except.bind, find?_field_eq_none hunknown, hj]
        exact hgo

/-- So the codec of a record is faithful. -/
theorem IsTable.faithful_record (h : IsTable slots) (defaults : σ) :
    (Codec.record slots defaults).Faithful := by
  rintro o j hfits ⟨members, rfl, hwrites⟩ hskip
  exact h.decodeMembers_of_writes hfits (Codec.skipMembers_of_skip hskip) hwrites
    fun _ _ _ hname => absurd hname List.not_mem_nil

end

/-! ## Members that come twice -/

/-- Two members stand for one of the names. -/
def Repeats (names : List String) (members : List (Quote × Json)) : Prop :=
  ∃ name ∈ names, ∃ a b, [a, b].Sublist members ∧ a.1.Says name ∧ b.1.Says name

section

variable {σ : Type} {fields : List (Field σ)}

/-- What has been read of a member, and what is read of the others. -/
theorem decodeMembers_cons_ok {seen : List String} {key : Quote} {j : Json}
    {rest : List (Quote × Json)} {ending : Ending} {s s' : σ}
    (h : Record.decodeMembers fields seen ((key, j) :: rest) ending s = .ok s') :
    ∃ name, key.Says name ∧
      ((∀ f ∈ fields, f.name ≠ name) ∧ Record.decodeMembers fields seen rest ending s = .ok s' ∨
        name ∉ seen ∧ ∃ f change, fields.find? (fun f => f.name == name) = some f ∧
          f.read j = .ok change ∧
          Record.decodeMembers fields (name :: seen) rest ending (change s) = .ok s') := by
  rw [Record.decodeMembers] at h
  cases hkey : key.decode with
  | error e =>
      rw [hkey] at h
      cases h
  | ok name =>
      refine ⟨name, (key.says_iff name).2 hkey, ?_⟩
      rw [hkey] at h
      simp only [Decoded.ofFault, bind, Except.bind] at h
      cases hfind : fields.find? fun f => f.name == name with
      | none =>
          rw [hfind] at h
          cases hskip : j.skip with
          | error e => simp [hskip] at h
          | ok _ =>
              rw [hskip] at h
              exact .inl ⟨by simpa using hfind, h⟩
      | some f =>
          rw [hfind] at h
          by_cases hseen : name ∈ seen
          · simp [hseen, throw, throwThe, MonadExceptOf.throw] at h
          · cases hread : f.read j with
            | error e => simp [hread, hseen] at h
            | ok change =>
                have hnew : seen.contains name = false := by simpa using hseen
                simp only [hread, hnew] at h
                exact .inr ⟨hseen, f, change, rfl, hread, h⟩

/-- Members that give a record hold each field once. -/
theorem once_of_decodeMembers {members : List (Quote × Json)} {seen : List String}
    {ending : Ending} {s s' : σ}
    (h : Record.decodeMembers fields seen members ending s = .ok s') :
    (∀ member ∈ members, ∀ f ∈ fields, member.1.Says f.name → f.name ∉ seen) ∧
      members.Pairwise fun a b => ∀ f ∈ fields, ¬ (a.1.Says f.name ∧ b.1.Says f.name) := by
  induction members generalizing seen s with
  | nil => exact ⟨fun member hmember => absurd hmember List.not_mem_nil, .nil⟩
  | cons member rest ih =>
      obtain ⟨key, j⟩ := member
      obtain ⟨name, hname, ⟨hunknown, hrest⟩ | ⟨hfresh, f, change, -, -, hrest⟩⟩ :=
        decodeMembers_cons_ok h
      · obtain ⟨hseen, honce⟩ := ih hrest
        have hno : ∀ f ∈ fields, ¬ key.Says f.name := fun f hf hmeans =>
          hunknown f hf (hmeans.unique hname)
        exact ⟨List.forall_mem_cons.2 ⟨fun f hf hmeans => absurd hmeans (hno f hf), hseen⟩,
          List.pairwise_cons.2 ⟨fun _ _ f hf hboth => hno f hf hboth.1, honce⟩⟩
      · obtain ⟨hseen, honce⟩ := ih hrest
        refine ⟨List.forall_mem_cons.2 ⟨fun f _ hmeans => ?_, fun member hmember f hf hmeans => ?_⟩,
          List.pairwise_cons.2 ⟨fun member hmember f hf hboth => ?_, honce⟩⟩
        · rw [hmeans.unique hname]
          exact hfresh
        · exact fun hmem => hseen member hmember f hf hmeans (List.mem_cons_of_mem _ hmem)
        · -- the name of the first member counts as seen for the others
          have hsame : f.name = name := hboth.1.unique hname
          exact hseen member hmember f hf hboth.2 (hsame ▸ List.mem_cons_self)

theorem not_repeats_of_decodeMembers {members : List (Quote × Json)} {seen : List String}
    {ending : Ending} {s s' : σ}
    (h : Record.decodeMembers fields seen members ending s = .ok s') :
    ¬ Repeats (fields.map Field.name) members := by
  rintro ⟨name, hname, a, b, hsublist, ha, hb⟩
  obtain ⟨f, hf, rfl⟩ := List.mem_map.1 hname
  have honce := List.pairwise_iff_forall_sublist.1 (once_of_decodeMembers h).2 hsublist
  exact honce f hf ⟨ha, hb⟩

/-- The value of a field has been read. -/
theorem exists_read_of_decodeMembers {members : List (Quote × Json)} {seen : List String}
    {ending : Ending} {s s' : σ}
    (h : Record.decodeMembers fields seen members ending s = .ok s') {f : Field σ}
    (hf : fields.find? (fun other => other.name == f.name) = some f)
    {member : Quote × Json} (hmember : member ∈ members) (hmeans : member.1.Says f.name) :
    ∃ change, f.read member.2 = .ok change := by
  induction members generalizing seen s with
  | nil => exact absurd hmember List.not_mem_nil
  | cons head rest ih =>
      obtain ⟨key, j⟩ := head
      obtain ⟨name, hname, ⟨hunknown, hrest⟩ | ⟨-, g, change, hg, hread, hrest⟩⟩ :=
        decodeMembers_cons_ok h
      · rcases List.mem_cons.1 hmember with rfl | hmember
        · exact absurd (hmeans.unique hname) (hunknown f (List.mem_of_find?_eq_some hf))
        · exact ih hrest hmember
      · rcases List.mem_cons.1 hmember with rfl | hmember
        · have hsame : f.name = name := hmeans.unique hname
          rw [← hsame, hf] at hg
          obtain rfl := Option.some.inj hg
          exact ⟨change, hread⟩
        · exact ih hrest hmember

end

end Bundler
