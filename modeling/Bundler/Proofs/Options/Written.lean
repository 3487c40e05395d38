import Bundler.Options.Config
import Bundler.Proofs.Json.Writing
import Mathlib

/-! # Option records as they are written

The option records as tables of slots (`buildSlots`, `transformSlots`), which say for each field how
its values are written; read as fields they are the tables of the loader (`field_buildSlots`,
`field_transformSlots`). A text that writes a record, with its members in any order, with defaults
left out and with members of unknown names in between, is loaded as exactly this record, and a text
that writes a field twice is not loaded at all (`written_options_are_loaded`). -/

set_option autoImplicit false

namespace Bundler

/-! ## Records with a part that is a record -/

section

variable {σ τ : Type} {common : List (Slot τ)} {own : List (Slot σ)} {part : σ → τ}
  {update : (τ → τ) → σ → σ}

/-- The fields of a part and those of its own are the fields of a record, if a change of the one
does not touch the others. -/
theorem IsTable.extend (hcommon : IsTable common)
    (hnames : (common.map Slot.name ++ own.map Slot.name).Nodup)
    (hpart : ∀ change s, part (update change s) = change (part s))
    (hget : ∀ slot ∈ own, ∀ v s, slot.get (slot.put v s) = v)
    (hframe : own.Pairwise Slot.Apart)
    (happart : ∀ slot ∈ own, (∀ v s, part (slot.put v s) = part s) ∧
      ∀ change s, slot.get (update change s) = slot.get s)
    (hext : ∀ s t, part s = part t → (∀ slot ∈ own, slot.get s = slot.get t) → s = t)
    (hfaithful : ∀ slot ∈ own, slot.codec.Faithful) :
    IsTable (common.map (Slot.within part update) ++ own) where
  names := by
    rw [List.map_append, List.map_map]
    exact hnames
  get_put := by
    intro slot hslot v s
    rcases List.mem_append.1 hslot with hslot | hslot
    · obtain ⟨inner, hinner, rfl⟩ := List.mem_map.1 hslot
      show inner.get (part (update (inner.put v) s)) = v
      rw [hpart]
      exact hcommon.get_put inner hinner v (part s)
    · exact hget slot hslot v s
  frame := by
    refine List.pairwise_append.2 ⟨List.pairwise_map.2 (hcommon.frame.imp ?_), hframe, ?_⟩
    · rintro a b ⟨hab, hba⟩
      refine ⟨fun v s => ?_, fun v s => ?_⟩
      · show b.get (part (update (a.put v) s)) = b.get (part s)
        rw [hpart]
        exact hab v (part s)
      · show a.get (part (update (b.put v) s)) = a.get (part s)
        rw [hpart]
        exact hba v (part s)
    · intro a ha b hb
      obtain ⟨inner, -, rfl⟩ := List.mem_map.1 ha
      refine ⟨fun v s => (happart b hb).2 _ s, fun v s => ?_⟩
      show inner.get (part (b.put v s)) = inner.get (part s)
      rw [(happart b hb).1]
  ext := by
    intro s t hsame
    refine hext s t (hcommon.ext _ _ fun slot hslot => ?_) fun slot hslot => ?_
    · exact hsame (slot.within part update) (List.mem_append_left _ (List.mem_map_of_mem hslot))
    · exact hsame slot (List.mem_append_right _ hslot)
  faithful := by
    intro slot hslot
    rcases List.mem_append.1 hslot with hslot | hslot
    · obtain ⟨inner, hinner, rfl⟩ := List.mem_map.1 hslot
      exact hcommon.faithful inner hinner
    · exact hfaithful slot hslot

end

/-! ## The fields of the option records -/

/-- The fields of `StrictOptions`. -/
def strictSlots : List (Slot StrictOptions) :=
  [ ⟨"nullishCoalescing", .bool, fun o => o.nullishCoalescing,
      fun b o => { o with nullishCoalescing := b }⟩,
    ⟨"classFields", .bool, fun o => o.classFields, fun b o => { o with classFields := b }⟩ ]

/-- The field that holds `StrictOptions`. -/
def strictSlot : Slot CommonOptions :=
  ⟨"strict", .record strictSlots {}, fun o => o.strict, fun v o => { o with strict := v }⟩

/-- The fields that both option records share. -/
def commonSlots : List (Slot CommonOptions) :=
  [ ⟨"color", .choice, fun o => o.color, fun v o => { o with color := v }⟩,
    ⟨"errorLimit", .natural, fun o => o.errorLimit, fun v o => { o with errorLimit := v }⟩,
    ⟨"logLevel", .choice, fun o => o.logLevel, fun v o => { o with logLevel := v }⟩,
    ⟨"sourcemap", .choice, fun o => o.sourcemap, fun v o => { o with sourcemap := v }⟩,
    ⟨"target", .choice, fun o => o.target, fun v o => { o with target := v }⟩,
    strictSlot,
    ⟨"minifyWhitespace", .bool, fun o => o.minifyWhitespace,
      fun v o => { o with minifyWhitespace := v }⟩,
    ⟨"minifyIdentifiers", .bool, fun o => o.minifyIdentifiers,
      fun v o => { o with minifyIdentifiers := v }⟩,
    ⟨"minifySyntax", .bool, fun o => o.minifySyntax, fun v o => { o with minifySyntax := v }⟩,
    ⟨"jsxFactory", .text, fun o => o.jsxFactory, fun v o => { o with jsxFactory := v }⟩,
    ⟨"jsxFragment", .text, fun o => o.jsxFragment, fun v o => { o with jsxFragment := v }⟩,
    ⟨"defines", .dictionary .text, fun o => o.defines, fun v o => { o with defines := v }⟩ ]

/-- The fields that only builds have. -/
def ownBuildSlots : List (Slot BuildOptions) :=
  [ ⟨"globalName", .text, fun o => o.globalName, fun v o => { o with globalName := v }⟩,
    ⟨"bundle", .bool, fun o => o.bundle, fun v o => { o with bundle := v }⟩,
    ⟨"splitting", .bool, fun o => o.splitting, fun v o => { o with splitting := v }⟩,
    ⟨"outfile", .text, fun o => o.outfile, fun v o => { o with outfile := v }⟩,
    ⟨"metafile", .text, fun o => o.metafile, fun v o => { o with metafile := v }⟩,
    ⟨"outdir", .text, fun o => o.outdir, fun v o => { o with outdir := v }⟩,
    ⟨"platform", .choice, fun o => o.platform, fun v o => { o with platform := v }⟩,
    ⟨"format", .choice, fun o => o.format, fun v o => { o with format := v }⟩,
    ⟨"externals", .list .text, fun o => o.externals, fun v o => { o with externals := v }⟩,
    ⟨"loaders", .dictionary .choice, fun o => o.loaders, fun v o => { o with loaders := v }⟩,
    ⟨"resolveExtensions", .option (.list .text), fun o => o.resolveExtensions,
      fun v o => { o with resolveExtensions := v }⟩,
    ⟨"entryPoints", .list .text, fun o => o.entryPoints, fun v o => { o with entryPoints := v }⟩ ]

/-- The fields that only transforms have. -/
def ownTransformSlots : List (Slot TransformOptions) :=
  [ ⟨"sourcefile", .text, fun o => o.sourcefile, fun v o => { o with sourcefile := v }⟩,
    ⟨"loader", .choice, fun o => o.loader, fun v o => { o with loader := v }⟩ ]

/-- The fields of `BuildOptions`. -/
def buildSlots : List (Slot BuildOptions) :=
  commonSlots.map (.within BuildOptions.toCommonOptions fun change o =>
    { o with toCommonOptions := change o.toCommonOptions }) ++ ownBuildSlots

/-- The fields of `TransformOptions`. -/
def transformSlots : List (Slot TransformOptions) :=
  commonSlots.map (.within TransformOptions.toCommonOptions fun change o =>
    { o with toCommonOptions := change o.toCommonOptions }) ++ ownTransformSlots

theorem isTable_strictSlots : IsTable strictSlots where
  names := by decide
  get_put := by simp [strictSlots]
  frame := by simp [strictSlots, Slot.Apart]
  ext := by
    rintro ⟨_, _⟩ ⟨_, _⟩ h
    simpa [strictSlots] using h
  faithful := by
    simp only [strictSlots, List.forall_mem_cons]
    exact ⟨Codec.faithful_bool, Codec.faithful_bool, List.forall_mem_nil _⟩

theorem isTable_commonSlots : IsTable commonSlots where
  names := by decide
  get_put := by simp [commonSlots, strictSlot]
  frame := by
    simp only [commonSlots, strictSlot, Slot.Apart, List.pairwise_cons, List.mem_cons,
      List.not_mem_nil, or_false, forall_eq_or_imp, forall_eq, implies_true, and_self,
      IsEmpty.forall_iff, List.Pairwise.nil]
  ext := by
    rintro ⟨_, _, _, _, _, _, _, _, _, _, _, _⟩ ⟨_, _, _, _, _, _, _, _, _, _, _, _⟩ h
    simpa [commonSlots, strictSlot] using h
  faithful := by
    simp only [commonSlots, List.forall_mem_cons]
    refine ⟨Codec.faithful_choice ?_, Codec.faithful_natural, Codec.faithful_choice ?_,
      Codec.faithful_choice ?_, Codec.faithful_choice ?_, isTable_strictSlots.faithful_record {},
      Codec.faithful_bool, Codec.faithful_bool, Codec.faithful_bool, Codec.faithful_text,
      Codec.faithful_text, Codec.faithful_dictionary Codec.faithful_text,
      List.forall_mem_nil _⟩ <;>
    · rintro ⟨⟩ <;> rfl

theorem isTable_buildSlots : IsTable buildSlots := by
  refine isTable_commonSlots.extend (by decide) (fun _ _ => rfl) ?_ ?_ ?_ ?_ ?_
  · simp [ownBuildSlots]
  · simp only [ownBuildSlots, Slot.Apart, List.pairwise_cons, List.mem_cons, List.not_mem_nil,
      or_false, forall_eq_or_imp, forall_eq, implies_true, and_self, IsEmpty.forall_iff,
      List.Pairwise.nil]
  · simp [ownBuildSlots]
  · rintro ⟨_, _, _, _, _, _, _, _, _, _, _, _⟩ ⟨_, _, _, _, _, _, _, _, _, _, _, _⟩ hpart h
    simp only at hpart
    simpa [hpart, ownBuildSlots] using h
  · simp only [ownBuildSlots, List.forall_mem_cons]
    have htexts := Codec.faithful_list Codec.faithful_text
    refine ⟨Codec.faithful_text, Codec.faithful_bool, Codec.faithful_bool, Codec.faithful_text,
      Codec.faithful_text, Codec.faithful_text, Codec.faithful_choice ?_, Codec.faithful_choice ?_,
      htexts, Codec.faithful_dictionary (Codec.faithful_choice ?_), Codec.faithful_option htexts,
      htexts, List.forall_mem_nil _⟩ <;>
    · rintro ⟨⟩ <;> rfl

theorem isTable_transformSlots : IsTable transformSlots := by
  refine isTable_commonSlots.extend (by decide) (fun _ _ => rfl) ?_ ?_ ?_ ?_ ?_
  · simp [ownTransformSlots]
  · simp [ownTransformSlots, Slot.Apart]
  · simp [ownTransformSlots]
  · rintro ⟨_, _, _⟩ ⟨_, _, _⟩ hpart h
    simp only at hpart
    simpa [hpart, ownTransformSlots] using h
  · simp only [ownTransformSlots, List.forall_mem_cons]
    refine ⟨Codec.faithful_text, Codec.faithful_choice ?_, List.forall_mem_nil _⟩
    rintro ⟨⟩ <;> rfl

/-! ## Whatever the options are -/

theorem writable_commonSlots : ∀ slot ∈ commonSlots, slot.codec.Writable := by
  have hstrict : ∀ slot ∈ strictSlots, slot.codec.Writable := by
    simp only [strictSlots, List.forall_mem_cons]
    exact ⟨Codec.writable_bool, Codec.writable_bool, List.forall_mem_nil _⟩
  simp only [commonSlots, List.forall_mem_cons]
  exact ⟨Codec.writable_choice, Codec.writable_natural, Codec.writable_choice,
    Codec.writable_choice, Codec.writable_choice,
    Codec.writable_record isTable_strictSlots hstrict {}, Codec.writable_bool, Codec.writable_bool,
    Codec.writable_bool, Codec.writable_text, Codec.writable_text,
    Codec.writable_dictionary Codec.writable_text, List.forall_mem_nil _⟩

theorem writable_ownBuildSlots : ∀ slot ∈ ownBuildSlots, slot.codec.Writable := by
  have htexts : (Codec.list .text).Writable := Codec.writable_list Codec.writable_text
  have hnull : ∀ texts, ¬ (Codec.list .text).Writes texts .null := by
    rintro texts ⟨items, hitems, -⟩
    cases hitems
  simp only [ownBuildSlots, List.forall_mem_cons]
  exact ⟨Codec.writable_text, Codec.writable_bool, Codec.writable_bool, Codec.writable_text,
    Codec.writable_text, Codec.writable_text, Codec.writable_choice, Codec.writable_choice, htexts,
    Codec.writable_dictionary Codec.writable_choice, Codec.writable_option htexts hnull, htexts,
    List.forall_mem_nil _⟩

theorem writable_ownTransformSlots : ∀ slot ∈ ownTransformSlots, slot.codec.Writable := by
  simp only [ownTransformSlots, List.forall_mem_cons]
  exact ⟨Codec.writable_text, Codec.writable_choice, List.forall_mem_nil _⟩

/-! ## The fields as they are read -/

theorem field_commonSlots : commonSlots.map Slot.field = commonFields := rfl

theorem field_extend {σ : Type} (part : σ → CommonOptions)
    (update : (CommonOptions → CommonOptions) → σ → σ) (own : List (Slot σ)) :
    (commonSlots.map (Slot.within part update) ++ own).map Slot.field =
      commonFields.map (Field.within update) ++ own.map Slot.field := by
  rw [List.map_append, ← field_commonSlots, List.map_map, List.map_map]
  congr 1
  exact List.map_congr_left fun slot _ => slot.field_within part update

theorem field_buildSlots : buildSlots.map Slot.field = buildFields := field_extend _ _ _

theorem field_transformSlots : transformSlots.map Slot.field = transformFields :=
  field_extend _ _ _

/-! ## Loading -/

/-- A text writes a value. -/
def Codec.IsText {α : Type} (c : Codec α) (a : α) (text : String) : Prop :=
  ∃ j, Json.IsDocument text j ∧ c.Writes a j

theorem Codec.Writable.exists_text {α : Type} {c : Codec α} (h : c.Writable) {a : α}
    (hfits : c.Fits a) : ∃ text, c.IsText a text := by
  obtain ⟨j, hwrites, cs, hwritten⟩ := h a hfits
  refine ⟨String.ofList cs, j, ⟨[], cs, [], ?_, List.forall_mem_nil _, List.forall_mem_nil _,
    hwritten⟩, hwrites⟩
  rw [String.toList_ofList, List.nil_append, List.append_nil]

theorem fromUTF8?_toUTF8 (text : String) : String.fromUTF8? text.toUTF8 = some text :=
  dif_pos text.isValidUTF8

section

variable {σ : Type} [Configurable σ]

/-- What is loaded from a file that holds a text. -/
theorem loadConfig_toUTF8 (text : String) :
    (loadConfig (some text.toUTF8) : Except ConfigError σ) =
      match (loadText text : Decoded σ) with
      | .ok s => .ok s
      | .error problem => .error (.invalid problem) := by
  unfold loadConfig
  cases hload : (loadText text : Decoded σ) with
  | ok s => simp only [fromUTF8?_toUTF8, hload]
  | error problem => simp only [fromUTF8?_toUTF8, hload]

/-- What is loaded from the text of a value. -/
theorem loadText_of_isDocument {text : String} {j : Json} (h : Json.IsDocument text j) :
    (loadText text : Decoded σ) = Record.decode Configurable.fields Configurable.defaults j := by
  unfold loadText Record.decodeText
  simp only [Json.read_of_isDocument h]
  cases (Record.decode Configurable.fields Configurable.defaults j : Decoded σ) <;> rfl

/-- The texts that write a record are loaded as this record. -/
theorem loadConfig_of_isText {slots : List (Slot σ)}
    (hfields : slots.map Slot.field = Configurable.fields) (h : IsTable slots) {o : σ}
    (hfits : (Codec.record slots Configurable.defaults).Fits o) {text : String}
    (htext : (Codec.record slots Configurable.defaults).IsText o text) :
    loadConfig (some text.toUTF8) = .ok o := by
  obtain ⟨j, hdocument, hwrites⟩ := htext
  have hskip : j.skip = .ok () := ((Json.isDocument_iff text j).1 hdocument).2
  have hread : (loadText text : Decoded σ) = .ok o := by
    rw [loadText_of_isDocument hdocument, ← hfields]
    exact h.faithful_record Configurable.defaults o j hfits hwrites hskip
  rw [loadConfig_toUTF8, hread]

/-- The text of a value that gives no record is not loaded. -/
theorem exists_problem_of_ne_ok {slots : List (Slot σ)}
    (hfields : slots.map Slot.field = Configurable.fields) {text : String} {j : Json}
    (hdocument : Json.IsDocument text j)
    (h : ∀ s : σ, Record.decode (slots.map Slot.field) Configurable.defaults j ≠ .ok s) :
    ∃ problem, (loadConfig (some text.toUTF8) : Except ConfigError σ) =
      .error (.invalid problem) := by
  rw [loadConfig_toUTF8]
  cases hload : (loadText text : Decoded σ) with
  | error problem => exact ⟨problem, rfl⟩
  | ok s =>
      rw [loadText_of_isDocument hdocument, ← hfields] at hload
      exact absurd hload (h s)

end

/-- A field of an option record, or of its `strict`, is written twice. -/
def WritesTwice {σ : Type} (slots : List (Slot σ)) (members : List (Quote × Json)) : Prop :=
  Repeats (slots.map Slot.name) members ∨
    ∃ key inner, (key, .object inner .closed) ∈ members ∧ key.Says "strict" ∧
      Repeats (strictSlots.map Slot.name) inner

section

variable {σ : Type} {own : List (Slot σ)} {part : σ → CommonOptions}
  {update : (CommonOptions → CommonOptions) → σ → σ}

/-- What has been read as `strict` holds no field twice. -/
theorem not_repeats_of_read_strict {inner : List (Quote × Json)} {ending : Ending} {change : σ → σ}
    (h : (strictSlot.within part update).field.read (.object inner ending) = .ok change) :
    ¬ Repeats (strictSlots.map Slot.name) inner := by
  obtain ⟨strict, hread⟩ := Slot.exists_decode_of_read h
  have hmembers : Record.decodeMembers (strictSlots.map Slot.field) [] inner ending {} =
      .ok strict := hread
  exact not_repeats_of_decodeMembers hmembers

/-- Members that are read as an option record write nothing twice. -/
theorem not_writesTwice_of_decodeMembers {slots : List (Slot σ)}
    (hslots : slots = commonSlots.map (Slot.within part update) ++ own) (htable : IsTable slots)
    {members : List (Quote × Json)} {s s' : σ}
    (h : Record.decodeMembers (slots.map Slot.field) [] members .closed s = .ok s') :
    ¬ WritesTwice slots members := by
  have hnames : (slots.map Slot.field).map Field.name = slots.map Slot.name := by
    rw [List.map_map]
    rfl
  have hstrict : strictSlot.within part update ∈ slots := by
    rw [hslots]
    exact List.mem_append_left _ (List.mem_map_of_mem (by simp [commonSlots]))
  rintro (htwice | ⟨key, inner, hmember, hkey, htwice⟩)
  · rw [← hnames] at htwice
    exact not_repeats_of_decodeMembers h htwice
  · have hfind := find?_field htable.names hstrict
    have hmeans : key.Says (strictSlot.within part update).field.name := hkey
    obtain ⟨change, hread⟩ := exists_read_of_decodeMembers h hfind hmember hmeans
    exact not_repeats_of_read_strict hread htwice

end

/-! ## The option records -/

/-- How the options of a build are written. -/
def buildCodec : Codec BuildOptions := .record buildSlots {}

/-- How the options of a transform are written. -/
def transformCodec : Codec TransformOptions := .record transformSlots {}

theorem writable_buildCodec : buildCodec.Writable := by
  refine Codec.writable_record isTable_buildSlots (List.forall_mem_append.2
    ⟨List.forall_mem_map.2 fun slot hslot => ?_, writable_ownBuildSlots⟩) {}
  exact writable_commonSlots slot hslot

theorem writable_transformCodec : transformCodec.Writable := by
  refine Codec.writable_record isTable_transformSlots (List.forall_mem_append.2
    ⟨List.forall_mem_map.2 fun slot hslot => ?_, writable_ownTransformSlots⟩) {}
  exact writable_commonSlots slot hslot

theorem fits_buildCodec {o : BuildOptions} (h : o.errorLimit < UInt64.size) : buildCodec.Fits o := by
  simpa [buildCodec, Codec.record, buildSlots, commonSlots, ownBuildSlots, strictSlot, strictSlots,
    Slot.within, Codec.choice, Codec.natural, Codec.bool, Codec.text, Codec.list, Codec.option,
    Codec.dictionary] using h

theorem fits_transformCodec {o : TransformOptions} (h : o.errorLimit < UInt64.size) :
    transformCodec.Fits o := by
  simpa [transformCodec, Codec.record, transformSlots, commonSlots, ownTransformSlots, strictSlot,
    strictSlots, Slot.within, Codec.choice, Codec.natural, Codec.bool, Codec.text,
    Codec.dictionary] using h

/-- All option records whose limit has 64 bits can be written, and each text that writes one is
loaded as this one. No text is loaded that writes a field of the record, or of its `strict`,
twice. -/
theorem written_options_are_loaded :
    (∀ o : BuildOptions, o.errorLimit < UInt64.size →
      (∃ text, buildCodec.IsText o text) ∧
      ∀ text, buildCodec.IsText o text → loadConfig (some text.toUTF8) = .ok o) ∧
    (∀ o : TransformOptions, o.errorLimit < UInt64.size →
      (∃ text, transformCodec.IsText o text) ∧
      ∀ text, transformCodec.IsText o text → loadConfig (some text.toUTF8) = .ok o) ∧
    ∀ (text : String) (members : List (Quote × Json)),
      Json.IsDocument text (.object members .closed) →
        (WritesTwice buildSlots members → ∃ problem,
          (loadConfig (some text.toUTF8) : Except ConfigError BuildOptions) =
            .error (.invalid problem)) ∧
        (WritesTwice transformSlots members → ∃ problem,
          (loadConfig (some text.toUTF8) : Except ConfigError TransformOptions) =
            .error (.invalid problem)) := by
  refine ⟨fun o hlimit => ⟨?_, fun text htext => ?_⟩, fun o hlimit => ⟨?_, fun text htext => ?_⟩,
    fun text members hdocument => ⟨fun htwice => ?_, fun htwice => ?_⟩⟩
  · exact writable_buildCodec.exists_text (fits_buildCodec hlimit)
  · exact loadConfig_of_isText field_buildSlots isTable_buildSlots (fits_buildCodec hlimit) htext
  · exact writable_transformCodec.exists_text (fits_transformCodec hlimit)
  · exact loadConfig_of_isText field_transformSlots isTable_transformSlots
      (fits_transformCodec hlimit) htext
  · refine exists_problem_of_ne_ok field_buildSlots hdocument fun o hread => ?_
    exact not_writesTwice_of_decodeMembers rfl isTable_buildSlots hread htwice
  · refine exists_problem_of_ne_ok field_transformSlots hdocument fun o hread => ?_
    exact not_writesTwice_of_decodeMembers rfl isTable_transformSlots hread htwice

/-! ### A text with an order of its own -/

/-- A quoted text without escapes. -/
def Quote.plain (text : String) : Quote := ⟨text.toList.map .char, .closed⟩

theorem Quote.says_plain (text : String) : (Quote.plain text).Says text := by
  refine ⟨rfl, ?_⟩
  unfold plain
  induction text.toList with
  | nil => exact .nil
  | cons c cs ih => exact .char ih

/-- Options of a build, with the largest limit there is. -/
def shuffledOptions : BuildOptions :=
  { errorLimit := 18446744073709551615, strict := { classFields := true }, outfile := "😀/",
    loaders := Dictionary.ofList [(".a", .file), (".b", .ts)] }

/-- A text of these options, with escapes and with members of unknown names. -/
def shuffledText : String :=
  "\x7b\"outfile\": \"\\ud83d\\ude00\\/\", \"x\": [1e999, \x7b\"strict\": null\x7d],\n" ++
  "\"strict\": \x7b\"y\": -0, \"classFields\": true\x7d, \"loaders\": " ++
  "\x7b\".b\": \"ts\", \".a\": \"file\"\x7d, \"\\u0065rrorLimit\": 18446744073709551615\x7d"

/-- The members of the text. -/
def shuffledMembers : List (Quote × Json) :=
  [ (.plain "outfile", .text ⟨[.unit 0xd83d, .unit 0xde00, .char '/'], .closed⟩),
    (.plain "x", .array [.numeral ⟨false, [1], [], false, some (false, [9, 9, 9])⟩,
      .object [(.plain "strict", .null)] .closed] .closed),
    (.plain "strict", .object [(.plain "y", .numeral ⟨true, [0], [], false, none⟩),
      (.plain "classFields", .bool true)] .closed),
    (.plain "loaders", .object [(.plain ".b", .text (.plain "ts")),
      (.plain ".a", .text (.plain "file"))] .closed),
    (⟨.unit 0x65 :: "rrorLimit".toList.map .char, .closed⟩, .numeral
      ⟨false, [1, 8, 4, 4, 6, 7, 4, 4, 0, 7, 3, 7, 0, 9, 5, 5, 1, 6, 1, 5], [], false, none⟩) ]

theorem isDocument_shuffledText :
    Json.IsDocument shuffledText (.object shuffledMembers .closed) := by
  refine (Json.isDocument_iff _ _).2 ⟨?_, rfl⟩
  unfold shuffledText shuffledMembers Quote.plain
  cbv

theorem writes_shuffledMembers :
    buildCodec.Writes shuffledOptions (.object shuffledMembers .closed) := by
  have houtfile : Codec.text.Writes shuffledOptions.outfile
      (.text ⟨[.unit 0xd83d, .unit 0xde00, .char '/'], .closed⟩) :=
    ⟨_, rfl, (Quote.says_iff _ _).2 (by decide)⟩
  have hstrict : (Codec.record strictSlots {}).Writes shuffledOptions.strict
      (.object [(.plain "y", .numeral ⟨true, [0], [], false, none⟩),
        (.plain "classFields", .bool true)] .closed) := by
    refine ⟨_, rfl, writesRecord_of_names ["y", "classFields"] ?_ (by decide) ?_⟩
    · simp [strictSlots, Codec.bool, Quote.says_plain, shuffledOptions]
    · simp [strictSlots, shuffledOptions]
  have hloaders : (Codec.dictionary .choice).Writes shuffledOptions.loaders
      (.object [(.plain ".b", .text (.plain "ts")), (.plain ".a", .text (.plain "file"))]
        .closed) := by
    refine ⟨_, [(".b", .ts), (".a", .file)], rfl, .swap _ _ _, .cons ⟨Quote.says_plain _, ?_⟩
      (.cons ⟨Quote.says_plain _, ?_⟩ .nil)⟩
    · exact ⟨_, rfl, Quote.says_plain _⟩
    · exact ⟨_, rfl, Quote.says_plain _⟩
  have hlimit : Codec.natural.Writes shuffledOptions.errorLimit (.numeral
      ⟨false, [1, 8, 4, 4, 6, 7, 4, 4, 0, 7, 3, 7, 0, 9, 5, 5, 1, 6, 1, 5], [], false, none⟩) :=
    ⟨_, rfl, rfl⟩
  refine ⟨shuffledMembers, rfl, writesRecord_of_names
    ["outfile", "x", "strict", "loaders", "errorLimit"] ?_ (by decide) ?_⟩
  · have hkey : Quote.Says ⟨.unit 0x65 :: "rrorLimit".toList.map .char, .closed⟩ "errorLimit" :=
      (Quote.says_iff _ _).2 rfl
    refine .cons ⟨Quote.says_plain _, ?_⟩ (.cons ⟨Quote.says_plain _, ?_⟩
      (.cons ⟨Quote.says_plain _, ?_⟩ (.cons ⟨Quote.says_plain _, ?_⟩ (.cons ⟨hkey, ?_⟩ .nil))))
    -- of all slots only the one with the name of the member is left
    all_goals simp only [buildSlots, commonSlots, ownBuildSlots, strictSlot, Slot.within,
      List.map_cons, List.map_nil, List.cons_append, List.nil_append, List.mem_cons,
      List.not_mem_nil, or_false, forall_eq_or_imp, forall_eq, String.reduceEq,
      IsEmpty.forall_iff, forall_const, true_and, and_true, and_self]
    exacts [houtfile, hstrict, hloaders, hlimit]
  · simp [buildSlots, commonSlots, ownBuildSlots, strictSlot, Slot.within, shuffledOptions]

/-- A text that writes a field twice, once with an escape in its name. -/
def repeatingText : String := "\x7b\"loader\": \"ts\", \"\\u006coader\": \"ts\"\x7d"

/-- The members of the text. -/
def repeatingMembers : List (Quote × Json) :=
  [ (.plain "loader", .text (.plain "ts")),
    (⟨.unit 0x6c :: "oader".toList.map .char, .closed⟩, .text (.plain "ts")) ]

theorem isDocument_repeatingText :
    Json.IsDocument repeatingText (.object repeatingMembers .closed) := by
  refine (Json.isDocument_iff _ _).2 ⟨?_, rfl⟩
  unfold repeatingText repeatingMembers Quote.plain
  cbv

theorem writesTwice_repeatingMembers : WritesTwice transformSlots repeatingMembers := by
  refine .inl ⟨"loader", by decide, _, _, .refl _, Quote.says_plain _, ?_⟩
  exact (Quote.says_iff _ _).2 rfl

theorem written_options_are_loaded_shuffled :
    (shuffledOptions.errorLimit < UInt64.size ∧ buildCodec.IsText shuffledOptions shuffledText ∧
      loadConfig (some shuffledText.toUTF8) = .ok shuffledOptions) ∧
    (({} : TransformOptions).errorLimit < UInt64.size ∧ ∃ text, transformCodec.IsText {} text ∧
      loadConfig (some text.toUTF8) = .ok ({} : TransformOptions)) ∧
    Json.IsDocument repeatingText (.object repeatingMembers .closed) ∧
      WritesTwice transformSlots repeatingMembers ∧ ∃ problem,
        (loadConfig (some repeatingText.toUTF8) : Except ConfigError TransformOptions) =
          .error (.invalid problem) := by
  obtain ⟨hbuild, htransform, htwice⟩ := written_options_are_loaded
  have hlimit : shuffledOptions.errorLimit < UInt64.size := by decide
  have htext : buildCodec.IsText shuffledOptions shuffledText :=
    ⟨_, isDocument_shuffledText, writes_shuffledMembers⟩
  obtain ⟨⟨text, hempty⟩, hloaded⟩ := htransform {} (by decide)
  refine ⟨⟨hlimit, htext, (hbuild _ hlimit).2 _ htext⟩,
    ⟨by decide, text, hempty, hloaded text hempty⟩, isDocument_repeatingText,
    writesTwice_repeatingMembers, ?_⟩
  exact (htwice _ _ isDocument_repeatingText).2 writesTwice_repeatingMembers

end Bundler
