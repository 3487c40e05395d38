import Bundler.Proofs.Define.Checked
import Bundler.Proofs.Protocol
import Bundler.Script.Lowering
import Bundler.Script.Printer

/-! # Names for JSX

What elements and fragments become is named by a dotted path, and so is what a define replaces. The
two are checked apart from each other, but they are one kind of name: a text is taken apart at its
dots in both places (`jsx_eq`, `defineKey_mem_defines_iff`), so a define for the text is found under
the parts that the name is handed on as. Lowered code puts the parts together again
(`print_dottedName`), and what is printed is the text that was given. -/

set_option autoImplicit false

namespace Bundler

/-! ## The two checks -/

/-- What becomes of a name that is given. -/
theorem jsx_eq (role : String) {text : String} (h : text ≠ "") :
    Check.jsx role text =
      if IsDottedPath text then (some (Text.dottedParts text), [])
      else (none, [.jsx role text]) := by
  have hgiven : (text == "") = false := beq_eq_false_iff_ne.2 h
  unfold Check.jsx
  simp only [hgiven, isDottedPath_iff, Bool.false_eq_true, if_false]

theorem jsx_name_eq_none_iff (role : String) {text : String} (h : text ≠ "") :
    (Check.jsx role text).1 = none ↔ ¬ IsDottedPath text := by
  rw [jsx_eq role h]
  by_cases hpath : IsDottedPath text
  · simp [hpath]
  · simp [hpath]

theorem jsx_name_eq_some_iff (role : String) {text : String} (h : text ≠ "")
    (parts : List String) :
    (Check.jsx role text).1 = some parts ↔ IsDottedPath text ∧ Text.dottedParts text = parts := by
  rw [jsx_eq role h]
  by_cases hpath : IsDottedPath text
  · simp [hpath]
  · simp [hpath]

theorem isIdentifier_of_mem_dottedParts {text part : String} (h : IsDottedPath text)
    (hpart : part ∈ Text.dottedParts text) : Text.isIdentifier part = true :=
  List.all_eq_true.1 ((isDottedPath_iff text).2 h) part hpart

/-- The key of an entry is an error unless it is a dotted path, whatever its value is. -/
theorem defineKey_mem_defines_iff {entries : Dictionary String} {key value : String}
    (hget : entries.get? key = some value) :
    .defineKey key ∈ (Check.defines entries).2 ↔ ¬ IsDottedPath key := by
  rw [issues_defines, Faults.defines, issuesOf, List.mem_map]
  -- where a key is good, an issue with its entry is one with the value
  constructor
  · rintro ⟨entry, -, hissue⟩ hkey
    split at hissue
    · cases hissue
    · rename_i hbad
      obtain rfl := Issue.defineKey.inj hissue
      exact hbad hkey
  · intro hkey
    have hmem : (key, value) ∈ entries.entries := (Dictionary.get?_eq_some_iff _ _ _).1 hget
    refine ⟨(key, value), List.mem_filter.2 ⟨hmem, ?_⟩, if_neg hkey⟩
    simp [hkey]

/-! ## Names in lowered code -/

namespace Script

/-- Members of an expression that needs no parentheses are printed behind it, with dots. -/
theorem print_foldl_member (layout : Layout) (ids : List String) {e : Expr} (he : e.level = 7) :
    (ids.foldl Expr.member e).print layout = Text.dotted (e.print layout :: ids) := by
  -- a member binds as tightly as what it is a member of, so no parentheses come in on the way
  induction ids generalizing e with
  | nil => exact String.intercalate_singleton.symm
  | cons id ids ih =>
      have hprint : (Expr.member e id).print layout =
          Expr.parens (e.level < 7) (e.print layout) ++ "." ++ id := rfl
      rw [Expr.parens, if_neg (by simp [he])] at hprint
      rw [List.foldl_cons, ih rfl, hprint, Text.dotted, Text.dotted,
        String.intercalate_cons_append, String.intercalate_cons_cons]

/-- A dotted path of names is printed as it is written. -/
theorem print_dottedName (layout : Layout) {parts : List String} (hne : parts ≠ []) :
    (Lower.dottedName parts).print layout = Text.dotted parts := by
  cases parts with
  | nil => exact absurd rfl hne
  | cons id ids => exact print_foldl_member layout ids rfl

end Script

/-! ## Names that an engine is handed -/

/-- The JSX options that come with a call, if it is to scan. -/
def EngineCall.jsx? : EngineCall → Option JsxOptions
  | .scan _ _ parse _ => some parse.jsx
  | _ => none

/-- A run hands on no names but those of its plan. -/
theorem Course.jsx_of_mem_calls {fs : FileSystem} {checked : Checked Plan} {s : Session}
    {calls : List EngineCall} {logged : List Diagnostic} {files : List OutputFile}
    (h : Course fs checked s calls logged files) {call : EngineCall} (hcall : call ∈ calls)
    {jsx : JsxOptions} (hjsx : call.jsx? = some jsx) :
    checked.1.parse.jsx = jsx := by
  rcases h.eq_of_mem_calls hcall with rfl | rfl | rfl
  · cases hjsx
  · exact Option.some.inj hjsx
  · cases hjsx

/-- Where a text was given for elements or for fragments, calls hand it on as these parts. -/
def HandsOn (text : String) (parts : List String) (factory fragment : String)
    (calls : List EngineCall) : Prop :=
  ∀ call ∈ calls, ∀ jsx, call.jsx? = some jsx →
    (factory = text → jsx.factory = some parts) ∧ (fragment = text → jsx.fragment = some parts)

section

variable {text : String} {parts : List String}

theorem handsOn_build (h : ∀ role, (Check.jsx role text).1 = some parts) (o : BuildOptions)
    (fs : FileSystem) (engine : Engine) (display : Display) :
    HandsOn text parts o.jsxFactory o.jsxFragment (build o fs engine display).calls := by
  intro call hcall jsx hjsx
  obtain ⟨logged, files, course, -⟩ := build_course o fs engine display
  obtain rfl := course.jsx_of_mem_calls hcall hjsx
  constructor
  · rintro rfl
    exact h "factory"
  · rintro rfl
    exact h "fragment"

theorem handsOn_transform (h : ∀ role, (Check.jsx role text).1 = some parts) (o : TransformOptions)
    (input : String) (engine : Engine) (display : Display) :
    HandsOn text parts o.jsxFactory o.jsxFragment (transform o input engine display).calls := by
  intro call hcall jsx hjsx
  obtain ⟨logged, files, course, -⟩ := transform_course o input engine display
  obtain rfl := course.jsx_of_mem_calls hcall hjsx
  constructor
  · rintro rfl
    exact h "factory"
  · rintro rfl
    exact h "fragment"

end

/-! ## Names and keys -/

/-- There is a table as soon as there is an entry, and it answers for the path of a good one. -/
theorem exists_table_of_isDefine {entries : Dictionary String} {key value : String}
    (hget : entries.get? key = some value) (hdefine : IsDefine (key, value)) :
    ∃ table replacement, (Check.defines entries).1 = some table ∧ StandsFor value replacement ∧
      table.lookup (Text.dottedParts key) = some replacement := by
  cases htable : (Check.defines entries).1 with
  | none =>
      rw [defines_eq_none_iff] at htable
      subst htable
      cases hget
  | some table =>
      obtain ⟨replacement, hstands, hlookup⟩ := exists_lookup_of_isDefine htable hget hdefine
      exact ⟨table, replacement, rfl, hstands, hlookup⟩

/-- A text is good as a name for JSX exactly when it is good as the key of a define. The name is
then handed on as identifiers which, with dots between them, are the text again, and so it is
printed; a define for the text answers for these identifiers and for no others. Any other text is
one error, and no name is handed on. -/
theorem jsx_name_is_define_key (role text : String) (h : text ≠ "") :
    let checked := Check.jsx role text
    (∀ entries value, entries.get? text = some value →
      (checked.1 ≠ none ↔ .defineKey text ∉ (Check.defines entries).2)) ∧
    (∀ parts, checked.1 = some parts →
      (∀ log : Log, log.addIssues checked.2 = log) ∧
      parts ≠ [] ∧ (∀ part ∈ parts, Text.isIdentifier part = true) ∧ Text.dotted parts = text ∧
      (∀ layout, (Script.Lower.dottedName parts).print layout = text) ∧
      (∀ (o : BuildOptions) fs engine display,
        HandsOn text parts o.jsxFactory o.jsxFragment (build o fs engine display).calls) ∧
      (∀ (o : TransformOptions) input engine display,
        HandsOn text parts o.jsxFactory o.jsxFragment (transform o input engine display).calls) ∧
      (∀ entries value, entries.get? text = some value → IsDefineValue value →
        ∃ table replacement, (Check.defines entries).1 = some table ∧
          StandsFor value replacement ∧ table.lookup parts = some replacement) ∧
      (∀ (table : DefineTable) replacement wanted,
        (table.insert text replacement).lookup wanted =
          if parts = wanted then some replacement else table.lookup wanted)) ∧
    (checked.1 = none → ∀ log : Log,
      let reported := Diagnostic.error ("Invalid JSX " ++ role ++ ": " ++ Text.quoted text)
      log.addIssues checked.2 = log.add reported ∧
        (log.addIssues checked.2).pending = log.pending ++ [reported]) := by
  intro checked
  refine ⟨fun entries value hget => ?_, fun parts hparts => ?_, fun hnone log => ?_⟩
  · rw [defineKey_mem_defines_iff hget]
    exact not_congr (jsx_name_eq_none_iff role h)
  · obtain ⟨hpath, rfl⟩ := (jsx_name_eq_some_iff role h parts).1 hparts
    have hissues : checked.2 = [] := congrArg Prod.snd ((jsx_eq role h).trans (if_pos hpath))
    have hhanded : ∀ role, (Check.jsx role text).1 = some (Text.dottedParts text) :=
      fun role => (jsx_name_eq_some_iff role h _).2 ⟨hpath, rfl⟩
    have hne := dottedParts_ne_nil text
    refine ⟨fun log => by rw [hissues]; rfl, hne, fun part => isIdentifier_of_mem_dottedParts hpath,
      dotted_dottedParts text, fun layout => ?_, handsOn_build hhanded, handsOn_transform hhanded,
      fun entries value hget hvalue => exists_table_of_isDefine hget ⟨hpath, hvalue⟩,
      fun table replacement wanted => table.lookup_insert text replacement wanted⟩
    rw [Script.print_dottedName layout hne, dotted_dottedParts]
  · have hbad := (jsx_name_eq_none_iff role h).1 hnone
    have hissues : checked.2 = [.jsx role text] :=
      congrArg Prod.snd ((jsx_eq role h).trans (if_neg hbad))
    rw [hissues]
    exact ⟨rfl, Log.pending_add log _⟩

/-- A good name, and one with two dots in a row. -/
theorem jsx_name_is_define_key_react :
    let entries : Dictionary String := .ofList [("React.createElement", "h"), ("a..b", "null")]
    (Check.jsx "factory" "React.createElement").1 = some ["React", "createElement"] ∧
      .defineKey "React.createElement" ∉ (Check.defines entries).2 ∧
      (Check.jsx "fragment" "a..b").1 = none ∧ .defineKey "a..b" ∈ (Check.defines entries).2 ∧
      (Log.deferred.addIssues (Check.jsx "fragment" "a..b").2).pending =
        [.error "Invalid JSX fragment: \"a..b\""] := by
  intro entries
  have good := jsx_name_is_define_key "factory" "React.createElement" (by decide)
  have bad := jsx_name_is_define_key "fragment" "a..b" (by decide)
  have hgood : (Check.jsx "factory" "React.createElement").1 = some ["React", "createElement"] := by
    decide +kernel
  have hbad : (Check.jsx "fragment" "a..b").1 = none := by decide +kernel
  refine ⟨hgood, (good.1 entries "h" (by decide +kernel)).1 (by rw [hgood]; decide), hbad, ?_,
    (bad.2.2 hbad .deferred).2.trans (by decide +kernel)⟩
  by_contra hkey
  exact (bad.1 entries "null" (by decide +kernel)).2 hkey hbad

end Bundler
