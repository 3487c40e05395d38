import Bundler.Proofs.Options.Admissible

/-! # Transforms

A transform asks its engine exactly when its options are admissible, which is told from the options
alone (`TransformOptions.Admissible`). The files that the engine compiles are taken apart into code
and source map by what their paths are, never by the order in which they come (`Unpacked`): of two
files at most one can be the map of the other, since the path of a map is longer. -/

set_option autoImplicit false

namespace Bundler

/-! ## Options with which an engine is asked -/

/-- The options of a transform with which an engine is asked. -/
structure TransformOptions.Admissible (o : TransformOptions) : Prop where
  factory : IsJsxName o.jsxFactory
  fragment : IsJsxName o.jsxFragment
  defines : ∀ entry ∈ o.defines.entries, IsDottedPath entry.1 ∧ IsDefineValue entry.2
  /-- There is no output file that could name its source map. -/
  notLinked : o.sourcemap ≠ .linked
  /-- A source map needs the name of a file to refer to. -/
  named : o.sourcemap = .none ∨ o.sourcefile ≠ ""

theorem breaking_eq_nil_iff (broken : Bool) (rule : Rule) :
    Rules.breaking broken rule = [] ↔ broken = false := by
  cases broken <;> simp [Rules.breaking]

/-- What is wrong with the options of a transform: what is wrong with each of them, and what the
rules for source maps say. -/
theorem issues_transform_plan (o : TransformOptions) (input : String) :
    (o.plan input).2 = Faults.jsx "factory" o.jsxFactory ++ Faults.jsx "fragment" o.jsxFragment
      ++ Faults.defines o.defines
      ++ (Rules.breaking (o.sourcemap == .linked) .noLinkedMap
        ++ Rules.breaking (o.sourcemap != .none && !(o.sourcefile != "")) .mapNeedsName).map
          .rule := by
  rw [← issues_jsx, ← issues_jsx, ← issues_defines]
  rfl

theorem transform_admissible_iff (o : TransformOptions) (input : String) :
    o.Admissible ↔ (o.plan input).2 = [] := by
  have hlinked : (o.sourcemap == .linked) = false ↔ o.sourcemap ≠ .linked := beq_eq_false_iff_ne
  have hnamed : (o.sourcemap != .none && !(o.sourcefile != "")) = false ↔
      (o.sourcemap = .none ∨ o.sourcefile ≠ "") := by
    rw [Bool.and_eq_false_iff, bne_eq_false_iff_eq, Bool.not_eq_false', bne_iff_ne]
  rw [issues_transform_plan]
  simp only [Faults.jsx, Faults.defines, List.append_eq_nil_iff, List.map_eq_nil_iff,
    issuesOf_eq_nil_iff, List.forall_mem_singleton, breaking_eq_nil_iff, hlinked, hnamed]
  constructor
  · intro h
    exact ⟨⟨⟨h.factory, h.fragment⟩, h.defines⟩, h.notLinked, h.named⟩
  · rintro ⟨⟨⟨factory, fragment⟩, defines⟩, notLinked, named⟩
    exact ⟨factory, fragment, defines, notLinked, named⟩

section

variable {fs : FileSystem} {checked : Checked Plan} {s : Session} {calls : List EngineCall}
  {logged : List Diagnostic} {files : List OutputFile}

/-- Whether the engine is asked for a resolver and a scan is told from the issues alone. -/
theorem Course.asked_iff (h : Course fs checked s calls logged files) :
    (calls.map EngineCall.step).count .newResolver = 1 ∧
      (calls.map EngineCall.step).count .scan = 1 ↔ checked.2 = [] := by
  constructor
  · rintro ⟨hresolver, -⟩
    by_contra hissues
    rw [(h.of_issues hissues).1] at hresolver
    exact absurd hresolver (by decide)
  · exact h.steps_of_no_issues

/-- A run without errors has compiled. -/
theorem Course.compiled_of_errorFree (h : Course fs checked s calls logged files)
    (hfree : ErrorFree logged) : Compiled calls := by
  rw [h.compiled_iff, ← errorFree_append]
  cases h with
  | refused hissues => exact absurd ((errorFree_issueErrors _).1 hfree) hissues
  | stopped _ found => exact absurd hfree found
  | finished hnone free => exact ⟨hnone, free⟩

end

/-! ## Code and source map -/

/-- What is to be made of compiled files. A single file is code. Of two files, the one whose path is
that of the other with `.map` behind it is the map of the other. Any other files give nothing. -/
structure Unpacked (files : List OutputFile) (js sourceMap : ByteArray) : Prop where
  single : ∀ code, files = [code] → js = code.contents ∧ sourceMap = .empty
  pair : ∀ code map, files.Perm [code, map] → map.path = code.path ++ ".map" →
    js = code.contents ∧ sourceMap = map.contents
  other : (∀ code, files ≠ [code]) →
    (∀ code map, files.Perm [code, map] → map.path ≠ code.path ++ ".map") →
    js = .empty ∧ sourceMap = .empty

/-- Two paths cannot each be the other one with a suffix behind it. -/
theorem ne_append_map {path other : String} (h : path = other ++ ".map") :
    other ≠ path ++ ".map" := by
  intro h'
  have hlength : path.length = other.length + 4 := by rw [h, String.length_append]; rfl
  have hlength' : other.length = path.length + 4 := by rw [h', String.length_append]; rfl
  omega

/-- Two files in either order. -/
theorem perm_pair_cases {α : Type} {a b c d : α} (h : [a, b].Perm [c, d]) :
    (a = c ∧ b = d) ∨ (a = d ∧ b = c) := by
  have ha : a ∈ [c, d] := h.subset List.mem_cons_self
  rcases List.mem_cons.1 ha with rfl | ha
  · have hb : [b].Perm [d] := (List.perm_cons a).1 h
    exact .inl ⟨rfl, List.singleton_perm_singleton.1 hb⟩
  · obtain rfl := List.mem_singleton.1 ha
    have hb : [b].Perm [c] := (List.perm_cons a).1 (h.trans (.swap a c []))
    exact .inr ⟨rfl, List.singleton_perm_singleton.1 hb⟩

theorem unpacked_pair (a b : OutputFile) :
    Unpacked [a, b] (unpackOutputs [a, b]).1 (unpackOutputs [a, b]).2 := by
  refine ⟨fun code h => (by cases h), fun code map hperm hpath => ?_, fun _ hnone => ?_⟩
  · -- the two tests exclude each other, so the order of the tests does not matter
    rcases perm_pair_cases hperm with ⟨rfl, rfl⟩ | ⟨rfl, rfl⟩
    · have hno : a.path ≠ b.path ++ ".map" := ne_append_map hpath
      simp [unpackOutputs, hno, hpath.symm]
    · simp [unpackOutputs, hpath]
  · have hfirst : a.path ≠ b.path ++ ".map" := hnone b a (.swap b a [])
    have hsecond : b.path ≠ a.path ++ ".map" := hnone a b (.refl _)
    simp [unpackOutputs, hfirst, hsecond.symm]

/-- The files are taken apart as they should be. -/
theorem unpacked_unpackOutputs (files : List OutputFile) :
    Unpacked files (unpackOutputs files).1 (unpackOutputs files).2 := by
  -- files that are not two are no pair in any order
  have hcount : files.length ≠ 2 → ∀ code map : OutputFile, ¬ files.Perm [code, map] :=
    fun hne code map hperm => hne hperm.length_eq
  match files with
  | [] =>
      have hno := hcount (by decide)
      exact ⟨fun code h => (by cases h), fun code map h => absurd h (hno code map),
        fun _ _ => ⟨rfl, rfl⟩⟩
  | [file] =>
      have hno := hcount (by simp)
      refine ⟨fun code h => ?_, fun code map h => absurd h (hno code map),
        fun hnone => absurd rfl (hnone file)⟩
      obtain rfl := List.singleton_inj.1 h
      exact ⟨rfl, rfl⟩
  | [a, b] => exact unpacked_pair a b
  | a :: b :: c :: rest =>
      have hno := hcount (by simp)
      exact ⟨fun code h => (by cases h), fun code map h => absurd h (hno code map),
        fun _ _ => ⟨rfl, rfl⟩⟩

/-- What is to be made of files does not depend on their order. -/
theorem Unpacked.perm {files files' : List OutputFile} {js sourceMap : ByteArray}
    (hperm : files.Perm files') (h : Unpacked files js sourceMap) :
    Unpacked files' js sourceMap where
  single code hcode := h.single code (List.perm_singleton.1 (hcode ▸ hperm))
  pair code map hpair hpath := h.pair code map (hperm.trans hpair) hpath
  other hsingle hpair := by
    refine h.other (fun code hcode => ?_) fun code map hmap => ?_
    · exact hsingle code (List.perm_singleton.1 (hcode ▸ hperm.symm))
    · exact hpair code map (hperm.symm.trans hmap)

/-- Only one thing is to be made of files. -/
theorem Unpacked.unique {files : List OutputFile} {js js' sourceMap sourceMap' : ByteArray}
    (h : Unpacked files js sourceMap) (h' : Unpacked files js' sourceMap') :
    js = js' ∧ sourceMap = sourceMap' := by
  by_cases hsingle : ∃ code, files = [code]
  · obtain ⟨code, hcode⟩ := hsingle
    obtain ⟨rfl, rfl⟩ := h.single code hcode
    obtain ⟨rfl, rfl⟩ := h'.single code hcode
    exact ⟨rfl, rfl⟩
  · by_cases hpair : ∃ code map : OutputFile,
        files.Perm [code, map] ∧ map.path = code.path ++ ".map"
    · obtain ⟨code, map, hperm, hpath⟩ := hpair
      obtain ⟨rfl, rfl⟩ := h.pair code map hperm hpath
      obtain ⟨rfl, rfl⟩ := h'.pair code map hperm hpath
      exact ⟨rfl, rfl⟩
    · have hno : ∀ code map : OutputFile, files.Perm [code, map] → map.path ≠ code.path ++ ".map" :=
        fun code map hperm hpath => hpair ⟨code, map, hperm, hpath⟩
      have hno' : ∀ code, files ≠ [code] := fun code hcode => hsingle ⟨code, hcode⟩
      obtain ⟨rfl, rfl⟩ := h.other hno' hno
      obtain ⟨rfl, rfl⟩ := h'.other hno' hno
      exact ⟨rfl, rfl⟩

/-! ## Runs -/

/-- A transform without errors has compiled, and what it returns is made of the files. -/
theorem transform_unpacked (o : TransformOptions) (input : String) (engine : Engine)
    (display : Display) (h : (transform o input engine display).result.errors = []) :
    let run := transform o input engine display
    let s := engine.session (o.fileSystem input) (o.plan input).1 .zero
    Compiled run.calls ∧ Unpacked s.files run.result.js run.result.sourceMap := by
  intro run s
  obtain ⟨logged, files, course, hresult⟩ := transform_course o input engine display
  have hresult' : run.result = _ := hresult
  rw [hresult] at h
  have hfree : ErrorFree logged := (messagesOf_error_eq_nil_iff logged).1 h
  obtain ⟨-, -, rfl⟩ := course.of_errorFree hfree
  rw [hresult']
  exact ⟨course.compiled_of_errorFree hfree, unpacked_unpackOutputs _⟩

/-- A transform asks its engine, once for a resolver and once for a scan, exactly when its options
are admissible, and with other options not at all. Without errors, what it returns is made of the
compiled files as it should be; so two transforms whose files are the same but for their order
return the same, whatever else is different about them. -/
theorem transform_asks_and_unpacks (o : TransformOptions) (input : String) (engine : Engine)
    (display : Display) :
    let run := transform o input engine display
    let steps := run.calls.map EngineCall.step
    let s := engine.session (o.fileSystem input) (o.plan input).1 .zero
    (steps.count .newResolver = 1 ∧ steps.count .scan = 1 ↔ o.Admissible) ∧
    (¬ o.Admissible → run.calls = []) ∧
    (run.result.errors = [] →
      Compiled run.calls ∧ Unpacked s.files run.result.js run.result.sourceMap) ∧
    (∀ (o' : TransformOptions) (input' : String) (engine' : Engine) (display' : Display),
      let run' := transform o' input' engine' display'
      let s' := engine'.session (o'.fileSystem input') (o'.plan input').1 .zero
      run.result.errors = [] → run'.result.errors = [] → s.files.Perm s'.files →
        run.result.js = run'.result.js ∧ run.result.sourceMap = run'.result.sourceMap) := by
  obtain ⟨logged, files, course, -⟩ := transform_course o input engine display
  rw [transform_admissible_iff o input]
  refine ⟨course.asked_iff, fun hissues => (course.of_issues hissues).1,
    transform_unpacked o input engine display, ?_⟩
  intro o' input' engine' display'
  exact fun herrors herrors' hperm =>
    ((transform_unpacked o input engine display herrors).2.perm hperm).unique
      (transform_unpacked o' input' engine' display' herrors').2

/-- A source map that comes before the code, from two engines that give the files in two orders. -/
theorem transform_asks_and_unpacks_map :
    let o : TransformOptions :=
      { sourcefile := "in.ts", sourcemap := .separate, jsxFactory := "React.createElement"
        defines := .ofList [("DEBUG", "true")] }
    let code : OutputFile := ⟨"in.ts-out", "let x;".toUTF8⟩
    let map : OutputFile := ⟨"in.ts-out.map", "{}".toUTF8⟩
    let s : Session := ⟨[], [.warning "slow"], [], [map, code]⟩
    let s' : Session := ⟨[], [], [], [code, map]⟩
    let run := transform o "let x: T;" s.engine false
    let run' := transform o "let x: T;" s'.engine false
    o.Admissible ∧ (run.calls.map EngineCall.step).count .scan = 1 ∧ run.result.errors = [] ∧
      run'.result.errors = [] ∧ run.result.js = code.contents ∧
      run.result.sourceMap = map.contents ∧ run.result.js = run'.result.js := by
  intro o code map s s'
  have hadmissible : o.Admissible :=
    (transform_admissible_iff o "let x: T;").2 (by decide +kernel)
  have herrors : (transform o "let x: T;" s.engine false).result.errors = [] := by decide +kernel
  have herrors' : (transform o "let x: T;" s'.engine false).result.errors = [] := by
    decide +kernel
  obtain ⟨hasked, -, hunpacked, hsame⟩ := transform_asks_and_unpacks o "let x: T;" s.engine false
  have hswap : [map, code].Perm [code, map] := .swap code map []
  have hpath : map.path = code.path ++ ".map" := by decide +kernel
  have hmade := (hunpacked herrors).2.pair code map hswap hpath
  have hjs := (hsame o "let x: T;" s'.engine false herrors herrors' hswap).1
  exact ⟨hadmissible, (hasked.2 hadmissible).2, herrors, herrors', hmade.1, hmade.2, hjs⟩

end Bundler
