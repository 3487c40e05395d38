import Bundler.Engine.Transpile
import Bundler.Proofs.Options.Faults
import Bundler.Script.Language
import Mathlib.Data.List.Forall2

/-! # Every entry point becomes a file

The transpile engine turns entry points into files one by one, and an entry point can be lost at
many places on the way. Each loss is reported as an error: while scanning by one that stands for the
entry point (`Scanned.Yields`), and while compiling by one that stands for the path that is taken
already (`place_of_errorFree`). So a run without errors has lost nothing: there is one file for each
entry point, in the same order, with the printed code in it (`every_entry_becomes_a_file`). The
language of the modules and the way to find files are arbitrary throughout. -/

set_option autoImplicit false

namespace Bundler

/-! ## What entry points and texts become -/

/-- What an entry point stands for, if it is not the text of a transform: it is not external, it is
found, the file at the path can be read, and there is a loader for the extension of the path. -/
structure EntryAt (find : ResolveOptions → String → String → Option String) (fs : FileSystem)
    (plan : Plan) (entry : String) (source : Transpile.Entry) : Prop where
  isInternal : plan.resolve.externals.contains entry = false
  found : find plan.resolve (fs.dir entry) entry = some source.path
  contents : fs.read source.path = some source.contents
  loader : plan.bundle.loaders.get? (Transpile.extensionOf source.path) = some source.loader

/-- A text becomes code: its loader is one for scripts, it is read without a problem, the target is
not refused, and it is lowered to the target without a problem and printed. -/
inductive PrintsAs (language : Language) (parse : ParseOptions) (bundle : BundleOptions)
    (loader : Loader) (text : String) : String → Prop
  | intro (program lowered : language.Program)
      (script : loader ∈ [Loader.js, .jsx, .ts, .tsx])
      (reads : language.parse loader text = (program, []))
      (accepted : language.refusal parse.target = none)
      (lowers : language.lower ⟨parse.target, parse.strict, parse.jsx⟩ program = (lowered, [])) :
      PrintsAs language parse bundle loader text (language.print bundle.removeWhitespace lowered)

/-! ## Scanning -/

/-- Scanning gives what it should, or else there is an error among those that say why it gives
nothing. -/
def Scanned.Yields {α : Type} (P : α → Prop) : Scanned α → Prop
  | .ok a => P a
  | .error errors => ¬ ErrorFree errors

theorem Scanned.Yields.bind {α β : Type} {P : α → Prop} {Q : β → Prop} {x : Scanned α}
    {f : α → Scanned β} (hx : Scanned.Yields P x) (hf : ∀ a, P a → Scanned.Yields Q (f a)) :
    Scanned.Yields Q (x >>= f) := by
  cases x with
  | error errors => exact hx
  | ok a => exact hf a hx

namespace Transpile

theorem not_errorFree_error (text : String) : ¬ ErrorFree [.error text] := by
  simp [Diagnostic.error]

theorem not_errorFree_map_errorAt {α : Type} (source : Source) (place : α → Span)
    (text : α → String) (x : α) (xs : List α) :
    ¬ ErrorFree ((x :: xs).map fun x => .errorAt source (place x) (text x)) := by
  simp [Diagnostic.errorAt]

theorem isScript_iff (loader : Loader) :
    isScript loader = true ↔ loader ∈ [Loader.js, .jsx, .ts, .tsx] := by
  cases loader <;> decide

section

variable {language : Language} {find : ResolveOptions → String → String → Option String}
  {fs : FileSystem} {plan : Plan} {parse : ParseOptions} {bundle : BundleOptions}

theorem codeOf_yields (source : Source) (loader : Loader) :
    Scanned.Yields (PrintsAs language parse bundle loader source.contents)
      (codeOf language parse bundle source loader) := by
  unfold codeOf
  split
  · exact not_errorFree_error _
  · rename_i hscript
    split
    · exact not_errorFree_map_errorAt source Prod.fst Prod.snd _ _
    · rename_i program hparse
      split
      · exact not_errorFree_error _
      · rename_i hrefusal
        split
        · exact not_errorFree_map_errorAt source (fun _ => ⟨0, 0⟩) id _ _
        · rename_i lowered hlower
          have hscript' : isScript loader = true := by simpa using hscript
          exact .intro program lowered ((isScript_iff loader).1 hscript') hparse hrefusal hlower

/-- The text of a transform stands for its one entry point. -/
theorem load_yields_stdin {resolver : Resolver} {stdin : Stdin} (hstdin : bundle.stdin = some stdin)
    (entry : String) :
    Scanned.Yields (· = ⟨entry, stdin.contents, stdin.loader⟩) (load fs resolver bundle entry) := by
  unfold load
  rw [hstdin]
  exact rfl

theorem load_yields (hstdin : plan.bundle.stdin = none) (entry : String) :
    Scanned.Yields (EntryAt find fs plan entry)
      (load fs (.of plan.resolve.externals (find plan.resolve)) plan.bundle entry) := by
  unfold load
  rw [hstdin]
  dsimp only
  split
  · rename_i path hpath
    unfold Resolver.of at hpath
    split at hpath
    · cases hpath
    · rename_i hinternal
      obtain ⟨path', hfound, hpath'⟩ := Option.map_eq_some_iff.1 hpath
      cases hpath'
      split
      · exact not_errorFree_error _
      · rename_i contents hread
        split
        · rename_i loader hloader
          exact ⟨Bool.eq_false_iff.2 hinternal, hfound, hread, hloader⟩
        · exact not_errorFree_error _
  · exact not_errorFree_error _

/-- The module of an entry point holds the code of what the entry point stands for. -/
theorem scanEntry_yields {resolver : Resolver} {entry : String} {P : Entry → Prop}
    (hload : Scanned.Yields P (load fs resolver bundle entry)) :
    Scanned.Yields
      (fun m => ∃ source, P source ∧
        PrintsAs language parse bundle source.loader source.contents m.code)
      (scanEntry language fs resolver parse bundle entry) :=
  hload.bind fun source hsource =>
    (codeOf_yields ⟨entry, source.contents⟩ source.loader).bind fun _ hcode =>
      ⟨source, hsource, hcode⟩

/-- Without an error, scanning gives a module for each entry point, and each is as it should. -/
theorem scanEntries_of_errorFree {resolver : Resolver} {entries : List String}
    {P : String → ScannedModule → Prop}
    (hyields : ∀ entry, Scanned.Yields (P entry)
      (scanEntry language fs resolver parse bundle entry))
    (hfree : ErrorFree (scanEntries language fs resolver parse bundle entries).2) :
    List.Forall₂ P entries (scanEntries language fs resolver parse bundle entries).1 := by
  induction entries with
  | nil => exact .nil
  | cons entry rest ih =>
      simp only [scanEntries, List.map_cons, List.flatMap_cons, List.filterMap_cons] at hfree ih ⊢
      rw [errorFree_append] at hfree
      have hentry := hyields entry
      cases hscan : scanEntry language fs resolver parse bundle entry with
      | error errors =>
          rw [hscan] at hfree hentry
          exact absurd hfree.1 hentry
      | ok m =>
          rw [hscan] at hentry
          exact .cons hentry (ih hfree.2)

end

/-! ## Compiling -/

/-- The file that a module goes to. -/
def fileOf (bundle : BundleOptions) (m : ScannedModule) : OutputFile :=
  ⟨outputPath bundle m, (wrap bundle.format m.code).toUTF8⟩

/-- The error about a module whose output path is taken. -/
def clash (bundle : BundleOptions) (m : ScannedModule) : Diagnostic :=
  .error ("Two output files share the same path: " ++ outputPath bundle m ++ " (from " ++ m.path
    ++ ")")

section

variable {bundle : BundleOptions} {taken : List String} {m : ScannedModule}

theorem place_cons_of_mem (rest : List ScannedModule) (h : outputPath bundle m ∈ taken) :
    place bundle taken (m :: rest) =
      ((place bundle taken rest).1, clash bundle m :: (place bundle taken rest).2) := by
  rw [place, if_pos h]
  rfl

theorem place_cons_of_notMem (rest : List ScannedModule) (h : outputPath bundle m ∉ taken) :
    place bundle taken (m :: rest) =
      (fileOf bundle m :: (place bundle (outputPath bundle m :: taken) rest).1,
        (place bundle (outputPath bundle m :: taken) rest).2) := by
  rw [place, if_neg h]
  rfl

end

/-- Files get paths that are not taken, and each gets another one. -/
theorem nodup_place (bundle : BundleOptions) (taken : List String) (modules : List ScannedModule) :
    (∀ file ∈ (place bundle taken modules).1, file.path ∉ taken) ∧
      ((place bundle taken modules).1.map OutputFile.path).Nodup := by
  induction modules generalizing taken with
  | nil => exact ⟨List.forall_mem_nil _, .nil⟩
  | cons m rest ih =>
      by_cases hmem : outputPath bundle m ∈ taken
      · rw [place_cons_of_mem rest hmem]
        exact ih taken
      · obtain ⟨hfree, hnodup⟩ := ih (outputPath bundle m :: taken)
        rw [place_cons_of_notMem rest hmem]
        refine ⟨List.forall_mem_cons.2 ⟨hmem, fun file hfile => ?_⟩,
          List.nodup_cons.2 ⟨fun hpath => ?_, hnodup⟩⟩
        · exact fun htaken => hfree file hfile (List.mem_cons_of_mem _ htaken)
        -- the path of the first module is taken for the others
        · obtain ⟨file, hfile, hpath⟩ := List.mem_map.1 hpath
          exact hfree file hfile (hpath ▸ List.mem_cons_self)

/-- Without an error, each module goes to its file. -/
theorem place_of_errorFree {bundle : BundleOptions} {taken : List String}
    {modules : List ScannedModule} (hfree : ErrorFree (place bundle taken modules).2) :
    (place bundle taken modules).1 = modules.map (fileOf bundle) := by
  induction modules generalizing taken with
  | nil => rfl
  | cons m rest ih =>
      by_cases hmem : outputPath bundle m ∈ taken
      · rw [place_cons_of_mem rest hmem, errorFree_cons] at hfree
        exact (hfree.1 rfl).elim
      · rw [place_cons_of_notMem rest hmem] at hfree ⊢
        rw [List.map_cons, ih hfree]

section

variable (bundle : BundleOptions) (modules : List ScannedModule)

theorem compile_fst : (compile bundle modules).1 = (place bundle [] modules).1 := by
  simp only [compile]
  split <;> rfl

/-- What compiling adds to the placing of files is at most a warning. -/
theorem errorFree_compile_iff :
    ErrorFree (compile bundle modules).2 ↔ ErrorFree (place bundle [] modules).2 := by
  simp only [compile]
  split
  · exact Iff.rfl
  · rw [errorFree_cons]
    simp [Diagnostic.warning]

end

theorem compile_of_errorFree {bundle : BundleOptions} {modules : List ScannedModule}
    (hfree : ErrorFree (compile bundle modules).2) :
    (compile bundle modules).1 = modules.map (fileOf bundle) ∧
      (modules.map (outputPath bundle)).Nodup := by
  have hplace := (errorFree_compile_iff bundle modules).1 hfree
  have hnodup := (nodup_place bundle [] modules).2
  rw [place_of_errorFree hplace, List.map_map] at hnodup
  exact ⟨(compile_fst bundle modules).trans (place_of_errorFree hplace), hnodup⟩

theorem wrap_eq (format : Format) (code : String) :
    wrap format code =
      if format = .iife then "(() => \x7b\n" ++ code ++ "\x7d)();\n" else code := by
  cases format <;> rfl

end Transpile

/-! ## Runs -/

/-- What the transpile engine answers in a session. -/
theorem session_transpileEngine (language : Language)
    (find : ResolveOptions → String → String → Option String) (fs : FileSystem) (plan : Plan)
    (tally : Tally) :
    (transpileEngine language find).session fs plan tally =
      let resolver := Resolver.of plan.resolve.externals (find plan.resolve)
      let scanned :=
        Transpile.scanEntries language fs resolver plan.parse plan.bundle plan.entries
      let compiled := Transpile.compile plan.bundle scanned.1
      ⟨[], Transpile.warnings plan.parse plan.bundle ++ scanned.2, compiled.2, compiled.1⟩ := rfl

/-- A run of the transpile engine without errors gives a file for each entry point, and no two files
share a path. -/
theorem Course.files_of_errorFree {language : Language}
    {find : ResolveOptions → String → String → Option String} {fs : FileSystem}
    {checked : Checked Plan} {tally : Tally} {calls : List EngineCall} {logged : List Diagnostic}
    {files : List OutputFile} {P : String → Transpile.Entry → Prop}
    (h : Course fs checked ((transpileEngine language find).session fs checked.1 tally) calls logged
      files)
    (hfree : ErrorFree logged)
    (hload : ∀ entry, Scanned.Yields (P entry) (Transpile.load fs
      (.of checked.1.resolve.externals (find checked.1.resolve)) checked.1.bundle entry)) :
    List.Forall₂ (fun entry file => ∃ source code, P entry source ∧
        PrintsAs language checked.1.parse checked.1.bundle source.loader source.contents code ∧
        file.contents = (Transpile.wrap checked.1.bundle.format code).toUTF8)
      checked.1.entries files ∧
    (files.map OutputFile.path).Nodup := by
  obtain ⟨hscan, hcompile, rfl⟩ := h.of_errorFree hfree
  rw [session_transpileEngine] at hscan hcompile ⊢
  have hmodules := Transpile.scanEntries_of_errorFree
    (fun entry => Transpile.scanEntry_yields (hload entry)) ((errorFree_append _ _).1 hscan).2
  obtain ⟨hcompiled, hnodup⟩ := Transpile.compile_of_errorFree hcompile
  dsimp only
  rw [hcompiled, List.forall₂_map_right_iff, List.map_map]
  refine ⟨hmodules.imp fun entry m => ?_, hnodup⟩
  rintro ⟨source, hsource, hcode⟩
  exact ⟨source, m.code, hsource, hcode, rfl⟩

theorem entries_plan (o : BuildOptions) (fs : FileSystem) :
    (o.plan fs).1.entries = o.entryPoints.map fs.place := by
  show (o.entryPoints.map (Check.path fs)).map Prod.fst = _
  rw [List.map_map]
  exact List.map_congr_left fun text _ => path_fst fs text

/-- A run of the transpile engine without errors has not lost anything. A build gives one file for
each entry point, in their order; no two files share a path; and each holds the printed code of its
entry point, as a function that is called at once if that is the format, and else as it is. A
transform gives the printed code of its text and no source map. -/
theorem every_entry_becomes_a_file (language : Language)
    (find : ResolveOptions → String → String → Option String) (display : Display) :
    (∀ (o : BuildOptions) (fs : FileSystem),
      let plan := (o.plan fs).1
      let result := (build o fs (transpileEngine language find) display).result
      result.errors = [] →
        List.Forall₂ (fun entry file => ∃ source code,
            EntryAt find fs plan (fs.place entry) source ∧
            PrintsAs language plan.parse plan.bundle source.loader source.contents code ∧
            file.contents =
              (if plan.bundle.format = .iife then "(() => \x7b\n" ++ code ++ "\x7d)();\n"
                else code).toUTF8)
          o.entryPoints result.outputs ∧
        (result.outputs.map OutputFile.path).Nodup) ∧
    (∀ (o : TransformOptions) (input : String),
      let plan := (o.plan input).1
      let result := (transform o input (transpileEngine language find) display).result
      result.errors = [] →
        (∃ code, PrintsAs language plan.parse plan.bundle o.loader input code ∧
          result.js = code.toUTF8) ∧
        result.sourceMap = .empty) := by
  constructor
  · intro o fs plan result herrors
    obtain ⟨logged, files, course, hresult⟩ :=
      build_course o fs (transpileEngine language find) display
    have hresult' : result = _ := hresult
    rw [hresult'] at herrors ⊢
    have hfree := (messagesOf_error_eq_nil_iff logged).1 herrors
    obtain ⟨hfiles, hnodup⟩ := course.files_of_errorFree hfree (Transpile.load_yields rfl)
    rw [entries_plan, List.forall₂_map_left_iff] at hfiles
    simp only [Transpile.wrap_eq] at hfiles
    exact ⟨hfiles, hnodup⟩
  · intro o input plan result herrors
    obtain ⟨logged, files, course, hresult⟩ :=
      transform_course o input (transpileEngine language find) display
    have hresult' : result = _ := hresult
    rw [hresult'] at herrors ⊢
    have hfree := (messagesOf_error_eq_nil_iff logged).1 herrors
    obtain ⟨hfiles, -⟩ := course.files_of_errorFree hfree (Transpile.load_yields_stdin rfl)
    have hentries : (o.plan input).1.entries = [o.sourcefile] := rfl
    rw [hentries] at hfiles
    -- the one entry point gives one file, and a single file is code alone
    obtain ⟨file, rest, ⟨_, code, rfl, hcode, hcontents⟩, hrest, rfl⟩ :=
      List.forall₂_cons_left_iff.1 hfiles
    obtain rfl := List.forall₂_nil_left_iff.1 hrest
    exact ⟨⟨code, hcode, hcontents⟩, rfl⟩

/-- Two scripts of two kinds that become functions, and a text that is lowered. -/
theorem every_entry_becomes_a_file_scripts :
    let find := fun (_ : ResolveOptions) (_ path : String) => some path
    let o : BuildOptions := { entryPoints := ["a.ts", "/w/b.js"], outdir := "out", bundle := true }
    let fs : FileSystem := .memory [("a.ts", "let x: number = 1;"), ("w/b.js", "f(x);\ng(1)")]
    let t : TransformOptions := { sourcefile := "c.js", target := .es2019, sourcemap := .inside }
    ((build o fs (transpileEngine scriptLanguage find) false).result.errors = [] ∧
      List.Forall₂ (fun entry file => ∃ source code,
          EntryAt find fs (o.plan fs).1 (fs.place entry) source ∧
          PrintsAs scriptLanguage (o.plan fs).1.parse (o.plan fs).1.bundle source.loader
            source.contents code ∧
          file.contents =
            (if (o.plan fs).1.bundle.format = .iife then "(() => \x7b\n" ++ code ++ "\x7d)();\n"
              else code).toUTF8)
        o.entryPoints (build o fs (transpileEngine scriptLanguage find) false).result.outputs ∧
      ((build o fs (transpileEngine scriptLanguage find) false).result.outputs.map
        OutputFile.path).Nodup) ∧
    (transform t "a ?? b" (transpileEngine scriptLanguage find) false).result.errors = [] ∧
      (∃ code, PrintsAs scriptLanguage (t.plan "a ?? b").1.parse (t.plan "a ?? b").1.bundle t.loader
          "a ?? b" code ∧
        (transform t "a ?? b" (transpileEngine scriptLanguage find) false).result.js =
          code.toUTF8) ∧
      (transform t "a ?? b" (transpileEngine scriptLanguage find) false).result.sourceMap =
        .empty := by
  intro find o fs t
  have hbuilt : (build o fs (transpileEngine scriptLanguage find) false).result.errors = [] := by
    decide +kernel +zetaReduce
  have htransformed :
      (transform t "a ?? b" (transpileEngine scriptLanguage find) false).result.errors = [] := by
    decide +kernel +zetaReduce
  obtain ⟨hbuild, htransform⟩ := every_entry_becomes_a_file scriptLanguage find false
  exact ⟨⟨hbuilt, hbuild o fs hbuilt⟩, htransformed, htransform t "a ?? b" htransformed⟩

end Bundler
