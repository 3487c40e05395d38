import Bundler.Proofs.Options.Consistent
import Bundler.Proofs.Transpile

/-! # Entry points are independent

The transpile engine carries nothing from one entry point to the next. Scanning takes two lists of
entry points, one behind the other, to what it makes of each of them (`scanEntries_append`), so
whatever becomes of one entry point, its module and its messages are those of a scan of it alone.
Two files can get in each other's way only when they are placed. In a build without errors none do,
and it gives what the builds of its entry points give, one after the other
(`build_eq_builds_of_entries`). -/

set_option autoImplicit false

namespace Bundler

/-! ## Scanning -/

namespace Transpile

section

variable (language : Language) (fs : FileSystem) (resolver : Resolver) (parse : ParseOptions)
  (bundle : BundleOptions)

/-- Scanning two lists of entry points gives the modules of the one and of the other, and the errors
of the one and of the other. -/
theorem scanEntries_append (xs ys : List String) :
    scanEntries language fs resolver parse bundle (xs ++ ys) =
      ((scanEntries language fs resolver parse bundle xs).1
          ++ (scanEntries language fs resolver parse bundle ys).1,
        (scanEntries language fs resolver parse bundle xs).2
          ++ (scanEntries language fs resolver parse bundle ys).2) := by
  simp only [scanEntries, List.map_append, List.filterMap_append, List.flatMap_append]

/-- So scanning is scanning the entry points one by one. -/
theorem scanEntries_eq_flatMap (entries : List String) :
    scanEntries language fs resolver parse bundle entries =
      (entries.flatMap fun entry => (scanEntries language fs resolver parse bundle [entry]).1,
        entries.flatMap
          fun entry => (scanEntries language fs resolver parse bundle [entry]).2) := by
  induction entries with
  | nil => rfl
  | cons entry rest ih =>
      rw [← List.singleton_append, scanEntries_append, ih, List.flatMap_append,
        List.flatMap_append, List.flatMap_singleton, List.flatMap_singleton]

/-- No entry point gives more than one module. -/
theorem length_scanEntries_le (entries : List String) :
    (scanEntries language fs resolver parse bundle entries).1.length ≤ entries.length := by
  have hlength := List.length_filterMap_le Except.toOption
    (entries.map (scanEntry language fs resolver parse bundle))
  rwa [List.length_map] at hlength

/-- Without an error about all entry points there is none about one of them. -/
theorem errorFree_scanEntries_of_mem {entry : String} {entries : List String}
    (hentry : entry ∈ entries)
    (hfree : ErrorFree (scanEntries language fs resolver parse bundle entries).2) :
    ErrorFree (scanEntries language fs resolver parse bundle [entry]).2 := by
  rw [scanEntries_eq_flatMap] at hfree
  intro d hd
  exact hfree d (List.mem_flatMap.2 ⟨entry, hentry, hd⟩)

end

/-! ## Compiling -/

/-- A module alone is in nobody's way. -/
theorem compile_of_length_le_one (bundle : BundleOptions) {modules : List ScannedModule}
    (h : modules.length ≤ 1) :
    ErrorFree (compile bundle modules).2 ∧
      (compile bundle modules).1 = modules.map (fileOf bundle) := by
  have hplace : place bundle [] modules = (modules.map (fileOf bundle), []) := by
    match modules, h with
    | [], _ => rfl
    | [m], _ => simp [place, fileOf]
  rw [errorFree_compile_iff, compile_fst, hplace]
  exact ⟨errorFree_nil, rfl⟩

end Transpile

/-! ## The build of one entry point -/

/-- The options for one entry point alone. -/
def BuildOptions.only (o : BuildOptions) (entry : String) : BuildOptions :=
  { o with entryPoints := [entry] }

/-- An entry point alone is treated as it is among others. -/
theorem plan_only (o : BuildOptions) (fs : FileSystem) (entry : String) :
    ((o.only entry).plan fs).1 = { (o.plan fs).1 with entries := [fs.place entry] } := by
  rw [← path_fst]
  rfl

/-- The rules do not ask more of an entry point alone. -/
theorem Rule.Broken.of_only {fs : FileSystem} {o : BuildOptions} {entry : String} {rule : Rule}
    (h : rule.Broken fs (o.only entry)) : rule.Broken fs o := by
  cases rule with
  | entriesNeedDirectory => exact absurd h.2 (by simp [BuildOptions.only])
  | noLinkedMap => exact h
  | mapNeedsName => exact h
  | _ => exact ⟨h.1, h.2⟩

theorem issues_only {o : BuildOptions} {fs : FileSystem} {entry : String}
    (hentry : entry ∈ o.entryPoints) (h : (o.plan fs).2 = []) :
    ((o.only entry).plan fs).2 = [] := by
  rw [issues_plan, faults_eq_nil_iff] at h ⊢
  obtain ⟨good, kept⟩ := h
  refine ⟨{ good with entries := fun text htext => ?_ }, fun rule hrule hbroken => ?_⟩
  · obtain rfl := List.mem_singleton.1 htext
    exact good.entries text hentry
  · exact kept rule hrule hbroken.of_only

/-! ## Runs -/

/-- A run with neither an issue nor an error before compiling is finished. -/
theorem Course.finished_of {fs : FileSystem} {checked : Checked Plan} {s : Session}
    {calls : List EngineCall} {logged : List Diagnostic} {files : List OutputFile}
    (h : Course fs checked s calls logged files) (hnone : checked.2 = [])
    (hfree : ErrorFree (s.resolving ++ s.scanning)) :
    logged = s.resolving ++ s.scanning ++ s.compiling ∧ files = s.files := by
  cases h with
  | refused hissues => exact absurd hnone hissues
  | stopped _ found => exact absurd hfree found
  | finished _ _ => exact ⟨rfl, rfl⟩

/-- A run without errors has no issue. -/
theorem Course.issues_of_errorFree {fs : FileSystem} {checked : Checked Plan} {s : Session}
    {calls : List EngineCall} {logged : List Diagnostic} {files : List OutputFile}
    (h : Course fs checked s calls logged files) (hfree : ErrorFree logged) :
    checked.2 = [] := by
  by_contra hissues
  rw [(h.of_issues hissues).2.1, errorFree_issueErrors] at hfree
  exact hissues hfree

section

variable {language : Language} {find : ResolveOptions → String → String → Option String}
  {o : BuildOptions} {fs : FileSystem} {display : Display}

/-- What a build scans. -/
def BuildOptions.scanned (o : BuildOptions) (fs : FileSystem) (language : Language)
    (find : ResolveOptions → String → String → Option String) (entries : List String) :
    List ScannedModule × List Diagnostic :=
  let plan := (o.plan fs).1
  Transpile.scanEntries language fs (.of plan.resolve.externals (find plan.resolve)) plan.parse
    plan.bundle entries

/-- A build without errors has no issue, scans its entry points without an error, and gives the
files of their modules. -/
theorem build_of_errorFree
    (h : (build o fs (transpileEngine language find) display).result.errors = []) :
    (o.plan fs).2 = [] ∧
      ErrorFree (Transpile.warnings (o.plan fs).1.parse (o.plan fs).1.bundle) ∧
      ErrorFree (o.scanned fs language find (o.entryPoints.map fs.place)).2 ∧
      (build o fs (transpileEngine language find) display).result.outputs =
        (o.scanned fs language find (o.entryPoints.map fs.place)).1.map
          (Transpile.fileOf (o.plan fs).1.bundle) := by
  obtain ⟨logged, files, course, hresult⟩ :=
    build_course o fs (transpileEngine language find) display
  rw [hresult] at h ⊢
  have hfree : ErrorFree logged := (messagesOf_error_eq_nil_iff logged).1 h
  obtain ⟨hscan, hcompile, hfiles⟩ := course.of_errorFree hfree
  rw [session_transpileEngine, entries_plan] at hscan hcompile hfiles
  obtain ⟨hwarnings, herrors⟩ := (errorFree_append _ _).1 hscan
  exact ⟨course.issues_of_errorFree hfree, hwarnings, herrors,
    hfiles.trans (Transpile.compile_of_errorFree hcompile).1⟩

/-- The build of an entry point alone gives the file of its module, without an error. -/
theorem build_only {entry : String} (hissues : ((o.only entry).plan fs).2 = [])
    (hwarnings : ErrorFree (Transpile.warnings (o.plan fs).1.parse (o.plan fs).1.bundle))
    (hfree : ErrorFree (o.scanned fs language find [fs.place entry]).2) :
    (build (o.only entry) fs (transpileEngine language find) display).result.errors = [] ∧
      (build (o.only entry) fs (transpileEngine language find) display).result.outputs =
        (o.scanned fs language find [fs.place entry]).1.map
          (Transpile.fileOf (o.plan fs).1.bundle) := by
  obtain ⟨logged, files, course, hresult⟩ :=
    build_course (o.only entry) fs (transpileEngine language find) display
  rw [hresult]
  rw [session_transpileEngine, plan_only] at course
  have hscan := (errorFree_append _ _).2 ⟨hwarnings, hfree⟩
  obtain ⟨hlogged, hfiles⟩ := course.finished_of hissues ((errorFree_append _ _).2
    ⟨errorFree_nil, hscan⟩)
  -- there is at most one module, so compiling does not find two files with one path
  have hcount : (o.scanned fs language find [fs.place entry]).1.length ≤ 1 :=
    Transpile.length_scanEntries_le _ _ _ _ _ [fs.place entry]
  obtain ⟨hplaced, hcompiled⟩ := Transpile.compile_of_length_le_one (o.plan fs).1.bundle hcount
  refine ⟨(messagesOf_error_eq_nil_iff logged).2 ?_, hfiles.trans hcompiled⟩
  rw [hlogged, errorFree_append]
  exact ⟨(errorFree_append _ _).2 ⟨errorFree_nil, hscan⟩, hplaced⟩

end

/-- Entry points are independent. Scanning two lists of them, one behind the other, gives the
modules of the one and then those of the other; the warnings about ignored options, which come
first, are logged once, and after them come the messages about the one list and those about the
other. So a build without errors gives the files that the builds of its entry points give, in the
order of the entry points, and these builds are without errors too. -/
theorem build_eq_builds_of_entries (language : Language)
    (find : ResolveOptions → String → String → Option String) :
    (∀ (fs : FileSystem) (resolver : Resolver) (parse : ParseOptions) (bundle : BundleOptions)
      (tally tally₁ tally₂ : Tally) (xs ys : List String),
      let scan (tally : Tally) (entries : List String) : List ScannedModule × List Diagnostic :=
        (transpileEngine language find).scan fs tally resolver entries parse bundle
      let ignored := Transpile.warnings parse bundle
      (scan tally (xs ++ ys)).1 = (scan tally₁ xs).1 ++ (scan tally₂ ys).1 ∧
      ∃ found₁ found₂,
        (scan tally₁ xs).2 = ignored ++ found₁ ∧
        (scan tally₂ ys).2 = ignored ++ found₂ ∧
        (scan tally (xs ++ ys)).2 = ignored ++ (found₁ ++ found₂)) ∧
    (∀ (o : BuildOptions) (fs : FileSystem) (display : Display),
      let run (o : BuildOptions) := (build o fs (transpileEngine language find) display).result
      (run o).errors = [] →
        (∀ entry ∈ o.entryPoints, (run (o.only entry)).errors = []) ∧
        (run o).outputs = o.entryPoints.flatMap fun entry => (run (o.only entry)).outputs) := by
  constructor
  · intro fs resolver parse bundle tally tally₁ tally₂ xs ys scan ignored
    have happend := Transpile.scanEntries_append language fs resolver parse bundle xs ys
    refine ⟨congrArg Prod.fst happend, _, _, rfl, rfl, ?_⟩
    exact congrArg (ignored ++ ·) (congrArg Prod.snd happend)
  · intro o fs display run herrors
    obtain ⟨hissues, hwarnings, hfree, houtputs⟩ := build_of_errorFree herrors
    have honly : ∀ entry ∈ o.entryPoints, (run (o.only entry)).errors = [] ∧
        (run (o.only entry)).outputs = (o.scanned fs language find [fs.place entry]).1.map
          (Transpile.fileOf (o.plan fs).1.bundle) := by
      intro entry hentry
      refine build_only (issues_only hentry hissues) hwarnings ?_
      exact Transpile.errorFree_scanEntries_of_mem _ _ _ _ _ (List.mem_map_of_mem hentry) hfree
    refine ⟨fun entry hentry => (honly entry hentry).1, ?_⟩
    calc (run o).outputs
        = (o.scanned fs language find (o.entryPoints.map fs.place)).1.map
            (Transpile.fileOf (o.plan fs).1.bundle) := houtputs
      _ = o.entryPoints.flatMap fun entry =>
            (o.scanned fs language find [fs.place entry]).1.map
              (Transpile.fileOf (o.plan fs).1.bundle) := by
          unfold BuildOptions.scanned
          rw [Transpile.scanEntries_eq_flatMap, List.flatMap_map, List.map_flatMap]
      _ = o.entryPoints.flatMap fun entry => (run (o.only entry)).outputs :=
          List.flatMap_congr fun entry hentry => (honly entry hentry).2.symm

/-- Two scripts that are built into a directory, one of them found under another path. -/
theorem build_eq_builds_of_entries_scripts :
    let find := fun (_ : ResolveOptions) (_ path : String) =>
      some (if path = "/w/b" then "/w/b.js" else path)
    let o : BuildOptions := { entryPoints := ["a.ts", "/w/b"], outdir := "out", bundle := true }
    let fs : FileSystem := .memory [("a.ts", "let x: number = 1;"), ("w/b.js", "f(x);\ng(1)")]
    let run (o : BuildOptions) := (build o fs (transpileEngine scriptLanguage find) false).result
    (run o).errors = [] ∧ (run (o.only "/w/b")).errors = [] ∧
      (run o).outputs.map OutputFile.path = ["/out/a.js", "/out/b.js"] ∧
      (run o).outputs = (run (o.only "a.ts")).outputs ++ (run (o.only "/w/b")).outputs := by
  intro find o fs
  have herrors : (build o fs (transpileEngine scriptLanguage find) false).result.errors = [] := by
    decide +kernel +zetaReduce
  obtain ⟨honly, houtputs⟩ :=
    (build_eq_builds_of_entries scriptLanguage find).2 o fs false herrors
  refine ⟨herrors, honly "/w/b" (by decide +kernel), by decide +kernel +zetaReduce, ?_⟩
  rw [houtputs]
  simp only [o, List.flatMap_cons, List.flatMap_nil, List.append_nil]

end Bundler
