import Bundler.CommandLine.Run
import Bundler.Proofs.Files.Agreement
import Bundler.Proofs.Files.Reading
import Bundler.Proofs.Files.Writing
import Bundler.Proofs.Transpile.Entries

/-! # Where the output of a build goes

Three parts of the program tell where output goes, each from what it has at hand: the command line
from the options as they are written, the rules from the places that these lead to, and the engine
from the output file and the output directory that it is handed. On a host they come to the same
(`outputs_follow_options`): a path that is given leads to a place, whose path is absolute
(`FileSystem.Placed`), and a file in a directory is a child of it (`isChild_of_place`), whether the
directory is the root or not. -/

set_option autoImplicit false

namespace Bundler

/-! ## Children of a directory -/

/-- A path is that of the child with a given name in a directory. -/
structure IsChild (fs : FileSystem) (dir name path : String) : Prop where
  spelled : path = (if dir = "/" then "" else dir) ++ "/" ++ name
  dir : fs.dir path = dir
  name : Path.Host.fileName? path = some name.toList

namespace Path

/-- Of the paths to places, only that of the root is nothing without the slashes at its end. -/
theorem trimSlashes_placeChars {stack : List (List Char)} (h : IsPlace stack) :
    Transpile.trimSlashes (String.ofList (placeChars stack)) =
      if stack = [] then "" else String.ofList (placeChars stack) := by
  unfold Transpile.trimSlashes
  rw [String.toList_ofList]
  cases stack with
  | nil => rfl
  | cons name stack =>
      obtain ⟨last, hlast, hslash⟩ := getLast?_placeChars (isPlace_cons_iff.1 h).1 stack
      obtain ⟨front, hfront⟩ := List.getLast?_eq_some_iff.1 hlast
      rw [if_neg (List.cons_ne_nil _ _), hfront, List.reverse_concat,
        List.dropWhile_cons_of_neg (by simpa using hslash), List.reverse_cons,
        List.reverse_reverse]

end Path

/-- A name put into a place gives a child of it. -/
theorem isChild_of_place (tree : FileTree) (cwd : Option Path.Host.Directory) (here : String)
    {stack : List (List Char)} (hplace : Path.IsPlace stack) {name : List Char}
    (hname : Path.IsName name) :
    IsChild (.host tree cwd here) (String.ofList (Path.placeChars stack)) (String.ofList name)
      (Transpile.trimSlashes (String.ofList (Path.placeChars stack)) ++ "/"
        ++ String.ofList name) := by
  have hchild : Path.IsPlace (name :: stack) := Path.isPlace_cons_iff.2 ⟨hname, hplace⟩
  have hpath : Transpile.trimSlashes (String.ofList (Path.placeChars stack)) ++ "/"
      ++ String.ofList name = String.ofList (Path.placeChars (name :: stack)) := by
    rw [Path.trimSlashes_placeChars hplace, Path.placeChars_cons]
    split
    · simp
    · simp [← String.toList_inj]
  refine ⟨?_, ?_, ?_⟩
  · rw [Path.trimSlashes_placeChars hplace]
    simp only [Path.placeChars_eq_root_iff stack hplace]
  · rw [hpath]
    exact host_dir_placeChars tree cwd here hchild
  · rw [hpath, String.toList_ofList]
    refine Path.fileName?_of_getLast? hname ?_
    rw [String.toList_ofList]
    exact Path.getLast?_splitOn_placeChars hname stack

/-! ## Modules and their files -/

/-- A module keeps the path of the file that its entry point stands for. -/
theorem Transpile.scanEntry_yields_path {language : Language} {fs : FileSystem}
    {resolver : Resolver} {parse : ParseOptions} {bundle : BundleOptions} {entry : String}
    {P : Entry → Prop} (hload : Scanned.Yields P (load fs resolver bundle entry)) :
    Scanned.Yields (fun m => ∃ source, P source ∧ m.path = source.path)
      (scanEntry language fs resolver parse bundle entry) :=
  hload.bind fun source hsource =>
    (codeOf_yields ⟨entry, source.contents⟩ source.loader).bind fun _ _ => ⟨source, hsource, rfl⟩

section

variable {language : Language} {find : ResolveOptions → String → String → Option String}
  {o : BuildOptions} {fs : FileSystem}

/-- Each entry point that is scanned without an error has a module, with the path of its file. -/
theorem scanned_paths
    (hfree : ErrorFree (o.scanned fs language find (o.entryPoints.map fs.place)).2) :
    List.Forall₂
      (fun entry m => ∃ source, EntryAt find fs (o.plan fs).1 (fs.place entry) source ∧
        m.path = source.path)
      o.entryPoints (o.scanned fs language find (o.entryPoints.map fs.place)).1 := by
  have hmodules := Transpile.scanEntries_of_errorFree
    (fun entry => Transpile.scanEntry_yields_path (Transpile.load_yields rfl entry)) hfree
  rwa [List.forall₂_map_left_iff] at hmodules

theorem length_scanned_le (entries : List String) :
    (o.scanned fs language find entries).1.length ≤ entries.length :=
  Transpile.length_scanEntries_le _ _ _ _ _ entries

end

namespace Transpile

variable {o : BuildOptions} {fs : FileSystem} (m : ScannedModule)

theorem outputPath_nowhere (hfile : fs.place o.outfile = "") (hdir : fs.place o.outdir = "") :
    outputPath (o.plan fs).1.bundle m = stdoutPath := by
  unfold outputPath
  rw [outputFile_plan, outputDir_plan, hfile, hdir]
  rfl

theorem outputPath_file (hfile : fs.place o.outfile ≠ "") :
    outputPath (o.plan fs).1.bundle m = fs.place o.outfile := by
  unfold outputPath
  rw [outputFile_plan, if_pos hfile]

theorem outputPath_directory (hfile : fs.place o.outfile = "") (hdir : fs.place o.outdir ≠ "") :
    outputPath (o.plan fs).1.bundle m =
      trimSlashes (fs.place o.outdir) ++ "/"
        ++ ((Path.Host.fileStem? m.path).getD "out" ++ ".js") := by
  have hgiven : (o.plan fs).1.bundle.outputDir = fs.place o.outdir := by
    rw [outputDir_plan, if_neg fun h => h.1 hfile]
  unfold outputPath
  rw [outputFile_plan, hgiven, hfile, if_neg (not_not_intro rfl), if_neg hdir, String.append_assoc]

end Transpile

/-! ## Output modes -/

/-- The files of a build are where its options say. -/
structure FollowsOptions (find : ResolveOptions → String → String → Option String)
    (fs : FileSystem) (o : BuildOptions) (files : List OutputFile) : Prop where
  /-- Without an output path there is at most one file, for the standard output. -/
  nowhere : o.outfile = "" → o.outdir = "" →
    files.length ≤ 1 ∧ ∀ file ∈ files, file.path = "<stdout>"
  /-- With one, every file has an absolute path, so none is for the standard output. -/
  somewhere : o.outfile ≠ "" ∨ o.outdir ≠ "" →
    ∀ file ∈ files, Path.isAbsolute file.path = true ∧ file.path ≠ "<stdout>"
  /-- With an output file there is at most this file. -/
  intoFile : o.outfile ≠ "" →
    files.length ≤ 1 ∧ ∀ file ∈ files, fs.abs o.outfile = some file.path
  /-- With an output directory there is a file in it for each entry point, with the name of the file
  that the entry point stands for. -/
  intoDirectory : o.outdir ≠ "" →
    ∃ dir, fs.abs o.outdir = some dir ∧
      List.Forall₂
        (fun entry file => ∃ source stem, EntryAt find fs (o.plan fs).1 (fs.place entry) source ∧
          Path.Host.fileStem? source.path = some stem ∧ IsChild fs dir (stem ++ ".js") file.path)
        o.entryPoints files

theorem isAbsolute_append {front : String} (h : Path.isAbsolute front = true) (back : String) :
    Path.isAbsolute (front ++ back) = true := by
  obtain ⟨rest, hrest⟩ := Path.exists_of_isAbsoluteChars h
  unfold Path.isAbsolute
  rw [String.toList_append, hrest]
  rfl

theorem ne_stdout_of_isAbsolute {path : String} (h : Path.isAbsolute path = true) :
    path ≠ "<stdout>" := by
  rintro rfl
  exact absurd h (by decide)

section

variable {language : Language} {find : ResolveOptions → String → String → Option String}
  {o : BuildOptions} {tree : FileTree} {cwd : Option Path.Host.Directory} {here : String}
  (hcwd : ∀ d ∈ cwd, Path.IsNamed d) (hadmissible : Admissible (.host tree cwd here) o)

include hcwd hadmissible

theorem abs_outfile_of_admissible (hfile : o.outfile ≠ "") (m : ScannedModule) :
    (FileSystem.host tree cwd here).abs o.outfile =
      some (Transpile.outputPath (o.plan (.host tree cwd here)).1.bundle m) := by
  have hrooted : (FileSystem.host tree cwd here).Rooted :=
    (FileSystem.placed_host tree hcwd here).rooted
  rw [Transpile.outputPath_file m fun h => hfile ((hrooted.place_eq_empty_iff _).1 h)]
  exact abs_eq_place hadmissible.outputs.1 hfile

/-- With an output directory, files lie in the place that it leads to. -/
theorem outputPath_in_place (hdir : o.outdir ≠ "") :
    ∃ stack, Path.IsPlace stack ∧
      (FileSystem.host tree cwd here).abs o.outdir = some (String.ofList (Path.placeChars stack)) ∧
      ∀ m : ScannedModule, Transpile.outputPath (o.plan (.host tree cwd here)).1.bundle m =
        Transpile.trimSlashes (String.ofList (Path.placeChars stack)) ++ "/"
          ++ ((Path.Host.fileStem? m.path).getD "out" ++ ".js") := by
  have hplaced : (FileSystem.host tree cwd here).Placed :=
    FileSystem.placed_host tree hcwd here
  have hrooted := hplaced.rooted
  have hfile : o.outfile = "" := Decidable.of_not_not fun h => hadmissible.oneOutput ⟨h, hdir⟩
  have habs := abs_eq_place hadmissible.outputs.2.1 hdir
  obtain ⟨stack, hplace, hstack⟩ := hplaced.exists_place habs
  refine ⟨stack, hplace, hstack ▸ habs, fun m => ?_⟩
  rw [Transpile.outputPath_directory m ((hrooted.place_eq_empty_iff _).2 hfile)
    fun h => hdir ((hrooted.place_eq_empty_iff _).1 h), hstack]

/-- With an output path, whatever comes out has an absolute path. -/
theorem isAbsolute_outputPath (hgiven : o.outfile ≠ "" ∨ o.outdir ≠ "") (m : ScannedModule) :
    Path.isAbsolute (Transpile.outputPath (o.plan (.host tree cwd here)).1.bundle m) = true := by
  obtain hfile | hdir := hgiven
  · have habs := abs_outfile_of_admissible hcwd hadmissible hfile m
    exact (FileSystem.placed_host tree hcwd here).rooted _ _ habs
  · obtain ⟨stack, hplace, -, hpath⟩ := outputPath_in_place hcwd hadmissible hdir
    rw [hpath m, Path.trimSlashes_placeChars hplace]
    refine isAbsolute_append ?_ _
    split
    · rfl
    · exact isAbsolute_append (Path.isAbsolute_placeChars stack) _

/-- With an output directory, the module of an entry point goes to a file in it, which has the name
of the file that the entry point stands for. -/
theorem isChild_outputPath (hdir : o.outdir ≠ "") :
    ∃ dir, (FileSystem.host tree cwd here).abs o.outdir = some dir ∧
      ∀ (entry : String) (source : Transpile.Entry) (m : ScannedModule),
        EntryAt find (.host tree cwd here) (o.plan (.host tree cwd here)).1 entry source →
        m.path = source.path →
        ∃ stem, Path.Host.fileStem? source.path = some stem ∧
          IsChild (.host tree cwd here) dir (stem ++ ".js")
            (Transpile.outputPath (o.plan (.host tree cwd here)).1.bundle m) := by
  obtain ⟨stack, hplace, habs, hpath⟩ := outputPath_in_place hcwd hadmissible hdir
  refine ⟨_, habs, fun entry source m hsource hm => ?_⟩
  obtain ⟨name, hname, hstem⟩ := fileStem?_of_read hsource.contents
  have hchild : Path.IsName (Path.Host.stemOf name ++ ".js".toList) :=
    Path.isName_stemOf_append hname (by decide) (by decide)
  have hspelled : String.ofList (Path.Host.stemOf name ++ ".js".toList)
      = String.ofList (Path.Host.stemOf name) ++ ".js" := by
    rw [← String.toList_inj]
    simp
  refine ⟨_, hstem, ?_⟩
  rw [hpath m, hm, hstem, Option.getD_some, ← hspelled]
  exact isChild_of_place tree cwd here hplace hchild

end

section

variable {language : Language} {find : ResolveOptions → String → String → Option String}
  {o : BuildOptions} {tree : FileTree} {cwd : Option Path.Host.Directory} {here : String}

/-- The files of a build without errors follow its options. -/
theorem followsOptions_of_errorFree (hcwd : ∀ d ∈ cwd, Path.IsNamed d) {display : Display}
    (h : (build o (.host tree cwd here) (transpileEngine language find) display).result.errors
      = []) :
    FollowsOptions find (.host tree cwd here) o
      (build o (.host tree cwd here) (transpileEngine language find) display).result.outputs := by
  have hrooted : (FileSystem.host tree cwd here).Rooted :=
    (FileSystem.placed_host tree hcwd here).rooted
  obtain ⟨hissues, -, hfree, houtputs⟩ := build_of_errorFree h
  have hadmissible : Admissible (.host tree cwd here) o := (admissible_iff hrooted o).2 hissues
  have hmodules := scanned_paths hfree
  have hcount : (o.scanned (.host tree cwd here) language find _).1.length ≤ _ :=
    length_scanned_le (o.entryPoints.map (FileSystem.host tree cwd here).place)
  generalize (o.scanned (.host tree cwd here) language find _).1 = modules
    at hmodules hcount houtputs
  rw [List.length_map] at hcount
  have hone : o.outdir = "" →
      (modules.map (Transpile.fileOf (o.plan (.host tree cwd here)).1.bundle)).length ≤ 1 := by
    intro hdir
    rw [List.length_map]
    exact hcount.trans (hadmissible.oneFile hdir).1
  rw [houtputs]
  refine ⟨?_, ?_, ?_, ?_⟩
  · intro hfile hdir
    refine ⟨hone hdir, List.forall_mem_map.2 fun m _ => ?_⟩
    exact Transpile.outputPath_nowhere m ((hrooted.place_eq_empty_iff _).2 hfile)
      ((hrooted.place_eq_empty_iff _).2 hdir)
  · intro hgiven
    refine List.forall_mem_map.2 fun m _ => ?_
    have habsolute := isAbsolute_outputPath hcwd hadmissible hgiven m
    exact ⟨habsolute, ne_stdout_of_isAbsolute habsolute⟩
  · intro hfile
    have hdir : o.outdir = "" :=
      Decidable.of_not_not fun hdir => hadmissible.oneOutput ⟨hfile, hdir⟩
    exact ⟨hone hdir, List.forall_mem_map.2 fun m _ =>
      abs_outfile_of_admissible hcwd hadmissible hfile m⟩
  · intro hdir
    obtain ⟨dir, habs, hchild⟩ := isChild_outputPath hcwd hadmissible hdir
    refine ⟨dir, habs, List.forall₂_map_right_iff.2 (hmodules.imp fun entry m => ?_)⟩
    rintro ⟨source, hsource, hm⟩
    obtain ⟨stem, hstem, hin⟩ := hchild (FileSystem.place _ entry) source m hsource hm
    exact ⟨source, stem, hsource, hstem, hin⟩

end

/-! ## Clashes -/

/-- A text says that two output files share a path. -/
def IsClash (text : String) : Prop := "Two output files share the same path".toList <+: text.toList

/-- The texts that a language reports. -/
inductive Language.Says (language : Language) : String → Prop
  | parsing {loader : Loader} {contents : String} {problem : Span × String}
      (h : problem ∈ (language.parse loader contents).2) : Says language problem.2
  | refusing {target : Target} {text : String} (h : language.refusal target = some text) :
      Says language text
  | lowering {lowering : Lowering} {program : language.Program} {text : String}
      (h : text ∈ (language.lower lowering program).2) : Says language text

/-- A text begins in another way than one about a clash. Two characters are enough to tell. -/
def BeginsOtherwise (text : String) : Prop :=
  ∃ first second rest, text.toList = first :: second :: rest ∧ (first, second) ≠ ('T', 'w')

theorem BeginsOtherwise.append {text : String} (h : BeginsOtherwise text) (rest : String) :
    BeginsOtherwise (text ++ rest) := by
  obtain ⟨first, second, others, htext, hne⟩ := h
  exact ⟨first, second, others ++ rest.toList, by rw [String.toList_append, htext]; rfl, hne⟩

theorem BeginsOtherwise.not_isClash {text : String} (h : BeginsOtherwise text) :
    ¬ IsClash text := by
  obtain ⟨first, second, others, htext, hne⟩ := h
  rintro ⟨rest, hrest⟩
  rw [htext] at hrest
  have hheads := List.cons.inj hrest
  exact hne (Prod.ext hheads.1.symm (List.cons.inj hheads.2).1.symm)

/-- What is said about options is said otherwise. -/
theorem beginsOtherwise_issue (issue : Issue) : BeginsOtherwise issue.message := by
  have hinvalid {front : String} {rest : List Char} (h : front.toList = 'I' :: 'n' :: rest) :
      BeginsOtherwise front := ⟨'I', 'n', rest, h, by decide⟩
  cases issue with
  | jsx role text => exact (((hinvalid rfl).append role).append _).append _
  | defineKey key => exact (hinvalid rfl).append _
  | defineValue value => exact (hinvalid rfl).append _
  | path text => exact (hinvalid rfl).append _
  | extension text => exact (hinvalid rfl).append _
  | moduleName text => exact (hinvalid rfl).append _
  | rule rule => cases rule <;> exact ⟨_, _, _, rfl, by decide⟩

/-- Among the errors that say why nothing is given, only one of the language is about a clash. -/
def Scanned.Spares {α : Type} (language : Language) : Scanned α → Prop
  | .ok _ => True
  | .error errors => ∀ d ∈ errors, IsClash d.text → language.Says d.text

theorem Scanned.Spares.bind {α β : Type} {language : Language} {x : Scanned α}
    {f : α → Scanned β} (hx : Scanned.Spares language x)
    (hf : ∀ a, Scanned.Spares language (f a)) : Scanned.Spares language (x >>= f) := by
  cases x with
  | error errors => exact hx
  | ok a => exact hf a

namespace Transpile

section

variable {language : Language} {fs : FileSystem} {resolver : Resolver} {parse : ParseOptions}
  {bundle : BundleOptions}

theorem spares_error {α : Type} {text : String} (h : BeginsOtherwise text) :
    Scanned.Spares (α := α) language (.error [.error text]) := by
  intro d hd hclash
  obtain rfl := List.mem_singleton.1 hd
  exact absurd hclash h.not_isClash

theorem load_spares (entry : String) :
    Scanned.Spares language (load fs resolver bundle entry) := by
  have hcould {rest : List Char} {front : String} (h : front.toList = 'C' :: 'o' :: rest) :
      BeginsOtherwise front := ⟨'C', 'o', rest, h, by decide⟩
  have hloader : BeginsOtherwise "No loader is configured for " := ⟨'N', 'o', _, rfl, by decide⟩
  unfold load
  split
  · exact trivial
  · split
    · split
      · exact spares_error ((hcould rfl).append _)
      · dsimp only
        split
        · exact trivial
        · exact spares_error (((hloader.append _).append _).append _)
    · exact spares_error ((hcould rfl).append _)

theorem codeOf_spares (source : Source) (loader : Loader) :
    Scanned.Spares language (codeOf language parse bundle source loader) := by
  have hengine : BeginsOtherwise "The transpile engine does not support the " :=
    ⟨'T', 'h', _, rfl, by decide⟩
  unfold codeOf
  split
  · exact spares_error ((hengine.append _).append _)
  · split
    · rename_i problem problems hparse
      intro d hd _
      obtain ⟨reported, hreported, rfl⟩ := List.mem_map.1 hd
      have hparsed : reported ∈ (language.parse loader source.contents).2 := by
        rw [hparse]
        exact hreported
      exact .parsing hparsed
    · rename_i program _
      split
      · rename_i text hrefusal
        intro d hd _
        obtain rfl := List.mem_singleton.1 hd
        exact .refusing hrefusal
      · split
        · rename_i text texts hlower
          intro d hd _
          obtain ⟨reported, hreported, rfl⟩ := List.mem_map.1 hd
          have hlowered : reported ∈ (language.lower ⟨parse.target, parse.strict, parse.jsx⟩
              program).2 := by
            rw [hlower]
            exact hreported
          exact .lowering hlowered
        · exact trivial

theorem scanEntry_spares (entry : String) :
    Scanned.Spares language (scanEntry language fs resolver parse bundle entry) :=
  (load_spares entry).bind fun source =>
    (codeOf_spares ⟨entry, source.contents⟩ source.loader).bind fun _ => trivial

theorem says_of_scanEntries {entries : List String} {d : Diagnostic}
    (hd : d ∈ (scanEntries language fs resolver parse bundle entries).2) (hclash : IsClash d.text) :
    language.Says d.text := by
  obtain ⟨scanned, hscanned, hd⟩ := List.mem_flatMap.1 hd
  obtain ⟨entry, -, rfl⟩ := List.mem_map.1 hscanned
  have hspares : Scanned.Spares language (scanEntry language fs resolver parse bundle entry) :=
    scanEntry_spares entry
  cases hscan : scanEntry language fs resolver parse bundle entry with
  | ok m =>
      rw [hscan] at hd
      exact absurd hd List.not_mem_nil
  | error errors =>
      rw [hscan] at hd hspares
      exact hspares d hd hclash

theorem not_error_of_mem_warnings {d : Diagnostic} (hd : d ∈ warnings parse bundle) :
    d.severity ≠ .error := by
  obtain ⟨option, -, rfl⟩ := List.mem_map.1 hd
  exact fun h => by cases h

end

end Transpile

theorem mem_messagesOf {severity : Severity} {ds : List Diagnostic} {message : Message}
    (h : message ∈ messagesOf severity ds) :
    ∃ d ∈ ds, d.severity = severity ∧ message.text = d.text := by
  obtain ⟨d, hd, rfl⟩ := List.mem_map.1 h
  obtain ⟨hmem, hseverity⟩ := List.mem_filter.1 hd
  exact ⟨d, hmem, by simpa using hseverity, rfl⟩

/-- Where what is logged in the course of a run comes from. -/
theorem Course.mem_logged {fs : FileSystem} {checked : Checked Plan} {s : Session}
    {calls : List EngineCall} {logged : List Diagnostic} {files : List OutputFile}
    (h : Course fs checked s calls logged files) {d : Diagnostic} (hd : d ∈ logged) :
    d ∈ issueErrors checked.2 ∨ d ∈ s.resolving ++ s.scanning ∨
      checked.2 = [] ∧ d ∈ s.compiling := by
  cases h with
  | refused _ => exact .inl hd
  | stopped _ _ => exact .inr (.inl hd)
  | finished hnone _ =>
      rcases List.mem_append.1 hd with hd | hd
      · exact .inr (.inl hd)
      · exact .inr (.inr ⟨hnone, hd⟩)

/-- Unless the output goes to a directory, the files of a build do not clash: an error that says so
is one of the language. -/
theorem says_of_isClash {language : Language}
    {find : ResolveOptions → String → String → Option String} {o : BuildOptions} {fs : FileSystem}
    (hrooted : fs.Rooted) {display : Display} (hmode : o.outdir = "" ∨ o.outfile ≠ "")
    {message : Message}
    (hmessage : message ∈ (build o fs (transpileEngine language find) display).result.errors)
    (hclash : IsClash message.text) : language.Says message.text := by
  obtain ⟨logged, files, course, hresult⟩ :=
    build_course o fs (transpileEngine language find) display
  rw [hresult] at hmessage
  rw [session_transpileEngine] at course
  obtain ⟨d, hd, hseverity, htext⟩ := mem_messagesOf hmessage
  rw [htext] at hclash ⊢
  rcases course.mem_logged hd with hd | hd | ⟨hissues, hd⟩
  · obtain ⟨issue, -, rfl⟩ := List.mem_map.1 hd
    exact absurd hclash (beginsOtherwise_issue issue).not_isClash
  · -- making the resolver reports nothing
    rcases List.mem_append.1 hd with hnone | hd
    · exact absurd hnone List.not_mem_nil
    · rcases List.mem_append.1 hd with hd | hd
      · exact absurd hseverity (Transpile.not_error_of_mem_warnings hd)
      · exact Transpile.says_of_scanEntries hd hclash
  · -- one entry point gives one module at most, which is in nobody's way
    have hadmissible : Admissible fs o := (admissible_iff hrooted o).2 hissues
    have hdir : o.outdir = "" := Decidable.of_not_not fun hdir =>
      hadmissible.oneOutput ⟨hmode.resolve_left hdir, hdir⟩
    have hone : (o.scanned fs language find (o.plan fs).1.entries).1.length ≤ 1 := by
      refine (length_scanned_le _).trans ?_
      rw [length_plan_entries]
      exact (hadmissible.oneFile hdir).1
    have hcompiled := (Transpile.compile_of_length_le_one (o.plan fs).1.bundle hone).1
    exact absurd hseverity (hcompiled d hd)

/-! ## The command line -/

namespace CommandLine

/-- What is told about files that are written does not matter to them. -/
theorem writeAll_snd (tell tell' : OutputFile → String) (tree : FileTree)
    (files : List OutputFile) : (writeAll tell tree files).2 = (writeAll tell' tree files).2 := by
  induction files generalizing tree with
  | nil => rfl
  | cons file rest ih =>
      rw [writeAll, writeAll]
      split
      · rfl
      · exact ih _

/-- The contents of files, one after the other. -/
def contentsOf (files : List OutputFile) : ByteArray :=
  files.foldl (fun bytes file => bytes ++ file.contents) .empty

/-- The files that are there after others are written. -/
def written (tree : FileTree) (files : List OutputFile) : FileTree :=
  (writeAll (fun _ => "") tree files).2.2

section

variable {engine : Engine} {s : Surroundings} {o : BuildOptions}

/-- Without an output path, a build without errors prints its files and writes none. -/
theorem runBuild_nowhere
    (herrors : (build o (.host s.files s.cwd s.cwd) engine s.toDisplay).result.errors = [])
    (hnowhere : o.outfile = "" ∧ o.outdir = "") :
    (runBuild engine s o).stdout =
        contentsOf (build o (.host s.files s.cwd s.cwd) engine s.toDisplay).result.outputs ∧
      (runBuild engine s o).files = s.files ∧ (runBuild engine s o).code = 0 := by
  unfold runBuild
  generalize build o (.host s.files s.cwd s.cwd) engine s.toDisplay = run at herrors ⊢
  dsimp only
  rw [if_neg (not_not_intro herrors), if_pos hnowhere]
  exact ⟨rfl, rfl, rfl⟩

/-- With an output path, a build without errors prints nothing and writes its files, and its exit
code says whether all of them are written. -/
theorem runBuild_somewhere
    (herrors : (build o (.host s.files s.cwd s.cwd) engine s.toDisplay).result.errors = [])
    (hsomewhere : ¬ (o.outfile = "" ∧ o.outdir = "")) :
    let outputs := (build o (.host s.files s.cwd s.cwd) engine s.toDisplay).result.outputs
    (runBuild engine s o).stdout = .empty ∧
      (runBuild engine s o).files = written s.files outputs ∧
      ((runBuild engine s o).code = 0 ↔ (writeAll (fun _ => "") s.files outputs).2.1 = true) := by
  unfold runBuild written
  generalize build o (.host s.files s.cwd s.cwd) engine s.toDisplay = run at herrors ⊢
  generalize (if o.logLevel = .info then wroteLine s.styles else fun _ => "") = tell
  have hsnd := writeAll_snd tell (fun _ => "") s.files run.result.outputs
  dsimp only
  rw [if_neg (not_not_intro herrors), if_neg hsomewhere, ← hsnd]
  split
  · rename_i hall
    exact ⟨rfl, rfl, iff_of_true rfl hall⟩
  · rename_i hsome
    exact ⟨rfl, rfl, iff_of_false Nat.one_ne_zero hsome⟩

end

end CommandLine

/-- The command line treats each file of a build as its path says: it prints those for the standard
output, and writes the others, which are there then up to the first that cannot be written. -/
theorem runBuild_by_path {language : Language}
    {find : ResolveOptions → String → String → Option String} {s : CommandLine.Surroundings}
    {o : BuildOptions} {files : List OutputFile}
    (herrors : (build o (.host s.files s.cwd s.cwd) (transpileEngine language find)
      s.toDisplay).result.errors = [])
    (hfiles : (build o (.host s.files s.cwd s.cwd) (transpileEngine language find)
      s.toDisplay).result.outputs = files)
    (h : FollowsOptions find (.host s.files s.cwd s.cwd) o files) :
    let exit := CommandLine.runBuild (transpileEngine language find) s o
    let written := files.filter fun file => file.path ≠ "<stdout>"
    exit.stdout = CommandLine.contentsOf (files.filter fun file => file.path = "<stdout>") ∧
      exit.files = CommandLine.written s.files written ∧
      ∃ front back, written = front ++ back ∧ s.files.Holds exit.files front ∧
        (exit.code = 0 ↔ back = []) := by
  intro exit written
  by_cases hnowhere : o.outfile = "" ∧ o.outdir = ""
  · have hpaths := (h.nowhere hnowhere.1 hnowhere.2).2
    have hwritten : written = [] := List.filter_eq_nil_iff.2 (by simpa using hpaths)
    obtain ⟨hstdout, htree, hcode⟩ := CommandLine.runBuild_nowhere herrors hnowhere
    rw [hwritten, hstdout, htree, hfiles, List.filter_eq_self.2 (by simpa using hpaths)]
    exact ⟨rfl, rfl, [], [], rfl, s.files.holds_nil, iff_of_true hcode rfl⟩
  · have hpaths : ∀ file ∈ files, file.path ≠ "<stdout>" := fun file hfile =>
      (h.somewhere (not_and_or.1 hnowhere) file hfile).2
    have hwritten : written = files := List.filter_eq_self.2 (by simpa using hpaths)
    obtain ⟨hstdout, htree, hcode⟩ := CommandLine.runBuild_somewhere herrors hnowhere
    rw [hfiles] at htree hcode
    rw [hwritten, hstdout, htree, hcode, List.filter_eq_nil_iff.2 (by simpa using hpaths)]
    exact ⟨rfl, rfl, CommandLine.holds_writeAll (fun _ => "") s.files files⟩

/-! ## Runs -/

/-- The command line, the engine and the rules agree on where the output of a build goes. The files
of a build without errors are where the options say; without an output directory, or with an output
file, no error says that two files share a path, other than one that the language itself reports. So
it is on a host whose directory begins at the root, as one that is an absolute path does
(`Path.isNamed_ofText`). The command line prints or writes each file as its path says; what it
writes is there with its contents, up to the first file that cannot be written, and the exit code
says whether there is one. -/
theorem outputs_follow_options (language : Language)
    (find : ResolveOptions → String → String → Option String) (o : BuildOptions) :
    let engine := transpileEngine language find
    (∀ (tree : FileTree) (cwd : Option Path.Host.Directory) (here : String) (display : Display),
      (∀ d ∈ cwd, Path.IsNamed d) →
      let fs : FileSystem := .host tree cwd here
      let result := (build o fs engine display).result
      (result.errors = [] → FollowsOptions find fs o result.outputs) ∧
      (o.outdir = "" ∨ o.outfile ≠ "" →
        ∀ message ∈ result.errors, IsClash message.text → language.Says message.text)) ∧
    ∀ s : CommandLine.Surroundings, Path.isAbsolute s.cwd = true →
      let result := (build o (.host s.files s.cwd s.cwd) engine s.toDisplay).result
      let exit := CommandLine.runBuild engine s o
      let written := result.outputs.filter fun file => file.path ≠ "<stdout>"
      result.errors = [] →
        exit.stdout =
            CommandLine.contentsOf (result.outputs.filter fun file => file.path = "<stdout>") ∧
          exit.files = CommandLine.written s.files written ∧
          ∃ front back, written = front ++ back ∧ s.files.Holds exit.files front ∧
            (exit.code = 0 ↔ back = []) := by
  refine ⟨fun tree cwd here display hcwd => ⟨fun herrors => ?_, fun hmode message => ?_⟩,
    fun s hcwd => ?_⟩
  · exact followsOptions_of_errorFree hcwd herrors
  · exact says_of_isClash (FileSystem.placed_host tree hcwd here).rooted hmode
  · intro result exit written herrors
    exact runBuild_by_path herrors rfl
      (followsOptions_of_errorFree (Path.isNamed_ofText hcwd) herrors)

/-- Two scripts of a host that go to a directory of the working directory. -/
theorem outputs_follow_options_directory :
    let find := fun (_ : ResolveOptions) (_ path : String) => some path
    let o : BuildOptions := { entryPoints := ["lib/a.b.ts", "/w/c.js"], outdir := "../out/" }
    let s : CommandLine.Surroundings :=
      { cwd := "/w", stdin := .empty, styles := false
        files := FileTree.bare.addAll [("/w/lib/a.b.ts", some "let x: number = 1;".toUTF8),
          ("/w/c.js", some "g(1)".toUTF8)] }
    let fs : FileSystem := .host s.files s.cwd s.cwd
    let result := (build o fs (transpileEngine scriptLanguage find) s.toDisplay).result
    let exit := CommandLine.runBuild (transpileEngine scriptLanguage find) s o
    Path.isAbsolute s.cwd = true ∧ result.errors = [] ∧
      result.outputs.map OutputFile.path = ["/out/a.b.js", "/out/c.js"] ∧
      FollowsOptions find fs o result.outputs ∧
      exit.files = CommandLine.written s.files
        (result.outputs.filter fun file => file.path ≠ "<stdout>") := by
  intro find o s
  have herrors : (build o (.host s.files s.cwd s.cwd) (transpileEngine scriptLanguage find)
      s.toDisplay).result.errors = [] := by
    decide +kernel +zetaReduce
  have hcwd : Path.isAbsolute s.cwd = true := by decide
  obtain ⟨hruns, hcommand⟩ := outputs_follow_options scriptLanguage find o
  have hfollows := (hruns s.files _ s.cwd s.toDisplay (Path.isNamed_ofText hcwd)).1 herrors
  exact ⟨hcwd, herrors, by decide +kernel +zetaReduce, hfollows, (hcommand s hcwd herrors).2.1⟩

end Bundler
