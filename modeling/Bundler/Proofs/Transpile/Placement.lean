import Bundler.Proofs.Transpile
import Mathlib.Data.List.DropRight

/-! # The first module of a path

Compiling puts modules into files one after the other and remembers the paths that it has given away.
These are the paths of all modules so far, whether they got a file or not (`place_eq`). So a module
gets its file exactly when no module in front of it has the same path (`IsFirst`), and any other is
reported as an error that names the path and the module. What is decided about a module depends on
nothing behind it. -/

set_option autoImplicit false

namespace Bundler

namespace Transpile

/-! ## First modules and others -/

/-- No module in front of a module has the same output path. -/
def IsFirst (bundle : BundleOptions) (earlier : List ScannedModule) (m : ScannedModule) : Prop :=
  ∀ other ∈ earlier, outputPath bundle other ≠ outputPath bundle m

instance (bundle : BundleOptions) (earlier : List ScannedModule) (m : ScannedModule) :
    Decidable (IsFirst bundle earlier m) := inferInstanceAs (Decidable (∀ _ ∈ _, _))

/-- The modules that are the first ones with their output paths, in their order. -/
def firsts (bundle : BundleOptions) (modules : List ScannedModule) : List ScannedModule :=
  (modules.zipIdx.filter fun (m, index) => IsFirst bundle (modules.take index) m).map Prod.fst

/-- The modules that are not, in their order. -/
def others (bundle : BundleOptions) (modules : List ScannedModule) : List ScannedModule :=
  (modules.zipIdx.filter fun (m, index) => ¬ IsFirst bundle (modules.take index) m).map Prod.fst

theorem length_firsts_add_others (bundle : BundleOptions) (modules : List ScannedModule) :
    (firsts bundle modules).length + (others bundle modules).length = modules.length := by
  calc (firsts bundle modules).length + (others bundle modules).length
      = (modules.zipIdx.filter fun (m, index) => IsFirst bundle (modules.take index) m).length
          + (modules.zipIdx.filter fun (m, index) =>
            ¬ IsFirst bundle (modules.take index) m).length := by
        rw [firsts, others, List.length_map, List.length_map]
    _ = modules.zipIdx.length := by
        simp only [decide_not]
        exact (List.length_eq_length_filter_add _).symm
    _ = modules.length := List.length_zipIdx

/-! ## Placing -/

section

variable (bundle : BundleOptions)

/-- Behind other modules whose paths are the ones that are taken, each module is placed or reported
by what is in front of it. -/
theorem place_eq {taken : List String} {before : List ScannedModule}
    (htaken : ∀ path, path ∈ taken ↔ path ∈ before.map (outputPath bundle))
    (modules : List ScannedModule) :
    place bundle taken modules =
      (((modules.zipIdx before.length).filter fun (m, index) =>
          IsFirst bundle ((before ++ modules).take index) m).map fun e => fileOf bundle e.1,
        ((modules.zipIdx before.length).filter fun (m, index) =>
          ¬ IsFirst bundle ((before ++ modules).take index) m).map fun e => clash bundle e.1) := by
  induction modules generalizing taken before with
  | nil => rfl
  | cons m rest ih =>
      have hfirst : IsFirst bundle ((before ++ m :: rest).take before.length) m ↔
          outputPath bundle m ∉ taken := by
        rw [List.take_left, htaken, List.mem_map]
        simp [IsFirst]
      have hbefore : before ++ m :: rest = before ++ [m] ++ rest := List.append_cons _ _ _
      have hlength : before.length + 1 = (before ++ [m]).length := by simp
      rw [List.zipIdx_cons]
      by_cases hmem : outputPath bundle m ∈ taken
      · have hnot : ¬ IsFirst bundle ((before ++ m :: rest).take before.length) m :=
          fun h => hfirst.1 h hmem
        have htaken' : ∀ path, path ∈ taken ↔ path ∈ (before ++ [m]).map (outputPath bundle) := by
          intro path
          rw [htaken] at hmem
          rw [htaken, List.map_append, List.mem_append]
          refine ⟨.inl, fun h => h.elim id fun hpath => ?_⟩
          rwa [List.mem_singleton.1 hpath]
        rw [place_cons_of_mem rest hmem, ih htaken', List.filter_cons_of_neg (by simpa using hnot),
          List.filter_cons_of_pos (by simpa using hnot), hbefore, hlength]
        rfl
      · have hyes : IsFirst bundle ((before ++ m :: rest).take before.length) m := hfirst.2 hmem
        have htaken' : ∀ path, path ∈ outputPath bundle m :: taken ↔
            path ∈ (before ++ [m]).map (outputPath bundle) := by
          intro path
          rw [List.mem_cons, htaken, List.map_append, List.mem_append, or_comm]
          exact or_congr_right List.mem_singleton.symm
        rw [place_cons_of_notMem rest hmem, ih htaken', List.filter_cons_of_pos (by simpa using hyes),
          List.filter_cons_of_neg (by simpa using hyes), hbefore, hlength]
        rfl

theorem place_nil_eq (modules : List ScannedModule) :
    place bundle [] modules =
      ((firsts bundle modules).map (fileOf bundle), (others bundle modules).map (clash bundle)) := by
  have htaken : ∀ path, path ∈ ([] : List String) ↔
      path ∈ ([] : List ScannedModule).map (outputPath bundle) := fun path => Iff.rfl
  rw [place_eq bundle htaken modules, firsts, others, List.map_map, List.map_map]
  rfl

/-- The path of each module is taken or that of a file. -/
theorem mem_paths_place {taken : List String} {modules : List ScannedModule} {m : ScannedModule}
    (h : m ∈ modules) :
    outputPath bundle m ∈ taken ∨
      outputPath bundle m ∈ (place bundle taken modules).1.map OutputFile.path := by
  induction modules generalizing taken with
  | nil => cases h
  | cons first rest ih =>
      by_cases hmem : outputPath bundle first ∈ taken
      · rw [place_cons_of_mem rest hmem]
        rcases List.mem_cons.1 h with rfl | h
        · exact .inl hmem
        · exact ih h
      · rw [place_cons_of_notMem rest hmem, List.map_cons]
        rcases List.mem_cons.1 h with rfl | h
        · exact .inr List.mem_cons_self
        · rcases ih h with htaken | hfile
          · rcases List.mem_cons.1 htaken with hpath | htaken
            · rw [hpath]
              exact .inr List.mem_cons_self
            · exact .inl htaken
          · exact .inr (List.mem_cons_of_mem _ hfile)

end

/-! ## Files in a directory -/

/-- What is taken from the end of a path is slashes, and none is left. -/
theorem exists_trimSlashes (path : String) :
    ∃ slashes, path = trimSlashes path ++ String.ofList (List.replicate slashes '/') ∧
      (trimSlashes path).toList.getLast? ≠ some '/' := by
  have hslashes : path.toList.rtakeWhile (· = '/') =
      List.replicate (path.toList.rtakeWhile (· = '/')).length '/' :=
    List.eq_replicate_of_mem fun c hc => by simpa using List.mem_rtakeWhile_imp hc
  have htrimmed : (trimSlashes path).toList = path.toList.rdropWhile (· = '/') :=
    String.toList_ofList
  refine ⟨(path.toList.rtakeWhile (· = '/')).length, ?_, fun hlast => ?_⟩
  · rw [← String.toList_inj, String.toList_append, String.toList_ofList, ← hslashes, htrimmed]
    exact List.rdropWhile_append_rtakeWhile.symm
  · rw [htrimmed] at hlast
    have hne : path.toList.rdropWhile (· = '/') ≠ [] := by
      intro hnil
      rw [hnil] at hlast
      cases hlast
    refine List.rdropWhile_last_not _ _ hne ?_
    rw [List.getLast?_eq_some_getLast hne, Option.some.injEq] at hlast
    simpa using hlast

/-! ## Compiling -/

/-- The errors of compiling are those about paths that are taken; there may be a warning beside
them. -/
theorem errors_compile (bundle : BundleOptions) (modules : List ScannedModule) :
    ((compile bundle modules).2.filter fun d => d.severity = .error) =
      (others bundle modules).map (clash bundle) := by
  have hclashes : (((others bundle modules).map (clash bundle)).filter
      fun d => d.severity = .error) = (others bundle modules).map (clash bundle) := by
    refine List.filter_eq_self.2 fun d hd => ?_
    obtain ⟨m, -, rfl⟩ := List.mem_map.1 hd
    rfl
  unfold compile
  rw [place_nil_eq]
  dsimp only
  split
  · exact hclashes
  · exact hclashes

/-- Compiling gives a file to the first module of each output path, in the order of the modules, and
an error about each other one, which names the path that is shared and the module. No two files share
a path, and no path is lost. A file holds the code of its module, as a function that is called at once
if that is the format. In an output directory it has the stem of the name of the module's file, and
`out` if that has no name. -/
theorem first_module_keeps_path (bundle : BundleOptions) (modules : List ScannedModule) :
    let files := (compile bundle modules).1
    let errors := (compile bundle modules).2.filter fun d => d.severity = .error
    files = (firsts bundle modules).map (fun m => ⟨outputPath bundle m,
      (if bundle.format = .iife then "(() => \x7b\n" ++ m.code ++ "\x7d)();\n"
        else m.code).toUTF8⟩) ∧
    (files.map OutputFile.path).Nodup ∧
    (∀ m ∈ modules, outputPath bundle m ∈ files.map OutputFile.path) ∧
    errors = (others bundle modules).map (fun m => .error
      ("Two output files share the same path: " ++ outputPath bundle m ++ " (from " ++ m.path
        ++ ")")) ∧
    files.length + errors.length = modules.length ∧
    (bundle.outputFile = "" → bundle.outputDir ≠ "" →
      ∃ dir slashes, bundle.outputDir = dir ++ String.ofList (List.replicate slashes '/') ∧
        dir.toList.getLast? ≠ some '/' ∧
        ∀ m, outputPath bundle m =
          dir ++ "/" ++ (Path.Host.fileStem? m.path).getD "out" ++ ".js") := by
  intro files errors
  have hfiles : files = (firsts bundle modules).map (fileOf bundle) := by
    show (compile bundle modules).1 = _
    rw [compile_fst, place_nil_eq]
  have herrors : errors = (others bundle modules).map (clash bundle) :=
    errors_compile bundle modules
  refine ⟨?_, ?_, fun m hm => ?_, herrors, ?_, fun hfile hdir => ?_⟩
  · rw [hfiles]
    refine List.map_congr_left fun m _ => ?_
    rw [fileOf, wrap_eq]
  · show ((compile bundle modules).1.map OutputFile.path).Nodup
    rw [compile_fst]
    exact (nodup_place bundle [] modules).2
  · show outputPath bundle m ∈ (compile bundle modules).1.map OutputFile.path
    rw [compile_fst]
    exact (mem_paths_place bundle hm).resolve_left List.not_mem_nil
  · rw [hfiles, herrors, List.length_map, List.length_map]
    exact length_firsts_add_others bundle modules
  · obtain ⟨slashes, hslashes, hlast⟩ := exists_trimSlashes bundle.outputDir
    refine ⟨_, slashes, hslashes, hlast, fun m => ?_⟩
    unfold outputPath
    rw [if_neg (not_not_intro hfile), if_neg hdir]

/-- A module whose path is taken keeps neither the one in front of it nor the one behind it from
its file. -/
theorem first_module_keeps_path_between :
    let bundle : BundleOptions := { outputDir := "/out//", format := .iife }
    let modules : List ScannedModule :=
      [⟨"/a/x.ts", "f();\n"⟩, ⟨"/b/x.js", "g();\n"⟩, ⟨"/b/y.d.js", ""⟩]
    bundle.outputFile = "" ∧ bundle.outputDir ≠ "" ∧
    ((compile bundle modules).1.map fun file => (file.path, file.contents)) =
      [("/out/x.js", "(() => \x7b\nf();\n\x7d)();\n".toUTF8),
        ("/out/y.d.js", "(() => \x7b\n\x7d)();\n".toUTF8)] ∧
    ((compile bundle modules).2.filter fun d => d.severity = .error) =
      [.error "Two output files share the same path: /out/x.js (from /b/x.js)"] ∧
    ∃ dir slashes, bundle.outputDir = dir ++ String.ofList (List.replicate slashes '/') ∧
      dir.toList.getLast? ≠ some '/' ∧
      ∀ m, outputPath bundle m = dir ++ "/" ++ (Path.Host.fileStem? m.path).getD "out" ++ ".js" := by
  intro bundle modules
  have hfile : bundle.outputFile = "" := rfl
  have hdir : bundle.outputDir ≠ "" := by decide
  obtain ⟨hfiles, -, -, herrors, -, hpaths⟩ := first_module_keeps_path bundle modules
  rw [hfiles]
  exact ⟨hfile, hdir, by decide +kernel, herrors.trans (by decide +kernel), hpaths hfile hdir⟩

end Transpile

end Bundler
