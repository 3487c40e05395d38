import Bundler.Proofs.Options.Consistent
import Bundler.Proofs.Path.FileName

/-! # Reading from memory

A file system in memory keeps its files under the normal forms of their paths, and looks a path up
by its normal form. From the root these are the same exactly when the paths lead to one place
(`resolve_root_eq_iff`), however they are spelled. So what is read at a path is the last file at its
place, and the file system of a transform holds one text, at every spelling of its place. -/

set_option autoImplicit false

namespace Bundler

/-! ## Places of paths -/

namespace Path

/-- Two paths lead from the root to one place. -/
def SamePlace (p q : String) : Prop := walk [] p.toList = walk [] q.toList

instance (p q : String) : Decidable (SamePlace p q) := inferInstanceAs (Decidable (_ = _))

/-- The absolute form of a path, taken from the root, is the path to where it leads. -/
theorem resolve_root_eq (path : String) :
    resolve path "/" = String.ofList (placeChars (walk [] path.toList)) := by
  have hroot : "/".toList = ['/'] := rfl
  unfold resolve
  rw [hroot, resolveChars_eq path.toList rfl]
  split
  · rfl
  · -- behind the root, a slash more does not matter
    rw [List.singleton_append, walk_slash, walk_slash]

/-- Paths have one absolute form if they lead to one place. -/
theorem resolve_root_eq_iff (p q : String) : resolve p "/" = resolve q "/" ↔ SamePlace p q := by
  rw [resolve_root_eq, resolve_root_eq, String.ofList_inj]
  exact placeChars_inj (isPlace_nil.walk _) (isPlace_nil.walk _)

/-- The absolute form of a path leads where the path leads. -/
theorem samePlace_resolve_root (path : String) : SamePlace (resolve path "/") path := by
  unfold SamePlace
  rw [resolve_root_eq, String.toList_ofList, walk_placeChars (isPlace_nil.walk _)]

end Path

/-! ## Files at a place -/

/-- A file under the absolute form of its path. -/
def placed (file : String × String) : String × String := (Path.resolve file.1 "/", file.2)

section

variable (files : List (String × String)) (path : String)

theorem read_memory :
    (FileSystem.memory files).read path =
      (Dictionary.ofList (files.map placed)).get? (Path.resolve path "/") := rfl

/-- What is read is the last file at the place of the path. -/
theorem read_memory_eq_some_iff (contents : String) :
    (FileSystem.memory files).read path = some contents ↔
      ∃ front name back, files = front ++ (name, contents) :: back ∧
        Path.SamePlace name path ∧ ∀ file ∈ back, ¬ Path.SamePlace file.1 path := by
  rw [read_memory, Dictionary.get?_ofList_eq_some_iff]
  constructor
  · rintro ⟨front, back, hfiles, hback⟩
    obtain ⟨front, behind, rfl, -, hbehind⟩ := List.map_eq_append_iff.1 hfiles
    obtain ⟨⟨name, _⟩, back, rfl, hfile, rfl⟩ := List.map_eq_cons_iff.1 hbehind
    obtain ⟨hname, rfl⟩ := Prod.mk.inj hfile
    refine ⟨front, name, back, rfl, (Path.resolve_root_eq_iff name path).1 hname, ?_⟩
    intro file hfile
    rw [← Path.resolve_root_eq_iff]
    exact hback (placed file) (List.mem_map_of_mem hfile)
  · rintro ⟨front, name, back, rfl, hname, hback⟩
    have hkey := (Path.resolve_root_eq_iff name path).2 hname
    refine ⟨front.map placed, back.map placed, by simp [placed, hkey], ?_⟩
    intro file hfile
    obtain ⟨file, hmem, rfl⟩ := List.mem_map.1 hfile
    exact fun heq => hback file hmem ((Path.resolve_root_eq_iff file.1 path).1 heq)

/-- Nothing is read where there is no file. -/
theorem read_memory_eq_none_iff :
    (FileSystem.memory files).read path = none ↔
      ∀ file ∈ files, ¬ Path.SamePlace file.1 path := by
  rw [read_memory, Dictionary.get?_ofList_eq_none_iff, List.forall_mem_map]
  simp only [placed, Ne, Path.resolve_root_eq_iff]

/-- What is read depends on the place alone. -/
theorem read_memory_congr {other : String} (h : Path.SamePlace other path) :
    (FileSystem.memory files).read other = (FileSystem.memory files).read path := by
  rw [read_memory, read_memory, (Path.resolve_root_eq_iff other path).2 h]

end

/-! ## The file of a transform -/

/-- The file system that a call hands to an engine, if it hands on any. -/
def EngineCall.fileSystem? : EngineCall → Option FileSystem
  | .newResolver fs _ => some fs
  | .scan fs _ _ _ => some fs
  | .compile _ => none

/-- A run hands on no file system but its own. -/
theorem Course.fileSystem_of_mem_calls {fs : FileSystem} {checked : Checked Plan} {s : Session}
    {calls : List EngineCall} {logged : List Diagnostic} {files : List OutputFile}
    (h : Course fs checked s calls logged files) {call : EngineCall} (hcall : call ∈ calls)
    {handed : FileSystem} (hhanded : call.fileSystem? = some handed) : handed = fs := by
  rcases h.eq_of_mem_calls hcall with rfl | rfl | rfl
  · exact (Option.some.inj hhanded).symm
  · exact (Option.some.inj hhanded).symm
  · cases hhanded

/-- A file system in memory reads at every path the last of its files at the place of the path, and
nothing where there is none; so a path can be read as well by its absolute form. The file system that
a transform hands to its engine reads the input at the spellings of the place of its source file, and
nothing at all other paths. -/
theorem memory_reads_last_at_place (files : List (String × String)) :
    (∀ path contents, (FileSystem.memory files).read path = some contents ↔
      ∃ front name back, files = front ++ (name, contents) :: back ∧
        Path.SamePlace name path ∧ ∀ file ∈ back, ¬ Path.SamePlace file.1 path) ∧
    (∀ path, (FileSystem.memory files).read path = none ↔
      ∀ file ∈ files, ¬ Path.SamePlace file.1 path) ∧
    (∀ path, ∃ absolute, (FileSystem.memory files).abs path = some absolute ∧
      (FileSystem.memory files).read absolute = (FileSystem.memory files).read path) ∧
    (∀ (o : TransformOptions) (input : String) (engine : Engine) (display : Display),
      ∀ call ∈ (transform o input engine display).calls, ∀ handed,
        call.fileSystem? = some handed → ∀ path,
          (Path.SamePlace o.sourcefile path → handed.read path = some input) ∧
          (¬ Path.SamePlace o.sourcefile path → handed.read path = none)) := by
  refine ⟨read_memory_eq_some_iff files, read_memory_eq_none_iff files, fun path => ?_, ?_⟩
  · exact ⟨Path.resolve path "/", rfl,
      read_memory_congr files path (Path.samePlace_resolve_root path)⟩
  · intro o input engine display call hcall handed hhanded path
    obtain ⟨logged, outputs, course, -⟩ := transform_course o input engine display
    obtain rfl := course.fileSystem_of_mem_calls hcall hhanded
    refine ⟨fun hplace => ?_, fun hplace => ?_⟩
    · exact (read_memory_eq_some_iff _ path input).2
        ⟨[], o.sourcefile, [], rfl, hplace, List.forall_mem_nil _⟩
    · exact (read_memory_eq_none_iff _ path).2 (List.forall_mem_singleton.2 hplace)

/-- Two spellings of one place, of which the later file counts, and a transform whose source file is
not named: it is at the root. -/
theorem memory_reads_last_at_place_spellings :
    let files := [("a/../b.ts", "old"), ("//b.ts/.", "new"), ("c", "other")]
    let o : TransformOptions := {}
    let s : Session := ⟨[], [], [], []⟩
    let handed := o.fileSystem "let x;"
    (FileSystem.memory files).read "./b.ts" = some "new" ∧
    (FileSystem.memory files).read "b" = none ∧
    .newResolver handed {} ∈ (transform o "let x;" s.engine false).calls ∧
    handed.read "x/.." = some "let x;" ∧ handed.read "x" = none := by
  intro files o s handed
  obtain ⟨hread, hnone, -, htransform⟩ := memory_reads_last_at_place files
  have hcall : .newResolver handed {} ∈ (transform o "let x;" s.engine false).calls := by
    obtain ⟨logged, outputs, course, -⟩ := transform_course o "let x;" s.engine false
    exact (course.handed_of_no_issues (by decide +kernel)).1
  have hhanded := htransform o "let x;" s.engine false _ hcall handed rfl
  refine ⟨(hread _ _).2 ⟨[("a/../b.ts", "old")], "//b.ts/.", [("c", "other")], rfl, by decide,
    by decide⟩, (hnone _).2 (by decide), hcall, (hhanded _).1 (by decide),
    (hhanded _).2 (by decide)⟩

end Bundler
