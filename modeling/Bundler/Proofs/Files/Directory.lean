import Bundler.Proofs.Files.Agreement
import Bundler.Proofs.Options.Consistent
import Bundler.Proofs.Path.FileName
import Bundler.Proofs.Text.Bytes

/-! # Directories of absolute forms

An absolute form is the path to a place, and what a file system takes for its directory is the path
to the place around it (`FileSystem.Placed`). So whatever is said of the two is said of a stack of
names and its tail: the directory is in normal form, the last name leads from it to the path again,
and going on to the directory of the directory ends at the root (`FileSystem.Placed.iterate_dir`).

A directory of the host need not have an absolute form itself. The path that leads to it may be free
of NUL characters while the working directory is not, and then the directory has one in it. -/

set_option autoImplicit false

namespace Bundler

namespace Path

/-! ## Characters of a place -/

section

variable {c : Char} (hc : c ≠ '/')

include hc

theorem mem_joinSegments_iff (segments : List (List Char)) :
    c ∈ joinSegments segments ↔ ∃ segment ∈ segments, c ∈ segment := by
  induction segments with
  | nil => simp [joinSegments]
  | cons first others ih =>
      cases others with
      | nil => simp [joinSegments]
      | cons second others =>
          have hsplit : joinSegments (first :: second :: others) =
              first ++ '/' :: joinSegments (second :: others) := by
            simp [joinSegments]
          rw [hsplit, List.mem_append, List.mem_cons, ih]
          simp [hc]

theorem mem_placeChars_iff (stack : List (List Char)) :
    c ∈ placeChars stack ↔ ∃ name ∈ stack, c ∈ name := by
  rw [placeChars, List.mem_cons, mem_joinSegments_iff hc]
  simp [hc]

theorem mem_of_mem_splitOn {path segment : List Char} (hsegment : segment ∈ path.splitOn '/')
    (hmem : c ∈ segment) : c ∈ path := by
  have hjoin : joinSegments (path.splitOn '/') = path := List.intercalate_splitOn '/'
  rw [← hjoin, mem_joinSegments_iff hc]
  exact ⟨segment, hsegment, hmem⟩

end

/-- A walk goes down by segments of the path and by no others. -/
theorem mem_walk {stack : List (List Char)} {path name : List Char} (h : name ∈ walk stack path) :
    name ∈ stack ∨ name ∈ path.splitOn '/' := by
  unfold walk at h
  generalize path.splitOn '/' = segments at h ⊢
  induction segments generalizing stack with
  | nil => exact .inl h
  | cons segment segments ih =>
      rcases ih h with hstep | hrest
      -- of one step there is at most the segment that it takes
      · unfold walkStep at hstep
        split at hstep
        · exact .inl hstep
        · split at hstep
          · exact .inl (List.mem_of_mem_tail hstep)
          · rcases List.mem_cons.1 hstep with rfl | hold
            · exact .inr List.mem_cons_self
            · exact .inl hold
      · exact .inr (List.mem_cons_of_mem _ hrest)

/-- A character that is in no text that a path is resolved from is not on the way to its place. -/
theorem notMem_of_resolve {c : Char} (hc : c ≠ '/') {path cwd : String}
    (hcwd : isAbsolute cwd = true) (hpath : c ∉ path.toList)
    (h : c ∉ cwd.toList ∨ isAbsolute path = true) {stack : List (List Char)}
    (hplace : IsPlace stack) (hresolve : resolve path cwd = String.ofList (placeChars stack)) :
    ∀ name ∈ stack, c ∉ name := by
  have hwalk := congrArg String.toList hresolve
  rw [resolve, String.toList_ofList, String.toList_ofList,
    resolveChars_eq path.toList hcwd] at hwalk
  rw [← (placeChars_inj (isPlace_nil.walk _) hplace).1 hwalk]
  -- each name on the way is a segment of the text that is walked along
  intro name hname hmem
  have hsegment := (mem_walk hname).resolve_left List.not_mem_nil
  have hin := mem_of_mem_splitOn hc hsegment hmem
  split at hin
  · exact hpath hin
  · rename_i hrelative
    have hfree := h.resolve_right hrelative
    simp only [List.mem_append, List.mem_cons, hc, hfree, hpath, or_self] at hin

/-! ## The directory around a place -/

/-- What stands behind the last slash of a path. -/
def lastSegment (path : String) : String :=
  String.ofList (((path.toList.splitOn '/').getLast?).getD [])

/-- A directory is the one that a path lies in, and the root lies in itself. -/
structure IsDirectoryOf (dir path : String) : Prop where
  isAbsolute : isAbsolute dir = true
  normal : normalize dir = dir
  /-- The last segment leads from the directory to the path, by either set of rules. -/
  resolve_lastSegment : path ≠ "/" →
    resolve (lastSegment path) dir = path ∧ Host.resolve dir (lastSegment path) = path
  shorter : path ≠ "/" → Text.byteSize dir.toList < Text.byteSize path.toList
  root : path = "/" → dir = "/"

theorem resolve_placeChars {stack : List (List Char)} (h : IsPlace stack) (cwd : String) :
    resolve (String.ofList (placeChars stack)) cwd = String.ofList (placeChars stack) := by
  have habsolute : isAbsoluteChars (placeChars stack) = true := rfl
  unfold resolve resolveChars
  rw [String.toList_ofList, if_pos habsolute, normalizeChars_eq habsolute, walk_placeChars h]

theorem normalize_placeChars {stack : List (List Char)} (h : IsPlace stack) :
    normalize (String.ofList (placeChars stack)) = String.ofList (placeChars stack) := by
  have habsolute : isAbsoluteChars (placeChars stack) = true := rfl
  rw [normalize, String.toList_ofList, normalizeChars_eq habsolute, walk_placeChars h]

theorem lastSegment_placeChars {name : List Char} (hname : IsName name)
    (stack : List (List Char)) :
    lastSegment (String.ofList (placeChars (name :: stack))) = String.ofList name := by
  rw [lastSegment, String.toList_ofList, getLast?_splitOn_placeChars hname]
  rfl

theorem byteSize_placeChars_lt {name : List Char} (hname : IsName name)
    (stack : List (List Char)) :
    Text.byteSize (placeChars stack) < Text.byteSize (placeChars (name :: stack)) := by
  have hpos : 0 < Text.byteSize name :=
    Nat.pos_of_ne_zero fun h => hname.ne_nil ((Text.byteSize_eq_zero_iff _).1 h)
  have hsize : Text.byteSize ('/' :: name) = Text.byteSize ['/'] + Text.byteSize name :=
    Text.byteSize_append ['/'] name
  rw [placeChars_cons, Text.byteSize_append, hsize]
  -- the slash before the name is that of the root, or it is one more
  split
  · rename_i hroot
    have hslash : Text.byteSize (placeChars stack) = Text.byteSize ['/'] := by
      rw [hroot]
      rfl
    omega
  · omega

/-- One step up from a place is its directory. -/
theorem isDirectoryOf_tail {stack : List (List Char)} (h : IsPlace stack) :
    IsDirectoryOf (String.ofList (placeChars stack.tail)) (String.ofList (placeChars stack)) := by
  have hroot := placeChars_eq_root_iff stack h
  refine
    { isAbsolute := isAbsolute_placeChars _
      normal := normalize_placeChars h.tail
      resolve_lastSegment := fun hne => ?_
      shorter := fun hne => ?_
      root := fun heq => ?_ }
  · obtain ⟨name, rest, rfl⟩ := List.exists_cons_of_ne_nil (mt hroot.2 hne)
    have hname := (isPlace_cons_iff.1 h).1
    rw [lastSegment_placeChars hname, host_resolve_eq _ (isAbsolute_placeChars _), and_self]
    exact resolve_name hname h.tail
  · obtain ⟨name, rest, rfl⟩ := List.exists_cons_of_ne_nil (mt hroot.2 hne)
    rw [String.toList_ofList, String.toList_ofList]
    exact byteSize_placeChars_lt (isPlace_cons_iff.1 h).1 rest
  · rw [hroot.1 heq]
    rfl

end Path

/-! ## File systems -/

namespace FileSystem

variable {fs : FileSystem} {path absolute : String}

theorem Placed.iterate_dir (h : fs.Placed) (habs : fs.abs path = some absolute) (n : Nat)
    {stack : List (List Char)} (hplace : Path.IsPlace stack) :
    fs.dir^[n] (String.ofList (Path.placeChars stack)) =
      String.ofList (Path.placeChars (stack.drop n)) := by
  induction n generalizing stack with
  | zero => rfl
  | succ n ih =>
      rw [Function.iterate_succ_apply, h.dir_placeChars habs hplace, ih hplace.tail,
        List.drop_tail]

end FileSystem

/-- An absolute form lies in its directory, and the directories of directories end at the root. -/
theorem isDirectoryOf_dir {fs : FileSystem} (h : fs.Placed) {path absolute : String}
    (habs : fs.abs path = some absolute) :
    Path.IsDirectoryOf (fs.dir absolute) absolute ∧
      ∃ n, ∀ m ≥ n, fs.dir^[m] absolute = "/" := by
  obtain ⟨stack, hplace, rfl⟩ := h.exists_place habs
  refine ⟨?_, stack.length, fun m hm => ?_⟩
  · rw [h.dir_placeChars habs hplace]
    exact Path.isDirectoryOf_tail hplace
  · rw [h.iterate_dir habs m hplace, List.drop_of_length_le hm]
    rfl

/-- On the host the path to a place is its own absolute form, unless there is a NUL in it. -/
theorem host_abs_placeChars {cwd : String} (tree : FileTree) (here : String)
    (hcwd : Path.isAbsolute cwd = true) {stack : List (List Char)} (hplace : Path.IsPlace stack) :
    (FileSystem.host tree cwd here).abs (String.ofList (Path.placeChars stack)) =
      if '\x00' ∈ (String.ofList (Path.placeChars stack)).toList then none
      else some (String.ofList (Path.placeChars stack)) := by
  show Path.Host.absolute (some (.ofText cwd)) _ = _
  rw [Path.host_absolute_eq hcwd, Path.resolve_placeChars hplace]

/-- The output file of a build is the absolute form of the one that is given, and without an output
directory its own is filled in. -/
theorem output_plan_of_outfile {o : BuildOptions} {fs : FileSystem} (h : fs.Rooted)
    (hfile : o.outfile ≠ "") (hdir : o.outdir = "") {absolute : String}
    (habs : fs.abs o.outfile = some absolute) :
    (o.plan fs).1.bundle.outputFile = absolute ∧
      (o.plan fs).1.bundle.outputDir = fs.dir absolute := by
  have hplace : fs.place o.outfile = absolute := by
    rw [FileSystem.place, if_neg hfile, habs, Option.getD_some]
  have hgiven : fs.place o.outfile ≠ "" := mt (h.place_eq_empty_iff _).1 hfile
  have hnone : fs.place o.outdir = "" := (h.place_eq_empty_iff _).2 hdir
  rw [outputFile_plan, outputDir_plan, if_pos ⟨hgiven, hnone⟩, hplace]
  exact ⟨rfl, rfl⟩

/-- In a working directory with a NUL in its name there are paths with an absolute form that lie in
a directory without one. -/
theorem directory_without_absolute_form :
    let fs : FileSystem := .host .bare "/a\x00b"
    Path.isAbsolute "/a\x00b" = true ∧ '\x00' ∉ "x".toList ∧
      fs.abs "x" = some "/a\x00b/x" ∧ fs.dir "/a\x00b/x" = "/a\x00b" ∧
      fs.abs "/a\x00b" ≠ some "/a\x00b" := by
  decide +kernel

/-- What a file system takes for the directory of an absolute form is the directory that contains
it: the last segment leads from there back to it, the directory is shorter unless it is the root,
and the directories of directories end at the root. In memory the directory is its own absolute
form, and so it is on the host if there is no NUL in it; there is none if there is none in the
working directory, or if the path does not begin there. So the output directory that a build fills
in is the one that contains the output file. -/
theorem dir_contains_absolute_form :
    (∀ (fs : FileSystem), fs.Placed → ∀ path absolute, fs.abs path = some absolute →
      Path.IsDirectoryOf (fs.dir absolute) absolute ∧
        ∃ n, ∀ m ≥ n, fs.dir^[m] absolute = "/") ∧
    (∀ (files : List (String × String)) (path : String),
      let fs : FileSystem := .memory files
      fs.Placed ∧ ∃ absolute, fs.abs path = some absolute ∧
        fs.abs (fs.dir absolute) = some (fs.dir absolute)) ∧
    (∀ (tree : FileTree) (cwd here path : String), Path.isAbsolute cwd = true →
      '\x00' ∉ path.toList →
      let fs : FileSystem := .host tree cwd here
      fs.Placed ∧ ∃ absolute, fs.abs path = some absolute ∧
        fs.abs (fs.dir absolute) =
          (if '\x00' ∈ (fs.dir absolute).toList then none else some (fs.dir absolute)) ∧
        (('\x00' ∉ cwd.toList ∨ Path.isAbsolute path = true) →
          '\x00' ∉ (fs.dir absolute).toList)) ∧
    (∀ (o : BuildOptions) (fs : FileSystem), fs.Placed → o.outfile ≠ "" → o.outdir = "" →
      ∀ absolute, fs.abs o.outfile = some absolute →
        let bundle := (o.plan fs).1.bundle
        bundle.outputFile = absolute ∧ bundle.outputDir = fs.dir absolute ∧
          Path.IsDirectoryOf bundle.outputDir absolute) := by
  refine ⟨fun fs h path absolute habs => isDirectoryOf_dir h habs, fun files path => ?_,
    fun tree cwd here path hcwd hpath => ?_, fun o fs h hfile hdir absolute habs => ?_⟩
  · intro fs
    have hplaced : fs.Placed := FileSystem.placed_memory files
    have habs : fs.abs path = some (Path.resolve path "/") := rfl
    obtain ⟨stack, hplace, hstack⟩ := hplaced.exists_place habs
    refine ⟨hplaced, _, habs, ?_⟩
    rw [hstack, hplaced.dir_placeChars habs hplace]
    exact congrArg some (Path.resolve_placeChars hplace.tail "/")
  · intro fs
    have hplaced : fs.Placed := FileSystem.placed_host tree (Path.isNamed_ofText hcwd) here
    have habs : fs.abs path = some (Path.resolve path cwd) := host_abs tree here hcwd hpath
    obtain ⟨stack, hplace, hstack⟩ := Path.exists_resolve_eq path hcwd
    refine ⟨hplaced, _, habs, ?_⟩
    rw [hstack, hplaced.dir_placeChars habs hplace]
    refine ⟨host_abs_placeChars tree here hcwd hplace.tail, fun hfree => ?_⟩
    rw [String.toList_ofList, Path.mem_placeChars_iff (by decide)]
    rintro ⟨name, hname, hnul⟩
    exact Path.notMem_of_resolve (by decide) hcwd hpath hfree hplace hstack name
      (List.mem_of_mem_tail hname) hnul
  · obtain ⟨houtput, hfilled⟩ := output_plan_of_outfile h.rooted hfile hdir habs
    intro bundle
    refine ⟨houtput, hfilled, ?_⟩
    rw [hfilled]
    exact (isDirectoryOf_dir h habs).1

/-- An output file two directories below the root. -/
theorem dir_contains_absolute_form_out :
    let fs : FileSystem := .host .bare "/w" "/"
    let o : BuildOptions := { outfile := "out/./b.js" }
    fs.Placed ∧ o.outfile ≠ "" ∧ o.outdir = "" ∧ '\x00' ∉ o.outfile.toList ∧
      fs.abs o.outfile = some "/w/out/b.js" ∧ fs.dir "/w/out/b.js" = "/w/out" ∧
      Path.IsDirectoryOf "/w/out" "/w/out/b.js" ∧ fs.abs "/w/out" = some "/w/out" ∧
      (o.plan fs).1.bundle.outputDir = "/w/out" := by
  intro fs o
  have hnul : '\x00' ∉ o.outfile.toList := by decide
  have habs : fs.abs o.outfile = some "/w/out/b.js" := by decide +kernel
  have hdir : fs.dir "/w/out/b.js" = "/w/out" := by decide +kernel
  obtain ⟨hcontains, -, hhost, hbuild⟩ := dir_contains_absolute_form
  obtain ⟨hplaced, absolute, habs', hfixed, hfree⟩ := hhost .bare "/w" "/" o.outfile rfl hnul
  have hdirectory := (hcontains fs hplaced o.outfile _ habs).1
  obtain rfl := Option.some.inj (habs.symm.trans habs')
  have houtput := (hbuild o fs hplaced (by decide) rfl _ habs).2.1
  rw [if_neg (hfree (.inl (by decide)))] at hfixed
  rw [hdir] at hdirectory houtput
  exact ⟨hplaced, by decide, rfl, hnul, habs, hdir, hdirectory,
    hdir ▸ hfixed, houtput⟩

end Bundler
