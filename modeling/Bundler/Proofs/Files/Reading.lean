import Bundler.Files.System
import Bundler.Proofs.Path.FileName

/-! # What can be read has a name

A host reads a path only if it leads to a file, and a walk comes to a file by its name: after a step
up, or after no step at all, it stands in a directory (`mem_of_walkFrom`). For this, every place
that a walk has passed has to be a directory; a walk that begins at the root keeps it that way
(`IsInside`). So the path of a file that has been read has a file name (`fileName?_of_read`). -/

set_option autoImplicit false

namespace Bundler

namespace FileTree

variable {tree : FileTree}

/-! ## Walks -/

/-- The places around a place are directories. -/
def IsInside (tree : FileTree) (stack : List String) : Prop :=
  ∀ above, above <:+ stack.tail → tree.nodeAt? above = some .directory

theorem isInside_root (tree : FileTree) : tree.IsInside [] := by
  intro above habove
  rw [List.suffix_nil.1 habove]
  rfl

theorem IsInside.tail {stack : List String} (h : tree.IsInside stack) :
    tree.IsInside stack.tail :=
  fun above habove => h above (habove.trans (List.tail_suffix stack.tail))

theorem IsInside.cons {stack : List String} (h : tree.IsInside stack)
    (hdirectory : tree.nodeAt? stack = some .directory) (segment : String) :
    tree.IsInside (segment :: stack) := by
  intro above habove
  rw [List.tail_cons] at habove
  cases stack with
  | nil => exact h above habove
  | cons name stack =>
      rcases List.suffix_cons_iff.1 habove with rfl | habove
      · exact hdirectory
      · exact h above habove

/-- One step of a walk: it is taken from a directory, and it stays, goes up or goes down. -/
theorem walkFrom_cons {stack final : List String} {segment : String} {rest : List String}
    (h : tree.walkFrom stack (segment :: rest) = .ok final) :
    tree.nodeAt? stack = some .directory ∧
      ((segment = "" ∨ segment = ".") ∧ tree.walkFrom stack rest = .ok final ∨
        segment = ".." ∧ tree.walkFrom stack.tail rest = .ok final ∨
        segment ∉ ["", ".", ".."] ∧ tree.walkFrom (segment :: stack) rest = .ok final) := by
  rw [walkFrom] at h
  split at h
  · cases h
  · rename_i hdirectory
    refine ⟨hdirectory, ?_⟩
    split at h
    · rename_i hidle
      exact .inl ⟨by simpa using hidle, h⟩
    · rename_i hidle
      split at h
      · rename_i hup
        exact .inr (.inl ⟨by simpa using hup, h⟩)
      · rename_i hup
        exact .inr (.inr ⟨by simp_all, h⟩)
  · cases h

/-- A walk that comes to something other than a directory has come there by its name. -/
theorem mem_of_walkFrom {segments stack final : List String} (hinside : tree.IsInside stack)
    (h : tree.walkFrom stack segments = .ok final)
    (hfinal : tree.nodeAt? final ≠ some .directory) (hne : segments ≠ []) :
    ∃ name ∉ ["", ".", ".."], segments.getLast? = some name := by
  induction segments generalizing stack with
  | nil => exact absurd rfl hne
  | cons segment rest ih =>
      obtain ⟨hdirectory, hstep⟩ := walkFrom_cons h
      cases rest with
      | nil =>
          -- the last step leads to `final`, which is no directory, so it does not stay or go up
          simp only [walkFrom, Except.ok.injEq] at hstep
          obtain ⟨-, rfl⟩ | ⟨-, rfl⟩ | ⟨hname, -⟩ := hstep
          · exact absurd hdirectory hfinal
          · exact absurd (hinside _ List.suffix_rfl) hfinal
          · exact ⟨segment, hname, rfl⟩
      | cons next rest =>
          rw [List.getLast?_cons_cons]
          obtain ⟨-, h⟩ | ⟨-, h⟩ | ⟨-, h⟩ := hstep
          · exact ih hinside h (List.cons_ne_nil _ _)
          · exact ih hinside.tail h (List.cons_ne_nil _ _)
          · exact ih (hinside.cons hdirectory segment) h (List.cons_ne_nil _ _)

/-! ## Reading -/

/-- A file that is read is at the end of a walk, and is no directory. -/
theorem walk_of_readText {cwd path contents : String}
    (h : tree.readText? cwd path = some contents) :
    ∃ stack, tree.walk cwd path = .ok stack ∧ tree.nodeAt? stack ≠ some .directory := by
  unfold readText? read at h
  cases hwalk : tree.walk cwd path with
  | error e => simp [hwalk, bind, Except.bind] at h
  | ok stack =>
      refine ⟨stack, rfl, fun hdirectory => ?_⟩
      simp [hwalk, bind, Except.bind, hdirectory] at h

/-- The path of a file that is read ends with a name. -/
theorem fileName?_of_read {cwd path contents : String}
    (h : tree.readText? cwd path = some contents) :
    ∃ name, Path.Host.fileName? path = some name := by
  obtain ⟨stack, hwalk, hfile⟩ := walk_of_readText h
  unfold walk at hwalk
  split at hwalk
  · cases hwalk
  · split at hwalk
    · cases hwalk
    · have hne : ((if Path.isAbsolute path = true then path else cwd ++ "/" ++ path).toList.splitOn
          '/').map String.ofList ≠ [] := by simp
      obtain ⟨name, hname, hlast⟩ := mem_of_walkFrom (isInside_root tree) hwalk hfile hne
      -- what stands before a relative path does not matter to its last segment
      have hsegment : (path.toList.splitOn '/').getLast? = some name.toList := by
        rw [List.getLast?_map] at hlast
        obtain ⟨segment, hsegment, rfl⟩ := Option.map_eq_some_iff.1 hlast
        rw [String.toList_ofList, ← hsegment]
        split
        · rfl
        · have hfull : (cwd ++ "/" ++ path).toList = cwd.toList ++ '/' :: path.toList := by
            simp [String.toList_append]
          rw [hfull, List.splitOn_append_cons_self,
            List.getLast?_append_of_ne_nil _ (List.splitOn_ne_nil '/' path.toList)]
      have hslash : '/' ∉ name.toList :=
        not_mem_of_mem_splitOn (List.mem_of_getLast? hsegment)
      simp only [List.mem_cons, List.not_mem_nil, or_false, not_or] at hname
      obtain ⟨hempty, hhere, hup⟩ := hname
      have htoList (text : String) (h : name ≠ text) : name.toList ≠ text.toList :=
        fun heq => h (String.toList_inj.1 heq)
      exact ⟨name.toList, Path.fileName?_of_getLast?
        ⟨htoList "" hempty, htoList "." hhere, htoList ".." hup, hslash⟩ hsegment⟩

end FileTree

/-- So it has a stem. -/
theorem fileStem?_of_read {tree : FileTree} {cwd : Option Path.Host.Directory}
    {here path contents : String} (h : (FileSystem.host tree cwd here).read path = some contents) :
    ∃ name, Path.IsName name ∧
      Path.Host.fileStem? path = some (String.ofList (Path.Host.stemOf name)) := by
  obtain ⟨name, hname⟩ := FileTree.fileName?_of_read h
  refine ⟨name, Path.isName_of_fileName? hname, ?_⟩
  unfold Path.Host.fileStem?
  rw [hname]
  rfl

end Bundler
