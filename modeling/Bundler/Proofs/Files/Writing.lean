import Bundler.CommandLine.Run

/-! # Files that are written

A file that is written is there afterwards, with its contents (`FileTree.wrote_of_write`), and files
that are written one after the other are there up to the first that cannot be written
(`CommandLine.holds_writeAll`). Of two files at one place the later one counts. Elsewhere nothing
changes, save that directories are made where nothing was. What is written to a sink is gone. -/

set_option autoImplicit false

namespace Bundler

namespace FileTree

variable {before between after : FileTree} {stack : List String} {contents : ByteArray}

/-! ## Steps that may fail -/

/-- Of two steps that succeed together, the first gives what the second goes on with. -/
theorem exists_of_bind {ε α β : Type} {x : Except ε α} {f : α → Except ε β} {b : β}
    (h : x >>= f = .ok b) : ∃ a, x = .ok a ∧ f a = .ok b := by
  cases x with
  | error e => cases h
  | ok a => exact ⟨a, rfl, h⟩

/-- A directory is there already, or it is made where nothing is. -/
theorem makeDirectories_cons {segment : String} {above : List String}
    (h : before.makeDirectories (segment :: above) = .ok after) :
    ∃ between, before.makeDirectories above = .ok between ∧
      (after = between ∨ between.nodeAt? (segment :: above) = none ∧
        after = ⟨between.nodes.insert (pathOf (segment :: above)) .directory⟩) := by
  obtain ⟨between, habove, h⟩ := exists_of_bind h
  refine ⟨between, habove, ?_⟩
  split at h
  · exact .inl (Except.ok.inj h).symm
  · cases h
  · rename_i hnone
    exact .inr ⟨hnone, (Except.ok.inj h).symm⟩

/-- A file is put to its place once the directories above it are made, unless a sink is there. -/
theorem write_cons {segment : String} {above : List String}
    (h : before.write (segment :: above) contents = .ok after) :
    ∃ between, before.makeDirectories above = .ok between ∧
      (between.nodeAt? (segment :: above) = some .sink ∧ after = between ∨
        between.nodeAt? (segment :: above) ≠ some .sink ∧
          after = ⟨between.nodes.insert (pathOf (segment :: above)) (.file contents)⟩) := by
  rw [write] at h
  split at h
  · cases h
  · obtain ⟨between, habove, h⟩ := exists_of_bind h
    refine ⟨between, habove, ?_⟩
    split at h
    · cases h
    · rename_i hsink
      exact .inl ⟨hsink, (Except.ok.inj h).symm⟩
    · rename_i hsink
      exact .inr ⟨hsink, (Except.ok.inj h).symm⟩

/-! ## One file -/

/-- At a place there is what was there, or a directory where nothing was. -/
def KeptAt (before after : FileTree) (stack : List String) : Prop :=
  after.nodeAt? stack = before.nodeAt? stack ∨
    before.nodeAt? stack = none ∧ after.nodeAt? stack = some .directory

theorem KeptAt.trans (h : KeptAt before between stack) (h' : KeptAt between after stack) :
    KeptAt before after stack := by
  rcases h' with h' | ⟨hnone, hmade⟩
  · unfold KeptAt
    rwa [h']
  · rcases h with h | ⟨-, h⟩
    · exact .inr ⟨h ▸ hnone, hmade⟩
    · rw [h] at hnone
      cases hnone

/-- What is there, and is no directory, is there from before. -/
theorem KeptAt.eq_iff (h : KeptAt before after stack) {node : FileNode}
    (hnode : node ≠ .directory) :
    after.nodeAt? stack = some node ↔ before.nodeAt? stack = some node := by
  rcases h with h | ⟨hnone, hmade⟩
  · rw [h]
  · rw [hnone, hmade, Option.some_inj]
    exact ⟨fun h => absurd h.symm hnode, fun h => by cases h⟩

theorem nodeAt?_insert (tree : FileTree) (segment : String) (above : List String)
    (node : FileNode) :
    (⟨tree.nodes.insert (pathOf (segment :: above)) node⟩ : FileTree).nodeAt? (segment :: above) =
      some node := by
  simp [nodeAt?, Dictionary.get?_insert]

theorem nodeAt?_insert_of_ne (tree : FileTree) {stack other : List String} (node : FileNode)
    (h : pathOf stack ≠ pathOf other) :
    (⟨tree.nodes.insert (pathOf stack) node⟩ : FileTree).nodeAt? other = tree.nodeAt? other := by
  simp [nodeAt?, Dictionary.get?_insert, h]

theorem keptAt_insert_directory {tree : FileTree} {segment : String} {above : List String}
    (h : tree.nodeAt? (segment :: above) = none) (other : List String) :
    KeptAt tree ⟨tree.nodes.insert (pathOf (segment :: above)) .directory⟩ other := by
  by_cases hsame : pathOf (segment :: above) = pathOf other
  · -- the root is a directory whatever is inserted
    cases other with
    | nil => exact .inl rfl
    | cons name around =>
        refine .inr ⟨?_, ?_⟩
        · simpa [nodeAt?, ← hsame] using h
        · simp [nodeAt?, ← hsame, Dictionary.get?_insert]
  · exact .inl (nodeAt?_insert_of_ne tree .directory hsame)

theorem keptAt_of_makeDirectories (h : before.makeDirectories stack = .ok after)
    (other : List String) : KeptAt before after other := by
  induction stack generalizing after with
  | nil =>
      obtain rfl := Except.ok.inj h
      exact .inl rfl
  | cons segment above ih =>
      obtain ⟨between, habove, rfl | ⟨hnone, rfl⟩⟩ := makeDirectories_cons h
      · exact ih habove
      · exact (ih habove).trans (keptAt_insert_directory hnone other)

/-- A tree with a file written to a place. -/
structure Wrote (before after : FileTree) (stack : List String) (contents : ByteArray) : Prop where
  there : before.nodeAt? stack ≠ some .sink → after.nodeAt? stack = some (.file contents)
  sinks : ∀ other, after.nodeAt? other = some .sink ↔ before.nodeAt? other = some .sink
  kept : ∀ other, pathOf stack ≠ pathOf other → KeptAt before after other

/-- Where there is no sink, a file can be put once the directories are made. -/
theorem wrote_insert {segment : String} {above : List String}
    (hkept : ∀ other, KeptAt before between other)
    (hnode : between.nodeAt? (segment :: above) ≠ some .sink) (contents : ByteArray) :
    Wrote before ⟨between.nodes.insert (pathOf (segment :: above)) (.file contents)⟩
      (segment :: above) contents where
  there := fun _ => nodeAt?_insert between segment above _
  sinks := by
    intro other
    rw [← (hkept other).eq_iff FileNode.noConfusion]
    by_cases hsame : pathOf (segment :: above) = pathOf other
    · cases other with
      | nil => rfl
      | cons name around =>
          simp only [nodeAt?, ← hsame] at hnode ⊢
          simpa [Dictionary.get?_insert] using hnode
    · rw [nodeAt?_insert_of_ne between _ hsame]
  kept := fun other hother =>
    (hkept other).trans (.inl (nodeAt?_insert_of_ne between _ hother))

theorem wrote_of_write (h : before.write stack contents = .ok after) :
    Wrote before after stack contents := by
  cases stack with
  | nil => cases h
  | cons segment above =>
      obtain ⟨between, habove, ⟨hsink, rfl⟩ | ⟨hno, rfl⟩⟩ := write_cons h
      · have hkept := keptAt_of_makeDirectories habove
        have hbefore := ((hkept _).eq_iff FileNode.noConfusion).1 hsink
        exact ⟨fun hno => absurd hbefore hno,
          fun other => (hkept other).eq_iff FileNode.noConfusion, fun other _ => hkept other⟩
      · exact wrote_insert (keptAt_of_makeDirectories habove) hno contents

/-! ## Files one after the other -/

/-- A tree with files written to it. -/
structure Holds (before after : FileTree) (files : List OutputFile) : Prop where
  /-- A file is there with its contents, unless a later one has its place. -/
  last : ∀ front file back, files = front ++ file :: back →
    (∀ other ∈ back, pathOf (stackOf other.path) ≠ pathOf (stackOf file.path)) →
      before.nodeAt? (stackOf file.path) ≠ some .sink →
        after.nodeAt? (stackOf file.path) = some (.file file.contents)
  /-- What is written to a sink is gone. -/
  sinks : ∀ stack, after.nodeAt? stack = some .sink ↔ before.nodeAt? stack = some .sink
  kept : ∀ stack, (∀ file ∈ files, pathOf (stackOf file.path) ≠ pathOf stack) →
    KeptAt before after stack

theorem holds_nil (tree : FileTree) : Holds tree tree [] where
  last := by
    intro front file back h
    cases front <;> cases h
  sinks := fun _ => Iff.rfl
  kept := fun _ _ => .inl rfl

theorem Wrote.holds_cons {file : OutputFile} {rest : List OutputFile}
    (h : Wrote before between (stackOf file.path) file.contents)
    (hrest : Holds between after rest) :
    Holds before after (file :: rest) where
  last := by
    intro front found back hsplit hback hno
    cases front with
    | nil =>
        obtain ⟨rfl, rfl⟩ := List.cons.inj hsplit
        exact ((hrest.kept _ hback).eq_iff FileNode.noConfusion).2 (h.there hno)
    | cons first front =>
        exact hrest.last front found back (List.cons.inj hsplit).2 hback (mt (h.sinks _).1 hno)
  sinks := fun stack => (hrest.sinks stack).trans (h.sinks stack)
  kept := by
    intro stack hstack
    obtain ⟨hfile, hothers⟩ := List.forall_mem_cons.1 hstack
    exact (h.kept stack hfile).trans (hrest.kept stack hothers)

end FileTree

/-- Files are written up to the first that cannot be written. -/
theorem CommandLine.holds_writeAll (tell : OutputFile → String) (tree : FileTree)
    (files : List OutputFile) :
    ∃ front back, files = front ++ back ∧
      tree.Holds (writeAll tell tree files).2.2 front ∧
      ((writeAll tell tree files).2.1 = true ↔ back = []) := by
  induction files generalizing tree with
  | nil => exact ⟨[], [], rfl, tree.holds_nil, iff_of_true rfl rfl⟩
  | cons file rest ih =>
      rw [writeAll]
      cases hwrite : tree.write (FileTree.stackOf file.path) file.contents with
      | error e => exact ⟨[], file :: rest, rfl, tree.holds_nil, by simp⟩
      | ok between =>
          obtain ⟨front, back, rfl, hholds, hall⟩ := ih between
          exact ⟨file :: front, back, rfl, (FileTree.wrote_of_write hwrite).holds_cons hholds, hall⟩

end Bundler
