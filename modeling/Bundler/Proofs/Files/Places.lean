import Bundler.Files.System
import Bundler.Proofs.Path.Walk

/-! # File systems of places

The absolute form of a path is the path to a place, and one step up from a place is its directory.
This is so in memory (`placed_memory`), and on the host if the directory that paths are taken from
begins at the root and has names on the way to it (`placed_host`); whether all of them are texts
does not matter, since a path to a place whose name is none has no absolute form. From an absolute
path as directory, the host gives the absolute form that the rules for texts give (`host_abs`). -/

set_option autoImplicit false

namespace Bundler

/-! ## Directories of the host -/

namespace Path

open Host (Component Directory Walked)

/-- All of a list are there exactly when it is made of what is there. -/
theorem mapM_id_eq_some_iff {α : Type} {xs : List (Option α)} {as : List α} :
    xs.mapM id = some as ↔ xs = as.map some := by
  induction xs generalizing as with
  | nil => cases as <;> simp
  | cons x xs ih =>
      cases x with
      | none => cases as <;> simp
      | some a =>
          simp only [List.mapM_cons, id, bind, Option.bind_some, Option.bind_eq_some_iff, ih, pure,
            Option.some.injEq]
          constructor
          · rintro ⟨rest, rfl, rfl⟩
            rfl
          · intro h
            obtain ⟨b, rest, rfl, hb, hrest⟩ := List.map_eq_cons_iff.1 h.symm
            obtain rfl := Option.some.inj hb
            exact ⟨rest, hrest.symm, rfl⟩

theorem text?_eq_some_iff {d : Directory} {text : String} :
    d.text? = some text ↔ ∃ names, d.inner = names.map some ∧
      text = String.ofList (Walked.toChars ⟨d.rooted, names⟩) := by
  rw [Directory.text?, Option.map_eq_some_iff]
  refine exists_congr fun names => and_congr mapM_id_eq_some_iff eq_comm

theorem text?_map_some (w : Walked (List Char)) :
    Directory.text? (w.map some) = some (String.ofList w.toChars) :=
  text?_eq_some_iff.2 ⟨w.inner, rfl, rfl⟩

/-- Walking on from a directory whose path is a text. -/
theorem text?_foldl_step (w : Walked (List Char)) (steps : List (Component (List Char))) :
    Directory.text? ((steps.map (Component.map some)).foldl Walked.step (w.map some)) =
      some (String.ofList (steps.foldl Walked.step w).toChars) := by
  rw [Walked.foldl_step_map, text?_map_some]

/-- From an absolute path as directory, the host and the rules for texts come to the same. -/
theorem host_absolute_eq {cwd path : String} (hcwd : isAbsolute cwd = true) :
    Host.absolute (some (.ofText cwd)) path =
      if '\x00' ∈ path.toList then none else some (resolve path cwd) := by
  have hresolve : resolve path cwd = _ := congrArg String.ofList (resolveChars_eq path.toList hcwd)
  rw [Host.absolute, hresolve]
  by_cases hpath : isAbsoluteChars path.toList = true
  · have hstart : (.start : Directory) = Walked.map some .start := rfl
    rw [isAbsolute, if_pos hpath, if_pos hpath, Option.bind_some, hstart, text?_foldl_step,
      foldl_components hpath]
    rfl
  · rw [isAbsolute, if_neg hpath, if_neg hpath, Option.bind_some, Directory.ofText,
      text?_foldl_step, foldl_components hcwd, foldl_components_relative hpath,
      ← walk_append_slash]
    rfl

/-- A directory that is given from the root on, by names. Those that are no texts are names. -/
structure IsNamed (d : Directory) : Prop where
  rooted : d.rooted = true
  names : ∀ name, some name ∈ d.inner → IsName name

theorem isNamed_root : IsNamed ⟨true, []⟩ := ⟨rfl, fun _ h => absurd h List.not_mem_nil⟩

/-- An absolute path leads to such a directory. -/
theorem isNamed_ofText {cwd : String} (hcwd : isAbsolute cwd = true) :
    ∀ d ∈ some (Directory.ofText cwd), IsNamed d := by
  rintro d ⟨⟩
  rw [Directory.ofText, foldl_components hcwd]
  refine ⟨rfl, fun name hname => ?_⟩
  obtain ⟨found, hfound, hsome⟩ := List.mem_map.1 hname
  exact Option.some.inj hsome ▸ isPlace_nil.walk cwd.toList found hfound

/-- The segments of a path that are names are so for the host. -/
theorem isName_of_mem_components {path name : List Char}
    (h : .name name ∈ Host.components path) : IsName name := by
  unfold Host.components at h
  generalize Host.splitLead path = front at h
  rcases List.mem_append.1 h with hlead | hbody
  · -- in front of the body there is no name
    split at hlead
    · cases List.mem_singleton.1 hlead
    · cases List.mem_singleton.1 hlead
    · cases hlead
  · obtain ⟨segment, hsegment, hcomponent⟩ := List.mem_filterMap.1 hbody
    unfold Host.component? at hcomponent
    split at hcomponent
    · cases hcomponent
    · rename_i hidle
      split at hcomponent
      · cases hcomponent
      · rename_i hup
        obtain rfl := Component.name.inj (Option.some.inj hcomponent)
        exact ⟨fun h => hidle (.inl h), fun h => hidle (.inr h), hup,
          not_mem_of_mem_splitOn hsegment⟩

namespace IsNamed

variable {d : Directory}

theorem step (h : IsNamed d) {c : Component (List Char)}
    (hc : ∀ name, c = .name name → IsName name) : IsNamed (d.step (c.map some)) := by
  cases c with
  | root => exact isNamed_root
  | here => exact h
  | up => exact ⟨h.rooted, fun name hname => h.names name (List.mem_of_mem_tail hname)⟩
  | name segment =>
      refine ⟨h.rooted, fun name hname => ?_⟩
      rcases List.mem_cons.1 hname with hsegment | hname
      · exact hc name (congrArg Component.name (Option.some.inj hsegment.symm))
      · exact h.names name hname

theorem foldl (h : IsNamed d) {steps : List (Component (List Char))}
    (hsteps : ∀ c ∈ steps, ∀ name, c = .name name → IsName name) :
    IsNamed ((steps.map (Component.map some)).foldl Walked.step d) := by
  induction steps generalizing d with
  | nil => exact h
  | cons c steps ih =>
      obtain ⟨hc, hsteps⟩ := List.forall_mem_cons.1 hsteps
      exact ih (h.step hc) hsteps

/-- If its path is a text, it is the path to a place. -/
theorem exists_place (h : IsNamed d) {text : String} (htext : d.text? = some text) :
    ∃ stack, IsPlace stack ∧ text = String.ofList (placeChars stack) := by
  obtain ⟨names, hnames, rfl⟩ := text?_eq_some_iff.1 htext
  refine ⟨names, fun name hname => h.names name (hnames ▸ List.mem_map_of_mem hname), ?_⟩
  rw [h.rooted]
  rfl

end IsNamed

/-- An absolute form of the host is the path to a place. -/
theorem exists_place_of_absolute {cwd : Option Directory} (hcwd : ∀ d ∈ cwd, IsNamed d)
    {path absolute : String} (h : Host.absolute cwd path = some absolute) :
    ∃ stack, IsPlace stack ∧ absolute = String.ofList (placeChars stack) := by
  have hnames : ∀ c ∈ Host.components path.toList, ∀ name, c = .name name → IsName name :=
    fun c hc name hname => isName_of_mem_components (hname ▸ hc)
  unfold Host.absolute at h
  split at h
  · cases h
  · obtain ⟨front, hfront, htext⟩ := Option.bind_eq_some_iff.1 h
    split at hfront
    · -- the first step of an absolute path goes to the root, wherever the walk begins
      rename_i hpath
      obtain ⟨rest, hrest⟩ := exists_of_isAbsoluteChars hpath
      rw [hrest] at hnames htext
      exact (isNamed_root.foldl (List.forall_mem_cons.1 hnames).2).exists_place htext
    · exact ((hcwd front hfront).foldl hnames).exists_place htext

end Path

/-! ## The host and the rules for texts -/

section

variable {cwd path : String}

theorem host_abs (tree : FileTree) (here : String) (hcwd : Path.isAbsolute cwd = true)
    (hpath : '\x00' ∉ path.toList) :
    (FileSystem.host tree cwd here).abs path = some (Path.resolve path cwd) := by
  show Path.Host.absolute (some (.ofText cwd)) path = _
  rw [Path.host_absolute_eq hcwd, if_neg hpath]

example : (FileSystem.host .bare "/w/../x/").abs "../a//./b/.." = some "/a" := by decide +kernel

/-- In a directory whose name is no text, only what leads out of it has an absolute form. -/
example :
    let fs : FileSystem := .host .bare (some ⟨true, [none, some ['w']]⟩)
    fs.abs "a" = none ∧ fs.abs "../a" = some "/w/a" ∧ fs.abs "/a" = some "/a" := by
  decide +kernel

/-- The directory of the path to a place is the path to one step up from it. The host leaves the
root where it is. -/
theorem host_dir_placeChars (tree : FileTree) (cwd : Option Path.Host.Directory) (here : String)
    {stack : List (List Char)} (h : Path.IsPlace stack) :
    (FileSystem.host tree cwd here).dir (String.ofList (Path.placeChars stack)) =
      String.ofList (Path.placeChars stack.tail) := by
  show (Path.Host.parent? _).getD _ = _
  rw [Path.parent?_placeChars h]
  split
  · rename_i hroot
    rw [hroot]
    rfl
  · rfl

/-- So the host takes the directory that the rules for texts take. -/
theorem host_dir (tree : FileTree) (cwd' : Option Path.Host.Directory) (here : String)
    (hcwd : Path.isAbsolute cwd = true) :
    (FileSystem.host tree cwd' here).dir (Path.resolve path cwd) =
      Path.dirname (Path.resolve path cwd) := by
  obtain ⟨stack, hplace, hresolve⟩ := Path.exists_resolve_eq path hcwd
  rw [hresolve, host_dir_placeChars tree cwd' here hplace, Path.dirname_placeChars hplace]

end

/-! ## File systems -/

namespace FileSystem

/-- Absolute forms begin at the root. This is so wherever they are paths to places
(`Placed.rooted`). -/
def Rooted (fs : FileSystem) : Prop :=
  ∀ text absolute, fs.abs text = some absolute → Path.isAbsolute absolute = true

/-- Absolute forms are paths to places and, where there are any, one step up from a place is its
directory. -/
structure Placed (fs : FileSystem) : Prop where
  exists_place : ∀ {text absolute}, fs.abs text = some absolute →
    ∃ stack, Path.IsPlace stack ∧ absolute = String.ofList (Path.placeChars stack)
  dir_placeChars : ∀ {text absolute}, fs.abs text = some absolute →
    ∀ {stack}, Path.IsPlace stack →
      fs.dir (String.ofList (Path.placeChars stack)) = String.ofList (Path.placeChars stack.tail)

theorem Placed.rooted {fs : FileSystem} (h : fs.Placed) : fs.Rooted := by
  intro text absolute habs
  obtain ⟨stack, -, rfl⟩ := h.exists_place habs
  exact Path.isAbsolute_placeChars stack

theorem placed_memory (files : List (String × String)) : (FileSystem.memory files).Placed where
  exists_place := by
    intro text absolute habs
    obtain rfl := Option.some.inj habs
    exact Path.exists_resolve_eq text rfl
  dir_placeChars := fun _ _ hplace => Path.dirname_placeChars hplace

theorem placed_host (tree : FileTree) {cwd : Option Path.Host.Directory}
    (hcwd : ∀ d ∈ cwd, Path.IsNamed d) (here : String) :
    (FileSystem.host tree cwd here).Placed where
  exists_place := fun habs => Path.exists_place_of_absolute hcwd habs
  dir_placeChars := fun _ _ hplace => host_dir_placeChars tree cwd here hplace

/-- A file system without absolute forms. -/
theorem placed_of_abs_eq_none {fs : FileSystem} (h : ∀ path, fs.abs path = none) : fs.Placed where
  exists_place := fun habs => by cases (h _).symm.trans habs
  dir_placeChars := fun habs => by cases (h _).symm.trans habs

end FileSystem

end Bundler
