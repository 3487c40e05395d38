import Bundler.Proofs.Files.Agreement
import Bundler.Proofs.Options.Consistent
import Bundler.Proofs.Transpile

/-! # Entry points and externals

A resolver answers that an import is external before it looks for a file. For an entry point it never
does: an engine is asked only if no external is the name of a file, and the absolute path of an entry
point is such a name (`isFileName_of_isAbsolute`). So whether an entry point is found does not depend
on the externals (`IsInternal`). -/

set_option autoImplicit false

namespace Bundler

/-- An absolute path is the name of a file. -/
theorem isFileName_of_isAbsolute {path : String} (h : Path.isAbsolute path = true) :
    IsFileName path := by
  obtain ⟨rest, hrest⟩ := Path.exists_of_isAbsoluteChars h
  refine .inr (.inl ⟨"/", List.mem_cons_self, ?_⟩)
  rw [hrest]
  exact ⟨rest, rfl⟩

/-- An entry point is a file to every resolver that leaves the externals alone, however it looks for
files. -/
structure IsInternal (externals : NameSet) (entry : String) : Prop where
  isFileName : IsFileName entry
  /-- No answer is that it is external. -/
  answer : ∀ (find : String → String → Option String) (directory specifier : String),
    Resolver.of externals find directory entry ≠ some (.external specifier)
  /-- Loading it gives the same as without externals. -/
  load : ∀ (find : String → String → Option String) (fs : FileSystem) (bundle : BundleOptions),
    Transpile.load fs (.of externals find) bundle entry =
      Transpile.load fs (.of ∅ find) bundle entry

theorem isInternal_of_isFileName {externals : NameSet}
    (hexternals : ∀ name, externals.contains name = true → ¬ IsFileName name) {entry : String}
    (h : IsFileName entry) : IsInternal externals entry := by
  have hanswer (find : String → String → Option String) (directory : String) :
      Resolver.of externals find directory entry = (find directory entry).map .path :=
    if_neg fun hentry => hexternals entry hentry h
  have hempty (find : String → String → Option String) (directory : String) :
      Resolver.of ∅ find directory entry = (find directory entry).map .path := rfl
  refine ⟨h, fun find directory specifier => ?_, fun find fs bundle => ?_⟩
  · rw [hanswer, Ne, Option.map_eq_some_iff]
    rintro ⟨path, -, hpath⟩
    cases hpath
  · unfold Transpile.load
    rw [hanswer, hempty]

/-- Options with which an engine is asked have no external that is the name of a file. -/
theorem not_isFileName_of_contains {fs : FileSystem} {o : BuildOptions} (h : GoodItems fs o)
    {name : String} (hname : (o.plan fs).1.resolve.externals.contains name = true) :
    ¬ IsFileName name :=
  h.externals name ((NameSet.contains_ofList o.externals name).1 hname)

/-- Whenever a build asks its engine, no external is the name of a file, and the entry points that are
given are files to the resolver. -/
theorem entry_points_are_internal (o : BuildOptions) (fs fs₁ : FileSystem) (engine : Engine)
    (display : Display) (hfs : fs.Rooted) (resolve : ResolveOptions)
    (hresolve : .newResolver fs₁ resolve ∈ (build o fs engine display).calls) :
    (∀ name, resolve.externals.contains name = true → ¬ IsFileName name) ∧
      ∀ (fs₂ : FileSystem) (entries : List String) (parse : ParseOptions) (bundle : BundleOptions),
        .scan fs₂ entries parse bundle ∈ (build o fs engine display).calls →
        List.Forall₂ (fun text entry => text ≠ "" → IsInternal resolve.externals entry)
          o.entryPoints entries := by
  obtain ⟨logged, files, course, -⟩ := build_course o fs engine display
  obtain ⟨hnone, hresolve⟩ := (course.mem_calls_iff (by simp [EngineCall.step])).1 hresolve
  have hadmissible : Admissible fs o := (admissible_iff hfs o).2 hnone
  obtain ⟨-, rfl⟩ : fs₁ = fs ∧ resolve = (o.plan fs).1.resolve := by
    simpa [Plan.calls] using hresolve
  have hexternals : ∀ name, (o.plan fs).1.resolve.externals.contains name = true →
      ¬ IsFileName name := fun name hname => not_isFileName_of_contains hadmissible.toGoodItems hname
  refine ⟨hexternals, fun fs₂ entries parse bundle hscan => ?_⟩
  obtain ⟨-, hscan⟩ := (course.mem_calls_iff (by simp [EngineCall.step])).1 hscan
  have hentries : entries = o.entryPoints.map fs.place := by
    rw [← entries_plan]
    simp only [Plan.calls, List.mem_cons, reduceCtorEq, EngineCall.scan.injEq, List.not_mem_nil,
      or_false, false_or] at hscan
    exact hscan.2.1
  rw [hentries, List.forall₂_map_right_iff]
  refine List.forall₂_same.2 fun text htext hne => ?_
  have habs := abs_eq_place (hadmissible.entries text htext) hne
  exact isInternal_of_isFileName hexternals (isFileName_of_isAbsolute (hfs _ _ habs))

/-- A bundle with an external, of an entry point that is spelled like a package and of one that is not
given. -/
theorem entry_points_are_internal_bundle :
    let o : BuildOptions :=
      { entryPoints := ["react", ""], outdir := "out", bundle := true
        externals := ["react", "@scope/c:/d"] }
    let fs : FileSystem := .host .bare "/w"
    let s : Session := ⟨[], [.warning "slow"], [], []⟩
    let calls := (build o fs s.engine false).calls
    let plan := (o.plan fs).1
    fs.Rooted ∧ .newResolver fs plan.resolve ∈ calls ∧
    .scan fs plan.entries plan.parse plan.bundle ∈ calls ∧
    plan.resolve.externals.contains "react" = true ∧ ¬ IsFileName "react" ∧
    plan.entries = ["/w/react", ""] ∧ IsInternal plan.resolve.externals "/w/react" := by
  intro o fs s calls plan
  have hrooted : fs.Rooted := (FileSystem.placed_host .bare (Path.isNamed_ofText rfl) "/").rooted
  obtain ⟨logged, files, course, -⟩ := build_course o fs s.engine false
  have hnone : (o.plan fs).2 = [] := by decide +kernel
  obtain ⟨hresolve, hscan⟩ := course.handed_of_no_issues hnone
  have hentries : plan.entries = ["/w/react", ""] := by decide +kernel
  have hcontains : plan.resolve.externals.contains "react" = true := by decide +kernel
  obtain ⟨hexternals, hinternal⟩ :=
    entry_points_are_internal o fs fs s.engine false hrooted plan.resolve hresolve
  have hfirst := hinternal fs plan.entries plan.parse plan.bundle hscan
  rw [hentries] at hfirst
  exact ⟨hrooted, hresolve, hscan, hcontains, hexternals "react" hcontains, hentries,
    (List.forall₂_cons.1 hfirst).1 (by decide)⟩

end Bundler
