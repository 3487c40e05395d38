import Bundler.Engine.Transpile
import Bundler.Proofs.Options.Faults
import Mathlib.Data.List.DropRight

/-! # Loaders and the extensions of files

A loader is given for an extension that is checked as a text of its own, and looked up by the
extension that is found at the end of a path. The two fit together. What is found is the last dot of
a name with everything behind it (`extensionOf_of_dot`), so there is no further dot in it; and a dot
with something behind it, none of which is a dot or separates names, is found behind any other
character. -/

set_option autoImplicit false

namespace Bundler

/-! ## The end of a path -/

namespace Transpile

/-- The characters behind the last separator of a path. -/
def nameOf (path : String) : List Char := path.toList.rtakeWhile fun c => c ≠ '/' ∧ c ≠ '\\'

theorem ne_separator_of_mem_nameOf {path : String} {c : Char} (h : c ∈ nameOf path) :
    c ≠ '/' ∧ c ≠ '\\' := by
  simpa using List.mem_rtakeWhile_imp h

/-- A path without separators is a name. -/
theorem nameOf_eq_toList {path : String} (hslash : '/' ∉ path.toList)
    (hbackslash : '\\' ∉ path.toList) : nameOf path = path.toList := by
  refine List.rtakeWhile_eq_self_iff.2 fun c hc => decide_eq_true ⟨?_, ?_⟩
  · exact fun h => hslash (h ▸ hc)
  · exact fun h => hbackslash (h ▸ hc)

/-- A dot behind the first character of a name is the last one, or the last one is behind it. -/
theorem exists_lastDot {path : String} (h : '.' ∈ (nameOf path).tail) :
    ∃ first front back, nameOf path = first :: (front ++ '.' :: back) ∧ '.' ∉ back := by
  cases hname : nameOf path with
  | nil =>
      rw [hname] at h
      cases h
  | cons first rest =>
      rw [hname, List.tail_cons] at h
      obtain ⟨back, front, hsplit, hback⟩ := List.eq_append_cons_of_mem (List.mem_reverse.2 h)
      refine ⟨first, front.reverse, back.reverse, ?_, fun hmem => hback (List.mem_reverse.1 hmem)⟩
      rw [← List.reverse_reverse rest, hsplit]
      simp

/-- The extension of a name begins with its last dot, if that is not its first character. -/
theorem extensionOf_of_dot {path : String} {first : Char} {front back : List Char}
    (hname : nameOf path = first :: (front ++ '.' :: back)) (hback : '.' ∉ back) :
    extensionOf path = String.ofList ('.' :: back) := by
  have hdots : ∀ c ∈ back.reverse, decide (c ≠ '.') = true := fun c hc =>
    decide_eq_true fun h => hback (h ▸ List.mem_reverse.1 hc)
  have hreverse : (front ++ '.' :: back).reverse = back.reverse ++ '.' :: front.reverse := by simp
  have htake : (front ++ '.' :: back).reverse.takeWhile (· ≠ '.') = back.reverse := by
    rw [hreverse, List.takeWhile_append_of_pos hdots, List.takeWhile_cons_of_neg (by decide),
      List.append_nil]
  have hdrop : (front ++ '.' :: back).reverse.dropWhile (· ≠ '.') = '.' :: front.reverse := by
    rw [hreverse, List.dropWhile_append_of_pos hdots, List.dropWhile_cons_of_neg (by decide)]
  unfold nameOf List.rtakeWhile at hname
  simp only [extensionOf, hname, hdrop, htake, List.reverse_reverse]

/-- A name without a dot behind its first character has no extension. -/
theorem extensionOf_of_noDot {path : String} (h : '.' ∉ (nameOf path).tail) :
    extensionOf path = "" := by
  cases hname : nameOf path with
  | nil =>
      unfold nameOf List.rtakeWhile at hname
      simp only [extensionOf, hname]
  | cons first rest =>
      rw [hname, List.tail_cons] at h
      have hdrop : rest.reverse.dropWhile (· ≠ '.') = [] :=
        List.dropWhile_eq_nil_iff.2 fun c hc =>
          decide_eq_true fun hdot => h (hdot ▸ List.mem_reverse.1 hc)
      unfold nameOf List.rtakeWhile at hname
      simp only [extensionOf, hname, hdrop]

end Transpile

/-! ## What is found and what is accepted -/

theorem isLoaderKey_iff_exists (key : String) :
    IsLoaderKey key ↔ ∃ back, key.toList = '.' :: back ∧ back ≠ [] ∧ '.' ∉ back := by
  unfold IsLoaderKey IsExtension
  cases key.toList with
  | nil => simp
  | cons c back =>
      rw [List.head?_cons, Option.some.injEq, List.tail_cons]
      constructor
      · rintro ⟨⟨hsize, rfl⟩, hback⟩
        refine ⟨back, rfl, ?_, hback⟩
        rintro rfl
        exact absurd hsize (by decide)
      · rintro ⟨_, hkey, hne, hback⟩
        obtain ⟨rfl, rfl⟩ := List.cons.inj hkey
        obtain ⟨c, rest, rfl⟩ := List.exists_cons_of_ne_nil hne
        have hpos : 0 < c.utf8Size := Char.utf8Size_pos c
        have hdot : '.'.utf8Size = 1 := by decide
        refine ⟨⟨?_, rfl⟩, hback⟩
        simp only [Text.byteSize]
        omega

/-- What can be found at the end of a path: nothing, a dot, and each extension that can have a
loader and does not separate names. -/
theorem exists_extensionOf_eq_iff (key : String) :
    (∃ path, Transpile.extensionOf path = key) ↔
      key = "" ∨ key = "." ∨ (IsLoaderKey key ∧ '/' ∉ key.toList ∧ '\\' ∉ key.toList) := by
  constructor
  · rintro ⟨path, rfl⟩
    by_cases hdot : '.' ∈ (Transpile.nameOf path).tail
    · obtain ⟨first, front, back, hname, hback⟩ := Transpile.exists_lastDot hdot
      rw [Transpile.extensionOf_of_dot hname hback]
      by_cases hnil : back = []
      · rw [hnil]
        exact .inr (.inl rfl)
      · have hmem : ∀ c ∈ '.' :: back, c ≠ '/' ∧ c ≠ '\\' := fun c hc =>
          Transpile.ne_separator_of_mem_nameOf <| by
            rw [hname]
            exact List.mem_cons_of_mem _ (List.mem_append_right _ hc)
        have hkey := (isLoaderKey_iff_exists (String.ofList ('.' :: back))).2
          ⟨back, String.toList_ofList, hnil, hback⟩
        rw [String.toList_ofList]
        exact .inr (.inr ⟨hkey, fun h => (hmem _ h).1 rfl, fun h => (hmem _ h).2 rfl⟩)
    · exact .inl (Transpile.extensionOf_of_noDot hdot)
  · rintro (rfl | rfl | ⟨hkey, hslash, hbackslash⟩)
    · exact ⟨"", by decide⟩
    · exact ⟨"a.", by decide⟩
    · obtain ⟨back, hback, -, hdots⟩ := (isLoaderKey_iff_exists key).1 hkey
      have hpath : ("a" ++ key).toList = 'a' :: key.toList := String.toList_append
      have hname : Transpile.nameOf ("a" ++ key) = 'a' :: ([] ++ '.' :: back) := by
        rw [Transpile.nameOf_eq_toList, hpath, hback, List.nil_append]
        · rw [hpath]
          simpa using hslash
        · rw [hpath]
          simpa using hbackslash
      exact ⟨"a" ++ key, by rw [Transpile.extensionOf_of_dot hname hdots, ← hback,
        String.ofList_toList]⟩

/-- The loaders that can be given are for the extensions that can be found. What is found at the end
of a path is nothing, a dot, or accepted as a key, and each key that is accepted and does not
separate names is found; the keys that are not accepted are reported. In the table of a run the
given loaders stand over the usual ones, and it is the usual table itself if none is given. -/
theorem loaders_fit_extensions (given : Dictionary Loader) :
    (∀ key, (∃ path, Transpile.extensionOf path = key) ↔
      key = "" ∨ key = "." ∨ (IsLoaderKey key ∧ '/' ∉ key.toList ∧ '\\' ∉ key.toList)) ∧
    (Check.loaders given).2 = (given.keys.filter fun key => ¬ IsLoaderKey key).map .extension ∧
    (∀ path, (Check.loaders given).1.get? (Transpile.extensionOf path) =
      (given.get? (Transpile.extensionOf path)).or
        (usualLoaders.get? (Transpile.extensionOf path))) ∧
    (∀ key loader, usualLoaders.get? key = some loader → given.get? key = none →
      (Check.loaders given).1.get? key = some loader) ∧
    ((Check.loaders given).1 = .usual ↔ given = ∅) := by
  refine ⟨exists_extensionOf_eq_iff, issues_loaders given, fun path => get?_loaders given _,
    fun key loader husual hgiven => ?_, ?_⟩
  · rw [get?_loaders, hgiven, husual]
    rfl
  · rw [← Dictionary.isEmpty_iff]
    unfold Check.loaders
    split
    · rename_i hempty
      exact ⟨fun _ => hempty, fun _ => rfl⟩
    · rename_i hfull
      refine ⟨fun h => ?_, fun h => absurd h hfull⟩
      cases h

/-- A usual loader that is replaced, one that is kept, and a key with a dot in the middle: it is
reported, and no path would ask for it. -/
theorem loaders_fit_extensions_middle_dot :
    let given : Dictionary Loader := .ofList [(".ts", .text), (".d.ts", .js)]
    (¬ ∃ path, Transpile.extensionOf path = ".d.ts") ∧
    (Check.loaders given).2 = [.extension ".d.ts"] ∧
    (Check.loaders given).1.get? (Transpile.extensionOf "/a.b/x.d.ts") = some .text ∧
    usualLoaders.get? ".js" = some .js ∧ given.get? ".js" = none ∧
      (Check.loaders given).1.get? ".js" = some .js ∧
    (Check.loaders given).1 ≠ .usual := by
  intro given
  have husual : usualLoaders.get? ".js" = some .js := by decide +kernel
  have hgiven : given.get? ".js" = none := by decide +kernel
  have hne : given ≠ ∅ := by decide +kernel
  obtain ⟨hfound, hissues, htable, hkept, hshared⟩ := loaders_fit_extensions given
  exact ⟨(hfound ".d.ts").not.2 (by decide), hissues.trans (by decide +kernel),
    (htable "/a.b/x.d.ts").trans (by decide +kernel), husual, hgiven,
    hkept ".js" .js husual hgiven, hshared.not.2 hne⟩

end Bundler
