import Bundler.Proofs.Path.Walk
import Mathlib.Data.List.Basic

/-! # Names at the end of a path

The last component of a path is a name unless the path ends with a step up or has no step at all
(`isName_of_fileName?`), and it is what stands behind the last slash whenever that is a name
(`fileName?_of_getLast?`). The stem of a name, with an extension put behind it, is a name again
(`isName_stemOf_append`). A name put behind the path to a place gives the path to a place in it
(`resolve_name`). -/

set_option autoImplicit false

namespace Bundler.Path

/-! ## The last component -/

theorem isIdle_eq_false_iff (segment : List Char) :
    Host.isIdle segment = false ↔ segment ≠ [] ∧ segment ≠ ['.'] := by
  rw [← not_or]
  unfold Host.isIdle Host.component?
  by_cases hidle : segment = [] ∨ segment = ['.']
  · simp [hidle]
  · rw [if_neg hidle]
    split <;> simp [hidle]

/-- The last component of a path is a name. -/
theorem isName_of_fileName? {path : String} {name : List Char}
    (h : Host.fileName? path = some name) : IsName name := by
  unfold Host.fileName? at h
  generalize (Host.splitLead path.toList).2 = body at h
  cases htrailing : Host.trailing body with
  | nil =>
      rw [htrailing] at h
      cases h
  | cons last before =>
      rw [htrailing] at h
      by_cases hup : last = ['.', '.']
      · simp [hup] at h
      · obtain rfl : last = name := by simpa [hup] using h
        -- what idle segments are dropped for is not idle, and has no slash in it
        have hhead : Host.isIdle last = false := by
          have hdrop := List.head?_dropWhile_not Host.isIdle (body.splitOn '/').reverse
          unfold Host.trailing at htrailing
          rw [htrailing] at hdrop
          simpa using hdrop
        have hmem : last ∈ (body.splitOn '/').reverse := by
          have hsuffix := List.dropWhile_suffix Host.isIdle (l := (body.splitOn '/').reverse)
          unfold Host.trailing at htrailing
          rw [htrailing] at hsuffix
          exact hsuffix.subset List.mem_cons_self
        obtain ⟨hnil, hhere⟩ := (isIdle_eq_false_iff last).1 hhead
        exact ⟨hnil, hhere, hup, not_mem_of_mem_splitOn (List.mem_reverse.1 hmem)⟩

/-- What stands behind the last slash of the body of a path is what stands behind the last slash of
the path, unless the path is a single dot. -/
theorem getLast?_splitLead {path : List Char} (h : path ≠ ['.']) :
    ((Host.splitLead path).2.splitOn '/').getLast? = (path.splitOn '/').getLast? := by
  have hslash (front back : List Char) :
      ((front ++ '/' :: back).splitOn '/').getLast? = (back.splitOn '/').getLast? := by
    rw [List.splitOn_append_cons_self,
      List.getLast?_append_of_ne_nil _ (List.splitOn_ne_nil '/' back)]
  unfold Host.splitLead
  split
  · rename_i rest
    exact (hslash [] rest).symm
  · exact absurd rfl h
  · rename_i rest
    exact (hslash [] rest).trans (hslash ['.'] rest).symm
  · rfl

/-- A name behind the last slash is the last component. -/
theorem fileName?_of_getLast? {path : String} {name : List Char} (hname : IsName name)
    (h : (path.toList.splitOn '/').getLast? = some name) : Host.fileName? path = some name := by
  have hdot : path.toList ≠ ['.'] := by
    intro hdot
    rw [hdot] at h
    exact hname.ne_here (Option.some.inj h).symm
  rw [← getLast?_splitLead hdot] at h
  unfold Host.fileName?
  generalize (Host.splitLead path.toList).2 = body at h ⊢
  obtain ⟨before, hsplit⟩ := List.getLast?_eq_some_iff.1 h
  have hidle : Host.isIdle name = false :=
    (isIdle_eq_false_iff name).2 ⟨hname.ne_nil, hname.ne_here⟩
  have htrailing : Host.trailing body = name :: before.reverse := by
    unfold Host.trailing
    rw [hsplit, List.reverse_append, List.reverse_singleton, List.singleton_append,
      List.dropWhile_cons_of_neg (by simp [hidle])]
  rw [htrailing]
  simp [hname.ne_up]

/-! ## Stems -/

/-- The stem of a name is a part of it from the front, and it is not empty. -/
theorem stemOf_prefix {name : List Char} (h : name ≠ []) :
    Host.stemOf name <+: name ∧ Host.stemOf name ≠ [] := by
  unfold Host.stemOf
  split
  · exact ⟨List.prefix_rfl, h⟩
  · rename_i dot before hdrop
    split
    · exact ⟨List.prefix_rfl, h⟩
    · rename_i hbefore
      refine ⟨?_, by simpa using hbefore⟩
      have hsuffix := List.dropWhile_suffix (· != '.') (l := name.reverse)
      rw [hdrop] at hsuffix
      have hback : before <:+ name.reverse := (List.suffix_cons dot before).trans hsuffix
      rw [← List.reverse_reverse name]
      exact List.reverse_prefix.2 hback

/-- A stem with an extension is the name of a file. -/
theorem isName_stemOf_append {name extension : List Char} (hname : IsName name)
    (hlength : 2 ≤ extension.length) (hslash : '/' ∉ extension) :
    IsName (Host.stemOf name ++ extension) := by
  obtain ⟨hfront, hne⟩ := stemOf_prefix hname.ne_nil
  have hpos : 0 < (Host.stemOf name).length := List.length_pos_iff.2 hne
  have hlong : 3 ≤ (Host.stemOf name ++ extension).length := by
    rw [List.length_append]
    omega
  refine ⟨?_, ?_, ?_, ?_⟩
  · intro h
    rw [h] at hlong
    exact absurd hlong (by decide)
  · intro h
    rw [h] at hlong
    exact absurd hlong (by decide)
  · intro h
    rw [h] at hlong
    exact absurd hlong (by decide)
  · intro hmem
    rcases List.mem_append.1 hmem with hmem | hmem
    · exact hname.noSlash (hfront.subset hmem)
    · exact hslash hmem

/-! ## Names in a place -/

/-- The walk along a name goes down. -/
theorem walk_name {name : List Char} (hname : IsName name) (stack : List (List Char)) :
    walk stack name = name :: stack := by
  unfold walk
  rw [List.splitOn_eq_singleton hname.noSlash]
  exact walkStep_name hname.ne_nil hname.ne_here hname.ne_up stack

/-- The path to a place leads there. -/
theorem walk_placeChars {stack : List (List Char)} (h : IsPlace stack) :
    walk [] (placeChars stack) = stack := by
  induction stack with
  | nil => rfl
  | cons name stack ih =>
      obtain ⟨hname, hstack⟩ := isPlace_cons_iff.1 h
      rw [placeChars_cons, walk_append_slash, walk_name hname]
      split
      · rename_i hroot
        rw [hroot]
        rfl
      · rw [ih hstack]

/-- So different places have different paths. -/
theorem placeChars_inj {stack other : List (List Char)} (h : IsPlace stack)
    (hother : IsPlace other) : placeChars stack = placeChars other ↔ stack = other := by
  refine ⟨fun heq => ?_, congrArg placeChars⟩
  rw [← walk_placeChars h, heq, walk_placeChars hother]

theorem resolve_name {name : List Char} (hname : IsName name) {stack : List (List Char)}
    (h : IsPlace stack) :
    resolve (String.ofList name) (String.ofList (placeChars stack)) =
      String.ofList (placeChars (name :: stack)) := by
  have habsolute : isAbsoluteChars name = false := by
    rw [Bool.eq_false_iff]
    intro habsolute
    obtain ⟨rest, rfl⟩ := exists_of_isAbsoluteChars habsolute
    exact hname.noSlash List.mem_cons_self
  unfold resolve
  rw [String.toList_ofList, String.toList_ofList, resolveChars_eq name rfl, habsolute,
    if_neg Bool.false_ne_true, walk_append_slash, walk_placeChars h, walk_name hname]

end Bundler.Path
