import Bundler.Proofs.Path.FileName

/-! # Normal forms of paths

The normal form of a path is the path without detours: no segment of it stays in place, and a step up
stands only where nothing is there to be taken back, at the front of a relative path (`IsNormal`).
Normalizing takes the segments of a path onto a stack. Each step keeps the stack normal
(`AreNormal.push`) and leads to where the segment leads from there (`foldl_walkStep_push`), so the
result is normal and means the same walk as the path from every directory. A normal path is not
changed any more (`normalizeChars_eq_self_iff`). -/

set_option autoImplicit false

namespace Bundler.Path

/-! ## Meaning -/

/-- Where a path leads from a directory: an absolute path begins at the root, whatever the directory
is. -/
def destination (stack : List (List Char)) (path : List Char) : List (List Char) :=
  walk (if isAbsoluteChars path then [] else stack) path

/-! ## Normal segments -/

/-- Segments, from front to back, are those of a normal form. -/
structure AreNormal (absolute : Bool) (segments : List (List Char)) : Prop where
  /-- None of them stays in place. -/
  notIdle : ∀ segment ∈ segments, segment ≠ [] ∧ segment ≠ ['.']
  /-- In front of a step up there are only steps up. -/
  upsFirst : segments.Pairwise fun before segment => segment = ['.', '.'] → before = ['.', '.']
  /-- From the root there is none. -/
  rooted : absolute = true → ['.', '.'] ∉ segments

theorem areNormal_nil (absolute : Bool) : AreNormal absolute [] where
  notIdle := List.forall_mem_nil _
  upsFirst := .nil
  rooted := fun _ => List.not_mem_nil

theorem areNormal_concat_iff {absolute : Bool} {segments : List (List Char)}
    {segment : List Char} :
    AreNormal absolute (segments ++ [segment]) ↔
      AreNormal absolute segments ∧ (segment ≠ [] ∧ segment ≠ ['.']) ∧
        (segment = ['.', '.'] → absolute = false ∧ ∀ before ∈ segments, before = ['.', '.']) := by
  constructor
  · rintro ⟨notIdle, upsFirst, rooted⟩
    obtain ⟨hfront, -, hlast⟩ := List.pairwise_append.1 upsFirst
    refine ⟨⟨fun s hs => notIdle s (List.mem_append_left _ hs), hfront,
      fun habsolute hs => rooted habsolute (List.mem_append_left _ hs)⟩,
      notIdle segment (List.mem_append_right _ List.mem_cons_self), ?_⟩
    rintro rfl
    refine ⟨?_, fun before hbefore => hlast before hbefore _ List.mem_cons_self rfl⟩
    rw [← Bool.not_eq_true]
    exact fun habsolute => rooted habsolute (List.mem_append_right _ List.mem_cons_self)
  · rintro ⟨⟨notIdle, upsFirst, rooted⟩, hidle, hup⟩
    refine ⟨?_, ?_, ?_⟩
    · intro s hs
      rcases List.mem_append.1 hs with hs | hs
      · exact notIdle s hs
      · rw [List.mem_singleton.1 hs]
        exact hidle
    · refine List.pairwise_append.2 ⟨upsFirst, List.pairwise_singleton _ _, ?_⟩
      intro before hbefore s hs hs'
      rw [List.mem_singleton.1 hs] at hs'
      exact (hup hs').2 before hbefore
    · intro habsolute hs
      rcases List.mem_append.1 hs with hs | hs
      · exact rooted habsolute hs
      · have hfalse := (hup (List.mem_singleton.1 hs).symm).1
        rw [habsolute] at hfalse
        cases hfalse

/-! ## One segment -/

/-- What taking a segment does with a stack. -/
theorem pushSegment_cases (absolute : Bool) (stack : List (List Char)) (segment : List Char) :
    ((segment = [] ∨ segment = ['.']) ∧ pushSegment absolute stack segment = stack) ∨
    (segment = ['.', '.'] ∧ ∃ top below, stack = top :: below ∧ top ≠ ['.', '.'] ∧
      pushSegment absolute stack segment = below) ∨
    (segment = ['.', '.'] ∧ (∀ top ∈ stack.head?, top = ['.', '.']) ∧
      pushSegment absolute stack segment = if absolute then stack else segment :: stack) ∨
    ((segment ≠ [] ∧ segment ≠ ['.'] ∧ segment ≠ ['.', '.']) ∧
      pushSegment absolute stack segment = segment :: stack) := by
  unfold pushSegment
  split
  · rename_i hidle
    exact .inl ⟨hidle, rfl⟩
  · rename_i hidle
    obtain ⟨hnil, hhere⟩ := not_or.1 hidle
    split
    · rename_i hup
      cases stack with
      | nil =>
          refine .inr (.inr (.inl ⟨hup, by simp, ?_⟩))
          cases absolute
          · rfl
          · rfl
      | cons top below =>
          by_cases htop : top = ['.', '.']
          · refine .inr (.inr (.inl ⟨hup, by simpa using htop, ?_⟩))
            exact if_pos htop
          · refine .inr (.inl ⟨hup, top, below, rfl, htop, ?_⟩)
            exact if_neg htop
    · rename_i hup
      exact .inr (.inr (.inr ⟨⟨hnil, hhere, hup⟩, rfl⟩))

theorem mem_of_mem_pushSegment {absolute : Bool} {stack : List (List Char)}
    {segment s : List Char} (h : s ∈ pushSegment absolute stack segment) :
    s = segment ∨ s ∈ stack := by
  rcases pushSegment_cases absolute stack segment with
    ⟨-, hpush⟩ | ⟨-, top, below, rfl, -, hpush⟩ | ⟨-, -, hpush⟩ | ⟨-, hpush⟩
  · exact .inr (hpush ▸ h)
  · exact .inr (List.mem_cons_of_mem top (hpush ▸ h))
  · rw [hpush] at h
    split at h
    · exact .inr h
    · exact List.mem_cons.1 h
  · exact List.mem_cons.1 (hpush ▸ h)

section

variable {absolute : Bool} {stack : List (List Char)} (h : AreNormal absolute stack.reverse)

include h

/-- Under a step up there are only steps up. -/
theorem AreNormal.ups_of_head (htop : ∀ top ∈ stack.head?, top = ['.', '.']) :
    ∀ segment ∈ stack, segment = ['.', '.'] := by
  cases stack with
  | nil => exact List.forall_mem_nil _
  | cons top below =>
      rw [List.reverse_cons] at h
      obtain ⟨-, -, hup⟩ := areNormal_concat_iff.1 h
      have htop := htop top rfl
      refine List.forall_mem_cons.2 ⟨htop, fun segment hsegment => ?_⟩
      exact (hup htop).2 segment (List.mem_reverse.2 hsegment)

/-- Taking a segment keeps a stack normal. -/
theorem AreNormal.push (segment : List Char) :
    AreNormal absolute (pushSegment absolute stack segment).reverse := by
  rcases pushSegment_cases absolute stack segment with
    ⟨-, hpush⟩ | ⟨-, top, below, rfl, -, hpush⟩ | ⟨hup, htop, hpush⟩ | ⟨hname, hpush⟩
  · rwa [hpush]
  · rw [hpush]
    rw [List.reverse_cons] at h
    exact (areNormal_concat_iff.1 h).1
  · rw [hpush]
    cases absolute with
    | true => exact h
    | false =>
        rw [if_neg Bool.false_ne_true, List.reverse_cons, hup]
        refine areNormal_concat_iff.2 ⟨h, by decide, fun _ => ⟨rfl, fun before hbefore => ?_⟩⟩
        exact h.ups_of_head htop before (List.mem_reverse.1 hbefore)
  · obtain ⟨hnil, hhere, hup⟩ := hname
    rw [hpush, List.reverse_cons]
    exact areNormal_concat_iff.2 ⟨h, ⟨hnil, hhere⟩, fun heq => absurd heq hup⟩

/-- Behind the stack, the walk goes on as the segment says. An absolute path begins at the root, where
a step up stays. -/
theorem foldl_walkStep_push {start : List (List Char)} (hstart : absolute = true → start = [])
    (segment : List Char) :
    (pushSegment absolute stack segment).reverse.foldl walkStep start =
      walkStep (stack.reverse.foldl walkStep start) segment := by
  rcases pushSegment_cases absolute stack segment with
    ⟨hidle, hpush⟩ | ⟨hup, top, below, rfl, htop, hpush⟩ | ⟨hup, htop, hpush⟩ | ⟨-, hpush⟩
  · rw [hpush, walkStep_idle hidle]
  · rw [List.reverse_cons] at h ⊢
    obtain ⟨-, ⟨hnil, hhere⟩, -⟩ := areNormal_concat_iff.1 h
    rw [hpush, hup, List.foldl_append, List.foldl_cons, List.foldl_nil,
      walkStep_name hnil hhere htop, walkStep_up, List.tail_cons]
  · cases absolute with
    | false =>
        rw [hpush, if_neg Bool.false_ne_true, List.reverse_cons, List.foldl_append]
        rfl
    | true =>
        -- no step up is kept, so the stack is empty, and the walk is at the root
        have hempty : stack = [] := by
          refine List.eq_nil_iff_forall_not_mem.2 fun s hs => h.rooted rfl ?_
          rw [← h.ups_of_head htop s hs]
          exact List.mem_reverse.2 hs
        rw [hpush, if_pos rfl, hempty, hup, walkStep_up, hstart rfl]
        rfl
  · rw [hpush, List.reverse_cons, List.foldl_append]
    rfl

end

/-! ## All segments -/

/-- The segments that are kept of a path. -/
def keptSegments (absolute : Bool) (segments : List (List Char)) : List (List Char) :=
  (segments.foldl (pushSegment absolute) []).reverse

theorem keptSegments_concat (absolute : Bool) (segments : List (List Char)) (segment : List Char) :
    keptSegments absolute (segments ++ [segment]) =
      (pushSegment absolute (keptSegments absolute segments).reverse segment).reverse := by
  simp [keptSegments, List.foldl_append]

theorem areNormal_keptSegments (absolute : Bool) (segments : List (List Char)) :
    AreNormal absolute (keptSegments absolute segments) := by
  induction segments using List.reverseRecOn with
  | nil => exact areNormal_nil absolute
  | append_singleton segments segment ih =>
      rw [keptSegments_concat]
      rw [← List.reverse_reverse (keptSegments absolute segments)] at ih
      exact ih.push segment

/-- What is kept is a walk to the same place. -/
theorem foldl_walkStep_keptSegments {absolute : Bool} {start : List (List Char)}
    (hstart : absolute = true → start = []) (segments : List (List Char)) :
    (keptSegments absolute segments).foldl walkStep start = segments.foldl walkStep start := by
  induction segments using List.reverseRecOn with
  | nil => rfl
  | append_singleton segments segment ih =>
      have hnormal := areNormal_keptSegments absolute segments
      rw [← List.reverse_reverse (keptSegments absolute segments)] at hnormal ih
      rw [keptSegments_concat, foldl_walkStep_push hnormal hstart, ih, List.foldl_append]
      rfl

theorem mem_of_mem_keptSegments {absolute : Bool} {segments : List (List Char)} {s : List Char}
    (h : s ∈ keptSegments absolute segments) : s ∈ segments := by
  induction segments using List.reverseRecOn with
  | nil => exact h
  | append_singleton segments segment ih =>
      rw [keptSegments_concat, List.mem_reverse] at h
      rcases mem_of_mem_pushSegment h with rfl | h
      · exact List.mem_append_right _ List.mem_cons_self
      · exact List.mem_append_left _ (ih (List.mem_reverse.1 h))

/-- Normal segments are all kept. -/
theorem AreNormal.keptSegments_eq {absolute : Bool} {segments : List (List Char)}
    (h : AreNormal absolute segments) : keptSegments absolute segments = segments := by
  induction segments using List.reverseRecOn with
  | nil => rfl
  | append_singleton segments segment ih =>
      obtain ⟨hsegments, ⟨hnil, hhere⟩, hup⟩ := areNormal_concat_iff.1 h
      rw [keptSegments_concat, ih hsegments]
      rcases pushSegment_cases absolute segments.reverse segment with
        ⟨hidle, -⟩ | ⟨heq, top, below, hstack, htop, -⟩ | ⟨heq, -, hpush⟩ | ⟨-, hpush⟩
      · exact absurd hidle (not_or.2 ⟨hnil, hhere⟩)
      · have hmem : top ∈ segments := by
          rw [← List.mem_reverse, hstack]
          exact List.mem_cons_self
        exact absurd ((hup heq).2 top hmem) htop
      · rw [hpush, (hup heq).1, if_neg Bool.false_ne_true, List.reverse_cons, List.reverse_reverse]
      · rw [hpush, List.reverse_cons, List.reverse_reverse]

/-! ## Normal forms -/

/-- A path behind the slash that it may begin with. -/
def bodyOf (path : List Char) : List Char := if isAbsoluteChars path then path.tail else path

/-- A path is in normal form: it is the root, the directory itself, or normal segments with single
slashes between them. -/
def IsNormal (path : List Char) : Prop :=
  path = ['/'] ∨ path = ['.'] ∨
    path.getLast? ≠ some '/' ∧ AreNormal (isAbsoluteChars path) ((bodyOf path).splitOn '/')

/-- The path with the given segments. -/
def normalText (absolute : Bool) (segments : List (List Char)) : List Char :=
  if absolute then '/' :: joinSegments segments
  else if joinSegments segments = [] then ['.'] else joinSegments segments

theorem normalizeChars_eq_normalText (path : List Char) :
    normalizeChars path =
      normalText (isAbsoluteChars path) (keptSegments (isAbsoluteChars path) (path.splitOn '/')) :=
  rfl

section

variable {absolute : Bool} {segments : List (List Char)} (h : AreNormal absolute segments)
  (hslash : ∀ segment ∈ segments, '/' ∉ segment) (hne : segments ≠ [])

include h hslash hne

theorem exists_cons_of_joinSegments : ∃ c cs, joinSegments segments = c :: cs ∧ c ≠ '/' := by
  obtain ⟨segment, rest, rfl⟩ := List.exists_cons_of_ne_nil hne
  obtain ⟨c, cs, rfl⟩ := List.exists_cons_of_ne_nil (h.notIdle segment List.mem_cons_self).1
  have hc : c ≠ '/' := by
    rintro rfl
    exact hslash _ List.mem_cons_self List.mem_cons_self
  cases rest with
  | nil => exact ⟨c, cs, by simp [joinSegments], hc⟩
  | cons next rest =>
      exact ⟨c, cs ++ '/' :: joinSegments (next :: rest),
        by simp [joinSegments, List.intercalate_cons_cons], hc⟩

theorem getLast?_joinSegments : (joinSegments segments).getLast? ≠ some '/' := by
  obtain ⟨front, last, rfl⟩ := (List.eq_nil_or_concat' segments).resolve_left hne
  have hmem : last ∈ front ++ [last] := List.mem_append_right _ List.mem_cons_self
  have hlast : (joinSegments (front ++ [last])).getLast? = last.getLast? := by
    have hne' := (h.notIdle last hmem).1
    by_cases hfront : front = []
    · simp [hfront, joinSegments]
    · rw [joinSegments_concat hfront, List.append_cons, List.getLast?_append_of_ne_nil _ hne']
  rw [hlast]
  exact fun heq => hslash last hmem (List.mem_of_getLast? heq)

theorem normalText_false : normalText false segments = joinSegments segments := by
  obtain ⟨c, cs, hjoin, -⟩ := exists_cons_of_joinSegments h hslash hne
  unfold normalText
  rw [if_neg Bool.false_ne_true, if_neg (by rw [hjoin]; exact List.cons_ne_nil c cs)]

theorem isAbsoluteChars_joinSegments : isAbsoluteChars (joinSegments segments) = false := by
  obtain ⟨c, cs, hjoin, hc⟩ := exists_cons_of_joinSegments h hslash hne
  rw [hjoin]
  exact isAbsoluteChars_cons_of_ne hc cs

end

section

variable {absolute : Bool} {segments : List (List Char)} (h : AreNormal absolute segments)
  (hslash : ∀ segment ∈ segments, '/' ∉ segment)

include h hslash

theorem isAbsoluteChars_normalText : isAbsoluteChars (normalText absolute segments) = absolute := by
  cases absolute with
  | true => rfl
  | false =>
      by_cases hne : segments = []
      · rw [hne]
        rfl
      · rw [normalText_false h hslash hne]
        exact isAbsoluteChars_joinSegments h hslash hne

theorem destination_normalText (stack : List (List Char)) :
    destination stack (normalText absolute segments) =
      segments.foldl walkStep (if absolute then [] else stack) := by
  unfold destination
  rw [isAbsoluteChars_normalText h hslash]
  by_cases hne : segments = []
  · rw [hne]
    cases absolute with
    | true => rfl
    | false => rfl
  · have hjoin : walk (if absolute then [] else stack) (joinSegments segments) =
        segments.foldl walkStep (if absolute then [] else stack) := by
      unfold walk
      rw [splitOn_joinSegments hne hslash]
    cases absolute with
    | true => exact (walk_slash _ _).trans hjoin
    | false => rwa [normalText_false h hslash hne]

theorem isNormal_normalText : IsNormal (normalText absolute segments) := by
  by_cases hne : segments = []
  · rw [hne]
    cases absolute with
    | true => exact .inl rfl
    | false => exact .inr (.inl rfl)
  · have hlast := getLast?_joinSegments h hslash hne
    have hsplit := splitOn_joinSegments hne hslash
    have habsolute := isAbsoluteChars_normalText h hslash
    refine .inr (.inr ?_)
    unfold bodyOf
    rw [habsolute]
    cases absolute with
    | true =>
        obtain ⟨c, cs, hjoin, -⟩ := exists_cons_of_joinSegments h hslash hne
        have htext : normalText true segments = '/' :: joinSegments segments := rfl
        rw [htext, if_pos rfl, List.tail_cons, hsplit]
        refine ⟨?_, h⟩
        rwa [hjoin, List.getLast?_cons_cons, ← hjoin]
    | false =>
        rw [if_neg Bool.false_ne_true, normalText_false h hslash hne, hsplit]
        exact ⟨hlast, h⟩

/-- The segments can be read off the path again. -/
theorem keptSegments_normalText :
    keptSegments absolute ((normalText absolute segments).splitOn '/') = segments := by
  by_cases hne : segments = []
  · rw [hne]
    cases absolute with
    | true => decide
    | false => decide
  · have hkept : keptSegments absolute ((joinSegments segments).splitOn '/') = segments := by
      rw [splitOn_joinSegments hne hslash, h.keptSegments_eq]
    cases absolute with
    | true =>
        have hsplit : ('/' :: joinSegments segments).splitOn '/' =
            [] :: (joinSegments segments).splitOn '/' := List.splitOn_append_cons_self [] _
        show keptSegments true (('/' :: joinSegments segments).splitOn '/') = segments
        rw [hsplit]
        exact hkept
    | false => rwa [normalText_false h hslash hne]

end

/-- Every path in normal form is that of normal segments. -/
theorem IsNormal.exists_segments {path : List Char} (h : IsNormal path) :
    ∃ segments, AreNormal (isAbsoluteChars path) segments ∧ (∀ segment ∈ segments, '/' ∉ segment) ∧
      path = normalText (isAbsoluteChars path) segments := by
  rcases h with rfl | rfl | ⟨-, hnormal⟩
  · exact ⟨[], areNormal_nil _, List.forall_mem_nil _, rfl⟩
  · exact ⟨[], areNormal_nil _, List.forall_mem_nil _, rfl⟩
  · refine ⟨_, hnormal, fun segment hsegment => not_mem_of_mem_splitOn hsegment, ?_⟩
    have hjoin : joinSegments ((bodyOf path).splitOn '/') = bodyOf path :=
      List.intercalate_splitOn '/'
    unfold normalText
    rw [hjoin]
    cases habsolute : isAbsoluteChars path with
    | true =>
        obtain ⟨rest, rfl⟩ := exists_of_isAbsoluteChars habsolute
        rfl
    | false =>
        have hbody : bodyOf path = path := by
          unfold bodyOf
          rw [habsolute, if_neg Bool.false_ne_true]
        have hne : path ≠ [] := by
          rintro rfl
          exact (hnormal.notIdle [] (by decide)).1 rfl
        rw [hbody, if_neg Bool.false_ne_true, if_neg hne]

section

variable (path : List Char)

/-- The segments that are kept of a path are normal, and there is no slash in them. -/
theorem normal_keptSegments :
    AreNormal (isAbsoluteChars path) (keptSegments (isAbsoluteChars path) (path.splitOn '/')) ∧
      ∀ segment ∈ keptSegments (isAbsoluteChars path) (path.splitOn '/'), '/' ∉ segment :=
  ⟨areNormal_keptSegments _ _,
    fun _ hsegment => not_mem_of_mem_splitOn (mem_of_mem_keptSegments hsegment)⟩

theorem isAbsoluteChars_normalizeChars :
    isAbsoluteChars (normalizeChars path) = isAbsoluteChars path := by
  obtain ⟨hnormal, hslash⟩ := normal_keptSegments path
  rw [normalizeChars_eq_normalText]
  exact isAbsoluteChars_normalText hnormal hslash

/-- From every directory, the normal form leads where the path leads. -/
theorem destination_normalizeChars (stack : List (List Char)) :
    destination stack (normalizeChars path) = destination stack path := by
  obtain ⟨hnormal, hslash⟩ := normal_keptSegments path
  rw [normalizeChars_eq_normalText, destination_normalText hnormal hslash]
  refine foldl_walkStep_keptSegments (fun habsolute => ?_) _
  rw [habsolute, if_pos rfl]

theorem isNormal_normalizeChars : IsNormal (normalizeChars path) := by
  obtain ⟨hnormal, hslash⟩ := normal_keptSegments path
  rw [normalizeChars_eq_normalText]
  exact isNormal_normalText hnormal hslash

/-- The paths that normalizing does not change are those in normal form. -/
theorem normalizeChars_eq_self_iff : normalizeChars path = path ↔ IsNormal path := by
  constructor
  · intro h
    rw [← h]
    exact isNormal_normalizeChars path
  · intro h
    obtain ⟨segments, hnormal, hslash, hpath⟩ := h.exists_segments
    have hkept := keptSegments_normalText hnormal hslash
    rw [← hpath] at hkept
    rw [normalizeChars_eq_normalText, hkept]
    exact hpath.symm

end

/-- Absolute paths have one normal form if they lead to one place. -/
theorem normalizeChars_eq_iff {p q : List Char} (hp : isAbsoluteChars p = true)
    (hq : isAbsoluteChars q = true) :
    normalizeChars p = normalizeChars q ↔ walk [] p = walk [] q := by
  rw [normalizeChars_eq hp, normalizeChars_eq hq]
  exact placeChars_inj (isPlace_nil.walk p) (isPlace_nil.walk q)

/-- A relative path that is taken from the place of a path is that path with it put behind. -/
theorem resolveChars_resolveChars {cwd p q : List Char} (hcwd : isAbsoluteChars cwd = true)
    (hp : p ≠ []) (hq : isAbsoluteChars q = false) :
    resolveChars q (resolveChars p cwd) = resolveChars (p ++ '/' :: q) cwd := by
  have habsolute : isAbsoluteChars (p ++ '/' :: q) = isAbsoluteChars p := by
    obtain ⟨c, cs, rfl⟩ := List.exists_cons_of_ne_nil hp
    by_cases hc : c = '/'
    · rw [hc]
      rfl
    · rw [isAbsoluteChars_cons_of_ne hc]
      exact isAbsoluteChars_cons_of_ne hc _
  rw [resolveChars_eq p hcwd, resolveChars_eq q rfl, resolveChars_eq _ hcwd, habsolute, hq,
    if_neg Bool.false_ne_true, walk_append_slash, walk_placeChars (isPlace_nil.walk _)]
  split
  · rw [walk_append_slash]
  · simp only [walk_append_slash]

/-- Normalizing gives the one text for what a path means. The normal form is absolute if the path is,
leads to the same place from every directory, is in normal form and is not changed by normalizing.
Absolute paths that lead to one place have one normal form. A relative path taken from a place that
was resolved is the same as both paths resolved at once. -/
theorem normalize_canonical :
    (∀ path : String,
      isAbsolute (normalize path) = isAbsolute path ∧
      (∀ stack, destination stack (normalize path).toList = destination stack path.toList) ∧
      IsNormal (normalize path).toList ∧
      normalize (normalize path) = normalize path) ∧
    (∀ p q : String, isAbsolute p = true → isAbsolute q = true →
      (normalize p = normalize q ↔ walk [] p.toList = walk [] q.toList)) ∧
    (∀ cwd p q : String, isAbsolute cwd = true → p ≠ "" → isAbsolute q = false →
      resolve q (resolve p cwd) = resolve (p ++ "/" ++ q) cwd) := by
  have htext (path : String) : (normalize path).toList = normalizeChars path.toList :=
    String.toList_ofList
  refine ⟨fun path => ⟨?_, fun stack => ?_, ?_, ?_⟩, fun p q hp hq => ?_,
    fun cwd p q hcwd hp hq => ?_⟩
  · unfold isAbsolute
    rw [htext]
    exact isAbsoluteChars_normalizeChars path.toList
  · rw [htext]
    exact destination_normalizeChars path.toList stack
  · rw [htext]
    exact isNormal_normalizeChars path.toList
  · rw [← String.toList_inj, htext, htext, normalizeChars_eq_self_iff]
    exact isNormal_normalizeChars path.toList
  · rw [← String.toList_inj, htext, htext]
    exact normalizeChars_eq_iff hp hq
  · have hne : p.toList ≠ [] := fun h => hp (String.toList_inj.1 h)
    have hjoin : (p ++ "/" ++ q).toList = p.toList ++ '/' :: q.toList := by
      simp [String.toList_append]
    unfold resolve
    rw [String.toList_ofList, hjoin, resolveChars_resolveChars hcwd hne hq]

/-- Two spellings of one place, and a relative path that leads out of the directory that it is taken
from. -/
theorem normalize_canonical_detours :
    (isAbsolute "/a/./b/../c/" = true ∧ isAbsolute "/../a//c" = true ∧
      walk [] "/a/./b/../c/".toList = walk [] "/../a//c".toList ∧
      normalize "/a/./b/../c/" = normalize "/../a//c") ∧
    isAbsolute "/w/x" = true ∧ "y/.." ≠ "" ∧ isAbsolute "../../../z/." = false ∧
      resolve "../../../z/." (resolve "y/.." "/w/x") =
        resolve ("y/.." ++ "/" ++ "../../../z/.") "/w/x" := by
  have hcwd : isAbsolute "/w/x" = true := by decide
  have hrelative : isAbsolute "../../../z/." = false := by decide
  have hplace : walk [] "/a/./b/../c/".toList = walk [] "/../a//c".toList := by decide
  obtain ⟨-, hsame, hresolve⟩ := normalize_canonical
  exact ⟨⟨by decide, by decide, hplace, (hsame _ _ (by decide) (by decide)).2 hplace⟩, hcwd,
    by decide, hrelative, hresolve _ _ _ hcwd (by decide) hrelative⟩

example : normalize "a/.././../b//c/" = "../b/c" := by decide

end Bundler.Path
