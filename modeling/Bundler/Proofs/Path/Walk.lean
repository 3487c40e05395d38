import Bundler.Path.Host
import Bundler.Proofs.Text.Split
import Mathlib.Data.List.Induction

/-! # Where a path leads

A path is a walk on a stack of directories: an empty segment and `.` stay, `..` goes up and stays at
the root, and any other segment goes down (`walk`). The rules for texts and those of the host are
two programs for this one walk: from the root they come to the same place (`normalizeChars_eq`,
`foldl_components`) and write it in the same way (`placeChars`), and what each of them takes for the
directory of a place is one step up from it (`dirnameChars_placeChars`, `parent?_placeChars`). -/

set_option autoImplicit false

namespace Bundler.Path

open Host (Component Walked)

/-! ## Absolute paths -/

theorem exists_of_isAbsoluteChars {path : List Char} (h : isAbsoluteChars path = true) :
    ∃ rest, path = '/' :: rest := by
  unfold isAbsoluteChars at h
  split at h
  · exact ⟨_, rfl⟩
  · cases h

theorem isAbsoluteChars_cons_of_ne {c : Char} (hc : c ≠ '/') (rest : List Char) :
    isAbsoluteChars (c :: rest) = false := by
  rw [← Bool.not_eq_true]
  intro habsolute
  obtain ⟨others, hothers⟩ := exists_of_isAbsoluteChars habsolute
  exact hc (List.cons.inj hothers).1

/-- A path put behind an absolute one is absolute. -/
theorem isAbsoluteChars_join {front : List Char} (back : List Char)
    (h : isAbsoluteChars front = true) : isAbsoluteChars (Host.join front back) = true := by
  obtain ⟨front, rfl⟩ := exists_of_isAbsoluteChars h
  unfold Host.join
  split
  · assumption
  · split
    · rename_i hlast
      simp at hlast
    · rfl
    · rfl

/-! ## The walk -/

/-- Takes one segment from a directory, which is given by the names on the way to it from the root,
the innermost first. -/
def walkStep (stack : List (List Char)) (segment : List Char) : List (List Char) :=
  if segment = [] ∨ segment = ['.'] then stack
  else if segment = ['.', '.'] then stack.tail
  else segment :: stack

theorem walkStep_idle {segment : List Char} (h : segment = [] ∨ segment = ['.'])
    (stack : List (List Char)) : walkStep stack segment = stack := if_pos h

theorem walkStep_up (stack : List (List Char)) : walkStep stack ['.', '.'] = stack.tail := rfl

theorem walkStep_name {segment : List Char} (hnil : segment ≠ []) (hhere : segment ≠ ['.'])
    (hup : segment ≠ ['.', '.']) (stack : List (List Char)) :
    walkStep stack segment = segment :: stack := by
  unfold walkStep
  rw [if_neg (not_or.2 ⟨hnil, hhere⟩), if_neg hup]

/-- Takes all segments of a path. -/
def walk (stack : List (List Char)) (path : List Char) : List (List Char) :=
  (path.splitOn '/').foldl walkStep stack

/-- A segment goes down: it is a name. -/
structure IsName (segment : List Char) : Prop where
  ne_nil : segment ≠ []
  ne_here : segment ≠ ['.']
  ne_up : segment ≠ ['.', '.']
  noSlash : '/' ∉ segment

/-- A stack is the way to a place: there are names on it and nothing else. -/
def IsPlace (stack : List (List Char)) : Prop := ∀ name ∈ stack, IsName name

theorem isPlace_nil : IsPlace [] := List.forall_mem_nil _

theorem isPlace_cons_iff {name : List Char} {stack : List (List Char)} :
    IsPlace (name :: stack) ↔ IsName name ∧ IsPlace stack := List.forall_mem_cons

theorem IsPlace.tail {stack : List (List Char)} (h : IsPlace stack) : IsPlace stack.tail :=
  fun name hname => h name (List.mem_of_mem_tail hname)

theorem IsPlace.step {stack : List (List Char)} (h : IsPlace stack) {segment : List Char}
    (hsegment : '/' ∉ segment) : IsPlace (walkStep stack segment) := by
  unfold walkStep
  split
  · exact h
  · rename_i hidle
    split
    · exact h.tail
    · rename_i hup
      exact isPlace_cons_iff.2
        ⟨⟨fun h => hidle (.inl h), fun h => hidle (.inr h), hup, hsegment⟩, h⟩

/-- A walk that begins at a place comes to a place. -/
theorem IsPlace.walk {stack : List (List Char)} (h : IsPlace stack) (path : List Char) :
    IsPlace (walk stack path) := by
  have hsegments : ∀ segment ∈ path.splitOn '/', '/' ∉ segment :=
    fun segment hsegment => not_mem_of_mem_splitOn hsegment
  unfold Path.walk
  generalize path.splitOn '/' = segments at hsegments
  induction segments generalizing stack with
  | nil => exact h
  | cons segment segments ih =>
      obtain ⟨hsegment, hrest⟩ := List.forall_mem_cons.1 hsegments
      exact ih (h.step hsegment) hrest

theorem walk_append_slash (stack : List (List Char)) (front back : List Char) :
    walk stack (front ++ '/' :: back) = walk (walk stack front) back := by
  rw [walk, List.splitOn_append_cons_self, List.foldl_append]
  rfl

/-- A slash more or less does not matter to a walk. -/
theorem walk_slash (stack : List (List Char)) (path : List Char) :
    walk stack ('/' :: path) = walk stack path := walk_append_slash stack [] path

/-! ## Places as texts -/

/-- The absolute path to a place. -/
def placeChars (stack : List (List Char)) : List Char := '/' :: joinSegments stack.reverse

theorem isAbsolute_placeChars (stack : List (List Char)) :
    isAbsolute (String.ofList (placeChars stack)) = true := by
  unfold isAbsolute
  rw [String.toList_ofList]
  rfl

theorem joinSegments_concat {segments : List (List Char)} (h : segments ≠ [])
    (last : List Char) :
    joinSegments (segments ++ [last]) = joinSegments segments ++ '/' :: last := by
  induction segments with
  | nil => exact absurd rfl h
  | cons first others ih =>
      cases others with
      | nil => simp [joinSegments]
      | cons second others =>
          have ih := ih (List.cons_ne_nil _ _)
          simp only [joinSegments, List.cons_append, List.intercalate_cons_cons] at ih ⊢
          rw [ih]
          simp

/-- The path to a place that is not the root is that to the directory around it, a slash unless that
is the root, and a name. -/
theorem placeChars_cons (name : List Char) (stack : List (List Char)) :
    placeChars (name :: stack) =
      (if stack = [] then [] else placeChars stack) ++ '/' :: name := by
  unfold placeChars
  rw [List.reverse_cons]
  split
  · rename_i h
    rw [h]
    simp [joinSegments]
  · rename_i h
    rw [joinSegments_concat (by simpa using h)]
    rfl

/-- Behind the last slash of the path to a place stands its name. -/
theorem getLast?_splitOn_placeChars {name : List Char} (hname : IsName name)
    (stack : List (List Char)) :
    ((placeChars (name :: stack)).splitOn '/').getLast? = some name := by
  rw [placeChars_cons, List.splitOn_append_cons_self, List.splitOn_eq_singleton hname.noSlash,
    List.getLast?_concat]

/-- Segments that are joined can be told apart again. -/
theorem splitOn_joinSegments {segments : List (List Char)} (hne : segments ≠ [])
    (h : ∀ segment ∈ segments, '/' ∉ segment) : (joinSegments segments).splitOn '/' = segments :=
  List.splitOn_intercalate '/' h hne

/-! ## Two programs for the walk -/

/-- The rules for texts take a segment as the walk does, as long as no `..` has been kept. -/
theorem pushSegment_eq {stack : List (List Char)} (h : IsPlace stack) (segment : List Char) :
    pushSegment true stack segment = walkStep stack segment := by
  unfold pushSegment walkStep
  split
  · rfl
  · split
    · cases stack with
      | nil => rfl
      | cons top below =>
          have htop := (isPlace_cons_iff.1 h).1.ne_up
          simp [htop]
    · rfl

theorem foldl_pushSegment {segments stack : List (List Char)} (hstack : IsPlace stack)
    (h : ∀ segment ∈ segments, '/' ∉ segment) :
    segments.foldl (pushSegment true) stack = segments.foldl walkStep stack := by
  induction segments generalizing stack with
  | nil => rfl
  | cons segment segments ih =>
      obtain ⟨hsegment, hrest⟩ := List.forall_mem_cons.1 h
      rw [List.foldl_cons, List.foldl_cons, pushSegment_eq hstack]
      exact ih (hstack.step hsegment) hrest

/-- The normal form of an absolute path is the path to the place where it leads. -/
theorem normalizeChars_eq {path : List Char} (h : isAbsoluteChars path = true) :
    normalizeChars path = placeChars (walk [] path) := by
  have hstack : (path.splitOn '/').foldl (pushSegment true) [] = walk [] path :=
    foldl_pushSegment isPlace_nil fun segment hsegment => not_mem_of_mem_splitOn hsegment
  unfold normalizeChars
  rw [h]
  simp only [hstack, if_true]
  rfl

/-- The step that a segment stands for to the host, beside what the walk does with it. -/
theorem component?_cases (stack : List (List Char)) (segment : List Char) :
    (Host.component? segment = none ∧ walkStep stack segment = stack) ∨
    (Host.component? segment = some .up ∧ walkStep stack segment = stack.tail) ∨
    (Host.component? segment = some (.name segment) ∧
      walkStep stack segment = segment :: stack) := by
  unfold Host.component? walkStep
  split
  · exact .inl ⟨rfl, rfl⟩
  · split
    · exact .inr (.inl ⟨rfl, rfl⟩)
    · exact .inr (.inr ⟨rfl, rfl⟩)

/-- The host takes the segments that stand for a step as the walk does. -/
theorem foldl_step (stack segments : List (List Char)) :
    (segments.filterMap Host.component?).foldl Walked.step ⟨true, stack⟩ =
      ⟨true, segments.foldl walkStep stack⟩ := by
  induction segments generalizing stack with
  | nil => rfl
  | cons segment segments ih =>
      rw [List.filterMap_cons, List.foldl_cons, ← ih]
      obtain ⟨hsome, hstep⟩ | ⟨hsome, hstep⟩ | ⟨hsome, hstep⟩ := component?_cases stack segment
      · rw [hsome, hstep]
      · rw [hsome, hstep]
        rfl
      · rw [hsome, hstep]
        rfl

/-- The walk of the host along an absolute path, wherever it begins. -/
theorem foldl_components {path : List Char} (h : isAbsoluteChars path = true)
    (w : Walked (List Char)) :
    (Host.components path).foldl Walked.step w = ⟨true, walk [] path⟩ := by
  obtain ⟨rest, rfl⟩ := exists_of_isAbsoluteChars h
  rw [walk_slash]
  exact foldl_step [] (rest.splitOn '/')

/-- The walk of the host along a relative path, from a place. -/
theorem foldl_components_relative {path : List Char} (h : ¬ isAbsoluteChars path = true)
    (stack : List (List Char)) :
    (Host.components path).foldl Walked.step ⟨true, stack⟩ = ⟨true, walk stack path⟩ := by
  unfold Host.components
  fun_cases Host.splitLead path with
  | case1 rest => exact absurd rfl h
  | case2 => rfl
  | case3 rest =>
      -- the `.` in front is a step that stays, and to the walk a segment that is idle
      have hwalk : walk stack ('/' :: rest) = walk stack ('.' :: '/' :: rest) :=
        (walk_slash stack rest).trans (walk_append_slash stack ['.'] rest).symm
      rw [← hwalk]
      exact foldl_step stack (('/' :: rest).splitOn '/')
  | case4 => exact foldl_step stack (path.splitOn '/')

/-- A path behind a directory leads from where the directory leads, and an absolute one from the
root; whether there is a slash at the end of the directory does not matter. -/
theorem walk_join (front back : List Char) :
    walk [] (Host.join front back) =
      walk [] (if isAbsoluteChars back then back else front ++ '/' :: back) := by
  unfold Host.join
  split
  · rfl
  · cases front using List.reverseRecOn with
    | nil => exact (walk_slash [] back).symm
    | append_singleton front last =>
        rw [List.getLast?_concat]
        by_cases hlast : last = '/'
        · -- behind the slash that ends the directory stands an empty segment, or none
          subst hlast
          show walk [] (front ++ ['/'] ++ back) = walk [] (front ++ ['/'] ++ '/' :: back)
          rw [List.append_assoc, List.append_assoc]
          show walk [] (front ++ '/' :: back) = walk [] (front ++ '/' :: '/' :: back)
          rw [walk_append_slash, walk_append_slash, walk_slash]
        · split
          · cases ‹_ = none›
          · rename_i h
            exact absurd (Option.some.inj h) hlast
          · rfl

theorem resolveChars_eq {cwd : List Char} (path : List Char) (hcwd : isAbsoluteChars cwd = true) :
    resolveChars path cwd =
      placeChars (walk [] (if isAbsoluteChars path then path else cwd ++ '/' :: path)) := by
  unfold resolveChars
  split
  · rename_i hpath
    exact normalizeChars_eq hpath
  · obtain ⟨cwd, rfl⟩ := exists_of_isAbsoluteChars hcwd
    exact normalizeChars_eq rfl

/-- From an absolute directory, the host and the rules for texts come to the same. -/
theorem host_resolve_eq {cwd : String} (path : String) (hcwd : isAbsolute cwd = true) :
    Host.resolve cwd path = resolve path cwd := by
  have hjoin := isAbsoluteChars_join path.toList hcwd
  unfold Host.resolve resolve
  rw [resolveChars_eq path.toList hcwd, ← walk_join, foldl_components hjoin]
  rfl

/-- What is taken from an absolute directory is the path to a place. -/
theorem exists_resolve_eq {cwd : String} (path : String) (hcwd : isAbsolute cwd = true) :
    ∃ stack, IsPlace stack ∧ resolve path cwd = String.ofList (placeChars stack) :=
  ⟨_, isPlace_nil.walk _, congrArg String.ofList (resolveChars_eq path.toList hcwd)⟩

/-! ## One step up -/

/-- The directory part of the path to a place is the path to one step up from it. -/
theorem dirnameChars_placeChars {stack : List (List Char)} (h : IsPlace stack) :
    dirnameChars (placeChars stack) = placeChars stack.tail := by
  cases stack with
  | nil => rfl
  | cons name stack =>
      have hname := (isPlace_cons_iff.1 h).1
      rw [placeChars_cons, List.tail_cons]
      generalize hfront : (if stack = [] then [] else placeChars stack) = front
      have hreverse : (front ++ '/' :: name).reverse = name.reverse ++ '/' :: front.reverse := by
        simp
      -- there is no slash at the end, and the last one stands before the name
      have htrimmed : (name.reverse ++ '/' :: front.reverse).dropWhile (· == '/') =
          name.reverse ++ '/' :: front.reverse := by
        obtain ⟨c, cs, hcs⟩ := List.exists_cons_of_ne_nil (List.reverse_ne_nil_iff.2 hname.ne_nil)
        have hc : c ∈ name := List.mem_reverse.1 (hcs ▸ List.mem_cons_self)
        have hslash : c ≠ '/' := fun heq => hname.noSlash (heq ▸ hc)
        rw [hcs, List.cons_append, List.dropWhile_cons_of_neg (by simpa using hslash)]
      have hlast : (name.reverse ++ '/' :: front.reverse).dropWhile (· != '/') =
          '/' :: front.reverse := by
        rw [List.dropWhile_append_of_pos, List.dropWhile_cons_of_neg (by simp)]
        intro c hc
        have hslash : c ≠ '/' := fun heq => hname.noSlash (heq ▸ List.mem_reverse.1 hc)
        simpa using hslash
      have hne : front ++ '/' :: name ≠ [] := by simp
      have hne' : name.reverse ++ '/' :: front.reverse ≠ [] := by simp
      unfold dirnameChars
      simp only [hreverse, htrimmed, hlast, if_neg hne, if_neg hne']
      by_cases hstack : stack = []
      · rw [if_pos hstack] at hfront
        subst hfront hstack
        rfl
      · rw [if_neg hstack] at hfront
        subst hfront
        have hback : (placeChars stack).reverse.reverse = placeChars stack := List.reverse_reverse _
        generalize (placeChars stack).reverse = back at hback
        cases back with
        | nil => exact absurd hback.symm (List.cons_ne_nil _ _)
        | cons c cs => exact hback

theorem dirname_placeChars {stack : List (List Char)} (h : IsPlace stack) :
    dirname (String.ofList (placeChars stack)) = String.ofList (placeChars stack.tail) := by
  rw [dirname, String.toList_ofList, dirnameChars_placeChars h]

theorem dropWhile_isIdle {stack : List (List Char)} (h : IsPlace stack) :
    stack.dropWhile Host.isIdle = stack := by
  cases stack with
  | nil => rfl
  | cons name stack =>
      obtain ⟨hnil, hhere, hup, -⟩ := (isPlace_cons_iff.1 h).1
      have hidle : Host.isIdle name = false := by
        simp [Host.isIdle, Host.component?, hnil, hhere, hup]
      exact List.dropWhile_cons_of_neg (by simp [hidle])

/-- The host takes the last name of a path away, and nothing from the root. -/
theorem parent?_placeChars {stack : List (List Char)} (h : IsPlace stack) :
    Host.parent? (String.ofList (placeChars stack)) =
      if stack = [] then none else some (String.ofList (placeChars stack.tail)) := by
  cases stack with
  | nil => decide
  | cons name stack =>
      have htrailing : Host.trailing (joinSegments (name :: stack).reverse) = name :: stack := by
        unfold Host.trailing
        rw [splitOn_joinSegments (by simp) fun segment hsegment =>
          (h segment (List.mem_reverse.1 hsegment)).noSlash, List.reverse_reverse,
          dropWhile_isIdle h]
      have hrest : stack.dropWhile Host.isIdle = stack := dropWhile_isIdle (isPlace_cons_iff.1 h).2
      have hlead : Host.splitLead (placeChars (name :: stack)) =
          (['/'], joinSegments (name :: stack).reverse) := rfl
      unfold Host.parent?
      rw [String.toList_ofList, hlead]
      simp only [htrailing, hrest]
      rfl

/-! ## Paths that are built on their texts -/

/-- Takes one step on the text of a path: a name is put behind it, and a step up takes away its last
component, if there is one. -/
def build (text : List Char) : Component (List Char) → List Char
  | .root => Host.join text ['/']
  | .here => text
  | .up => ((Host.parent? (String.ofList text)).map String.toList).getD text
  | .name segment => Host.join text segment

theorem build_up {stack : List (List Char)} (h : IsPlace stack) :
    build (placeChars stack) .up = placeChars stack.tail := by
  unfold build
  rw [parent?_placeChars h]
  cases stack with
  | nil => rfl
  | cons name stack => simp

/-- Only the path to the root ends with a slash. -/
theorem getLast?_placeChars {name : List Char} (hname : IsName name) (stack : List (List Char)) :
    ∃ last, (placeChars (name :: stack)).getLast? = some last ∧ last ≠ '/' := by
  have hconcat := List.dropLast_concat_getLast hname.ne_nil
  refine ⟨name.getLast hname.ne_nil, ?_, fun hslash => hname.noSlash ?_⟩
  · rw [placeChars_cons]
    conv_lhs => rw [← hconcat]
    rw [← List.cons_append, ← List.append_assoc, List.getLast?_concat]
  · rw [← hslash]
    exact List.getLast_mem hname.ne_nil

theorem placeChars_eq_root_iff (stack : List (List Char)) (h : IsPlace stack) :
    String.ofList (placeChars stack) = "/" ↔ stack = [] := by
  rw [← String.toList_inj, String.toList_ofList]
  constructor
  · intro hroot
    cases stack with
    | nil => rfl
    | cons name stack =>
        obtain ⟨last, hlast, hslash⟩ := getLast?_placeChars (isPlace_cons_iff.1 h).1 stack
        rw [hroot] at hlast
        exact absurd (Option.some.inj hlast).symm hslash
  · rintro rfl
    rfl

theorem build_name {stack : List (List Char)} (h : IsPlace stack) {segment : List Char}
    (hsegment : IsName segment) :
    build (placeChars stack) (.name segment) = placeChars (segment :: stack) := by
  have hrelative : ¬ isAbsoluteChars segment = true := by
    intro habsolute
    obtain ⟨rest, rfl⟩ := exists_of_isAbsoluteChars habsolute
    exact hsegment.noSlash List.mem_cons_self
  rw [placeChars_cons]
  show Host.join (placeChars stack) segment = _
  unfold Host.join
  rw [if_neg hrelative]
  cases stack with
  | nil => rfl
  | cons name stack =>
      obtain ⟨last, hlast, hslash⟩ := getLast?_placeChars (isPlace_cons_iff.1 h).1 stack
      rw [hlast]
      split
      · cases ‹some last = none›
      · rename_i heq
        exact absurd (Option.some.inj heq) hslash
      · rfl

theorem foldl_build_segments {segments stack : List (List Char)} (hstack : IsPlace stack)
    (h : ∀ segment ∈ segments, '/' ∉ segment) :
    (segments.filterMap Host.component?).foldl build (placeChars stack) =
      placeChars (segments.foldl walkStep stack) := by
  induction segments generalizing stack with
  | nil => rfl
  | cons segment segments ih =>
      obtain ⟨hsegment, hrest⟩ := List.forall_mem_cons.1 h
      have hnext := hstack.step hsegment
      -- one step on the text leads to the path of the next place, and the rest of the walk from there
      rw [List.filterMap_cons, List.foldl_cons, ← ih hnext hrest]
      obtain ⟨hsome, hstep⟩ | ⟨hsome, hstep⟩ | ⟨hsome, hstep⟩ := component?_cases stack segment
      · rw [hsome, hstep]
      · rw [hsome, hstep, ← build_up hstack]
        rfl
      · have hname : IsName segment := (isPlace_cons_iff.1 (hstep ▸ hnext)).1
        rw [hsome, hstep, ← build_name hstack hname]
        rfl

/-- The steps of an absolute path, taken on texts, give the path to the place where it leads. -/
theorem foldl_build {path : List Char} (h : isAbsoluteChars path = true) :
    (Host.components path).foldl build [] = placeChars (walk [] path) := by
  obtain ⟨rest, rfl⟩ := exists_of_isAbsoluteChars h
  rw [walk_slash]
  exact foldl_build_segments isPlace_nil fun segment hsegment => not_mem_of_mem_splitOn hsegment

/-- What the host comes to is what its steps come to on texts. -/
theorem host_resolve_eq_build {cwd : String} (path : String) (hcwd : isAbsolute cwd = true) :
    Host.resolve cwd path =
      String.ofList ((Host.components (Host.join cwd.toList path.toList)).foldl build []) := by
  have hjoin := isAbsoluteChars_join path.toList hcwd
  unfold Host.resolve
  rw [foldl_components hjoin, foldl_build hjoin]
  rfl

end Bundler.Path
