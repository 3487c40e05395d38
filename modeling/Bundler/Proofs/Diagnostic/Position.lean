import Bundler.Diagnostic.Message
import Bundler.Proofs.Text.Bytes
import Mathlib.Data.List.DropRight
import Mathlib.Data.List.Induction

/-! # Lines and columns

A cursor keeps four numbers of what it has read. They are told here from the text alone
(`Cursor.behind`): how many lines have ended in it, where the last terminator ends, how long it is,
and whether a carriage return ends it. Each step of the cursor goes from the numbers of a text to
those of the text with one more character (`advance_behind`), so reading a text gives its numbers
(`foldl_advance`), and with them a place cuts the text as it should (`place_of_every_offset`).

The lines are counted as they end, and a carriage return ends one at once. A line feed behind it
ends no further line but moves the start of the line past itself. So an offset between the two has
the number of the line behind the break without being on it (`InsideBreak`); all other offsets with
one line number are on one line (`same_line_same_start_iff`). -/

set_option autoImplicit false

namespace Bundler

open Text (byteSize takeBytes splitBytes? IsBoundary)

/-! ## Terminators -/

/-- The characters that end a line. -/
def terminators : List Char := ['\n', '\r', '\u2028', '\u2029']

theorem isLineEnd_iff (c : Char) : isLineEnd c = true ↔ c ∈ terminators := by
  simp [isLineEnd, terminators, or_assoc]

/-- A text is the longest part from the front of another one that has no terminator in it. -/
structure IsLineOf (line rest : List Char) : Prop where
  front : line <+: rest
  free : ∀ c ∈ line, c ∉ terminators
  longest : ∀ other, other <+: rest → (∀ c ∈ other, c ∉ terminators) → other <+: line

theorem isLineOf_takeWhile (rest : List Char) :
    IsLineOf (rest.takeWhile fun c => !isLineEnd c) rest where
  front := List.takeWhile_prefix _
  free := by
    intro c hc
    have hopen := List.mem_takeWhile_imp hc
    rw [← isLineEnd_iff]
    simpa using hopen
  longest := by
    intro other hother hfree
    obtain ⟨more, rfl⟩ := hother
    rw [List.takeWhile_append_of_pos]
    · exact List.prefix_append _ _
    · intro c hc
      have hopen := hfree c hc
      rw [← isLineEnd_iff] at hopen
      simpa using hopen

/-! ## The numbers of a text -/

/-- The number of line feeds in a text that are not directly behind a carriage return. -/
def loneFeeds (text : List Char) : Nat :=
  (List.range text.length).countP fun i =>
    text[i]? = some '\n' ∧ (i = 0 ∨ text[i - 1]? ≠ some '\r')

/-- The number of lines that end in a text: with each carriage return, U+2028 and U+2029, and with
each line feed unless it is directly behind a carriage return. -/
def endedLines (text : List Char) : Nat :=
  text.countP (· ∈ ['\r', '\u2028', '\u2029']) + loneFeeds text

theorem loneFeeds_concat (text : List Char) (c : Char) :
    loneFeeds (text ++ [c]) =
      loneFeeds text + if c = '\n' ∧ text.getLast? ≠ some '\r' then 1 else 0 := by
  -- directly in front of the new character stands the last one of the text
  have hlast : text.length = 0 ∨ (text ++ [c])[text.length - 1]? ≠ some '\r' ↔
      text.getLast? ≠ some '\r' := by
    by_cases hempty : text = []
    · simp [hempty]
    · have hpos : 0 < text.length := List.length_pos_iff.2 hempty
      have hbefore : text.length - 1 < text.length := by omega
      rw [List.getElem?_append_left hbefore, List.getLast?_eq_getElem?]
      refine ⟨fun h => h.resolve_left ?_, .inr⟩
      omega
  unfold loneFeeds
  rw [List.length_append, List.length_singleton, List.range_succ, List.countP_append,
    List.countP_singleton]
  congr 1
  · refine List.countP_congr fun i hi => ?_
    have hi : i < text.length := List.mem_range.1 hi
    have hbefore : i - 1 < text.length := by omega
    rw [List.getElem?_append_left hi, List.getElem?_append_left hbefore]
  · simp only [List.getElem?_concat_length, Option.some.injEq, hlast, decide_eq_true_eq]

/-- A character behind a text ends a line. -/
def EndsLine (text : List Char) (c : Char) : Prop :=
  c ∈ ['\r', '\u2028', '\u2029'] ∨ c = '\n' ∧ text.getLast? ≠ some '\r'

instance (text : List Char) (c : Char) : Decidable (EndsLine text c) :=
  inferInstanceAs (Decidable (_ ∨ _))

theorem EndsLine.mem_terminators {text : List Char} {c : Char} (h : EndsLine text c) :
    c ∈ terminators := by
  rcases h with hother | ⟨rfl, -⟩
  · exact List.mem_cons_of_mem _ hother
  · exact List.mem_cons_self

theorem endedLines_concat (text : List Char) (c : Char) :
    endedLines (text ++ [c]) = endedLines text + if EndsLine text c then 1 else 0 := by
  unfold endedLines EndsLine
  rw [List.countP_append, List.countP_singleton, loneFeeds_concat]
  by_cases hother : c ∈ ['\r', '\u2028', '\u2029']
  · have hfeed : c ≠ '\n' := by
      rintro rfl
      exact absurd hother (by decide)
    simp only [hother, hfeed]
    simp
    omega
  · simp [hother]
    omega

theorem endedLines_le_append (text more : List Char) :
    endedLines text ≤ endedLines (text ++ more) := by
  induction more using List.reverseRecOn with
  | nil => rw [List.append_nil]
  | append_singleton more c ih =>
      rw [← List.append_assoc, endedLines_concat]
      exact ih.trans (Nat.le_add_right _ _)

/-- The lines of a text that have ended, with what ends them. -/
def closedLines (text : List Char) : List Char := text.rdropWhile fun c => !isLineEnd c

/-- The part of the last line that has not ended. -/
def openLine (text : List Char) : List Char := text.rtakeWhile fun c => !isLineEnd c

theorem closedLines_concat_of_mem (text : List Char) {c : Char} (h : c ∈ terminators) :
    closedLines (text ++ [c]) = text ++ [c] :=
  List.rdropWhile_concat_neg _ _ _ (by simp [(isLineEnd_iff c).2 h])

theorem closedLines_append (text : List Char) {more : List Char} (h : ∀ c ∈ more, c ∉ terminators) :
    closedLines (text ++ more) = closedLines text := by
  induction more using List.reverseRecOn with
  | nil => rw [List.append_nil]
  | append_singleton more c ih =>
      obtain ⟨hmore, hc⟩ := List.forall_mem_append.1 h
      have hopen : isLineEnd c = false := by
        rw [← Bool.not_eq_true, isLineEnd_iff]
        exact hc c List.mem_cons_self
      rw [← ih hmore, ← List.append_assoc]
      exact List.rdropWhile_concat_pos _ _ _ (by simp [hopen])

/-- The cursor that stands behind a text. -/
def Cursor.behind (text : List Char) : Cursor where
  line := endedLines text
  lineStart := byteSize (closedLines text)
  offset := byteSize text
  afterReturn := text.getLast? == some '\r'

/-- Reading one character goes from behind a text to behind the text with that character. -/
theorem advance_behind (text : List Char) (c : Char) :
    (Cursor.behind text).advance c = .behind (text ++ [c]) := by
  have hoffset : byteSize (text ++ [c]) = byteSize text + c.utf8Size := Text.byteSize_append text [c]
  have hlast : (text ++ [c]).getLast? = some c := List.getLast?_concat
  unfold Cursor.advance Cursor.behind
  rw [endedLines_concat, hoffset, hlast]
  by_cases hend : c ∈ terminators
  · rw [closedLines_concat_of_mem text hend, hoffset]
    by_cases hfeed : c = '\n'
    · subst hfeed
      by_cases hreturn : text.getLast? = some '\r'
      · simp [EndsLine, hreturn]
      · simp [EndsLine, hreturn]
    · have hother : c ∈ ['\r', '\u2028', '\u2029'] :=
        (List.mem_cons.1 hend).resolve_left hfeed
      have hends : EndsLine text c := .inl hother
      simp [(isLineEnd_iff c).2 hend, hfeed, hends]
  · have hopen : isLineEnd c = false := by rwa [← Bool.not_eq_true, isLineEnd_iff]
    have hclosed : closedLines (text ++ [c]) = closedLines text :=
      closedLines_append text (by simpa using hend)
    have hnot : ¬ EndsLine text c := fun h => hend h.mem_terminators
    have hfeed : c ≠ '\n' := by
      rintro rfl
      exact hend List.mem_cons_self
    have hreturn : c ≠ '\r' := by
      rintro rfl
      exact hend (List.mem_cons_of_mem _ List.mem_cons_self)
    simp [hopen, hclosed, hnot, hfeed, hreturn]

theorem foldl_advance (text : List Char) :
    text.foldl Cursor.advance .start = .behind text := by
  induction text using List.reverseRecOn with
  | nil => rfl
  | append_singleton text c ih =>
      rw [List.foldl_append, ih]
      exact advance_behind text c

/-! ## Places -/

/-- The place that stands behind a text. -/
def Position.behind (text : List Char) : Position where
  line := endedLines text
  column := byteSize (openLine text)
  lineStart := byteSize (closedLines text)

theorem closedLines_append_openLine (text : List Char) :
    closedLines text ++ openLine text = text := List.rdropWhile_append_rtakeWhile

theorem ofOffset_eq (contents : List Char) (offset : Nat) :
    Position.ofOffset contents offset = .behind (takeBytes offset contents) := by
  unfold Position.ofOffset
  rw [foldl_advance]
  generalize takeBytes offset contents = text
  have hsize : byteSize text = byteSize (closedLines text) + byteSize (openLine text) := by
    rw [← Text.byteSize_append, closedLines_append_openLine]
  simp only [Cursor.behind, Position.behind, Position.mk.injEq, true_and, and_true]
  omega

/-- A place says where in a text the byte offset `stop` is. It cuts the text into the lines `before`
its own, the `part` of its own line in front of the offset, and what comes `after`. -/
structure Position.IsAt (p : Position) (contents : List Char) (stop : Nat)
    (before part after : List Char) : Prop where
  /-- Both offsets are between characters. -/
  cutAtOffset : splitBytes? stop contents = some (before ++ part, after)
  cutAtLine : splitBytes? p.lineStart contents = some (before, part ++ after)
  column : p.lineStart + p.column = stop
  /-- The line begins with the text or behind a terminator. -/
  begins : before = [] ∨ ∃ c ∈ terminators, before.getLast? = some c
  /-- It goes on up to the offset. -/
  free : ∀ c ∈ part, c ∉ terminators
  line : p.line = endedLines (before ++ part)
  /-- What is shown of it is the whole line, beyond the offset too. -/
  shown : part <+: lineAt contents p.lineStart
  whole : IsLineOf (lineAt contents p.lineStart) (part ++ after)

theorem lineAt_of_cut {contents before rest : List Char} {lineStart : Nat}
    (h : splitBytes? lineStart contents = some (before, rest)) :
    lineAt contents lineStart = rest.takeWhile fun c => !isLineEnd c := by
  unfold lineAt
  rw [h]

theorem isAt_behind (text after : List Char) :
    (Position.behind text).IsAt (text ++ after) (byteSize text) (closedLines text) (openLine text)
      after := by
  have hparts := closedLines_append_openLine text
  have hcut : splitBytes? (byteSize (closedLines text)) (text ++ after) =
      some (closedLines text, openLine text ++ after) := by
    rw [Text.splitBytes?_eq_some_iff, ← List.append_assoc, hparts]
    exact ⟨rfl, rfl⟩
  have hfree : ∀ c ∈ openLine text, c ∉ terminators := by
    intro c hc
    have hopen := List.mem_rtakeWhile_imp hc
    rw [← isLineEnd_iff]
    simpa using hopen
  have hline := isLineOf_takeWhile (openLine text ++ after)
  rw [← lineAt_of_cut hcut] at hline
  exact
    { cutAtOffset := by
        rw [hparts]
        exact Text.splitBytes?_append text after
      cutAtLine := hcut
      column := by
        show byteSize (closedLines text) + byteSize (openLine text) = byteSize text
        rw [← Text.byteSize_append, hparts]
      begins := by
        by_cases hempty : closedLines text = []
        · exact .inl hempty
        · have hlast : ¬ (!isLineEnd ((closedLines text).getLast hempty)) = true :=
            List.rdropWhile_last_not _ _ hempty
          refine .inr ⟨_, ?_, List.getLast?_eq_some_getLast hempty⟩
          rw [← isLineEnd_iff]
          simpa using hlast
      free := hfree
      line := by rw [hparts]; rfl
      shown := hline.longest _ (List.prefix_append _ _) hfree
      whole := hline }

/-- Every offset has a place, which is that of the last boundary not past the offset and the end of
the text. -/
theorem place_of_every_offset (contents : List Char) (offset : Nat) :
    ∃ stop, IsGreatest {b | IsBoundary contents b ∧ b ≤ min offset (byteSize contents)} stop ∧
      ∃ before part after,
        (Position.ofOffset contents offset).IsAt contents stop before part after := by
  obtain ⟨after, hafter⟩ := Text.takeBytes_prefix offset contents
  have hat := isAt_behind (takeBytes offset contents) after
  rw [hafter, ← ofOffset_eq] at hat
  exact ⟨_, Text.isGreatest_takeBytes offset contents, _, _, after, hat⟩

example : Position.ofOffset "é\r\nab\u2028c".toList 6 = ⟨1, 2, 4⟩ := by decide

/-! ## Line breaks of two characters -/

/-- A byte offset is between a carriage return and a line feed. -/
def InsideBreak (contents : List Char) (offset : Nat) : Prop :=
  ∃ before after, contents = before ++ '\r' :: '\n' :: after ∧ offset = byteSize before + 1

theorem byteSize_concat_return (text : List Char) : byteSize (text ++ ['\r']) = byteSize text + 1 :=
  Text.byteSize_append _ _

theorem takeBytes_insideBreak (before after : List Char) :
    takeBytes (byteSize before + 1) (before ++ '\r' :: '\n' :: after) = before ++ ['\r'] := by
  rw [List.append_cons, ← byteSize_concat_return]
  exact Text.takeBytes_append _ _

/-- It is where the text is cut between the two. -/
theorem insideBreak_iff {contents text rest : List Char} {offset : Nat}
    (htext : takeBytes offset contents = text) (hrest : text ++ rest = contents) :
    InsideBreak contents offset ↔ text.getLast? = some '\r' ∧ rest.head? = some '\n' := by
  constructor
  · rintro ⟨before, after, rfl, rfl⟩
    rw [takeBytes_insideBreak] at htext
    subst htext
    have hrest : rest = '\n' :: after := by simpa using hrest
    rw [hrest]
    exact ⟨List.getLast?_concat, rfl⟩
  · rintro ⟨hlast, hhead⟩
    obtain ⟨before, rfl⟩ := List.getLast?_eq_some_iff.1 hlast
    obtain ⟨after, rfl⟩ := List.head?_eq_some_iff.1 hhead
    refine ⟨before, after, by simpa using hrest.symm, ?_⟩
    -- the line feed takes one byte, and no part of it is in front of the offset
    have hle := Text.byteSize_takeBytes_le offset contents
    have hcut : contents = takeBytes offset contents ++ '\n' :: after := by rw [htext, hrest]
    have hlt := Text.lt_byteSize_takeBytes_add hcut
    have hfeed : Char.utf8Size '\n' = 1 := rfl
    rw [htext, byteSize_concat_return] at hle hlt
    omega

/-- If no line ends in what is put behind a text, there is no terminator in it, but for the line
feed of a break that the text was cut in. -/
theorem no_terminator_of_endedLines {text more : List Char}
    (h : endedLines (text ++ more) = endedLines text) :
    (∀ c ∈ more, c ∉ terminators) ∨
      text.getLast? = some '\r' ∧ ∃ rest, more = '\n' :: rest ∧ ∀ c ∈ rest, c ∉ terminators := by
  induction more generalizing text with
  | nil => exact .inl (List.forall_mem_nil _)
  | cons c more ih =>
      rw [List.append_cons] at h
      have hle := endedLines_le_append (text ++ [c]) more
      rw [h, endedLines_concat] at hle
      have hc : ¬ EndsLine text c := by
        intro hends
        rw [if_pos hends] at hle
        omega
      have hrest : ∀ d ∈ more, d ∉ terminators := by
        have hsame : endedLines (text ++ [c]) = endedLines text := by
          rw [endedLines_concat, if_neg hc, Nat.add_zero]
        refine (ih (h.trans hsame.symm)).resolve_right ?_
        rintro ⟨hreturn, -⟩
        rw [List.getLast?_concat, Option.some.injEq] at hreturn
        exact hc (.inl (hreturn ▸ List.mem_cons_self))
      by_cases hend : c ∈ terminators
      · -- what ends no line here, although it can, is a line feed behind a carriage return
        have hfeed : c = '\n' := (List.mem_cons.1 hend).resolve_right fun hother => hc (.inl hother)
        have hreturn : text.getLast? = some '\r' :=
          Decidable.of_not_not fun hother => hc (.inr ⟨hfeed, hother⟩)
        exact .inr ⟨hreturn, more, by rw [hfeed], hrest⟩
      · exact .inl (List.forall_mem_cons.2 ⟨hend, hrest⟩)

/-- Nor does it end with a carriage return. -/
theorem getLast?_ne_return {text more : List Char} (hne : more ≠ [])
    (h : endedLines (text ++ more) = endedLines text) :
    (text ++ more).getLast? ≠ some '\r' := by
  obtain ⟨more, c, rfl⟩ := (List.eq_nil_or_concat' more).resolve_left hne
  rw [← List.append_assoc] at h ⊢
  have hle := endedLines_le_append text more
  rw [endedLines_concat] at h
  rw [List.getLast?_concat]
  intro hreturn
  obtain rfl := Option.some.inj hreturn
  rw [if_pos (.inl List.mem_cons_self)] at h
  omega

/-- Two cuts of a text, with as many lines in front of the one as in front of the other: the line
that is open there begins at the same place unless just one of the cuts is in a break. -/
theorem closedLines_eq_iff {text more rest : List Char}
    (h : endedLines (text ++ more) = endedLines text) :
    closedLines (text ++ more) = closedLines text ↔
      (text.getLast? = some '\r' ∧ (more ++ rest).head? = some '\n' ↔
        (text ++ more).getLast? = some '\r' ∧ rest.head? = some '\n') := by
  by_cases hne : more = []
  · simp [hne]
  have hlater : ¬ ((text ++ more).getLast? = some '\r' ∧ rest.head? = some '\n') :=
    fun hinside => getLast?_ne_return hne h hinside.1
  rw [iff_false_right hlater]
  rcases no_terminator_of_endedLines h with hmore | ⟨hreturn, tail, rfl, htail⟩
  · refine ⟨fun _ => ?_, fun _ => closedLines_append text hmore⟩
    rintro ⟨-, hfeed⟩
    rw [List.head?_append_of_ne_nil _ hne] at hfeed
    exact hmore '\n' (List.mem_of_head? hfeed) (by decide)
  · have hlong : closedLines (text ++ '\n' :: tail) = text ++ ['\n'] := by
      rw [List.append_cons, closedLines_append _ htail]
      exact closedLines_concat_of_mem text (by decide)
    have hshort : closedLines text = text := by
      obtain ⟨before, rfl⟩ := List.getLast?_eq_some_iff.1 hreturn
      exact closedLines_concat_of_mem before (by decide)
    rw [hlong, hshort]
    simp [hreturn]

/-- Offsets with one line number have one start of the line unless just one of them is in a break. -/
theorem lineStart_eq_iff {contents : List Char} {m n : Nat}
    (hline : (Position.ofOffset contents m).line = (Position.ofOffset contents n).line) :
    (Position.ofOffset contents m).lineStart = (Position.ofOffset contents n).lineStart ↔
      (InsideBreak contents m ↔ InsideBreak contents n) := by
  wlog hmn : takeBytes m contents <+: takeBytes n contents generalizing m n
  · have hm := Text.takeBytes_prefix m contents
    have hn := Text.takeBytes_prefix n contents
    have hnm := (List.prefix_or_prefix_of_prefix hm hn).resolve_left hmn
    rw [eq_comm, iff_comm (a := InsideBreak contents m)]
    exact this hline.symm hnm
  obtain ⟨more, hmore⟩ := hmn
  obtain ⟨rest, hrest⟩ := Text.takeBytes_prefix n contents
  rw [ofOffset_eq, ofOffset_eq] at hline ⊢
  generalize htext : takeBytes m contents = text at hmore hline ⊢
  rw [← hmore] at hrest hline ⊢
  have hcontents : text ++ (more ++ rest) = contents := by rw [← List.append_assoc, hrest]
  rw [insideBreak_iff htext hcontents, insideBreak_iff hmore.symm hrest,
    ← closedLines_eq_iff hline.symm, eq_comm]
  -- both are parts from the front of the text, so they are the same if they have as many bytes
  have hclosed (front : List Char) : closedLines front <+: front := List.rdropWhile_prefix _ _
  have hfront : closedLines text <+: text ++ more :=
    (hclosed text).trans (List.prefix_append text more)
  exact ⟨Text.eq_of_byteSize_eq (hclosed (text ++ more)) hfront, congrArg byteSize⟩

/-- An offset in a break has a line of its own: it begins there, and nothing is on it. -/
theorem ofOffset_insideBreak {contents : List Char} {offset : Nat}
    (h : InsideBreak contents offset) :
    (Position.ofOffset contents offset).lineStart = offset ∧
      (Position.ofOffset contents offset).column = 0 ∧
      lineAt contents (Position.ofOffset contents offset).lineStart = [] := by
  obtain ⟨before, after, rfl, rfl⟩ := h
  have hclosed : closedLines (before ++ ['\r']) = before ++ ['\r'] :=
    closedLines_concat_of_mem before (by decide)
  have hopen : openLine (before ++ ['\r']) = [] := List.rtakeWhile_concat_neg _ _ _ (by decide)
  have hplace : Position.ofOffset (before ++ '\r' :: '\n' :: after) (byteSize before + 1) =
      ⟨endedLines (before ++ ['\r']), 0, byteSize before + 1⟩ := by
    rw [ofOffset_eq, takeBytes_insideBreak, Position.behind, hclosed, hopen, byteSize_concat_return]
    rfl
  have hcut : splitBytes? (byteSize before + 1) (before ++ '\r' :: '\n' :: after) =
      some (before ++ ['\r'], '\n' :: after) := by
    rw [Text.splitBytes?_eq_some_iff, byteSize_concat_return, ← List.append_cons]
    exact ⟨rfl, rfl⟩
  rw [hplace]
  exact ⟨rfl, rfl, lineAt_of_cut hcut⟩

/-- A line number stands for one line, apart from breaks of two characters. Of two spans that are
reported with one line number, the lines begin at the same place unless just one of the spans begins
in a break; so otherwise the same text is shown. A span that begins in a break is reported with an
empty line. -/
theorem same_line_same_start_iff (source : Source) (s t : Span)
    (hline : (source.locate s).line = (source.locate t).line) :
    let contents := source.contents.toList
    ((Position.ofOffset contents s.start).lineStart =
        (Position.ofOffset contents t.start).lineStart ↔
      (InsideBreak contents s.start ↔ InsideBreak contents t.start)) ∧
    ((InsideBreak contents s.start ↔ InsideBreak contents t.start) →
      (source.locate s).lineText = (source.locate t).lineText) ∧
    (InsideBreak contents s.start →
      (source.locate s).column = 0 ∧ (source.locate s).lineText = "") := by
  intro contents
  have hstart := lineStart_eq_iff (Nat.succ.inj hline)
  refine ⟨hstart, fun hinside => ?_, fun hinside => ?_⟩
  · have htext := congrArg (lineAt contents) (hstart.2 hinside)
    exact congrArg String.ofList htext
  · obtain ⟨-, hcolumn, htext⟩ := ofOffset_insideBreak hinside
    exact ⟨hcolumn, congrArg String.ofList htext⟩

/-- Two spans on the second line of a text, behind a break of two characters. -/
theorem same_line_same_start_second :
    let source : Source := ⟨"in.js", "a\r\nbc"⟩
    let s : Span := ⟨3, 4⟩
    let t : Span := ⟨4, 5⟩
    (source.locate s).line = (source.locate t).line ∧
      (source.locate s).lineText = (source.locate t).lineText := by
  intro source s t
  have hline : (source.locate s).line = (source.locate t).line := by decide
  have hstart := same_line_same_start_iff source s t hline
  exact ⟨hline, hstart.2.1 (hstart.1.1 (by decide))⟩

/-- In a break the number of the line is that of the line behind it, but not the line. -/
theorem two_starts_of_one_line :
    let source : Source := ⟨"in.js", "a\r\nb"⟩
    let s : Span := ⟨2, 3⟩
    let t : Span := ⟨3, 4⟩
    let place (span : Span) := Position.ofOffset source.contents.toList span.start
    ¬ ((place s).line = (place t).line →
      (place s).lineStart = (place t).lineStart ∧
        (source.locate s).lineText = (source.locate t).lineText) := by
  decide

end Bundler
