import Bundler.Diagnostic.Render
import Bundler.Proofs.Diagnostic.Position

/-! # What the marker stands under

A span is given in bytes, and the marker under its line is measured in characters. Both are told here
by the characters that begin in a range of byte offsets (`Span.characters`): those from the start of
the line up to the span are the ones in front of the marker, and those of the span that are on the
line are the ones it covers. The characters between two cuts of a text are those of the part between
them (`characters_append`); so if a span begins and ends between characters, the cuts that the
rendering makes are there, and the parts are as long as they should be
(`Position.IsAt.underline`). -/

set_option autoImplicit false

namespace Bundler

open Text (byteSize takeBytes splitBytes? IsBoundary)

/-! ## Ranges of offsets -/

namespace Span

/-- The byte offsets that are in both ranges. -/
def meet (s t : Span) : Span := ⟨max s.start t.start, min s.stop t.stop⟩

/-- A character of a text, given by its index, begins in the range. -/
def Covers (span : Span) (contents : List Char) (index : Nat) : Prop :=
  span.start ≤ byteSize (contents.take index) ∧ byteSize (contents.take index) < span.stop

instance (span : Span) (contents : List Char) (index : Nat) :
    Decidable (span.Covers contents index) := inferInstanceAs (Decidable (_ ∧ _))

/-- The characters of a text that begin in the range. -/
def characters (span : Span) (contents : List Char) : List Char :=
  (contents.zipIdx.filter fun (_, index) => span.Covers contents index).map Prod.fst

end Span

/-- A character begins in front of a cut exactly when it is in front of it. -/
theorem byteSize_take_lt_iff (front back : List Char) (index : Nat) :
    byteSize ((front ++ back).take index) < byteSize front ↔ index < front.length := by
  rw [List.take_append]
  by_cases h : index < front.length
  · have hrest : (front.drop index) ≠ [] := by simpa using h
    have hpos : byteSize (front.drop index) ≠ 0 := fun hzero =>
      hrest ((Text.byteSize_eq_zero_iff _).1 hzero)
    have hsum : byteSize (front.take index) + byteSize (front.drop index) = byteSize front := by
      rw [← Text.byteSize_append, List.take_append_drop]
    have hnone : index - front.length = 0 := by omega
    rw [hnone, List.take_zero, List.append_nil]
    simp only [h, iff_true]
    omega
  · rw [List.take_of_length_le (by omega), Text.byteSize_append]
    simp only [h, iff_false]
    omega

/-- The elements of a list whose indices are those of a part of it. -/
theorem filter_zipIdx_part {α : Type} (front mid back : List α) :
    (front ++ mid ++ back).zipIdx.filter (fun (_, index) =>
      front.length ≤ index ∧ index < front.length + mid.length) = mid.zipIdx front.length := by
  have hfront : front.zipIdx.filter (fun (_, index) =>
      front.length ≤ index ∧ index < front.length + mid.length) = [] := by
    refine List.filter_eq_nil_iff.2 fun entry hentry => ?_
    have hbelow := List.snd_lt_add_of_mem_zipIdx hentry
    simp only [decide_eq_true_eq]
    omega
  have hmid : (mid.zipIdx front.length).filter (fun (_, index) =>
      front.length ≤ index ∧ index < front.length + mid.length) = mid.zipIdx front.length := by
    refine List.filter_eq_self.2 fun entry hentry => ?_
    have habove := List.le_snd_of_mem_zipIdx hentry
    have hbelow := List.snd_lt_add_of_mem_zipIdx hentry
    simp only [decide_eq_true_eq]
    omega
  have hback : (back.zipIdx (front.length + mid.length)).filter (fun (_, index) =>
      front.length ≤ index ∧ index < front.length + mid.length) = [] := by
    refine List.filter_eq_nil_iff.2 fun entry hentry => ?_
    have habove := List.le_snd_of_mem_zipIdx hentry
    simp only [decide_eq_true_eq]
    omega
  rw [List.zipIdx_append, List.zipIdx_append, List.filter_append, List.filter_append,
    List.length_append, Nat.zero_add, Nat.zero_add, hfront, hmid, hback, List.nil_append,
    List.append_nil]

/-- The characters between two cuts are those of the part between them. -/
theorem characters_append (front mid back : List Char) :
    Span.characters ⟨byteSize front, byteSize (front ++ mid)⟩ (front ++ mid ++ back) = mid := by
  have hcovers (index : Nat) :
      Span.Covers ⟨byteSize front, byteSize (front ++ mid)⟩ (front ++ mid ++ back) index ↔
        front.length ≤ index ∧ index < front.length + mid.length := by
    unfold Span.Covers
    rw [byteSize_take_lt_iff, List.append_assoc, ← Nat.not_lt, byteSize_take_lt_iff, Nat.not_lt,
      List.length_append]
  unfold Span.characters
  simp only [hcovers]
  rw [filter_zipIdx_part, List.zipIdx_map_fst]

/-- No character begins at the end of a text or past it. -/
theorem characters_eq_nil {span : Span} {contents : List Char}
    (h : byteSize contents ≤ span.start) : span.characters contents = [] := by
  refine List.map_eq_nil_iff.2 (List.filter_eq_nil_iff.2 ?_)
  rintro ⟨c, index⟩ hentry
  have hindex : index < contents.length := by
    simpa using List.snd_lt_add_of_mem_zipIdx hentry
  have hlt := (byteSize_take_lt_iff contents [] index).2 hindex
  rw [List.append_nil] at hlt
  intro hcovers
  obtain ⟨hle, -⟩ : span.Covers contents index := of_decide_eq_true hcovers
  omega

/-! ## Cuts -/

/-- A byte offset is between characters, or past the end. -/
def IsCut (contents : List Char) (offset : Nat) : Prop :=
  IsBoundary contents offset ∨ byteSize contents ≤ offset

/-- Nothing is lost in front of a cut. -/
theorem IsCut.byteSize_takeBytes {contents : List Char} {offset : Nat} (h : IsCut contents offset) :
    byteSize (takeBytes offset contents) = min offset (byteSize contents) := by
  have hgreatest := Text.isGreatest_takeBytes offset contents
  refine Nat.le_antisymm hgreatest.1.2 (hgreatest.2 ⟨?_, Nat.le_refl _⟩)
  rcases h with ⟨front, hfront, rfl⟩ | hpast
  · obtain ⟨back, rfl⟩ := hfront
    have hle : byteSize front ≤ byteSize (front ++ back) := by
      rw [Text.byteSize_append]
      omega
    rw [Nat.min_eq_left hle]
    exact ⟨front, List.prefix_append front back, rfl⟩
  · rw [Nat.min_eq_right hpast]
    exact ⟨contents, List.prefix_rfl, rfl⟩

/-! ## The marker -/

/-- A marker below a line that is cut at a column and where the span ends on it. -/
theorem ofColumn_eq {part rest covered : List Char} {size : Nat} (hcovered : covered <+: rest)
    (hsize : byteSize covered = min size (byteSize rest)) :
    Underline.ofColumn (part ++ rest) (byteSize part) size = ⟨part.length, covered.length⟩ := by
  obtain ⟨more, rfl⟩ := hcovered
  have hcolumn : min (byteSize part) (byteSize (part ++ (covered ++ more))) = byteSize part := by
    rw [Text.byteSize_append]
    omega
  unfold Underline.ofColumn
  rw [hcolumn, Text.splitBytes?_append]
  dsimp only [Option.getD_some]
  rw [← hsize, Text.splitBytes?_append]
  rfl

/-- The characters of a span up to the end of a line, as far as they go: `front` is what stands in
front of the span, and `rest` is the rest of the line. -/
theorem exists_covered {contents front rest : List Char} {span : Span}
    (hspan : span.start ≤ span.stop) (hstop : IsCut contents span.stop)
    (hfront : byteSize front = min span.start (byteSize contents))
    (hline : front ++ rest <+: contents) :
    ∃ covered, covered <+: rest ∧ byteSize covered = min span.size (byteSize rest) ∧
      Span.characters ⟨span.start, min span.stop (byteSize (front ++ rest))⟩ contents = covered := by
  obtain ⟨back, rfl⟩ := hline
  have hsum : byteSize (front ++ rest ++ back) = byteSize front + byteSize rest + byteSize back := by
    rw [Text.byteSize_append, Text.byteSize_append]
  have hrest : byteSize (front ++ rest) = byteSize front + byteSize rest :=
    Text.byteSize_append front rest
  have hsize : span.size = span.stop - span.start := rfl
  by_cases hpast : byteSize (front ++ rest ++ back) ≤ span.start
  · refine ⟨[], List.nil_prefix, ?_, characters_eq_nil hpast⟩
    show 0 = _
    omega
  · have hstart : span.start = byteSize front := by omega
    by_cases hend : span.stop < byteSize (front ++ rest)
    -- the span ends on the line
    · obtain ⟨upto, hupto, hsize'⟩ := hstop.resolve_right (by omega)
      have hline : front ++ rest <+: front ++ rest ++ back := List.prefix_append _ _
      obtain ⟨covered, rfl⟩ := Text.prefix_of_byteSize_le
        ((List.prefix_append front rest).trans hline) hupto (by omega)
      have hcovered : covered <+: rest := by
        rw [← List.prefix_append_right_inj front]
        exact Text.prefix_of_byteSize_le hupto hline (by omega)
      obtain ⟨more, rfl⟩ := hcovered
      have hshort : byteSize (front ++ covered) = byteSize front + byteSize covered :=
        Text.byteSize_append front covered
      have hmore : byteSize (covered ++ more) = byteSize covered + byteSize more :=
        Text.byteSize_append covered more
      refine ⟨covered, List.prefix_append covered more, by omega, ?_⟩
      rw [Nat.min_eq_left hend.le, ← hsize', hstart, ← List.append_assoc, List.append_assoc _ more]
      exact characters_append front covered (more ++ back)
    -- it goes on behind the line
    · refine ⟨rest, List.prefix_rfl, by omega, ?_⟩
      rw [Nat.min_eq_right (by omega), hstart]
      exact characters_append front rest back

/-- The marker of a span below the line that it begins on. -/
theorem Position.IsAt.underline {p : Position} {contents closed part after : List Char}
    {offset : Nat} {span : Span} (hat : p.IsAt contents offset closed part after)
    (hoffset : offset = min span.start (byteSize contents)) (hspan : span.start ≤ span.stop)
    (hstop : IsCut contents span.stop) :
    let line := lineAt contents p.lineStart
    let before := Span.characters ⟨p.lineStart, offset⟩ contents
    let covered := (span.meet ⟨p.lineStart, p.lineStart + byteSize line⟩).characters contents
    before ++ covered <+: line ∧
      Underline.ofColumn line p.column span.size = ⟨before.length, covered.length⟩ := by
  obtain ⟨hcontents, hfront⟩ := Text.splitBytes?_eq_some_iff.1 hat.cutAtOffset
  obtain ⟨-, hlineStart⟩ := Text.splitBytes?_eq_some_iff.1 hat.cutAtLine
  have hparts : byteSize (closed ++ part) = byteSize closed + byteSize part :=
    Text.byteSize_append closed part
  have hcolumn : p.column = byteSize part := by
    have hsum := hat.column
    omega
  -- the line goes on behind the start of the span
  obtain ⟨rest, hline⟩ := hat.shown
  have hwhole : closed ++ part ++ rest <+: contents := by
    rw [hcontents, List.prefix_append_right_inj, ← List.prefix_append_right_inj part, hline]
    exact hat.whole.front
  obtain ⟨covered, hprefix, hsize, hcovered⟩ :=
    exists_covered hspan hstop (hfront.trans hoffset) hwhole
  have hmeet : span.meet ⟨p.lineStart, p.lineStart + byteSize (part ++ rest)⟩ =
      ⟨span.start, min span.stop (byteSize (closed ++ part ++ rest))⟩ := by
    have hmax : max span.start p.lineStart = span.start := Nat.max_eq_left (by omega)
    rw [List.append_assoc, Text.byteSize_append closed, hlineStart]
    unfold Span.meet
    rw [hmax]
  have hbefore : Span.characters ⟨p.lineStart, offset⟩ contents = part := by
    rw [← hlineStart, ← hfront, hcontents]
    exact characters_append closed part after
  dsimp only
  rw [← hline, hmeet, hcovered, hbefore, hcolumn]
  exact ⟨(List.prefix_append_right_inj part).2 hprefix, ofColumn_eq hprefix hsize⟩

/-- The marker of a span that begins and ends between characters, or past the end of the text. It
stands under the line that is shown, behind as many blanks as there are characters from the start of
the line up to the span, and has a character for each one of the span that is on the line, but at
least the caret. What is in front of it and what it covers is in front on the line, so it reaches at
most one column past the end. -/
theorem marker_under_span (severity : Severity) (text : String) (source : Source) (span : Span)
    (hspan : span.start ≤ span.stop) (hstart : IsCut source.contents.toList span.start)
    (hstop : IsCut source.contents.toList span.stop) :
    let contents := source.contents.toList
    let place := Position.ofOffset contents span.start
    let line := lineAt contents place.lineStart
    let before := Span.characters ⟨place.lineStart, min span.start (byteSize contents)⟩ contents
    let covered :=
      (span.meet ⟨place.lineStart, place.lineStart + byteSize line⟩).characters contents
    (Diagnostic.mk severity text (some (source, span))).render true false =
      source.name ++ ":" ++ toString (place.line + 1) ++ ":" ++ toString place.column ++ ": "
        ++ severity.label ++ ": " ++ text ++ "\n"
        ++ String.ofList line ++ "\n"
        ++ String.ofList (List.replicate before.length ' ') ++ "^"
        ++ String.ofList (List.replicate (max 1 covered.length - 1) '~') ++ "\n" ∧
    before ++ covered <+: line ∧
    before.length + max 1 covered.length ≤ line.length + 1 := by
  intro contents place line before covered
  obtain ⟨after, hafter⟩ := Text.takeBytes_prefix span.start contents
  have hat := isAt_behind (takeBytes span.start contents) after
  rw [hafter, ← ofOffset_eq, hstart.byteSize_takeBytes] at hat
  obtain ⟨hfront, hunder⟩ : before ++ covered <+: line ∧
      Underline.ofColumn line place.column span.size = ⟨before.length, covered.length⟩ :=
    hat.underline rfl hspan hstop
  have htildes : max 1 covered.length - 1 = covered.length - 1 := by omega
  refine ⟨?_, hfront, ?_⟩
  · show source.name ++ ":" ++ toString (place.line + 1) ++ ":" ++ toString place.column ++ ": "
        ++ severity.label ++ ": " ++ text ++ "\n" ++ String.ofList line ++ "\n"
        ++ (Underline.ofColumn line place.column span.size).blanks
        ++ (Underline.ofColumn line place.column span.size).mark ++ "\n" = _
    rw [hunder, htildes, Underline.blanks, Underline.mark]
    simp only [String.append_assoc]
  · have hlength := hfront.length_le
    rw [List.length_append] at hlength
    omega

/-- A span that begins behind characters of several bytes and goes on past its line and past the end
of the text. -/
theorem marker_under_span_mixed :
    let source : Source := ⟨"in.js", "é\r\n aü→b\u2028c"⟩
    let span : Span := ⟨6, 99⟩
    span.start ≤ span.stop ∧ IsCut source.contents.toList span.start ∧
      IsCut source.contents.toList span.stop ∧
      (Diagnostic.mk .error "bad" (some (source, span))).render true false =
        "in.js:2:2: error: bad\n aü→b\n  ^~~\n" := by
  intro source span
  have hspan : span.start ≤ span.stop := by decide
  have hstart : IsCut source.contents.toList span.start :=
    .inl ⟨"é\r\n a".toList, by decide, by decide⟩
  have hstop : IsCut source.contents.toList span.stop := .inr (by decide)
  have hrender := (marker_under_span .error "bad" source span hspan hstart hstop).1
  exact ⟨hspan, hstart, hstop, hrender.trans (by decide +kernel)⟩

end Bundler
