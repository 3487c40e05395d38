import Bundler.Diagnostic.Render

/-! # What styles add to a printed diagnostic

A terminal reads what is printed as signs: characters to show, and escape sequences that say how the
next ones look (`Terminal.signs`). It keeps what it has been told until a reset, so a style that is
left on would be seen in all that is printed later (`Terminal.shown`).

A printed diagnostic is a row of chunks, of which some have a style (`Diagnostic.chunks`). A chunk
whose text holds no escape character is read as its characters between the two sequences of its
style (`Chunk.signs_paint`), and behind it the terminal is as it was in front. So an induction over
the chunks tells what a terminal shows of the whole, whatever is printed next
(`shown_paintChunks`); and without the sequences the chunks are what is printed without styles. -/

set_option autoImplicit false

namespace Bundler

/-! ## What a terminal reads -/

namespace Terminal

/-- Whether a character can stand among the parameters of an escape sequence. -/
def isParameter (c : Char) : Bool := '0' ≤ c && c ≤ '?'

/-- The parameters of the styling sequence at the beginning of a text, if there is one: it stands
between `ESC [` and `m`. -/
def parameters? : List Char → Option (List Char)
  | '\x1b' :: '[' :: rest =>
    if (rest.dropWhile isParameter).head? = some 'm' then some (rest.takeWhile isParameter)
    else none
  | _ => none

/-- What a terminal is told: to show a character, or how to show the next ones. -/
inductive Sign
  | char (c : Char)
  | style (parameters : List Char)
  deriving DecidableEq, Repr

/-- The signs of a text behind a sequence of which so many characters are still to come. -/
def signsFrom : Nat → List Char → List Sign
  | _, [] => []
  | pending + 1, _ :: rest => signsFrom pending rest
  | 0, c :: rest =>
    match parameters? (c :: rest) with
    | some parameters => .style parameters :: signsFrom (parameters.length + 2) rest
    | none => .char c :: signsFrom 0 rest

/-- The signs of a text. -/
def signs (cs : List Char) : List Sign := signsFrom 0 cs

/-- The characters among the signs. -/
def characters (signs : List Sign) : List Char :=
  signs.filterMap fun
    | .char c => some c
    | .style _ => none

/-- The sequences among the signs. -/
def sequences (signs : List Sign) : List (List Char) :=
  signs.filterMap fun
    | .char _ => none
    | .style parameters => some parameters

/-- A text without its styling sequences. -/
def unstyled (text : String) : String := String.ofList (characters (signs text.toList))

/-- Whether a sequence turns every style off: it has no parameters, or zeros only. -/
def isReset (parameters : List Char) : Bool := parameters.all (· == '0')

/-- Sequences by twos: one that turns a style on, and the reset that turns it off. -/
inductive Alternates : List (List Char) → Prop
  | nil : Alternates []
  | turn {opening reset : List Char} {rest : List (List Char)} (hopening : isReset opening = false)
      (hreset : isReset reset = true) (hrest : Alternates rest) : Alternates (opening :: reset :: rest)

/-- What a terminal shows, each character with the sequences in force there. `on` are the ones in
force at the beginning. -/
def shown (on : List (List Char)) : List Sign → List (Char × List (List Char))
  | [] => []
  | .char c :: rest => (c, on) :: shown on rest
  | .style parameters :: rest =>
    shown (if isReset parameters then [] else on ++ [parameters]) rest

theorem Alternates.exists_isReset {all : List (List Char)} (h : Alternates all) (hne : all ≠ []) :
    ∃ reset ∈ all.getLast?, isReset reset = true := by
  induction h with
  | nil => exact absurd rfl hne
  | @turn opening reset rest _ hreset _ ih =>
      cases rest with
      | nil => exact ⟨reset, rfl, hreset⟩
      | cons next rest => exact ih (List.cons_ne_nil _ _)

theorem signsFrom_append (skipped rest : List Char) :
    signsFrom skipped.length (skipped ++ rest) = signs rest := by
  induction skipped with
  | nil => rfl
  | cons c skipped ih => exact ih

theorem parameters?_eq_none {c : Char} (hc : c ≠ '\x1b') (rest : List Char) :
    parameters? (c :: rest) = none := by
  unfold parameters?
  split
  · rename_i heq
    exact absurd (List.cons.inj heq).1 hc
  · rfl

/-- Without an escape character a text stands for its characters. -/
theorem signs_append {cs : List Char} (hcs : '\x1b' ∉ cs) (rest : List Char) :
    signs (cs ++ rest) = cs.map .char ++ signs rest := by
  induction cs with
  | nil => rfl
  | cons c cs ih =>
      obtain ⟨hc, hcs⟩ := not_or.1 (mt List.mem_cons.2 hcs)
      show signsFrom 0 (c :: (cs ++ rest)) = _
      rw [signsFrom, parameters?_eq_none (Ne.symm hc)]
      exact congrArg _ (ih hcs)

/-- A sequence stands for itself. -/
theorem signs_sequence {parameters : List Char} (h : parameters.all isParameter = true)
    (rest : List Char) :
    signs ('\x1b' :: '[' :: (parameters ++ 'm' :: rest)) = .style parameters :: signs rest := by
  have hread : parameters? ('\x1b' :: '[' :: (parameters ++ 'm' :: rest)) = some parameters := by
    have hall := List.all_eq_true.1 h
    rw [parameters?, List.dropWhile_append_of_pos hall, List.takeWhile_append_of_pos hall,
      List.dropWhile_cons_of_neg (by decide), List.takeWhile_cons_of_neg (by decide),
      List.append_nil]
    rfl
  -- the characters behind the escape character are passed over
  have hrest := signsFrom_append ('[' :: parameters ++ ['m']) rest
  rw [signs, signsFrom, hread]
  simpa using hrest

@[simp] theorem characters_style (parameters : List Char) (rest : List Sign) :
    characters (.style parameters :: rest) = characters rest := rfl

@[simp] theorem sequences_style (parameters : List Char) (rest : List Sign) :
    sequences (.style parameters :: rest) = parameters :: sequences rest := rfl

@[simp] theorem characters_append (signs others : List Sign) :
    characters (signs ++ others) = characters signs ++ characters others :=
  List.filterMap_append

@[simp] theorem sequences_append (signs others : List Sign) :
    sequences (signs ++ others) = sequences signs ++ sequences others :=
  List.filterMap_append

@[simp] theorem characters_map_char (cs : List Char) : characters (cs.map .char) = cs := by
  rw [characters, List.filterMap_map]
  exact List.filterMap_some

@[simp] theorem sequences_map_char (cs : List Char) : sequences (cs.map .char) = [] := by
  simp [sequences, List.filterMap_map]

theorem shown_opening {parameters : List Char} (h : isReset parameters = false)
    (on : List (List Char)) (rest : List Sign) :
    shown on (.style parameters :: rest) = shown (on ++ [parameters]) rest := by
  rw [shown, h, if_neg Bool.false_ne_true]

theorem shown_reset {parameters : List Char} (h : isReset parameters = true)
    (on : List (List Char)) (rest : List Sign) :
    shown on (.style parameters :: rest) = shown [] rest := by
  rw [shown, if_pos h]

@[simp] theorem shown_map_char (on : List (List Char)) (cs : List Char) (rest : List Sign) :
    shown on (cs.map .char ++ rest) = cs.map (·, on) ++ shown on rest := by
  induction cs with
  | nil => rfl
  | cons c cs ih => exact congrArg _ ih

end Terminal

open Terminal

/-! ## Text in a style -/

namespace Style

/-- The parameters of the sequence that turns a style on. -/
def parameters : Style → List Char
  | .errorLabel => ['1', ';', '3', '1']
  | .warningLabel => ['1', ';', '3', '3']
  | .place => ['1']
  | .marker => ['3', '2']
  | .success => ['3', '2']

theorem all_isParameter_parameters (style : Style) : style.parameters.all isParameter = true := by
  cases style <;> rfl

theorem isReset_parameters (style : Style) : isReset style.parameters = false := by
  cases style <;> rfl

theorem toList_opening (style : Style) :
    style.opening.toList = '\x1b' :: '[' :: (style.parameters ++ ['m']) := by
  cases style <;> rfl

theorem toList_reset : reset.toList = '\x1b' :: '[' :: (['0'] ++ ['m']) := rfl

/-- In a text without an escape character there is no reset, so nothing is turned on again. -/
theorem reopen_eq_self (style : Style) {cs : List Char} (hcs : '\x1b' ∉ cs) :
    style.reopen cs = cs := by
  induction cs with
  | nil => rfl
  | cons c cs ih =>
      obtain ⟨hc, hcs⟩ := not_or.1 (mt List.mem_cons.2 hcs)
      rw [reopen, ih hcs]
      rintro rest rfl -
      exact hc rfl

end Style

/-- A part of what is printed, with the style that it has when styles are on. -/
structure Chunk where
  style : Option Style
  text : String
  deriving DecidableEq, Repr

namespace Chunk

/-- A chunk as it is printed. -/
def paint (styled : Bool) (chunk : Chunk) : String :=
  match chunk.style with
  | none => chunk.text
  | some style => style.paint styled chunk.text

/-- No escape character stands in the text. -/
def EscapeFree (chunk : Chunk) : Prop := '\x1b' ∉ chunk.text.toList

/-- The sequences that are in force in a chunk. -/
def look (chunk : Chunk) : List (List Char) := chunk.style.toList.map Style.parameters

/-- What a terminal shows of a chunk: its characters, and each in the chunk's own style. -/
def shown (chunk : Chunk) : List (Char × List (List Char)) :=
  chunk.text.toList.map (·, chunk.look)

/-- The signs of a chunk: its characters, between the sequences of its style if it has one. -/
def signs (chunk : Chunk) : List Sign :=
  match chunk.style with
  | none => chunk.text.toList.map .char
  | some style =>
    .style style.parameters :: (chunk.text.toList.map .char ++ [.style ['0']])

theorem paint_false (chunk : Chunk) : chunk.paint false = chunk.text := by
  obtain ⟨style, text⟩ := chunk
  cases style <;> rfl

theorem signs_paint {chunk : Chunk} (h : chunk.EscapeFree) (rest : List Char) :
    Terminal.signs ((chunk.paint true).toList ++ rest) = chunk.signs ++ Terminal.signs rest := by
  obtain ⟨style, text⟩ := chunk
  cases style with
  | none => exact signs_append h rest
  | some style =>
      have htext : (Style.paint style true text).toList ++ rest =
          '\x1b' :: '[' :: (style.parameters ++ 'm' ::
            (text.toList ++ '\x1b' :: '[' :: (['0'] ++ 'm' :: rest))) := by
        simp [Style.paint, Style.toList_opening, Style.toList_reset, style.reopen_eq_self h]
      show Terminal.signs ((Style.paint style true text).toList ++ rest) = _
      rw [htext, signs_sequence style.all_isParameter_parameters, signs_append h,
        signs_sequence rfl]
      simp [signs]

theorem characters_signs (chunk : Chunk) : characters chunk.signs = chunk.text.toList := by
  obtain ⟨style, text⟩ := chunk
  cases style with
  | none => exact characters_map_char _
  | some style =>
      rw [signs, characters_style, Terminal.characters_append, characters_map_char]
      exact List.append_nil _

/-- Behind a chunk, the sequences come by twos if they do behind it. -/
theorem alternates_signs (chunk : Chunk) {rest : List (List Char)} (hrest : Alternates rest) :
    Alternates (sequences chunk.signs ++ rest) := by
  obtain ⟨style, text⟩ := chunk
  cases style with
  | none =>
      rw [signs, sequences_map_char]
      exact hrest
  | some style =>
      rw [signs, sequences_style, sequences_append, sequences_map_char]
      exact .turn style.isReset_parameters rfl hrest

/-- Behind a chunk the terminal is as it was in front. -/
theorem shown_signs (chunk : Chunk) (rest : List Sign) :
    Terminal.shown [] (chunk.signs ++ rest) = chunk.shown ++ Terminal.shown [] rest := by
  obtain ⟨style, text⟩ := chunk
  cases style with
  | none => exact shown_map_char [] _ rest
  | some style =>
      rw [signs, List.cons_append, List.append_assoc, shown_opening style.isReset_parameters,
        shown_map_char, List.cons_append, shown_reset rfl]
      rfl

end Chunk

/-! ## Rows of chunks -/

/-- Chunks as they are printed, one after the other. -/
def paintChunks (styled : Bool) (chunks : List Chunk) : String :=
  String.join (chunks.map (Chunk.paint styled))

theorem toList_paintChunks_cons (styled : Bool) (chunk : Chunk) (chunks : List Chunk) :
    (paintChunks styled (chunk :: chunks)).toList =
      (chunk.paint styled).toList ++ (paintChunks styled chunks).toList := by
  rw [paintChunks, List.map_cons, String.join_cons, String.toList_append]
  rfl

section

variable {chunks : List Chunk}

theorem signs_paintChunks (h : ∀ chunk ∈ chunks, chunk.EscapeFree) (rest : List Char) :
    signs ((paintChunks true chunks).toList ++ rest) =
      chunks.flatMap Chunk.signs ++ signs rest := by
  induction chunks with
  | nil => rfl
  | cons chunk chunks ih =>
      obtain ⟨hchunk, hchunks⟩ := List.forall_mem_cons.1 h
      rw [toList_paintChunks_cons, List.append_assoc, Chunk.signs_paint hchunk, ih hchunks,
        List.flatMap_cons, List.append_assoc]

theorem paintChunks_false (chunks : List Chunk) :
    paintChunks false chunks = String.join (chunks.map Chunk.text) :=
  congrArg String.join (List.map_congr_left fun chunk _ => chunk.paint_false)

theorem signs_paintChunks_self (h : ∀ chunk ∈ chunks, chunk.EscapeFree) :
    signs (paintChunks true chunks).toList = chunks.flatMap Chunk.signs := by
  simpa [signs, signsFrom] using signs_paintChunks h []

/-- Without the sequences it is what is printed without styles. -/
theorem unstyled_paintChunks (h : ∀ chunk ∈ chunks, chunk.EscapeFree) :
    unstyled (paintChunks true chunks) = paintChunks false chunks := by
  rw [unstyled, signs_paintChunks_self h]
  have hplain : characters (chunks.flatMap Chunk.signs) = (paintChunks false chunks).toList := by
    clear h
    induction chunks with
    | nil => rfl
    | cons chunk chunks ih =>
        rw [List.flatMap_cons, Terminal.characters_append, chunk.characters_signs, ih,
          toList_paintChunks_cons, chunk.paint_false]
  rw [hplain, String.ofList_toList]

theorem alternates_paintChunks (h : ∀ chunk ∈ chunks, chunk.EscapeFree) :
    Alternates (sequences (signs (paintChunks true chunks).toList)) := by
  rw [signs_paintChunks_self h]
  clear h
  induction chunks with
  | nil => exact .nil
  | cons chunk chunks ih =>
      rw [List.flatMap_cons, sequences_append]
      exact chunk.alternates_signs ih

/-- The last sequence is a reset. -/
theorem exists_isReset_paintChunks (h : ∀ chunk ∈ chunks, chunk.EscapeFree)
    (hstyle : ∃ chunk ∈ chunks, chunk.style ≠ none) :
    ∃ reset ∈ (sequences (signs (paintChunks true chunks).toList)).getLast?,
      isReset reset = true := by
  -- a chunk with a style brings a sequence with it
  refine (alternates_paintChunks h).exists_isReset fun hnone => ?_
  obtain ⟨chunk, hchunk, hsome⟩ := hstyle
  rw [signs_paintChunks_self h, sequences, List.filterMap_flatMap,
    List.flatMap_eq_nil_iff] at hnone
  obtain ⟨style, text⟩ := chunk
  cases style with
  | none => exact hsome rfl
  | some style => exact List.cons_ne_nil _ _ (hnone _ hchunk)

/-- Each character is shown in the style of its own chunk, and what is printed next is shown as if
nothing were in front of it. -/
theorem shown_paintChunks (h : ∀ chunk ∈ chunks, chunk.EscapeFree) (rest : List Char) :
    shown [] (signs ((paintChunks true chunks).toList ++ rest)) =
      chunks.flatMap Chunk.shown ++ shown [] (signs rest) := by
  rw [signs_paintChunks h]
  clear h
  induction chunks with
  | nil => rfl
  | cons chunk chunks ih =>
      rw [List.flatMap_cons, List.append_assoc, chunk.shown_signs, ih, List.flatMap_cons,
        List.append_assoc]

end

/-! ## Diagnostics -/

namespace Diagnostic

/-- The chunks that a diagnostic is printed as. The place, the label and the marker have a style;
the text and the source line have none. -/
def chunks (includeSource : Bool) (d : Diagnostic) : List Chunk :=
  let label : Chunk := ⟨some d.severity.style, d.severity.label⟩
  match if includeSource then d.origin else none with
  | none => [label, ⟨none, ": "⟩, ⟨none, d.text⟩, ⟨none, "\n"⟩]
  | some (source, span) =>
    let location := source.locate span
    let under := Underline.ofColumn location.lineText.toList location.column location.length
    [⟨some .place, location.file ++ ":" ++ toString location.line ++ ":" ++
        toString location.column⟩, ⟨none, ": "⟩, label, ⟨none, ": "⟩, ⟨none, d.text⟩, ⟨none, "\n"⟩,
      ⟨none, location.lineText⟩, ⟨none, "\n"⟩,
      ⟨none, under.blanks⟩, ⟨some .marker, under.mark⟩, ⟨none, "\n"⟩]

theorem render_eq (includeSource styled : Bool) (d : Diagnostic) :
    d.render includeSource styled = paintChunks styled (d.chunks includeSource) := by
  unfold render chunks
  cases (if includeSource then d.origin else none) with
  | none => simp [paintChunks, Chunk.paint, String.append_assoc]
  | some origin =>
      obtain ⟨source, span⟩ := origin
      simp [paintChunks, Chunk.paint, Source.locate, String.append_assoc]

/-- The text, the name of the source and the source line hold no escape character. -/
structure EscapeFree (d : Diagnostic) : Prop where
  text : '\x1b' ∉ d.text.toList
  name : ∀ source span, d.origin = some (source, span) → '\x1b' ∉ source.name.toList
  line : ∀ source span, d.origin = some (source, span) →
    '\x1b' ∉ (source.locate span).lineText.toList

theorem escape_notMem_digits (n : Nat) : '\x1b' ∉ (toString n).toList := by
  intro hmem
  rw [Nat.toString_eq_repr, Nat.toList_repr] at hmem
  have hdigit := Nat.isDigit_of_mem_toDigits (by decide) (by decide) hmem
  revert hdigit
  decide

/-- Then none stands in the chunks: what is added to these texts are digits, blanks, marks and
punctuation. -/
theorem EscapeFree.chunks {d : Diagnostic} (h : d.EscapeFree) (includeSource : Bool) :
    ∀ chunk ∈ d.chunks includeSource, chunk.EscapeFree := by
  have hlabel : '\x1b' ∉ d.severity.label.toList := by
    cases d.severity <;> decide
  have hpunctuation : '\x1b' ∉ ": ".toList ∧ '\x1b' ∉ "\n".toList := by decide
  cases horigin : (if includeSource then d.origin else none) with
  | none =>
      simp only [Diagnostic.chunks, horigin, List.forall_mem_cons, Chunk.EscapeFree]
      exact ⟨hlabel, hpunctuation.1, h.text, hpunctuation.2, List.forall_mem_nil _⟩
  | some origin =>
      obtain ⟨source, span⟩ := origin
      have hd : d.origin = some (source, span) := by
        cases includeSource with
        | false => exact absurd horigin (by simp)
        | true => exact horigin
      have hname : '\x1b' ∉ (source.locate span).file.toList := h.name source span hd
      have hplace : '\x1b' ∉ ((source.locate span).file ++ ":" ++
          toString (source.locate span).line ++ ":" ++
          toString (source.locate span).column).toList := by
        simp only [String.toList_append, List.mem_append, not_or]
        exact ⟨⟨⟨⟨hname, by decide⟩, escape_notMem_digits _⟩, by decide⟩, escape_notMem_digits _⟩
      have hunder : ∀ under : Underline,
          '\x1b' ∉ under.blanks.toList ∧ '\x1b' ∉ under.mark.toList := by
        intro under
        simp [Underline.blanks, Underline.mark]
      simp only [Diagnostic.chunks, horigin, List.forall_mem_cons, Chunk.EscapeFree]
      exact ⟨hplace, hpunctuation.1, hlabel, hpunctuation.1, h.text, hpunctuation.2,
        h.line source span hd, hpunctuation.2, (hunder _).1, (hunder _).2, hpunctuation.2,
        List.forall_mem_nil _⟩

theorem exists_style_chunks (includeSource : Bool) (d : Diagnostic) :
    ∃ chunk ∈ d.chunks includeSource, chunk.style ≠ none := by
  refine ⟨⟨some d.severity.style, d.severity.label⟩, ?_, Option.some_ne_none _⟩
  unfold chunks
  split <;> simp

/-- Styles add escape sequences to a printed diagnostic and nothing else. By twos they turn a style
on and off, and they end with a reset: so a terminal shows the place, the label and the marker in
their styles, and the text, the source line and all that is printed behind the diagnostic in
none. -/
theorem styles_add_sequences_only (includeSource : Bool) (d : Diagnostic) (h : d.EscapeFree) :
    unstyled (d.render includeSource true) = d.render includeSource false ∧
      d.render includeSource false = String.join ((d.chunks includeSource).map Chunk.text) ∧
      Alternates (sequences (signs (d.render includeSource true).toList)) ∧
      (∃ reset ∈ (sequences (signs (d.render includeSource true).toList)).getLast?,
        isReset reset = true) ∧
      ∀ behind, shown [] (signs ((d.render includeSource true).toList ++ behind)) =
        (d.chunks includeSource).flatMap Chunk.shown ++ shown [] (signs behind) := by
  have hchunks := h.chunks includeSource
  rw [render_eq, render_eq]
  exact ⟨unstyled_paintChunks hchunks, paintChunks_false _, alternates_paintChunks hchunks,
    exists_isReset_paintChunks hchunks (d.exists_style_chunks includeSource),
    fun behind => shown_paintChunks hchunks behind⟩

/-- The marker below a source line. -/
theorem styles_add_sequences_only_marker :
    let source : Source := ⟨"in.js", "abc\ndefgh\n"⟩
    let d : Diagnostic := .errorAt source ⟨6, 9⟩ "Unexpected \"fgh\""
    d.EscapeFree ∧
      unstyled (d.render true true) = "in.js:2:2: error: Unexpected \"fgh\"\ndefgh\n  ^~~\n" ∧
      sequences (signs (d.render true true).toList) =
        ["1".toList, "0".toList, "1;31".toList, "0".toList, "32".toList, "0".toList] := by
  intro source d
  have hfree : d.EscapeFree :=
    { text := by decide
      name := by
        rintro source span hd
        obtain ⟨rfl, rfl⟩ := Prod.mk.inj (Option.some.inj hd)
        decide
      line := by
        rintro source span hd
        obtain ⟨rfl, rfl⟩ := Prod.mk.inj (Option.some.inj hd)
        decide +kernel }
  exact ⟨hfree, (styles_add_sequences_only true d hfree).1.trans (by decide +kernel),
    by decide +kernel⟩

end Diagnostic

end Bundler
