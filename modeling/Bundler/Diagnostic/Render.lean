import Bundler.Diagnostic.Message
import Bundler.Diagnostic.Style

/-! # Printed diagnostics

A diagnostic about a place is printed as three lines: the place, the label and the text; the source
line; and a marker under the span. Any other diagnostic is one line. The marker is measured in
characters and not in bytes, so that it stands under the span on the screen. -/

set_option autoImplicit false

namespace Bundler

/-- The style of a severity's label. -/
def Severity.style : Severity → Style
  | .error => .errorLabel
  | .warning => .warningLabel

/-- Where a marker stands under a line, in characters. -/
structure Underline where
  /-- How many characters it is moved to the right. -/
  indent : Nat
  /-- How many characters of the span stand above it. -/
  covered : Nat
  deriving DecidableEq, Repr

namespace Underline

/-- The marker of a span that begins at a byte column of a line. A column past the end of the line
stands for the end, and of the span only what is on the line counts. A column or an end inside a
character covers nothing. -/
def ofColumn (line : List Char) (column size : Nat) : Underline :=
  let (before, after) :=
    (Text.splitBytes? (min column (Text.byteSize line)) line).getD (line, [])
  let covered := Text.splitBytes? (min size (Text.byteSize after)) after
  ⟨before.length, (covered.map fun (span, _) => span.length).getD 0⟩

/-- The marker's own characters: a caret, and a tilde for each further character covered. -/
def mark (u : Underline) : String :=
  "^" ++ String.ofList (List.replicate (u.covered - 1) '~')

/-- The blanks before the marker. -/
def blanks (u : Underline) : String := String.ofList (List.replicate u.indent ' ')

end Underline

/-- The printed form of a diagnostic. Without `includeSource` the place is left out; `styled` says
whether styles are on. -/
def Diagnostic.render (includeSource styled : Bool) (d : Diagnostic) : String :=
  let label := d.severity.style.paint styled d.severity.label
  match if includeSource then d.origin else none with
  | none => label ++ ": " ++ d.text ++ "\n"
  | some (source, span) =>
    let contents := source.contents.toList
    let place := Position.ofOffset contents span.start
    let line := lineAt contents place.lineStart
    let head := source.name ++ ":" ++ toString (place.line + 1) ++ ":" ++ toString place.column
    let under := Underline.ofColumn line place.column span.size
    Style.paint .place styled head ++ ": " ++ label ++ ": " ++ d.text ++ "\n"
      ++ String.ofList line ++ "\n"
      ++ under.blanks ++ Style.paint .marker styled under.mark ++ "\n"

end Bundler
