import Bundler.Diagnostic.Position

/-! # Diagnostics and messages

A diagnostic is what a step of the work reports: how serious it is, a text, and the span of a source
text that it is about. A message is what the caller gets to see of it, with the span turned into a
`Location` (`Diagnostic.message`). -/

set_option autoImplicit false

namespace Bundler

/-- A source text under the name that users know it by. -/
structure Source where
  name : String
  contents : String
  deriving DecidableEq, Repr

/-- A range of byte offsets. -/
structure Span where
  start : Nat
  stop : Nat
  deriving DecidableEq, Repr

/-- The number of bytes in the range. -/
def Span.size (span : Span) : Nat := span.stop - span.start

/-- How serious a diagnostic is: only errors stop the work. -/
inductive Severity
  | error
  | warning
  deriving DecidableEq, Repr

/-- The word that introduces a diagnostic. -/
def Severity.label : Severity → String
  | .error => "error"
  | .warning => "warning"

/-- Something to report. -/
structure Diagnostic where
  severity : Severity
  text : String
  /-- The source text concerned and the span in it. -/
  origin : Option (Source × Span)
  deriving DecidableEq, Repr

namespace Diagnostic

/-- An error about no particular place. -/
def error (text : String) : Diagnostic := ⟨.error, text, none⟩

/-- A warning about no particular place. -/
def warning (text : String) : Diagnostic := ⟨.warning, text, none⟩

/-- An error about a span of a source text. -/
def errorAt (source : Source) (span : Span) (text : String) : Diagnostic :=
  ⟨.error, text, some (source, span)⟩

/-- A warning about a span of a source text. -/
def warningAt (source : Source) (span : Span) (text : String) : Diagnostic :=
  ⟨.warning, text, some (source, span)⟩

end Diagnostic

/-- Where a message points. -/
structure Location where
  file : String
  /-- The first line is 1. -/
  line : Nat
  /-- In bytes, the first column being 0. -/
  column : Nat
  /-- In bytes. -/
  length : Nat
  lineText : String
  deriving DecidableEq, Repr

/-- A diagnostic as the caller sees it. -/
structure Message where
  text : String
  location : Option Location
  deriving DecidableEq, Repr

/-- The location of a span: that of its start, with the span's full length. -/
def Source.locate (source : Source) (span : Span) : Location :=
  let contents := source.contents.toList
  let place := Position.ofOffset contents span.start
  { file := source.name
    line := place.line + 1
    column := place.column
    length := span.size
    lineText := String.ofList (lineAt contents place.lineStart) }

/-- A diagnostic with its span turned into a location. -/
def Diagnostic.message (d : Diagnostic) : Message :=
  ⟨d.text, d.origin.map fun (source, span) => source.locate span⟩

/-- The messages of one severity, in the order of the diagnostics. -/
def messagesOf (severity : Severity) (ds : List Diagnostic) : List Message :=
  (ds.filter fun d => d.severity == severity).map Diagnostic.message

end Bundler
