import Bundler.Json.Reader
import Bundler.Options.Choice
import Bundler.Text.Dictionary

/-! # Values of JSON trees

What a tree says when a value of some type is expected, found by walking over it from front to back;
the first problem met is the answer. A value of another type is a mismatch, but a word, a numeral or
a quoted text is read to its end before it is judged, so a fault in it comes first.

A record is given by its fields in order (`Record.decode`). It may be written as an object with the
names of the fields, in any order, or as an array with their values in the order of the fields. In
both forms what is left out keeps its default. -/

set_option autoImplicit false

namespace Bundler

/-- Why a text gives no value of the type that is expected. -/
inductive Problem
  | fault (fault : Fault)
  /-- A value of another type. -/
  | mismatch
  /-- A field that is given twice. -/
  | repeated (field : String)
  /-- A name that stands for no value. -/
  | unknown (name : UnknownName)
  deriving DecidableEq, Repr

/-- What is read, or the first problem met. -/
abbrev Decoded := Except Problem

namespace Decoded

/-- Passes on what a walk over the form of a text gives. -/
def ofFault {α : Type} : Except Fault α → Decoded α
  | .ok a => .ok a
  | .error f => .error (.fault f)

end Decoded

namespace Json

/-- The problem with a value that is not of the type expected. -/
def misplaced : Json → Problem
  | .numeral n => if n.value?.isNone then .fault .malformed else .mismatch
  | .brokenNumeral f => .fault f
  | .text q =>
    match q.decode with
    | .ok _ => .mismatch
    | .error f => .fault f
  | .broken f => .fault f
  | _ => .mismatch

/-- A truth value. -/
def asBool : Json → Decoded Bool
  | .bool b => .ok b
  | j => .error j.misplaced

/-- A text. -/
def asText : Json → Decoded String
  | .text q => Decoded.ofFault q.decode
  | j => .error j.misplaced

/-- A natural number of 64 bits. -/
def asNatural : Json → Decoded Nat
  | .numeral n =>
    match n.value? with
    | some (.natural n) => .ok n
    | some _ => .error .mismatch
    | none => .error (.fault .malformed)
  | j => .error j.misplaced

/-- A value that is written by name. -/
def asChoice {α : Type} [Choice α] (j : Json) : Decoded α := do
  let text ← j.asText
  match Choice.parse text with
  | .ok a => return a
  | .error e => throw (.unknown e)

/-- The values of items, in order. -/
def asItems {α : Type} (item : Json → Decoded α) : List Json → Decoded (List α)
  | [] => .ok []
  | j :: rest => do
    let a ← item j
    return a :: (← asItems item rest)

/-- A list. -/
def asList {α : Type} (item : Json → Decoded α) : Json → Decoded (List α)
  | .array items ending => do
    let as ← asItems item items
    Decoded.ofFault ending.check
    return as
  | j => .error j.misplaced

/-- Something, or `null` for nothing. -/
def asOption {α : Type} (value : Json → Decoded α) : Json → Decoded (Option α)
  | .null => .ok none
  | j => (value j).map some

/-- The entries of a dictionary put into one that is given. -/
def asEntries {α : Type} (value : Json → Decoded α) :
    Dictionary α → List (Quote × Json) → Decoded (Dictionary α)
  | d, [] => .ok d
  | d, (key, j) :: rest => do
    let key ← Decoded.ofFault key.decode
    let a ← value j
    asEntries value (d.insert key a) rest

/-- A dictionary. Of two entries with one key, the last one stays. -/
def asDictionary {α : Type} (value : Json → Decoded α) : Json → Decoded (Dictionary α)
  | .object members ending => do
    let d ← asEntries value ∅ members
    Decoded.ofFault ending.check
    return d
  | j => .error j.misplaced

end Json

/-! ## Records -/

/-- A field of a record `σ`. -/
structure Field (σ : Type) where
  name : String
  /-- What the value of the field does to the record. -/
  read : Json → Decoded (σ → σ)

/-- A field with a decoder for its value and the way to put the value into the record. -/
def Field.of {σ α : Type} (name : String) (decode : Json → Decoded α) (put : α → σ → σ) : Field σ :=
  ⟨name, fun j => (decode j).map put⟩

/-- A field of a part of a record, as a field of the record. -/
def Field.within {σ τ : Type} (update : (τ → τ) → σ → σ) (f : Field τ) : Field σ :=
  ⟨f.name, fun j => (f.read j).map update⟩

namespace Record

variable {σ : Type}

/-- Reads a record from the values of its fields in order. A value too many is out of place, and
so is whatever follows the last field. -/
def decodeItems : List (Field σ) → List Json → Ending → σ → Decoded σ
  | _, [], ending, s => do
    Decoded.ofFault ending.check
    return s
  | [], _ :: _, _, _ => .error (.fault .malformed)
  | f :: fs, j :: rest, ending, s => do
    let change ← f.read j
    decodeItems fs rest ending (change s)

/-- Reads a record from its members. `seen` holds the names of the fields that came before; a
member with another name than those of fields is passed over. -/
def decodeMembers (fields : List (Field σ)) :
    List String → List (Quote × Json) → Ending → σ → Decoded σ
  | _, [], ending, s => do
    Decoded.ofFault ending.check
    return s
  | seen, (key, j) :: rest, ending, s => do
    let name ← Decoded.ofFault key.decode
    match fields.find? fun f => f.name == name with
    | none =>
      Decoded.ofFault j.skip
      decodeMembers fields seen rest ending s
    | some f =>
      if seen.contains name then throw (.repeated name)
      let change ← f.read j
      decodeMembers fields (name :: seen) rest ending (change s)

/-- Reads a record in either form over its defaults. -/
def decode (fields : List (Field σ)) (defaults : σ) : Json → Decoded σ
  | .array items ending => decodeItems fields items ending defaults
  | .object members ending => decodeMembers fields [] members ending defaults
  | j => .error j.misplaced

/-- Reads a record from a whole text. What follows the value is judged last. -/
def decodeText (fields : List (Field σ)) (defaults : σ) (text : String) : Decoded σ := do
  let document := Document.read text
  let s ← decode fields defaults document.value
  if document.trailing then throw (.fault .malformed)
  return s

end Record

end Bundler
