import Bundler.Define.Value
import Bundler.Text.Dictionary

/-! # Tables of defines

A table of defines is made once in a run and asked for every dotted identifier in every module.
Whoever asks has the last part of the path at hand first, so a define with several parts is kept in
a group under its last part. Of the defines of one path the last one counts
(`DefineTable.insert`). -/

set_option autoImplicit false

namespace Bundler

/-- A define for a path of several parts. -/
structure DotDefine where
  parts : List String
  value : Replacement
  deriving DecidableEq, Repr

/-- Defines by their paths. -/
structure DefineTable where
  /-- The defines of single identifiers. -/
  identifiers : Dictionary Replacement
  /-- The others, in groups by the last part of the path. -/
  dots : Dictionary (List DotDefine)
  deriving DecidableEq

namespace DefineTable

/-- The table without defines. -/
def empty : DefineTable := ⟨∅, ∅⟩

/-- Puts a define into a group: over the one of the same path, or behind the others. -/
def putDot (parts : List String) (value : Replacement) : List DotDefine → List DotDefine
  | [] => [⟨parts, value⟩]
  | d :: rest =>
    if d.parts = parts then ⟨parts, value⟩ :: rest else d :: putDot parts value rest

/-- Adds a define for a path given by its text. -/
def insert (t : DefineTable) (key : String) (value : Replacement) : DefineTable :=
  match Text.dottedParts key with
  | [name] => { t with identifiers := t.identifiers.insert name value }
  | parts =>
    let tail := parts.getLast?.getD ""
    let group := (t.dots.get? tail).getD []
    { t with dots := t.dots.insert tail (putDot parts value group) }

/-- The table of the given defines, taken in order. -/
def ofList (defines : List (String × Replacement)) : DefineTable :=
  defines.foldl (fun t (key, value) => t.insert key value) empty

/-- The define of a path given by its parts. -/
def lookup (t : DefineTable) : List String → Option Replacement
  | [] => none
  | [name] => t.identifiers.get? name
  | parts => do
    let group ← t.dots.get? (parts.getLast?.getD "")
    let d ← group.find? fun d => d.parts == parts
    return d.value

/-- The number of defines. -/
def size (t : DefineTable) : Nat := t.identifiers.size + t.dots.values.flatten.length

/-- Whether there is no define. -/
def isEmpty (t : DefineTable) : Bool := t.size == 0

end DefineTable

end Bundler
