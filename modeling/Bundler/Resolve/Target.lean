import Bundler.Resolve.Package
import Bundler.Resolve.Specifier

/-! # What packages offer

A package may say, in a table, where the places in it are that others can import, and under which
names it imports things itself. A key of a table is one place, or a pattern: with an asterisk, or
with a slash at its end for all that lies in a directory. What stands for a key is a path in the
package, or depends on conditions, or is a list of things to try. -/

set_option autoImplicit false

namespace Bundler.Resolve

/-! ## Keys -/

/-- The text before the first asterisk and the text after it. -/
def splitAsterisk? (key : List Char) : Option (List Char × List Char) :=
  match key.dropWhile (· ≠ '*') with
  | [] => none
  | _ :: rest => some (key.takeWhile (· ≠ '*'), rest)

/-- How much of a place a pattern lays down before its asterisk, or as a whole. -/
def baseSize (key : List Char) : Nat :=
  match splitAsterisk? key with
  | some (base, _) => Text.byteSize base + 1
  | none => Text.byteSize key

/-- Whether a pattern is more specific than another one. -/
def outranks (key other : List Char) : Bool :=
  if baseSize key ≠ baseSize other then baseSize other < baseSize key
  else if '*' ∉ other then true
  else if '*' ∉ key then false
  else Text.byteSize other < Text.byteSize key

/-- The part of a place that a pattern leaves open, if the place is one of the pattern's. -/
def openPart? (key place : List Char) : Option (List Char) :=
  if ¬ (['.', '/'].isPrefixOf key ∨ ['#'].isPrefixOf key) then none
  else
    match splitAsterisk? key with
    | some (base, trailer) =>
      if base.isPrefixOf place ∧ '*' ∉ trailer ∧ (trailer = [] ∨
          (Text.byteSize key ≤ Text.byteSize place ∧ trailer.isSuffixOf place)) then
        some ((place.drop base.length).take (place.length - base.length - trailer.length))
      else none
    | none =>
      if key.getLast? = some '/' ∧ key.isPrefixOf place then some (place.drop key.length) else none

/-- What stands in a table for a place. -/
structure Entry where
  key : List Char
  /-- What the key leaves open, if it is a pattern. -/
  part : Option (List Char)
  target : Data

/-- Takes a key into account: it is better than none and than a less specific one. -/
def Entry.better (place : List Char) (best : Option Entry) (member : String × Data) :
    Option Entry :=
  let key := member.1.toList
  match openPart? key place with
  | none => best
  | some part =>
    if best.all fun e => outranks key e.key then some ⟨key, some part, member.2⟩ else best

/-- What stands in a table for a place: the place itself, or else the most specific pattern. A
directory is no place. -/
def Entry.find? (table : List (String × Data)) (place : String) : Option Entry :=
  let cs := place.toList
  if cs.getLast? = some '/' then none
  else
    match if '*' ∈ cs then none else table.lookup place with
    | some target => some ⟨cs, none, target⟩
    | none => table.foldl (Entry.better cs) none

/-! ## Targets -/

/-- Where a table is looked at. -/
structure Offer where
  /-- The directory of the package. -/
  directory : String
  /-- The conditions that hold. -/
  conditions : List String
  /-- How a package is looked up that a target names, if it may name one. -/
  package? : Option (String → Outcome)

/-- Puts what a pattern leaves open into a target. -/
def fillIn (e : Entry) (target : List Char) : Except Failure (List Char) :=
  match e.part with
  | none => .ok target
  | some part =>
    if '*' ∈ e.key ∨ '*' ∈ target then
      .ok (target.flatMap fun c => if c = '*' then part else [c])
    else if e.key.getLast? = some '/' ∧ target.getLast? = some '/' then .ok (target ++ part)
    else .error .invalidTarget

/-- Whether a path leaves the package or goes into the packages installed in it. -/
def strays (path : List Char) : Bool :=
  (Path.Host.components path).any fun
    | .up => true
    | .name segment => (segment.map Char.toLower) == installedIn.toList
    | _ => false

namespace Offer

/-- What a target that is a text leads to. -/
def ofText (o : Offer) (e : Entry) (text : String) : Outcome := do
  let some specifier := Specifier.parse? text | throw .emptySpecifier
  modify (·.carry specifier)
  let target := specifier.path.toList
  if ['.', '/'].isPrefixOf target then
    let target ← fillIn e target
    if strays target then throw .invalidTarget
    return some (Path.Host.resolve o.directory (String.ofList target))
  else
    match o.package? with
    | none => throw .invalidTarget
    | some package =>
      if ['.', '.', '/'].isPrefixOf target ∨ ['/'].isPrefixOf target then throw .invalidTarget
      package (String.ofList (← fillIn e target))

mutual

/-- What a target leads to. -/
def ofTarget (o : Offer) (e : Entry) : Data → Outcome
  | .text text => o.ofText e text
  | .object members => o.ofConditions e members
  | .array items => o.ofItems e items
  | _ => return none

/-- What the first condition that holds and leads to something leads to. -/
def ofConditions (o : Offer) (e : Entry) : List (String × Data) → Outcome
  | [] => return none
  | (condition, target) :: rest =>
    if condition = "default" ∨ condition ∈ o.conditions then
      (o.ofTarget e target).orTry fun _ => o.ofConditions e rest
    else o.ofConditions e rest

/-- What the first item that leads to something leads to. Of failures only that of the last item
counts, unless it is a file that is missing. -/
def ofItems (o : Offer) (e : Entry) : List Data → Outcome
  | [] => throw .notOffered
  | item :: rest => do
    match ← attempt (o.ofTarget e item) with
    | .ok (some path) => return some path
    | .ok none => if rest.isEmpty then return none else o.ofItems e rest
    | .error failure =>
      if !rest.isEmpty then o.ofItems e rest
      else if failure = .notFound then return none
      else throw failure

end

/-- What a table has for a place. -/
def ofTable (o : Offer) (table : List (String × Data)) (place : String) : Outcome :=
  match Entry.find? table place with
  | some e => o.ofTarget e e.target
  | none => return none

/-- Whether a key names a place, and not a condition. -/
def namesPlace (key : String) : Bool := ['.', '#'].any fun c => key.toList.head? == some c

/-- The target of the package itself. -/
def mainTarget? : Data → Option Data
  | .text text => some (.text text)
  | .array items => some (.array items)
  | .object members =>
    match members.lookup "." with
    | some target => some target
    | none =>
      if members.any fun m => "./".toList.isPrefixOf m.1.toList || "#".toList.isPrefixOf m.1.toList
      then none
      else some (.object members)
  | _ => none

/-- Where the package itself is. -/
def ofMain (o : Offer) (offers : Data) : Outcome :=
  match mainTarget? offers with
  | some target => o.ofTarget ⟨['.'], none, target⟩ target
  | none => return none

/-- Where a place is that others import. The package itself is the place `.`. -/
def exported (o : Offer) (offers : Data) (place : String) : Outcome :=
  let keys := offers.members.map Prod.fst
  if keys.any namesPlace ∧ ¬ keys.all namesPlace then throw .mixedKeys
  else
    let main : Outcome := if place = "." then o.ofMain offers else return none
    (main.orTry fun _ => o.ofTable offers.members place).orFail .notOffered

/-- Where something is that the package has a name of its own for. -/
def imported (o : Offer) (table : List (String × Data)) (name : String) : Outcome :=
  if name = "#" then throw .invalidTarget
  else (o.ofTable table name).orFail .notOffered

end Offer

end Bundler.Resolve
