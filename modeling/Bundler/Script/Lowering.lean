import Bundler.Engine.Language
import Bundler.Script.Program

/-! # Lowering programs to older targets

What a target does not know is lowered: elements always, and the operators, class fields and
integers of newer versions where the target is older. What lowering needs besides, it asks for
with a `Needs`: variables that hold values in between, and a function for defining properties. -/

set_option autoImplicit false

namespace Bundler.Script

/-- The year of a target, with the newest last. -/
def year : Target → Nat
  | .es2015 => 2015
  | .es2016 => 2016
  | .es2017 => 2017
  | .es2018 => 2018
  | .es2019 => 2019
  | .es2020 => 2020
  | .esNext => 9999

/-- What lowered code needs, and what cannot be lowered. -/
structure Needs where
  /-- Variables for values in between, in the order in which they are needed. -/
  temporaries : List String := []
  /-- Whether properties are defined by a function. -/
  definesProperties : Bool := false
  refusals : List String := []

/-- Lowering that notes what it needs. -/
abbrev Lowered := StateM Needs

namespace Lower

/-- A new variable for a value, named for where the value comes from. A name that is taken gets a
number. -/
def fresh (source : Expr) : Lowered Expr := do
  let needs ← get
  let stem :=
    match source with
    | .name id => "_" ++ id
    | _ => "_ref"
  let numbered := (List.range needs.temporaries.length).map fun n => stem ++ toString (n + 2)
  let id := ((stem :: numbered).find? fun id => id ∉ needs.temporaries).getD stem
  set { needs with temporaries := needs.temporaries ++ [id] }
  return .name id

/-- A dotted path of names. -/
def dottedName : List String → Expr
  | [] => .undefined
  | id :: rest => rest.foldl .member (.name id)

/-- The call that an element is. -/
def elementCall (jsx : JsxOptions) (tag : Option String) (children : List Expr) : Expr :=
  let kind :=
    match tag with
    | none => dottedName (jsx.fragment.getD ["React", "Fragment"])
    | some tag => if (tag.toList.head?.any Char.isUpper) then .name tag else .text tag
  .pureCall (dottedName (jsx.factory.getD ["React", "createElement"])) (kind :: .null :: children)

/-- Whether a value, held in a variable for the second look, is neither null nor undefined. -/
def isThere (value held : Expr) : Expr :=
  .binary .both (.binary .strictlyUnequal (.assign held value) .null)
    (.binary .strictlyUnequal held .undefined)

/-- Whether a value, held in a variable, is null or undefined. The brief form also takes the one
object for null that only old documents have. -/
def isMissing (exact : Bool) (value held : Expr) : Expr :=
  if exact then
    .binary .either (.binary .strictlyEqual (.assign held value) .null)
      (.binary .strictlyEqual held .undefined)
  else .binary .equal (.assign held value) .null

mutual

/-- Lowers an expression. -/
def expr (o : Lowering) : Expr → Lowered Expr
  | .binary .coalesce left right => do
    let left ← expr o left
    let right ← expr o right
    if year o.target < 2020 then
      let held ← fresh left
      return .conditional (isThere left held) held right
    else return .binary .coalesce left right
  | .binary .power left right => do
    let left ← expr o left
    let right ← expr o right
    if year o.target < 2016 then
      return .call (.member (.name "Math") "pow") [left, right]
    else return .binary .power left right
  | .binary op left right => return .binary op (← expr o left) (← expr o right)
  | .conditional test yes no => return .conditional (← expr o test) (← expr o yes) (← expr o no)
  | .assign target value => return .assign target (← expr o value)
  | .member object property => return .member (← expr o object) property
  | .memberIfAny object property => do
    let object ← expr o object
    if year o.target < 2020 then
      let held ← fresh object
      return .conditional (isMissing o.strict.nullishCoalescing object held) .undefined
        (.member held property)
    else return .memberIfAny object property
  | .call callee arguments => return .call (← expr o callee) (← exprs o arguments)
  | .pureCall callee arguments => return .pureCall (← expr o callee) (← exprs o arguments)
  | .element tag children => return elementCall o.jsx tag (← exprs o children)
  | .integer digits => do
    if year o.target < 2020 then
      modify fun needs => { needs with
        refusals := needs.refusals
          ++ ["Big integer literals are not available in the configured target environment."] }
    return .integer digits
  | e => return e

/-- Lowers expressions one after the other. -/
def exprs (o : Lowering) : List Expr → Lowered (List Expr)
  | [] => return []
  | e :: rest => return (← expr o e) :: (← exprs o rest)

end

/-- The name of the function that defines a property. -/
def definer : String := "_defineProperty"

/-- What gives a new object the value of a field: an assignment, or the exact definition. -/
def fieldInit (exact : Bool) (name : String) (value : Expr) : Expr :=
  if exact then .call (.name definer) [.this, .text name, value]
  else .assign (.member .this name) value

/-- Lowers a member of a class into a field or into what is done when an object is made. -/
def member (o : Lowering) : Member → Lowered (Member ⊕ List Expr)
  | .maker body => return .inr (← exprs o body)
  | .field name value => do
    let value ← expr o value
    if o.target = .esNext then return .inl (.field name value)
    else
      if o.strict.classFields then
        modify fun needs => { needs with definesProperties := true }
      return .inr [fieldInit o.strict.classFields name value]

/-- Lowers the members of a class. All that is done when an object is made comes first, as one
member. -/
def members (o : Lowering) (ms : List Member) : Lowered (List Member) := do
  let lowered ← ms.mapM (member o)
  let fields := lowered.filterMap Sum.getLeft?
  let body := (lowered.filterMap Sum.getRight?).flatten
  return if body.isEmpty then fields else .maker body :: fields

/-- Lowers a statement. -/
def statement (o : Lowering) : Statement → Lowered Statement
  | .expression e => return .expression (← expr o e)
  | .letDecl name value => return .letDecl name (← expr o value)
  | .classDecl name ms => return .classDecl name (← members o ms)
  | s => return s

/-- The statements that provide what lowered code needs. -/
def provisions (needs : Needs) : Program :=
  (if needs.definesProperties then
    [.importDefault definer "@oxc-project/runtime/helpers/defineProperty"] else [])
  ++ (if needs.temporaries.isEmpty then [] else [.varDecl needs.temporaries])

end Lower

/-- Lowers a program, and says what in it cannot be lowered. -/
def Program.lower (o : Lowering) (p : Program) : Program × List String :=
  let (p, needs) := (p.mapM (Lower.statement o)).run {}
  (Lower.provisions needs ++ p, needs.refusals)

end Bundler.Script
