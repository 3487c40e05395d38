import Bundler.Script.Program

/-! # Printing programs

Each statement goes on lines of its own, with a tab for each level inside, or all of them go on one
line without the blanks that only readers need. Parentheses stand where an operand binds less
tightly than its place asks for. -/

set_option autoImplicit false

namespace Bundler.Script

/-- How a program is laid out. -/
structure Layout where
  /-- What stands where a blank is only for readers. -/
  blank : String
  /-- What ends a line. -/
  newline : String
  /-- What stands before a line for each level. -/
  tab : String
  /-- What ends the last statement of a block, which only readers need. -/
  lastStop : String
  /-- What texts stand between. -/
  quote : Char
  deriving DecidableEq, Repr

namespace Layout

/-- For readers. -/
def readable : Layout := ⟨" ", "\n", "\t", ";", '"'⟩

/-- Without blanks. -/
def tight : Layout := ⟨"", "", "", "", '\x60'⟩

end Layout

/-- A text between quotes. -/
def quote (mark : Char) (value : String) : String :=
  let escape : Char → List Char := fun c =>
    if c = mark ∨ c = '\\' then ['\\', c]
    else if c = '\n' then ['\\', 'n']
    else if c = '\r' then ['\\', 'r']
    else [c]
  String.ofList (mark :: value.toList.flatMap escape ++ [mark])

namespace Operator

/-- The operator as it is written. -/
def symbol : Operator → String
  | .coalesce => "??"
  | .power => "**"
  | .equal => "=="
  | .strictlyEqual => "==="
  | .strictlyUnequal => "!=="
  | .both => "&&"
  | .either => "||"

/-- How tightly the operator binds. -/
def level : Operator → Nat
  | .coalesce => 2
  | .either => 2
  | .both => 3
  | .equal => 4
  | .strictlyEqual => 4
  | .strictlyUnequal => 4
  | .power => 5

/-- How tightly the left operand has to bind. -/
def leftLevel (op : Operator) : Nat := if op = .power then 6 else op.level

/-- How tightly the right operand has to bind. -/
def rightLevel (op : Operator) : Nat := if op = .power then 5 else op.level + 1

end Operator

namespace Expr

/-- How tightly an expression binds. -/
def level : Expr → Nat
  | .assign .. => 0
  | .conditional .. => 1
  | .binary op .. => op.level
  | .undefined => 6
  | _ => 7

/-- A text, in parentheses if it needs them. -/
def parens (needed : Bool) (text : String) : String := if needed then "(" ++ text ++ ")" else text

mutual

/-- An expression as it is written. -/
def print (l : Layout) : Expr → String
  | .name id => id
  | .number digits => digits
  | .integer digits => digits ++ "n"
  | .text value => quote l.quote value
  | .null => "null"
  | .this => "this"
  | .undefined => "void 0"
  | .binary op left right =>
    parens (left.level < op.leftLevel) (left.print l) ++ l.blank ++ op.symbol ++ l.blank
      ++ parens (right.level < op.rightLevel) (right.print l)
  | .conditional test yes no =>
    parens (test.level < 2) (test.print l) ++ l.blank ++ "?" ++ l.blank ++ yes.print l ++ l.blank
      ++ ":" ++ l.blank ++ no.print l
  | .assign target value => target.print l ++ l.blank ++ "=" ++ l.blank ++ value.print l
  | .member object property => parens (object.level < 7) (object.print l) ++ "." ++ property
  | .memberIfAny object property => parens (object.level < 7) (object.print l) ++ "?." ++ property
  | .call callee arguments =>
    parens (callee.level < 7) (callee.print l) ++ "("
      ++ ("," ++ l.blank).intercalate (printAll l arguments) ++ ")"
  | .pureCall callee arguments =>
    "/* @__PURE__ */ " ++ parens (callee.level < 7) (callee.print l) ++ "("
      ++ ("," ++ l.blank).intercalate (printAll l arguments) ++ ")"
  | .element tag children =>
    "<" ++ tag.getD "" ++ ">" ++ String.join (printAll l children) ++ "</" ++ tag.getD "" ++ ">"

/-- Each of several expressions as it is written. -/
def printAll (l : Layout) : List Expr → List String
  | [] => []
  | e :: rest => e.print l :: printAll l rest

end

end Expr

/-- The front of a line. -/
def Layout.indent (l : Layout) (depth : Nat) : String := String.join (List.replicate depth l.tab)

/-- Lines with braces around them, on lines of their own if there is anything inside. -/
def Layout.block (l : Layout) (depth : Nat) (head lines : String) : String :=
  let inside := if lines = "" then "" else l.newline ++ lines ++ l.indent depth
  l.indent depth ++ head ++ l.blank ++ "\x7b" ++ inside ++ "\x7d" ++ l.newline

/-- A line that ends with a semicolon. -/
def Layout.line (l : Layout) (depth : Nat) (text : String) : String :=
  l.indent depth ++ text ++ ";" ++ l.newline

/-- The last line of a block. -/
def Layout.lastLine (l : Layout) (depth : Nat) (text : String) : String :=
  l.indent depth ++ text ++ l.lastStop ++ l.newline

/-- The lines of a block. -/
def Layout.lines (l : Layout) (depth : Nat) : List String → String
  | [] => ""
  | [text] => l.lastLine depth text
  | text :: rest => l.line depth text ++ l.lines depth rest

/-- A field with its value as it is written. -/
def Layout.field (l : Layout) (name : String) (value : Expr) : String :=
  name ++ l.blank ++ "=" ++ l.blank ++ value.print l

/-- The members of a class as they are written. -/
def Member.printAll (l : Layout) : List Member → String
  | [] => ""
  | [.field name value] => l.lastLine 1 (l.field name value)
  | .field name value :: rest => l.line 1 (l.field name value) ++ printAll l rest
  | .maker body :: rest =>
    l.block 1 "constructor()" (l.lines 2 (body.map (Expr.print l))) ++ printAll l rest

/-- A statement as it is written. -/
def Statement.print (l : Layout) : Statement → String
  | .expression e => l.line 0 (e.print l)
  | .letDecl name value =>
    l.line 0 ("let " ++ name ++ l.blank ++ "=" ++ l.blank ++ value.print l)
  | .varDecl names => l.line 0 ("var " ++ ("," ++ l.blank).intercalate names)
  | .importDefault name module =>
    l.line 0 ("import " ++ name ++ " from" ++ l.blank ++ quote '"' module)
  | .classDecl name members => l.block 0 ("class " ++ name) (Member.printAll l members)

/-- A program as it is written. -/
def Program.print (l : Layout) (p : Program) : String := String.join (p.map (Statement.print l))

end Bundler.Script
