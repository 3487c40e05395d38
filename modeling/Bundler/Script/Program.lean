/-! # Programs

The part of the script language that the transpile engine knows: names, numbers, texts, calls, a few
operators, elements, and classes with fields. Types are no part of a program: they are left out when
a text is read. -/

set_option autoImplicit false

namespace Bundler.Script

/-- An operator between two operands. -/
inductive Operator
  /-- The left operand unless it is null or undefined. -/
  | coalesce
  | power
  | equal
  | strictlyEqual
  | strictlyUnequal
  | both
  | either
  deriving DecidableEq, Repr

/-- An expression. -/
inductive Expr
  | name (id : String)
  | number (digits : String)
  /-- An integer of any size. -/
  | integer (digits : String)
  | text (value : String)
  | null
  | this
  | undefined
  | binary (op : Operator) (left right : Expr)
  | conditional (test yes no : Expr)
  | assign (target value : Expr)
  | member (object : Expr) (property : String)
  /-- A member of an object that may be null or undefined. -/
  | memberIfAny (object : Expr) (property : String)
  | call (callee : Expr) (arguments : List Expr)
  /-- A call that can be left out when nobody needs its value. -/
  | pureCall (callee : Expr) (arguments : List Expr)
  /-- An element with a tag, or a fragment. -/
  | element (tag : Option String) (children : List Expr)

/-- A member of a class. -/
inductive Member
  | field (name : String) (value : Expr)
  /-- What is done when an object is made. -/
  | maker (body : List Expr)

/-- A statement. -/
inductive Statement
  | expression (e : Expr)
  /-- A variable with a value. -/
  | letDecl (name : String) (value : Expr)
  /-- Variables without values. -/
  | varDecl (names : List String)
  /-- An import of what a module offers by default. -/
  | importDefault (name module : String)
  | classDecl (name : String) (members : List Member)

/-- A program. -/
abbrev Program := List Statement

end Bundler.Script
