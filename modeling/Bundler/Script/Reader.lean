import Bundler.Diagnostic.Message
import Bundler.Options.Choice
import Bundler.Script.Program
import Bundler.Text.Identifier

/-! # Reading programs

Turns a text into a program. A reader works on the characters that are left, and gives what it read
or the problem that it met. A statement ends at a semicolon, or without one before a brace, at the
end of a line and at the end of the text.

Types are read where the loader has them, and left out; elements are read where it has those. The
readers of expressions call each other, and a bound on the depth of the calls makes them total. -/

set_option autoImplicit false

namespace Bundler.Script

/-- What keeps a text from being a program: what is wrong, the characters from there on, and how
many bytes are concerned. -/
structure Problem where
  text : String
  rest : List Char
  size : Nat

/-- Reading, with the characters that are left. -/
abbrev Read := StateT (List Char) (Except Problem)

namespace Read

/-! ## Characters -/

/-- The blanks that do not end a line: the white space of the language, a next-line control and a
zero-width space. -/
def inlineBlanks : List Char :=
  [' ', '\t', '\x0b', '\x0c', '\u0085', '\u00a0', '\u1680', '\u2000', '\u2001', '\u2002', '\u2003',
    '\u2004', '\u2005', '\u2006', '\u2007', '\u2008', '\u2009', '\u200a', '\u200b', '\u202f',
    '\u205f', '\u3000', '\ufeff']

/-- Whether a character may stand between the words and signs of a program. -/
def isBlank (c : Char) : Bool := isLineEnd c || inlineBlanks.contains c

/-- The characters that are left from the first that is no blank. -/
def skipped : Read (List Char) := return (← get).dropWhile isBlank

/-- Whether a line ends before the next word or sign. -/
def lineEnds : Read Bool := return ((← get).takeWhile isBlank).any isLineEnd

/-- The signs of more than one character. -/
def longSigns : List (List Char) :=
  [['?', '?'], ['?', '.'], ['*', '*'], ['=', '=', '='], ['=', '='], ['=', '>'], ['&', '&'],
    ['|', '|']]

/-- The number of bytes of the word, number or sign in front. -/
def tokenSize : List Char → Nat
  | [] => 0
  | c :: cs =>
    if Text.isIdentifierPart c then Text.byteSize ((c :: cs).takeWhile Text.isIdentifierPart)
    else
      match longSigns.find? fun sign => sign.isPrefixOf (c :: cs) with
      | some sign => sign.length
      | none => c.utf8Size

/-- Something stands where it must not. -/
def unexpected {α : Type} : Read α := do
  let cs ← skipped
  throw ⟨"Unexpected token", cs, tokenSize cs⟩

/-- Reads a word if one is in front. -/
def word? : Read (Option String) := do
  match ← skipped with
  | c :: rest =>
    if Text.isIdentifierStart c then
      set (rest.dropWhile Text.isIdentifierPart)
      return some (String.ofList (c :: rest.takeWhile Text.isIdentifierPart))
    else return none
  | [] => return none

/-- Reads a word. -/
def word : Read String := do
  match ← word? with
  | some word => return word
  | none => unexpected

/-- Reads a given word if it is in front. -/
def keyword? (expected : String) : Read Bool := do
  let before ← get
  if (← word?) = some expected then return true
  set before
  return false

/-- Reads a given word if it is in front and a name follows it on the same line. Elsewhere the word
is a name itself. -/
def introducer? (expected : String) : Read Bool := do
  let before ← get
  if ← keyword? expected then
    let behind ← get
    let ends ← lineEnds
    if (← word?).isSome && !ends then
      set behind
      return true
  set before
  return false

/-- Reads a sign if it is in front, and not only the beginning of a longer one. -/
def sign? (sign : List Char) : Read Bool := do
  let cs ← skipped
  if (longSigns ++ [sign]).find? (·.isPrefixOf cs) = some sign then
    set (cs.drop sign.length)
    return true
  return false

/-- Reads a sign. -/
def sign (expected : List Char) : Read Unit := do
  unless ← sign? expected do unexpected

/-- Reads the end of a statement. -/
def ending : Read Unit := do
  let ends ← lineEnds
  unless ← sign? [';'] do
    let cs ← skipped
    unless cs = [] ∨ cs.head? = some '\x7d' ∨ ends do unexpected

/-- The characters of a text up to the quote that closes it, and those after the quote. -/
def splitQuoted (mark : Char) : List Char → Option (List Char × List Char)
  | [] => none
  | '\\' :: c :: rest => (splitQuoted mark rest).map fun (cs, rest) => (c :: cs, rest)
  | c :: rest =>
    if c = mark then some ([], rest)
    else if c = '\n' ∨ c = '\r' then none
    else (splitQuoted mark rest).map fun (cs, rest) => (c :: cs, rest)

/-- Reads a text between quotes, which ends on the line where it begins. -/
def quotedText : Read String := do
  match ← skipped with
  | mark :: cs =>
    match splitQuoted mark cs with
    | some (value, rest) =>
      set rest
      return String.ofList value
    | none =>
      let line := (mark :: cs).takeWhile fun c => c ≠ '\n' ∧ c ≠ '\r'
      throw ⟨"Unterminated string", mark :: cs, Text.byteSize line⟩
  | [] => unexpected

/-! ## Types -/

/-- Reads a type. -/
def type : Read Unit := discard word

/-- Reads the type of a variable, where there may be one. -/
def annotation (typed : Bool) : Read Unit := do
  if typed then
    if ← sign? [':'] then type

/-- Reads the members of an interface and the brace after them. -/
def interfaceMembers : Nat → Read Unit
  | 0 => unexpected
  | depth + 1 => do
    unless ← sign? ['\x7d'] do
      discard word
      sign [':']
      type
      unless ← sign? [','] do discard (sign? [';'])
      interfaceMembers depth

/-! ## Expressions -/

/-- What a loader lets stand in a text. -/
structure Dialect where
  types : Bool
  elements : Bool

/-- The dialect of a loader. -/
def Dialect.of (loader : Loader) : Dialect :=
  ⟨loader = .ts || loader = .tsx, loader = .jsx || loader = .tsx⟩

/-- Reads a number, which may be an integer of any size. -/
def number : Read Expr := do
  let cs ← skipped
  let digits := String.ofList (cs.takeWhile Char.isDigit)
  match cs.dropWhile Char.isDigit with
  | 'n' :: rest =>
    set rest
    return .integer digits
  | rest =>
    set rest
    return .number digits

/-- Reads the end of the closing tag of an element. -/
def closing (tag : Option String) : Read Unit := do
  match tag with
  | none => sign ['>']
  | some tag =>
    unless ← keyword? tag do unexpected
    sign ['>']

mutual

/-- Reads an expression. -/
def expr (d : Dialect) : Nat → Read Expr
  | 0 => unexpected
  | depth + 1 => do
    let left ← power d depth
    let e ← coalesced d depth left
    match e with
    | .name id =>
      if ← sign? ['='] then return .assign (.name id) (← expr d depth)
    | _ => pure ()
    if d.types && !(← lineEnds) then
      if ← keyword? "as" then type
    return e

/-- Reads the operands that are taken where the one before is null or undefined. -/
def coalesced (d : Dialect) : Nat → Expr → Read Expr
  | 0, _ => unexpected
  | depth + 1, left => do
    if ← sign? ['?', '?'] then
      let right ← power d depth
      coalesced d depth (.binary .coalesce left right)
    else return left

/-- Reads a power, or a base alone. -/
def power (d : Dialect) : Nat → Read Expr
  | 0 => unexpected
  | depth + 1 => do
    let base ← primary d depth
    let base ← after d depth base
    if ← sign? ['*', '*'] then return .binary .power base (← power d depth)
    else return base

/-- Reads what follows an expression and belongs to it: arguments and members. -/
def after (d : Dialect) : Nat → Expr → Read Expr
  | 0, _ => unexpected
  | depth + 1, e => do
    if ← sign? ['('] then
      let args ← arguments d depth true
      after d depth (.call e args)
    else if ← sign? ['.'] then
      let property ← word
      after d depth (.member e property)
    else if ← sign? ['?', '.'] then return .memberIfAny e (← word)
    else return e

/-- Reads arguments up to the parenthesis that closes them. Before each but the first stands a
comma. -/
def arguments (d : Dialect) : Nat → Bool → Read (List Expr)
  | 0, _ => unexpected
  | depth + 1, first => do
    if ← sign? [')'] then return []
    unless first do sign [',']
    let e ← expr d depth
    return e :: (← arguments d depth false)

/-- Reads an expression without operators. -/
def primary (d : Dialect) : Nat → Read Expr
  | 0 => unexpected
  | depth + 1 => do
    match (← skipped).head? with
    | none => unexpected
    | some c =>
      if c = '"' ∨ c = '\'' then return .text (← quotedText)
      else if c.isDigit then number
      else if c = '<' ∧ d.elements then
        sign ['<']
        element d depth
      else return .name (← word)

/-- Reads an element after the first sign of its tag. -/
def element (d : Dialect) : Nat → Read Expr
  | 0 => unexpected
  | depth + 1 => do
    let tag ← word?
    if tag.isSome then
      if ← sign? ['/'] then
        sign ['>']
        return .element tag []
    sign ['>']
    let children ← elementChildren d depth
    closing tag
    return .element tag children

/-- Reads what stands in an element, up to the first signs of its closing tag. -/
def elementChildren (d : Dialect) : Nat → Read (List Expr)
  | 0 => unexpected
  | depth + 1 => do
    let cs ← get
    match cs.takeWhile (· ≠ '<') with
    | [] =>
      sign ['<']
      if ← sign? ['/'] then return []
      let child ← element d depth
      return child :: (← elementChildren d depth)
    | text =>
      set (cs.dropWhile (· ≠ '<'))
      return .text (String.ofList text) :: (← elementChildren d depth)

end

/-! ## Statements -/

/-- Reads the members of a class and the brace after them. -/
def classMembers (d : Dialect) (bound : Nat) : Nat → Read (List Member)
  | 0 => unexpected
  | depth + 1 => do
    if ← sign? ['\x7d'] then return []
    let name ← word
    annotation d.types
    sign ['=']
    let value ← expr d bound
    ending
    return .field name value :: (← classMembers d bound depth)

/-- Reads a statement, of which nothing is left if it is about types alone. -/
def statement (d : Dialect) (bound : Nat) : Read (List Statement) := do
  if ← keyword? "let" then
    let name ← word
    annotation d.types
    sign ['=']
    let value ← expr d bound
    ending
    return [.letDecl name value]
  if ← keyword? "class" then
    let name ← word
    sign ['\x7b']
    return [.classDecl name (← classMembers d bound bound)]
  if d.types then
    if ← introducer? "interface" then
      discard word
      sign ['\x7b']
      interfaceMembers bound
      return []
    if ← introducer? "type" then
      discard word
      sign ['=']
      type
      ending
      return []
  let e ← expr d bound
  ending
  return [.expression e]

/-- Reads statements up to the end of the text. -/
def statements (d : Dialect) (bound : Nat) : Nat → Read Program
  | 0 => return []
  | depth + 1 => do
    if (← skipped) = [] then return []
    let s ← statement d bound
    return s ++ (← statements d bound depth)

end Read

/-- Reads a program, or says what is wrong with the text. -/
def Program.parse (loader : Loader) (text : String) : Program × List (Span × String) :=
  let cs := text.toList
  let depth := 8 * cs.length + 8
  match (Read.statements (.of loader) depth depth).run cs with
  | .ok (p, _) => (p, [])
  | .error problem =>
    let start := Text.byteSize cs - Text.byteSize problem.rest
    ([], [(⟨start, start + problem.size⟩, problem.text)])

end Bundler.Script
