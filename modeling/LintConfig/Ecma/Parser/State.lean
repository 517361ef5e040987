import LintConfig.Ecma.Lexer
import LintConfig.Ecma.Tree

/-! The state of a parse and its elementary steps. One token of lookahead is read in advance; the
cursor stands behind it. A node that begins at the lookahead ends where the last token consumed
ends, except that a missing semicolon stretches a statement up to the lookahead. -/

namespace LintConfig.Ecma.Parser
open Lexer (Brace Lexed)

/-- What the surrounding code allows. -/
structure Context where
  isModule : Bool := false
  strict : Bool := false
  await : Bool := false
  allowIn : Bool := true
  allowYield : Bool := true
  allowStrictDirective : Bool := true
  inFunctionBody : Bool := false
  inIteration : Bool := false
  inSwitch : Bool := false
  labels : List String := []
  /-- Can the expression just read be assigned to? -/
  isAssignmentTarget : Bool := false
  /-- Can the expression just read be the parameter of an arrow function? -/
  isBindingElement : Bool := false
  /-- The equals sign of the first property with an initial value, an error unless the object
  turns out to be a pattern. -/
  coverInitializer : Option Token := none

structure State where
  /-- The number of characters of the whole text. -/
  length : Nat
  cursor : Cursor
  braces : List Brace := []
  lookahead : Token
  /-- Does a line break precede the lookahead? -/
  afterNewline : Bool := false
  /-- The place of the lookahead. -/
  start : Cursor
  /-- Where the last token consumed ends. -/
  lastStop : Nat := 0
  lastLine : Nat := 0
  /-- The last token consumed. -/
  last : Option Token := none
  /-- The block comments before the lookahead, the last one first. -/
  comments : List Span := []
  context : Context := {}
  /-- Are elements of markup expressions? -/
  markup : Bool := false
  /-- The tokens bound by the pattern being read, in order. -/
  bindings : List Token := []

abbrev Parse := StateT State (Except ParseError)

def fromScan {α : Type} (s : Scan α) : Parse α := fun st => s.map (·, st)

def context : Parse Context := do return (← get).context

def modifyContext (f : Context → Context) : Parse Unit :=
  modify fun s => { s with context := f s.context }

def lookahead : Parse Token := do return (← get).lookahead

/-! ### Errors -/

/-- An error on the line of the last token consumed. -/
def fail {α : Type} (cause : Cause) : Parse α := fun s => .error (.malformed s.lastLine cause)

/-- An error on the line the lexer has reached. -/
def failHere {α : Type} (cause : Cause) : Parse α :=
  fun s => .error (.malformed s.cursor.line cause)

/-- An error at a token. -/
def failAt {α : Type} (t : Token) (cause : Cause) : Parse α :=
  fun _ => .error (.malformed t.line cause)

def abort {α : Type} (reason : Abort) : Parse α := fun _ => .error (.aborted reason)

def tooDeep {α : Type} : Parse α := failHere .tooDeep

/-- How a token reads that should not be there. -/
def unexpectedCause (strict : Bool) (t : Token) : Cause :=
  match t.lexeme with
  | .endOfInput => .unexpectedEnd
  | .identifier _ => .unexpectedIdentifier
  | .numeric _ => .unexpectedNumber
  | .string _ _ => .unexpectedString
  | .template content _ _ => .unexpectedTemplate content
  | .keyword k =>
    if Keyword.future.contains k then .unexpectedReservedWord
    else if strict && Keyword.strictOnly.contains k then .strictReservedWord
    else .unexpectedToken k.text
  | _ => .unexpectedToken t.value

def unexpected {α : Type} (t : Token) : Parse α := do
  failAt t (unexpectedCause (← context).strict t)

/-! ### Moving -/

/-- Names that strict code reserves are keywords there. -/
def reserve (strict : Bool) (t : Token) : Token :=
  match t.lexeme with
  | .identifier name =>
    match if strict then Keyword.ofStrictText? name else none with
    | some k => { t with lexeme := .keyword k }
    | none => t
  | _ => t

/-- Skip blanks and comments. -/
def skipGap : Parse Unit := do
  let s ← get
  let skipped ← fromScan (s.cursor.skipGap s.context.isModule)
  set { s with cursor := skipped.next, comments := skipped.comments.reverse ++ s.comments }

/-- Read the token at the cursor, as the new lookahead. -/
def readLookahead : Parse Unit := do
  let s ← get
  let skipped ← fromScan (s.cursor.skipGap s.context.isModule)
  let lexed ← fromScan (Lexer.lex s.braces skipped.next)
  let next := reserve s.context.strict lexed.token
  set { s with
    cursor := lexed.next
    braces := lexed.braces
    lookahead := next
    afterNewline := s.lookahead.line != next.line
    start := skipped.next
    lastStop := s.cursor.index
    lastLine := s.cursor.line
    comments := skipped.comments.reverse ++ s.comments }

/-- Consume the lookahead and read the next one. -/
def advance : Parse Token := do
  let t := (← get).lookahead
  readLookahead
  modify fun s => { s with last := some t }
  return t

/-- Read the token after the lookahead without moving. Braces it opens stay open. -/
def peek : Parse Token := do
  let s ← get
  let skipped ← fromScan (s.cursor.skipGap s.context.isModule)
  let lexed ← fromScan (Lexer.lex s.braces skipped.next)
  set { s with braces := lexed.braces }
  return lexed.token

/-- Read the lookahead again, as the start of a regular expression. -/
def advanceRegularExpression : Parse Token := do
  let s ← get
  let (t, next) ← fromScan (Lexer.lexRegularExpression s.start)
  set { s with cursor := next, lookahead := t }
  advance

/-- The parse state before the first token. -/
def initial (text : List Char) (markup : Bool) : State :=
  let start := Cursor.start text
  { length := text.length
    cursor := start
    lookahead := Lexer.token start start .endOfInput
    start
    lastLine := start.line
    markup }

/-! ### Looking -/

def sees (p : Punctuator) : Parse Bool := do return (← lookahead).isPunctuator p

def seesKeyword (k : Keyword) : Parse Bool := do return (← lookahead).isKeyword k

def seesWord (word : String) : Parse Bool := do return (← lookahead).isWord word

def seesAny (ps : List Punctuator) : Parse Bool := do
  let t ← lookahead
  return ps.any t.isPunctuator

def expect (p : Punctuator) : Parse Unit := do
  let t ← advance
  unless t.isPunctuator p do unexpected t

def expectKeyword (k : Keyword) : Parse Unit := do
  let t ← advance
  unless t.isKeyword k do unexpected t

/-- Consume the lookahead if it is this punctuator. -/
def accept (p : Punctuator) : Parse Bool := do
  if ← sees p then
    let _ ← advance
    return true
  else return false

def acceptKeyword (k : Keyword) : Parse Bool := do
  if ← seesKeyword k then
    let _ ← advance
    return true
  else return false

def acceptWord (word : String) : Parse Bool := do
  if ← seesWord word then
    let _ ← advance
    return true
  else return false

/-- End a statement: with a semicolon, or where a line, a block or the text ends. -/
def endStatement : Parse Unit := do
  if ← sees .semicolon then
    let _ ← advance
  else
    let s ← get
    unless s.afterNewline do
      unless s.lookahead.isEnd || s.lookahead.isPunctuator .rightBrace do
        unexpected s.lookahead
      modify fun s => { s with lastStop := s.start.index, lastLine := s.start.line }

/-! ### Nodes -/

/-- Where a node that begins at the lookahead starts. -/
def mark : Parse Nat := do return (← get).start.index

/-- The node from a start up to the end of the last token consumed. -/
def finish (start : Nat) (kind : Kind) (fields : List Field) : Parse Node := do
  let s ← get
  return .mk kind ⟨start, s.lastStop⟩ s.last fields

def field (label : String) (n : Node) : Field := .child label n

def optional (label : String) : Option Node → Field
  | some n => .child label n
  | none => .plain label .absent

def many (label : String) (ns : List Node) : Field := .children label (ns.map .node)

def flag (label : String) (b : Bool) : Field := .plain label (.flag b)

def text (label : String) (s : String) : Field := .plain label (.text s)

def identifier (start : Nat) (name : String) : Parse Node :=
  finish start .identifier [text "name" name]

/-- A literal with its text as written and, of a string, its value. -/
def literal (start : Nat) (t : Token) : Parse Node :=
  let value := match t.lexeme with
    | .string value _ => text "value" value
    | _ => .plain "value" .absent
  finish start .literal [value, text "raw" t.raw]

/-! ### Repetition -/

/-- More than the number of tokens that are left. -/
def tokensLeft : Parse Nat := do return (← get).length + 2

/-- Repeat `item` until `done` holds. -/
def untilDone {α : Type} (done : Parse Bool) (item : Parse α) : (fuel : Nat) → Parse (List α)
  | 0 => tooDeep
  | fuel + 1 => do
    if ← done then return []
    else
      let x ← item
      return x :: (← untilDone done item fuel)

/-- Change a value for as long as `step` yields a new one. -/
def iterate {α : Type} (step : α → Parse (Option α)) : (fuel : Nat) → α → Parse α
  | 0, _ => tooDeep
  | fuel + 1, x => do
    match ← step x with
    | some y => iterate step fuel y
    | none => return x

/-! ### Cover grammar -/

/-- Read an expression on its own: an initial value it leaves open is an error, and what it can be
used as is forgotten. -/
def isolated {α : Type} (p : Parse α) : Parse α := do
  let before ← context
  modifyContext fun c =>
    { c with isBindingElement := true, isAssignmentTarget := true, coverInitializer := none }
  let x ← p
  match (← context).coverInitializer with
  | some t => unexpected t
  | none =>
    modifyContext fun c => { c with
      isBindingElement := before.isBindingElement
      isAssignmentTarget := before.isAssignmentTarget
      coverInitializer := before.coverInitializer }
    return x

/-- Read an expression as a part of the one around it, which can be used as less than both. -/
def inherited {α : Type} (p : Parse α) : Parse α := do
  let before ← context
  modifyContext fun c =>
    { c with isBindingElement := true, isAssignmentTarget := true, coverInitializer := none }
  let x ← p
  modifyContext fun c => { c with
    isBindingElement := c.isBindingElement && before.isBindingElement
    isAssignmentTarget := c.isAssignmentTarget && before.isAssignmentTarget
    coverInitializer := before.coverInitializer <|> c.coverInitializer }
  return x

/-- The expression just read is a value and nothing else. -/
def onlyValue : Parse Unit :=
  modifyContext fun c => { c with isAssignmentTarget := false, isBindingElement := false }

/-! ### The grammar's recursion -/

/-- How a binding is declared. -/
inductive BindingKind
  | var
  | lexical
  | parameter
  deriving DecidableEq, Repr

/-- The nonterminals through which the grammar refers to itself. -/
inductive Rule
  | expression
  | assignment
  | exponentiation
  | unary
  | call
  | member
  | pattern (kind : BindingKind)
  | statement
  | statementItem
  | functionBody
  | markupElement
  deriving DecidableEq, Repr

/-- The grammar one level of nesting further down. -/
abbrev Grammar := Rule → Parse Node

end LintConfig.Ecma.Parser
