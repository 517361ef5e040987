import LintConfig.Yaml.Error

/-! A place in a document's text, and moves from it. The end of the text reads as a null character,
which no document holds. -/

namespace LintConfig.Yaml

structure Cursor where
  rest : List Char
  index : Nat := 0
  line : Nat := 0
  column : Nat := 0
  deriving DecidableEq, Repr, Inhabited

/-- A line break. -/
def isBreak (c : Char) : Bool :=
  c == '\n' || c == '\r' || c == '\x85' || c == '\u2028' || c == '\u2029'

def isEnd (c : Char) : Bool := c == '\x00'

def isBreakOrEnd (c : Char) : Bool := isEnd c || isBreak c

/-- A blank in the narrow sense: tabs do not count. -/
def isSpaceOrEnd (c : Char) : Bool := c == ' ' || isBreakOrEnd c

def isBlankOrEnd (c : Char) : Bool := c == ' ' || c == '\t' || isBreakOrEnd c

/-- The characters of names: of anchors, directives and tag handles. -/
def isWordChar (c : Char) : Bool :=
  ('0' ≤ c && c ≤ '9') || ('A' ≤ c && c ≤ 'Z') || ('a' ≤ c && c ≤ 'z') || c == '-' || c == '_'

def isDigit (c : Char) : Bool := '0' ≤ c && c ≤ '9'

def isHexDigit (c : Char) : Bool :=
  isDigit c || ('A' ≤ c && c ≤ 'F') || ('a' ≤ c && c ≤ 'f')

abbrev Scan (α : Type) := Except Error α

namespace Cursor

def mark (c : Cursor) : Mark := ⟨c.line, c.column⟩

/-- The character at the cursor. -/
def here (c : Cursor) : Char :=
  match c.rest with
  | x :: _ => x
  | [] => '\x00'

/-- The character some places behind the cursor. -/
def peek (c : Cursor) (n : Nat) : Char := (c.rest[n]?).getD '\x00'

/-- Move over one character. A byte order mark takes no column. -/
def next (c : Cursor) : Cursor :=
  match c.rest with
  | [] => c
  | x :: rest =>
    if (isBreak x && x != '\r') || (x == '\r' && rest.head? != some '\n') then
      { rest, index := c.index + 1, line := c.line + 1, column := 0 }
    else
      { rest, index := c.index + 1, line := c.line
        column := if x == '\ufeff' then c.column else c.column + 1 }

/-- Move over some characters. -/
def move (c : Cursor) : (n : Nat) → Cursor
  | 0 => c
  | n + 1 => c.next.move n

/-- Move over characters while a property holds, and give them. -/
def takeWhile (c : Cursor) (p : Char → Bool) : List Char × Cursor :=
  let taken := c.rest.takeWhile p
  (taken, c.move taken.length)

def skipWhile (c : Cursor) (p : Char → Bool) : Cursor := (c.takeWhile p).2

def skipSpaces (c : Cursor) : Cursor := c.skipWhile (· == ' ')

/-- Move over a comment, if there is one. -/
def skipComment (c : Cursor) : Cursor :=
  if c.here == '#' then c.skipWhile (!isBreak ·) else c

/-- Move over a line break, if there is one, and give what it stands for: most are line feeds. -/
def lineBreak (c : Cursor) : Option Char × Cursor :=
  match c.rest with
  | '\r' :: '\n' :: _ => (some '\n', c.move 2)
  | x :: _ =>
    if x == '\u2028' || x == '\u2029' then (some x, c.next)
    else if isBreak x then (some '\n', c.next)
    else (none, c)
  | [] => (none, c)

/-- Is the cursor at a mark that separates documents? -/
def atSeparator (c : Cursor) : Bool :=
  (c.rest.take 3 == ['-', '-', '-'] || c.rest.take 3 == ['.', '.', '.']) && isBlankOrEnd (c.peek 3)

/-- Stop with a fault at the cursor. -/
def fault {α : Type} (c : Cursor) (context : String) (start : Mark) (problem : String) : Scan α :=
  .error (.fault {
    stage := .scanning, context := some context, contextMark := some start, problem, mark := c.mark })

end Cursor

end LintConfig.Yaml
