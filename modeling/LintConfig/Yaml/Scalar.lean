import LintConfig.Text.Quotation
import LintConfig.Text.Surrogate
import LintConfig.Yaml.Cursor

/-! The scalars of a YAML text: quoted, plain, and in blocks. Line breaks inside of them are folded:
a single one is a space, of several all but the first count. -/

namespace LintConfig.Yaml.Scalar
open Cursor

-- Powers are those of the core library, whatever else is in scope.
attribute [local instance (high)] instPowNat

/-- A character in a message. -/
def shown (c : Char) : String := Text.quotation (String.singleton c)

/-- What line breaks amount to when folded: the first one, and those after it. -/
def fold (first : Char) (breaks : List Char) : List Char :=
  (if first != '\n' then [first] else if breaks.isEmpty then [' '] else []) ++ breaks

/-! ### Quoted scalars -/

def unclosed (c : Cursor) (start : Mark) (problem : String) {α : Type} : Scan α :=
  c.fault "while scanning a quoted scalar" start problem

/-- The line breaks at the cursor, with the blanks around them. -/
def quotedBreaks (start : Mark) : (fuel : Nat) → Cursor → Scan (List Char × Cursor)
  | 0, c => .ok ([], c)
  | fuel + 1, c => do
    if c.atSeparator then unclosed c start "found unexpected document separator"
    else
      let c := c.skipWhile fun x => x == ' ' || x == '\t'
      match c.lineBreak with
      | (some b, c) =>
        let (more, c) ← quotedBreaks start fuel c
        return (b :: more, c)
      | (none, c) => return ([], c)

/-- Blanks in a quoted scalar: as they are within a line, folded at its end. -/
def quotedSpaces (start : Mark) (c : Cursor) : Scan (List Char × Cursor) := do
  let (spaces, c) := c.takeWhile fun x => x == ' ' || x == '\t'
  match c.lineBreak with
  | (some b, c) =>
    let (breaks, c) ← quotedBreaks start (c.rest.length + 1) c
    return (fold b breaks, c)
  | (none, c) =>
    if isEnd c.here then unclosed c start "found unexpected end of stream" else return (spaces, c)

def simpleEscape? : Char → Option Char
  | '0' => some '\x00'
  | 'a' => some '\x07'
  | 'b' => some '\x08'
  | 't' => some '\t'
  | '\t' => some '\t'
  | 'n' => some '\n'
  | 'v' => some '\x0b'
  | 'f' => some '\x0c'
  | 'r' => some '\r'
  | 'e' => some '\x1b'
  | ' ' => some ' '
  | '"' => some '"'
  | '\\' => some '\\'
  | '/' => some '/'
  | 'N' => some '\x85'
  | '_' => some '\xa0'
  | 'L' => some '\u2028'
  | 'P' => some '\u2029'
  | _ => none

/-- How many digits an escape by number has. -/
def escapeLength? : Char → Option Nat
  | 'x' => some 2
  | 'u' => some 4
  | 'U' => some 8
  | _ => none

def hexValue (c : Char) : Nat :=
  if isDigit c then c.toNat - '0'.toNat
  else if 'a' ≤ c then c.toNat - 'a'.toNat + 10
  else c.toNat - 'A'.toNat + 10

/-- A number as a code point. -/
def codePoint (n : Nat) : Scan Nat :=
  if n ≤ 0x10FFFF then .ok n
  else if n < 2 ^ (31 : Nat) then .error (.badValue "chr() arg not in range(0x110000)")
  else .error .hugeCharacter

/-- An escape by number, the cursor standing at its digits. -/
def numericEscape (start : Mark) (length : Nat) (c : Cursor) : Scan (Nat × Cursor) := do
  let digits := (c.rest.take length).takeWhile isHexDigit
  if digits.length < length then
    c.fault "while scanning a double-quoted scalar" start
      ("expected escape sequence of " ++ toString length ++ " hexadecimal numbers, but found " ++
        shown (c.peek digits.length))
  else
    let n := digits.foldl (fun n d => n * 16 + hexValue d) 0
    return (← codePoint n, c.move length)

/-- The code points of characters. -/
def codes (chars : List Char) : List Nat := chars.map Char.toNat

/-- An escape, the cursor standing behind its backslash. -/
def escape (start : Mark) (c : Cursor) : Scan (List Nat × Cursor) := do
  match simpleEscape? c.here, escapeLength? c.here with
  | some x, _ => return ([x.toNat], c.next)
  | none, some length =>
    let (n, c) ← numericEscape start length c.next
    return ([n], c)
  | none, none =>
    if isBreak c.here then
      let (_, c) := c.lineBreak
      let (breaks, c) ← quotedBreaks start (c.rest.length + 1) c
      return (codes breaks, c)
    else
      c.fault "while scanning a double-quoted scalar" start
        ("found unknown escape character " ++ shown c.here)

/-- The code points of a quoted scalar up to the quote that closes it. -/
def quotedCodes (double : Bool) (start : Mark) : (fuel : Nat) → Cursor →
    Scan (List Nat × Cursor)
  | 0, c => unclosed c start "found unexpected end of stream"
  | fuel + 1, c => do
    let x := c.here
    let quote := if double then '"' else '\''
    if !double && x == '\'' && c.peek 1 == '\'' then
      let (more, c) ← quotedCodes double start fuel (c.move 2)
      return (x.toNat :: more, c)
    else if x == quote then return ([], c.next)
    else if double && x == '\\' then
      let (piece, c) ← escape start c.next
      let (more, c) ← quotedCodes double start fuel c
      return (piece ++ more, c)
    else if isBlankOrEnd x then
      let (piece, c) ← quotedSpaces start c
      let (more, c) ← quotedCodes double start fuel c
      return (codes piece ++ more, c)
    else
      let (more, c) ← quotedCodes double start fuel c.next
      return (x.toNat :: more, c)

/-- A quoted scalar, the cursor standing at its quote. -/
def quoted (c : Cursor) : Scan (Text.Spelled × Cursor) := do
  let (codes, d) ← quotedCodes (c.here == '"') c.mark (c.rest.length + 1) c.next
  return (.ofCodes codes, d)

/-! ### Plain scalars -/

/-- Does a plain scalar stop at the cursor? In a flow collection more characters are special. -/
def endsPlain (inFlow : Bool) (c : Cursor) : Bool :=
  let x := c.here
  isBlankOrEnd x ||
    (x == ':' && (isBlankOrEnd (c.peek 1) || (inFlow && ",[]\x7b\x7d".toList.contains (c.peek 1)))) ||
    (inFlow && ",?[]\x7b\x7d".toList.contains x)

/-- The characters up to the end of a stretch of a plain scalar. -/
def plainStretch (inFlow : Bool) : (fuel : Nat) → Cursor → List Char × Cursor
  | 0, c => ([], c)
  | fuel + 1, c =>
    if endsPlain inFlow c then ([], c)
    else
      let (more, d) := plainStretch inFlow fuel c.next
      (c.here :: more, d)

/-- What follows a stretch of a plain scalar. -/
structure PlainGap where
  /-- The blanks, folded, if the scalar can go on behind them. -/
  spaces : List Char
  cursor : Cursor
  /-- Was a line ended? -/
  newLine : Bool := false

/-- The line breaks between two lines of a plain scalar; `none` at a mark that separates
documents. -/
def plainBreaks : (fuel : Nat) → Cursor → Option (List Char) × Cursor
  | 0, c => (some [], c)
  | fuel + 1, c =>
    if c.here == ' ' then plainBreaks fuel c.next
    else match c.lineBreak with
      | (some b, c) =>
        if c.atSeparator then (none, c)
        else
          let (more, c) := plainBreaks fuel c
          (more.map (b :: ·), c)
      | (none, c) => (some [], c)

/-- The blanks behind a stretch of a plain scalar. -/
def plainGap (c : Cursor) : PlainGap :=
  let (spaces, c) := c.takeWhile (· == ' ')
  match c.lineBreak with
  | (none, c) => { spaces, cursor := c }
  | (some b, c) =>
    if c.atSeparator then { spaces := [], cursor := c, newLine := true }
    else
      match plainBreaks (c.rest.length + 1) c with
      | (none, c) => { spaces := [], cursor := c, newLine := true }
      | (some breaks, c) => { spaces := fold b breaks, cursor := c, newLine := true }

/-- What is known of a plain scalar once it is read. -/
structure Plain where
  content : List Char
  /-- Where the last stretch ends. -/
  stop : Mark
  cursor : Cursor
  /-- Did the blanks behind the last stretch end a line? -/
  newLine : Bool

/-- The stretches of a plain scalar; `spaces` precede the first of them, and lines that belong to
it are indented by `indent` at least. -/
def plainFrom (inFlow : Bool) (indent : Nat) : (fuel : Nat) → (spaces : List Char) → Mark → Bool →
    Cursor → Plain
  | 0, _, stop, newLine, c => { content := [], stop, cursor := c, newLine }
  | fuel + 1, spaces, stop, newLine, c =>
    if c.here == '#' then { content := [], stop, cursor := c, newLine }
    else
      match plainStretch inFlow (c.rest.length + 1) c with
      | ([], c) => { content := [], stop, cursor := c, newLine }
      | (stretch, c) =>
        let gap := plainGap c
        let d := gap.cursor
        if gap.spaces.isEmpty || d.here == '#' || (!inFlow && d.column < indent) then
          { content := spaces ++ stretch, stop := c.mark, cursor := d, newLine := gap.newLine }
        else
          let rest := plainFrom inFlow indent fuel gap.spaces c.mark gap.newLine d
          { rest with content := spaces ++ stretch ++ rest.content }

/-- A plain scalar at the cursor. -/
def plain (inFlow : Bool) (indent : Nat) (c : Cursor) : Plain :=
  plainFrom inFlow indent (c.rest.length + 1) [] c.mark false c

/-! ### Block scalars -/

/-- What becomes of the line breaks at the end of a block scalar. -/
inductive Chomping
  | strip
  | clip
  | keep
  deriving DecidableEq, Repr

def chomping? : Char → Option Chomping
  | '+' => some .keep
  | '-' => some .strip
  | _ => none

def blockFault {α : Type} (c : Cursor) (start : Mark) (problem : String) : Scan α :=
  c.fault "while scanning a block scalar" start problem

/-- The indentation a header asks for, if it does. -/
def increment (start : Mark) (c : Cursor) : Scan (Option Nat × Cursor) :=
  if isDigit c.here then
    if c.here == '0' then
      blockFault c start "expected indentation indicator in the range 1-9, but found 0"
    else .ok (some (c.here.toNat - '0'.toNat), c.next)
  else .ok (none, c)

/-- The header of a block scalar behind its mark, up to the end of its line. -/
def blockHeader (start : Mark) (c : Cursor) : Scan (Chomping × Option Nat × Cursor) := do
  let (chomp, width, c) ←
    match chomping? c.here with
    | some chomp =>
      let (width, c) ← increment start c.next
      pure (chomp, width, c)
    | none =>
      let (width, c) ← increment start c
      match (if width.isSome then chomping? c.here else none) with
      | some chomp => pure (chomp, width, c.next)
      | none => pure (.clip, width, c)
  unless isSpaceOrEnd c.here do
    blockFault c start
      ("expected chomping or indentation indicators, but found " ++ shown c.here)
  let c := c.skipSpaces.skipComment
  unless isBreakOrEnd c.here do
    blockFault c start ("expected a comment or a line break, but found " ++ shown c.here)
  return (chomp, width, c.lineBreak.2)

/-- The empty lines before a block scalar's first line: their breaks and the deepest
indentation. -/
def blockIndentation : (fuel : Nat) → (deepest : Nat) → Cursor → List Char × Nat × Cursor
  | 0, deepest, c => ([], deepest, c)
  | fuel + 1, deepest, c =>
    if c.here == ' ' then
      let d := c.next
      blockIndentation fuel (max deepest d.column) d
    else match c.lineBreak with
      | (some b, c) =>
        let (more, deepest, c) := blockIndentation fuel deepest c
        (b :: more, deepest, c)
      | (none, c) => ([], deepest, c)

/-- Move over spaces up to a column. -/
def indentTo (indent : Nat) (c : Cursor) : Cursor :=
  c.move (((c.rest.take (indent - c.column)).takeWhile (· == ' ')).length)

/-- The empty lines at the cursor, and the indentation of the line after them. -/
def blockBreaks (indent : Nat) : (fuel : Nat) → Cursor → List Char × Cursor
  | 0, c => ([], c)
  | fuel + 1, c =>
    let c := indentTo indent c
    match c.lineBreak with
    | (some b, c) =>
      let (more, c) := blockBreaks indent fuel c
      (b :: more, c)
    | (none, c) => ([], c)

/-- The lines of a block scalar from one that is indented as they have to be; `breaks` are the
empty lines before it. Gives the content without the breaks at its end, the break of the last line,
and those of the empty lines after it. -/
def blockLines (folded : Bool) (indent : Nat) : (fuel : Nat) → (breaks : List Char) → Cursor →
    List Char × List Char × List Char × Cursor
  | 0, breaks, c => ([], [], breaks, c)
  | fuel + 1, breaks, c =>
    let opensText := c.here != ' ' && c.here != '\t'
    let (line, c) := c.takeWhile (!isBreak ·)
    let (lineBreak, c) := c.lineBreak
    let (after, c) := blockBreaks indent (c.rest.length + 1) c
    if c.column = indent && !isEnd c.here then
      let goesOn := c.here != ' ' && c.here != '\t'
      let seam :=
        if folded && lineBreak = some '\n' && opensText && goesOn then
          if after.isEmpty then [' '] else []
        else lineBreak.toList
      let (more, last, tail, c) := blockLines folded indent fuel after c
      (breaks ++ line ++ seam ++ more, last, tail, c)
    else (breaks ++ line, lineBreak.toList, after, c)

/-- A block scalar, the cursor standing at its mark; `parent` is the indentation around it, one
more than its column. -/
def block (parent : Nat) (c : Cursor) : Scan (String × Cursor) := do
  let folded := c.here == '>'
  let (chomp, width, c) ← blockHeader c.mark c.next
  let least := max parent 1
  let (breaks, indent, c) :=
    match width with
    | none =>
      let (breaks, deepest, c) := blockIndentation (c.rest.length + 1) 0 c
      (breaks, max least deepest, c)
    | some n =>
      let indent := least + n - 1
      let (breaks, c) := blockBreaks indent (c.rest.length + 1) c
      (breaks, indent, c)
  let (content, last, tail, c) :=
    if c.column = indent && !isEnd c.here then
      blockLines folded indent (c.rest.length + 1) breaks c
    else ([], [], breaks, c)
  let ending := match chomp with
    | .strip => []
    | .clip => last
    | .keep => last ++ tail
  return (String.ofList (content ++ ending), c)

end LintConfig.Yaml.Scalar
