import LintConfig.Ecma.Character
import LintConfig.Ecma.Error
import LintConfig.Ecma.Token

/-! A place in a source text, and the pieces of lexical grammar that only move it: blanks,
comments and escapes. -/

namespace LintConfig.Ecma
open Character

/-- What is left of the text, how many characters come before it and on which line it begins. -/
structure Cursor where
  rest : List Char
  index : Nat
  line : Nat
  deriving DecidableEq, Repr

abbrev Scan (α : Type) := Except ParseError α

namespace Cursor

/-- The beginning of a text. A text without characters has no lines. -/
def start (text : List Char) : Cursor := ⟨text, 0, if text.isEmpty then 0 else 1⟩

/-- Move over characters of one line. -/
def move (c : Cursor) (n : Nat) : Cursor := { c with rest := c.rest.drop n, index := c.index + n }

/-- Move over characters of one line for as long as a property holds. -/
def moveWhile (c : Cursor) (p : Char → Bool) : List Char × Cursor :=
  let taken := c.rest.takeWhile p
  (taken, c.move taken.length)

/-- Move over a line terminator; a carriage return takes a line feed with it. -/
def newline (c : Cursor) : Cursor :=
  match c.rest with
  | '\r' :: '\n' :: rest => ⟨rest, c.index + 2, c.line + 1⟩
  | _ :: rest => ⟨rest, c.index + 1, c.line + 1⟩
  | [] => c

/-- The text between two places of a line of moves. -/
def upTo (c d : Cursor) : String := String.ofList (c.rest.take (d.index - c.index))

def fail {α : Type} (c : Cursor) (cause : Cause) : Scan α := .error (.malformed c.line cause)

def illegal {α : Type} (c : Cursor) : Scan α := c.fail .illegalCharacter

/-- What is being skipped between two tokens. -/
inductive Gap
  /-- Blanks; `opening` when only blanks and comments precede on this line. -/
  | blank (opening : Bool)
  /-- The rest of a line, and what `opening` is to be after it. -/
  | lineComment (opening : Bool)
  /-- A block comment that begins at an offset. -/
  | blockComment (opening : Bool) (start : Nat)
  deriving DecidableEq, Repr

/-- The place behind a gap, and the block comments in it. -/
structure Skipped where
  next : Cursor
  comments : List Span := []
  deriving DecidableEq, Repr

/-- Skip blanks and comments. Outside of modules an opening arrow of markup begins a comment, and
a closing one does where it opens a line. -/
def gap (isModule : Bool) : Gap → List Char → (index line : Nat) → Scan Skipped
  | .blockComment _ _, [], _, line => .error (.malformed line .illegalCharacter)
  | _, [], index, line => .ok { next := ⟨[], index, line⟩ }
  | .blockComment o start, '*' :: '/' :: rest, index, line => do
    let later ← gap isModule (.blank o) rest (index + 2) line
    return { later with comments := ⟨start, index + 2⟩ :: later.comments }
  | .blockComment o start, '\r' :: '\n' :: rest, index, line =>
    gap isModule (.blockComment o start) rest (index + 2) (line + 1)
  | .blockComment o start, c :: rest, index, line =>
    gap isModule (.blockComment o start) rest (index + 1)
      (if isLineTerminator c then line + 1 else line)
  | .lineComment o, '\r' :: '\n' :: rest, index, line =>
    gap isModule (.blank o) rest (index + 2) (line + 1)
  | .lineComment o, c :: rest, index, line =>
    if isLineTerminator c then gap isModule (.blank o) rest (index + 1) (line + 1)
    else gap isModule (.lineComment o) rest (index + 1) line
  | .blank _, '\r' :: '\n' :: rest, index, line =>
    gap isModule (.blank true) rest (index + 2) (line + 1)
  | .blank _, '/' :: '/' :: rest, index, line =>
    gap isModule (.lineComment true) rest (index + 2) line
  | .blank o, '/' :: '*' :: rest, index, line =>
    gap isModule (.blockComment o index) rest (index + 2) line
  | .blank true, '-' :: '-' :: '>' :: rest, index, line =>
    gap isModule (.lineComment true) rest (index + 3) line
  | .blank o, '<' :: '!' :: '-' :: '-' :: rest, index, line =>
    if isModule then .ok { next := ⟨'<' :: '!' :: '-' :: '-' :: rest, index, line⟩ }
    else gap isModule (.lineComment o) rest (index + 4) line
  | .blank o, c :: rest, index, line =>
    if isWhiteSpace c then gap isModule (.blank o) rest (index + 1) line
    else if isLineTerminator c then gap isModule (.blank true) rest (index + 1) (line + 1)
    else .ok { next := ⟨c :: rest, index, line⟩ }

/-- The place of the next token, and the block comments before it. -/
def skipGap (isModule : Bool) (c : Cursor) : Scan Skipped :=
  gap isModule (.blank (c.index == 0)) c.rest c.index c.line

/-- The character with this code; half a surrogate pair has none and is replaced. -/
def character (code : Nat) : Char :=
  if code.isValidChar then Char.ofNat code else '\ufffd'

def hexNumber (digits : List Char) : Nat :=
  digits.foldl (fun n c => n * 16 + (hexValue? c).getD 0) 0

/-- A character named by exactly `n` hexadecimal digits. -/
def hexEscape? (n : Nat) (c : Cursor) : Option (Char × Cursor) :=
  let digits := (c.rest.take n).takeWhile isHexDigit
  if digits.length = n then some (character (hexNumber digits), c.move n) else none

/-- A code point named by hexadecimal digits up to a closing brace. -/
def bracedEscape (c : Cursor) : Scan (Nat × Cursor) :=
  let digits := c.rest.takeWhile isHexDigit
  match digits, c.rest.drop digits.length with
  | _ :: _, '}' :: _ =>
    let code := hexNumber digits
    if code ≤ 0x10FFFF then .ok (code, c.move (digits.length + 1)) else c.illegal
  | _, _ => c.illegal

/-- Up to three octal digits, as many as make a code below 256, and whether they amount to more
than a lone zero. -/
def octalEscape (c : Cursor) : Nat × Bool × Cursor :=
  let value := fun (ds : List Char) => ds.foldl (fun n d => n * 8 + (hexValue? d).getD 0) 0
  let digits := (c.rest.take 3).takeWhile isOctalDigit
  let digits := match digits with
    | d :: _ => if d ≤ '3' then digits else digits.take 2
    | [] => []
  (value digits, digits != ['0'], c.move digits.length)

end Cursor

end LintConfig.Ecma
