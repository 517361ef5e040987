import LintConfig.Ecma.Cursor
import LintConfig.Ecma.Name
import LintConfig.Ecma.Token
import LintConfig.Ecma.RegularExpression

/-! Reading one token at a cursor that stands on it. The lexer knows which braces are open, to
tell the end of a substitution in a template from the end of a block. -/

namespace LintConfig.Ecma.Lexer
open Character Cursor

/-- An open brace: of a block or object, or of a substitution in a template. -/
inductive Brace
  | block
  | substitution
  deriving DecidableEq, Repr

/-- A token with the place after it and the braces open there. -/
structure Lexed where
  token : Token
  next : Cursor
  braces : List Brace

/-- The token between two places. -/
def token (start stop : Cursor) (lexeme : Lexeme) : Token :=
  { lexeme, line := stop.line, start := start.index, stop := stop.index, raw := start.upTo stop }

/-! ### Names -/

/-- The characters of a name, escapes replaced. The first one is accepted as it is. -/
def nameChars : (fuel : Nat) → (first : Bool) → Cursor → Scan (List Char × Cursor)
  | 0, _, c => c.fail .tooDeep
  | fuel + 1, first, c => do
    match c.rest with
    | '\\' :: 'u' :: '{' :: _ =>
      let (code, c) ← (c.move 3).bracedEscape
      let (more, c) ← nameChars fuel false c
      return (Name.spell code ++ more, c)
    | '\\' :: 'u' :: _ =>
      match (c.move 2).hexEscape? 4 with
      | some (ch, c) =>
        if ch != '\\' && (if first then isIdentifierStart ch else isIdentifierPart ch) then
          let (more, c) ← nameChars fuel false c
          return (ch :: more, c)
        else c.illegal
      | none => c.illegal
    | '\\' :: _ => c.illegal
    | ch :: _ =>
      if first || isIdentifierPart ch then
        let (more, c) ← nameChars fuel false (c.move 1)
        return (ch :: more, c)
      else return ([], c)
    | [] => return ([], c)

/-- The lexeme of a word: a single character is always a name. -/
def wordLexeme (word : String) : Lexeme :=
  if word.length = 1 then .identifier word
  else match Keyword.ofText? word with
    | some k => .keyword k
    | none =>
      if word == "null" then .null
      else if word == "true" then .boolean true
      else if word == "false" then .boolean false
      else .identifier word

def lexName (c : Cursor) : Scan (Token × Cursor) := do
  let (chars, d) ← nameChars (c.rest.length + 1) true c
  let lexeme := wordLexeme (String.ofList chars)
  let t := token c d lexeme
  if !t.isIdentifier && c.index + chars.length != d.index then c.fail .escapedKeyword
  else return (t, d)

/-! ### Numbers -/

def startsName (c : Cursor) : Bool := c.rest.head?.any isIdentifierStart

def startsDigit (c : Cursor) : Bool := c.rest.head?.any isDecimalDigit

/-- Digits of a base that is named by the two characters before them. -/
def basedNumber (start digits : Cursor) (isDigit : Char → Bool) (thenNoDigit : Bool) :
    Scan (Token × Cursor) :=
  let (ds, d) := digits.moveWhile isDigit
  if ds.isEmpty || startsName d || (thenNoDigit && startsDigit d) then d.illegal
  else .ok (token start d (.numeric false), d)

/-- Is a number that begins with zero octal? Not if an eight or a nine is among its digits. -/
def isImplicitOctal (digits : List Char) : Bool :=
  match digits.dropWhile isOctalDigit with
  | '8' :: _ | '9' :: _ => false
  | _ => true

/-- An exponent, if there is one. -/
def exponent (c : Cursor) : Scan Cursor :=
  match c.rest with
  | e :: rest =>
    if e == 'e' || e == 'E' then
      let d := match rest with
        | s :: _ => if s == '+' || s == '-' then c.move 2 else c.move 1
        | [] => c.move 1
      if startsDigit d then .ok (d.moveWhile isDecimalDigit).2 else d.illegal
    else .ok c
  | [] => .ok c

def decimalNumber (c : Cursor) : Scan (Token × Cursor) := do
  let (_, d) := c.moveWhile isDecimalDigit
  let d := if d.rest.head? == some '.' then ((d.move 1).moveWhile isDecimalDigit).2 else d
  let d ← exponent d
  if startsName d then d.illegal else return (token c d (.numeric false), d)

def lexNumber (c : Cursor) : Scan (Token × Cursor) :=
  match c.rest with
  | '0' :: b :: rest =>
    if b == 'x' || b == 'X' then basedNumber c (c.move 2) isHexDigit false
    else if b == 'b' || b == 'B' then basedNumber c (c.move 2) isBinaryDigit true
    else if b == 'o' || b == 'O' then basedNumber c (c.move 2) isOctalDigit true
    else if isOctalDigit b && isImplicitOctal (b :: rest) then
      let (_, d) := (c.move 1).moveWhile isOctalDigit
      if startsName d || startsDigit d then d.illegal else .ok (token c d (.numeric true), d)
    else decimalNumber c
  | _ => decimalNumber c

/-! ### Strings -/

def simpleEscape? : Char → Option Char
  | 'n' => some '\n'
  | 'r' => some '\r'
  | 't' => some '\t'
  | 'b' => some '\x08'
  | 'f' => some '\x0c'
  | 'v' => some '\x0b'
  | _ => none

/-- An escape in a string, the cursor standing behind the backslash: the characters it stands for
and whether it is octal. -/
def stringEscape (c : Cursor) : Scan (List Char × Bool × Cursor) := do
  match c.rest with
  | [] => c.illegal
  | ch :: rest =>
    if isLineTerminator ch then return ([], false, c.newline)
    else if ch == 'u' then
      if rest.head? == some '{' then
        let (code, c) ← (c.move 2).bracedEscape
        return ([character code], false, c)
      else match (c.move 1).hexEscape? 4 with
        | some (e, c) => return ([e], false, c)
        | none => c.illegal
    else if ch == 'x' then
      match (c.move 1).hexEscape? 2 with
      | some (e, c) => return ([e], false, c)
      | none => c.fail .badHexEscape
    else if ch == '8' || ch == '9' then c.illegal
    else if isOctalDigit ch then
      let (code, octal, c) := c.octalEscape
      return ([character code], octal, c)
    else return ([(simpleEscape? ch).getD ch], false, c.move 1)

/-- The characters of a string up to its closing quote. -/
def stringChars (quote : Char) : (fuel : Nat) → Cursor → Scan (List Char × Bool × Cursor)
  | 0, c => c.fail .tooDeep
  | fuel + 1, c => do
    match c.rest with
    | [] => c.illegal
    | ch :: _ =>
      if ch == quote then return ([], false, c.move 1)
      else if ch == '\\' then
        let (e, octal, c) ← stringEscape (c.move 1)
        let (more, octal', c) ← stringChars quote fuel c
        return (e ++ more, octal || octal', c)
      else if isLineTerminator ch then c.illegal
      else
        let (more, octal, c) ← stringChars quote fuel (c.move 1)
        return (ch :: more, octal, c)

def lexString (quote : Char) (c : Cursor) : Scan (Token × Cursor) := do
  let (chars, octal, d) ← stringChars quote c.rest.length (c.move 1)
  return (token c d (.string (String.ofList chars) octal), d)

/-! ### Templates -/

/-- Move over an escape in a template, the cursor standing behind the backslash. -/
def templateEscape (c : Cursor) : Scan Cursor := do
  match c.rest with
  | [] => c.illegal
  | ch :: rest =>
    if isLineTerminator ch then return c.newline
    else if ch == 'u' then
      if rest.head? == some '{' then return (← (c.move 2).bracedEscape).2
      else match (c.move 1).hexEscape? 4 with
        | some (_, c) => return c
        | none => return c.move 1
    else if ch == 'x' then
      match (c.move 1).hexEscape? 2 with
      | some (_, c) => return c
      | none => c.fail .badHexEscape
    else if ch == '0' then
      if startsDigit (c.move 1) then c.fail .templateOctal else return c.move 1
    else if isOctalDigit ch then c.fail .templateOctal
    else return c.move 1

/-- Move to the mark that ends a stretch of a template; tell whether it closes the template. -/
def templateEnd : (fuel : Nat) → Cursor → Scan (Bool × Cursor)
  | 0, c => c.fail .tooDeep
  | fuel + 1, c => do
    match c.rest with
    | [] => c.illegal
    | '`' :: _ => return (true, c)
    | '$' :: '{' :: _ => return (false, c)
    | '\\' :: _ => templateEnd fuel (← templateEscape (c.move 1))
    | ch :: _ => templateEnd fuel (if isLineTerminator ch then c.newline else c.move 1)

def lexTemplate (braces : List Brace) (c : Cursor) : Scan Lexed := do
  let head := c.rest.head? == some '`'
  let content := c.move 1
  let (tail, d) ← templateEnd c.rest.length content
  let next := d.move (if tail then 1 else 2)
  let outer := if head then braces else braces.tail
  return {
    token := token c next (.template (content.upTo d) head tail)
    next
    braces := if tail then outer else .substitution :: outer }

/-! ### Punctuators -/

def lexPunctuator (braces : List Brace) (c : Cursor) : Scan Lexed :=
  match Punctuator.ofText? c.rest with
  | none => c.illegal
  | some p =>
    let next := c.move p.text.length
    .ok {
      token := token c next (.punctuator p)
      next
      braces := match p with
        | .leftBrace => .block :: braces
        | .rightBrace => braces.tail
        | _ => braces }

/-! ### Regular expressions -/

/-- Move over the body of a regular expression, the cursor standing behind the opening slash. A
slash inside a class does not end it. -/
def regularExpressionBody : (fuel : Nat) → (inClass : Bool) → Cursor → Scan Cursor
  | 0, _, c => c.fail .tooDeep
  | fuel + 1, inClass, c => do
    match c.rest with
    | [] => c.fail .unterminatedRegularExpression
    | '\\' :: ch :: _ =>
      if isLineTerminator ch then c.fail .unterminatedRegularExpression
      else regularExpressionBody fuel inClass (c.move 2)
    | ch :: _ =>
      if isLineTerminator ch then c.fail .unterminatedRegularExpression
      else if inClass then regularExpressionBody fuel (ch != ']') (c.move 1)
      else if ch == '/' then return c
      else regularExpressionBody fuel (ch == '[') (c.move 1)

/-- Move over the flags of a regular expression, which may be any letters but no escapes. -/
def regularExpressionFlags (c : Cursor) : Scan Cursor :=
  let (_, d) := c.moveWhile fun ch => ch != '\\' && isIdentifierPart ch
  match d.rest with
  | '\\' :: _ :: _ => d.illegal
  | '\\' :: _ => .ok (d.move 1)
  | _ => .ok d

/-- Read a regular expression at a slash. -/
def lexRegularExpression (c : Cursor) : Scan (Token × Cursor) := do
  let body := c.move 1
  let d ← regularExpressionBody (body.rest.length + 1) false body
  let next ← regularExpressionFlags (d.move 1)
  if RegularExpression.isValid (body.rest.take (d.index - body.index)) then
    return (token c next .regularExpression, next)
  else next.fail .badRegularExpression

/-- Read the token at a cursor. -/
def lex (braces : List Brace) (c : Cursor) : Scan Lexed := do
  match c.rest with
  | [] => return ⟨token c c .endOfInput, c, braces⟩
  | ch :: rest =>
    if isIdentifierStart ch then
      let (t, d) ← lexName c
      return ⟨t, d, braces⟩
    else if ch == '\'' || ch == '"' then
      let (t, d) ← lexString ch c
      return ⟨t, d, braces⟩
    else if isDecimalDigit ch || (ch == '.' && rest.head?.any isDecimalDigit) then
      let (t, d) ← lexNumber c
      return ⟨t, d, braces⟩
    else if ch == '`' || (ch == '}' && braces.head? == some .substitution) then
      lexTemplate braces c
    else lexPunctuator braces c

end LintConfig.Ecma.Lexer
