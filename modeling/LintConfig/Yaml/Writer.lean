import LintConfig.Text.Hex
import LintConfig.Value.Text
import LintConfig.Yaml.Tag

/-! Values as YAML text in ASCII. Lists and maps are written in block form, one item per line, unless
they are empty; texts as plain scalars where that reads back as the same text, and else in quotes.
Scalars that are wider than a line are continued on the next one, where they have a space. -/

namespace LintConfig.Yaml.Writer

/-- A line that is longer is not added to if it can be continued on a further one. -/
def width : Nat := 80

def spaces (n : Nat) : List Char := List.replicate n ' '

/-- A line break and the indentation of the line that follows. -/
def newline (indent : Nat) : List Char := '\n' :: spaces indent

/-! ### What a scalar holds -/

/-- A break of lines that a scalar can hold as such. -/
def isLineEnd (c : Char) : Bool := isBreak c && c != '\r'

/-- A character that can only be written as an escape. -/
def isSpecial (c : Char) : Bool := c != '\n' && !(' ' ≤ c && c ≤ '~')

def isGap (c : Char) : Bool := c == ' ' || isLineEnd c

/-- Does a space stand next to a line break? -/
def hasFrayedLine : List Char → Bool
  | c :: d :: rest =>
    (c == ' ' && isLineEnd d) || (isLineEnd c && d == ' ') || hasFrayedLine (d :: rest)
  | _ => false

/-- Does a blank or the end of the text follow? -/
def blankFollows (rest : List Char) : Bool := rest.head?.all isBlankOrEnd

/-- Does a text, up to here plain, go on with what would end it or begin a comment? -/
def hasInnerIndicator : (before : Char) → List Char → Bool
  | _, [] => false
  | before, c :: rest =>
    (c == ':' && blankFollows rest) || (c == '#' && isBlankOrEnd before) ||
      hasInnerIndicator c rest

/-- Does a text begin with what means something else than a plain scalar? -/
def hasLeadingIndicator : List Char → Bool
  | [] => false
  | c :: rest =>
    "#,[]\x7b\x7d&*!|>'\"%@`".toList.contains c ||
      ((c == '?' || c == ':' || c == '-') && blankFollows rest)

def hasIndicator (text : List Char) : Bool :=
  text.take 3 == ['-', '-', '-'] || text.take 3 == ['.', '.', '.'] || hasLeadingIndicator text ||
    match text with
    | [] => false
    | c :: rest => hasInnerIndicator c rest

/-- Can the characters of a text stand without quotes? -/
def isPlain (text : List Char) : Bool :=
  !text.head?.any isGap && !text.getLast?.any isGap && !hasFrayedLine text &&
    !text.any isSpecial && !text.any isLineEnd && !hasIndicator text

inductive Style
  | plain
  | singleQuoted
  | doubleQuoted
  deriving DecidableEq, Repr

/-- How a text is written. A plain scalar must have no other meaning than the text. -/
def styleOf (text : List Char) : Style :=
  if Tag.ofPlain (String.ofList text) == Tag.str && isPlain text then .plain
  else if text.any isSpecial || hasFrayedLine text then .doubleQuoted
  else .singleQuoted

/-! ### Scalars

A scalar is written from a column on. Its margin is the column at which further lines of it begin,
if it may have any. -/

/-- Is a space at this column the place to continue on the next line? -/
def breaksAt (margin : Option Nat) (column : Nat) : Option Nat :=
  if width < column then margin else none

/-- The characters of a plain scalar. Only a single space can give way to a line break. -/
def plainFrom (margin : Option Nat) : (column : Nat) → (before : Char) → List Char → List Char
  | _, _, [] => []
  | column, before, c :: rest =>
    if c == ' ' && before != ' ' && rest.head? != some ' ' then
      match breaksAt margin column with
      | some indent => newline indent ++ plainFrom margin indent c rest
      | none => c :: plainFrom margin (column + 1) c rest
    else c :: plainFrom margin (column + 1) c rest

/-- The characters between single quotes, and behind the opening one. A line break is written as an
empty line, a quote twice. -/
def singleFrom (margin : Option Nat) :
    (column : Nat) → (before : Option Char) → List Char → List Char
  | _, _, [] => []
  | column, before, c :: rest =>
    if c == '\'' then c :: c :: singleFrom margin (column + 2) (some c) rest
    else if c == '\n' then
      let opening := if before == some '\n' then ['\n'] else ['\n', '\n']
      if rest.head? == some '\n' then opening ++ singleFrom margin 0 (some c) rest
      else
        let indent := margin.getD 0
        opening ++ spaces indent ++ singleFrom margin indent (some c) rest
    else if c == ' ' && before.any (· != ' ') && rest.head?.any (· != ' ') then
      match breaksAt margin column with
      | some indent => newline indent ++ singleFrom margin indent (some c) rest
      | none => c :: singleFrom margin (column + 1) (some c) rest
    else c :: singleFrom margin (column + 1) (some c) rest

def upperHex (width n : Nat) : List Char :=
  (Text.hexDigits width n).map fun c =>
    if 'a' ≤ c && c ≤ 'f' then Char.ofNat (c.toNat - 32) else c

/-- The escape of a character, without the backslash, if it has a short one. -/
def shortEscape? (c : Char) : Option Char :=
  if c == '\x00' then some '0'
  else if c == '\x07' then some 'a'
  else if c == '\x08' then some 'b'
  else if c == '\t' then some 't'
  else if c == '\n' then some 'n'
  else if c == '\x0b' then some 'v'
  else if c == '\x0c' then some 'f'
  else if c == '\r' then some 'r'
  else if c == '\x1b' then some 'e'
  else if c == '"' then some '"'
  else if c == '\\' then some '\\'
  else if c == '\x85' then some 'N'
  else if c == '\xa0' then some '_'
  else if c == '\u2028' then some 'L'
  else if c == '\u2029' then some 'P'
  else none

/-- The escape of a code point by its number. -/
def numericEscape (n : Nat) : List Char :=
  '\\' ::
    if n < 0x100 then 'x' :: upperHex 2 n
    else if n < 0x10000 then 'u' :: upperHex 4 n
    else 'U' :: upperHex 8 n

/-- What a code point becomes between double quotes. -/
inductive Piece
  /-- A character that stands for itself. -/
  | literal (c : Char)
  | escaped (written : List Char)
  deriving DecidableEq, Repr

def Piece.ofChar (c : Char) : Piece :=
  match shortEscape? c with
  | some d => .escaped ['\\', d]
  | none => if ' ' ≤ c && c ≤ '~' then .literal c else .escaped (numericEscape c.toNat)

def Piece.ofCode (n : Nat) : Piece :=
  if Text.isHalf n then .escaped (numericEscape n) else .ofChar (Char.ofNat n)

/-- Where a text between double quotes stands while it is written. -/
structure Place where
  column : Nat
  /-- The opening quote has just been written. -/
  isFirst : Bool := false
  /-- An escape or the quote has just been written. -/
  atSeam : Bool := false

/-- The characters between double quotes, and behind the opening one. A line can be continued at a
space or next to an escape; a backslash ends it then, and another one keeps a space that the next
line begins with. -/
def doubleFrom (margin : Option Nat) : Place → List Piece → List Char
  | _, [] => []
  | p, piece :: rest =>
    let inside := !p.isFirst && !rest.isEmpty
    match piece with
    | .escaped written =>
      let column := p.column + written.length
      match if inside then breaksAt margin (column - 1) else none with
      | some indent =>
        let mark := if rest.head? == some (.literal ' ') then ['\\'] else []
        written ++ '\\' :: newline indent ++ mark ++
          doubleFrom margin { column := indent + mark.length, atSeam := true } rest
      | none => written ++ doubleFrom margin { column, atSeam := true } rest
    | .literal c =>
      match if inside && (c == ' ' || p.atSeam) then breaksAt margin p.column else none with
      | some indent =>
        let mark := if c == ' ' then ['\\'] else []
        '\\' :: newline indent ++ mark ++ c ::
          doubleFrom margin { column := indent + mark.length + 1 } rest
      | none => c :: doubleFrom margin { column := p.column + 1 } rest

/-- A text in double quotes. -/
def doubleQuoted (margin : Option Nat) (column : Nat) (pieces : List Piece) : List Char :=
  '"' :: doubleFrom margin { column := column + 1, isFirst := true, atSeam := true } pieces ++ ['"']

/-- A text as a scalar. -/
def text (margin : Option Nat) (column : Nat) (s : List Char) : List Char :=
  match styleOf s with
  | .plain => plainFrom margin column '\x00' s
  | .singleQuoted => '\'' :: singleFrom margin (column + 1) none s ++ ['\'']
  | .doubleQuoted => doubleQuoted margin column (s.map .ofChar)

/-- A number with a point; behind it a numeral with an exponent needs at least one digit. -/
def double : Number.Double → List Char
  | .nan => ".nan".toList
  | .infinite s => if s then "-.inf".toList else ".inf".toList
  | x =>
    let numeral := x.text.toList
    let mantissa := numeral.takeWhile (· != 'e')
    let exponent := numeral.dropWhile (· != 'e')
    if exponent.isEmpty || mantissa.contains '.' then numeral
    else mantissa ++ ['.', '0'] ++ exponent

/-- A value without items. -/
def scalar (margin : Option Nat) (column : Nat) : Value → List Char
  | .null => "null".toList
  | .bool b => if b then "true".toList else "false".toList
  | .integer n => (toString n).toList
  | .double x => double x
  | .text s => text margin column s.toList
  | .halves codes => doubleQuoted margin column (codes.map .ofCode)
  | v => text margin column v.plain.toList

/-! ### Lists and maps -/

/-- Can a key stand on the line of its value? It must be short and have neither line breaks nor the
empty text; what remains is marked as a key. -/
def isSimpleKey (key : Value) : Bool :=
  match key with
  | .text s => s != "" && !s.toList.any isLineEnd && s.length < 123
  | .halves codes => !(codes.map Char.ofNat).any isLineEnd && codes.length < 123
  | _ => true

mutual

/-- A value that begins behind a mark, at a column that its further lines begin at too. -/
def node (indent : Nat) : Value → List Char
  | .list items | .tuple items | .set items =>
    if items.isEmpty then ['[', ']'] else listItems indent items
  | .map entries => if entries.isEmpty then ['\x7b', '\x7d'] else mapEntries indent entries
  | v => scalar (some indent) indent v

/-- A value behind a key that ends at a column, in a map at an indentation. Lists stand as deep as
the map itself, maps one level deeper. -/
def member (indent column : Nat) : Value → List Char
  | .list items | .tuple items | .set items =>
    if items.isEmpty then " []".toList else newline indent ++ listItems indent items
  | .map entries =>
    if entries.isEmpty then " \x7b\x7d".toList
    else newline (indent + 2) ++ mapEntries (indent + 2) entries
  | v => ' ' :: scalar (some (indent + 2)) (column + 1) v

def listItems (indent : Nat) : List Value → List Char
  | [] => []
  | v :: rest =>
    '-' :: ' ' :: node (indent + 2) v ++
      (if rest.isEmpty then [] else newline indent) ++ listItems indent rest

def mapEntries (indent : Nat) : List (Value × Value) → List Char
  | [] => []
  | (k, v) :: rest =>
    (if isSimpleKey k then
      let key := scalar none indent k
      key ++ ':' :: member indent (indent + key.length + 1) v
    else
      '?' :: ' ' :: scalar (some (indent + 2)) (indent + 2) k ++ newline indent ++
        ':' :: ' ' :: node (indent + 2) v) ++
      (if rest.isEmpty then [] else newline indent) ++ mapEntries indent rest

end

/-- Is the value written as a plain scalar? -/
def isPlainScalar : Value → Bool
  | .list _ | .tuple _ | .set _ | .map _ => false
  | .text s => styleOf s.toList == .plain
  | .halves _ => false
  | _ => true

/-- A document. Behind a plain scalar that is all of it, its end is marked. -/
def document (v : Value) : List Char :=
  match v with
  | .list _ | .tuple _ | .set _ | .map _ => node 0 v ++ ['\n']
  | v =>
    scalar (some 2) 0 v ++ '\n' :: (if isPlainScalar v then "...\n".toList else [])

end Writer

/-- A value as YAML text. -/
def write (v : Value) : String := String.ofList (Writer.document v)

end LintConfig.Yaml
