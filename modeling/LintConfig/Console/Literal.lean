import LintConfig.Number.Reading
import LintConfig.Text.CharacterName

/-! Literals, as the parameters of a handler are written: numbers, strings, bytes, the constants,
and tuples, sets and mappings of them. Only the form is checked; the values are of no use here. -/

namespace LintConfig.Console.Literal

/-- What a literal is good for. -/
inductive Kind
  /-- A number, which a sign may stand before if it has none. -/
  | number (imaginary signed : Bool)
  /-- Any other value; not all can be in a set or be the key of a mapping. -/
  | value (isKey : Bool)
  deriving DecidableEq, Repr

def Kind.isKey : Kind → Bool
  | number _ _ => true
  | value isKey => isKey

/-- A literal at the start of a text, and what follows it. -/
abbrev Found := Option (Kind × List Char)

/-! ### Blanks -/

def isLineEnd (c : Char) : Bool := c == '\n' || c == '\r'

def isBlank (c : Char) : Bool := c == ' ' || c == '\t' || c == '\x0c'

def skipComment : List Char → List Char
  | '#' :: rest => rest.dropWhile (!isLineEnd ·)
  | text => text

/-- Move over blanks; inside of brackets also over line ends and comments. -/
def skip (inside : Bool) : (fuel : Nat) → List Char → List Char
  | 0, text => text
  | fuel + 1, text =>
    match text with
    | '\\' :: '\r' :: '\n' :: c :: rest => skip inside fuel (c :: rest)
    | '\\' :: e :: c :: rest =>
      if isLineEnd e then skip inside fuel (c :: rest) else text
    | '#' :: rest => if inside then skip inside fuel (skipComment ('#' :: rest)) else text
    | c :: rest => if isBlank c || (inside && isLineEnd c) then skip inside fuel rest else text
    | [] => []

def skipped (inside : Bool) (text : List Char) : List Char := skip inside (text.length + 1) text

/-! ### Numbers -/

def isDigit (c : Char) : Bool := '0' ≤ c && c ≤ '9'

def isHexDigit (c : Char) : Bool :=
  isDigit c || ('a' ≤ c && c ≤ 'f') || ('A' ≤ c && c ≤ 'F')

/-- Can the character be in a name? -/
def isNameChar (c : Char) : Bool :=
  isDigit c || ('a' ≤ c && c ≤ 'z') || ('A' ≤ c && c ≤ 'Z') || c == '_' || 0x80 ≤ c.toNat

/-- Digits with single underscores between them, without the underscores; and what follows. -/
def digitRun (p : Char → Bool) : List Char → List Char × List Char
  | c :: '_' :: d :: rest =>
    if p c && p d then
      let (more, rest) := digitRun p (d :: rest)
      (c :: more, rest)
    else if p c then ([c], '_' :: d :: rest)
    else ([], c :: '_' :: d :: rest)
  | c :: rest =>
    if p c then
      let (more, rest) := digitRun p rest
      (c :: more, rest)
    else ([], c :: rest)
  | [] => ([], [])

/-- How many digits a decimal integer may have. -/
def digitLimit : Nat := 4300

/-- The digits of the bases that have a mark. -/
def markedDigits? (mark : Char) : Option (Char → Bool) :=
  if mark == 'x' || mark == 'X' then some isHexDigit
  else if mark == 'o' || mark == 'O' then some fun c => '0' ≤ c && c ≤ '7'
  else if mark == 'b' || mark == 'B' then some fun c => c == '0' || c == '1'
  else none

/-- An exponent, if there is one. -/
def exponent? : List Char → Option (List Char)
  | e :: rest =>
    if e == 'e' || e == 'E' then
      let digits := match rest with
        | s :: behind => if s == '+' || s == '-' then behind else rest
        | [] => []
      let (run, behind) := digitRun isDigit digits
      if run.isEmpty then none else some behind
    else none
  | [] => none

/-- A number ends where no name goes on. -/
def ended (imaginary : Bool) (rest : List Char) : Found :=
  if rest.head?.any isNameChar then none else some (.number imaginary false, rest)

/-- A number that may be imaginary. -/
def marked (rest : List Char) : Found :=
  match rest with
  | 'j' :: rest | 'J' :: rest => ended true rest
  | rest => ended false rest

def decimal? (text : List Char) : Found :=
  let (whole, rest) := digitRun isDigit text
  let (fraction, behind, hasPoint) := match rest with
    | '.' :: rest =>
      let (fraction, rest) := digitRun isDigit rest
      (fraction, rest, true)
    | rest => ([], rest, false)
  if whole.isEmpty && fraction.isEmpty then none
  else match exponent? behind with
    | some rest => marked rest
    | none =>
      if hasPoint || behind.head? == some 'j' || behind.head? == some 'J' then marked behind
      else if whole.head? == some '0' && whole.any (· != '0') then none
      else if digitLimit < whole.length then none
      else ended false behind

def number? (text : List Char) : Found :=
  match text with
  | '0' :: mark :: rest =>
    match markedDigits? mark with
    | some p =>
      let (run, behind) := digitRun p (if rest.head? == some '_' then rest.tail else rest)
      if run.isEmpty then none else ended false behind
    | none => decimal? text
  | _ => decimal? text

/-! ### Strings -/

/-- What the letters before a quote say. -/
structure Marking where
  isRaw : Bool
  isBytes : Bool
  deriving DecidableEq, Repr

/-- The letters that can stand before a quote. -/
def markings : List (List Char × Marking) :=
  [([], ⟨false, false⟩), (['u'], ⟨false, false⟩), (['r'], ⟨true, false⟩), (['b'], ⟨false, true⟩),
   (['b', 'r'], ⟨true, true⟩), (['r', 'b'], ⟨true, true⟩)]

/-- What stands before the quote of a string, and the text from the quote on. -/
def marking? (text : List Char) : Option (Marking × List Char) :=
  let word := text.takeWhile isNameChar
  match text.drop word.length with
  | q :: rest =>
    if q == '"' || q == '\'' then (markings.lookup (word.map Number.lowerAscii)).map (·, q :: rest) else none
  | [] => none

/-- The characters of a string up to its closing quotes, and what follows them. -/
def body? (closing : List Char) : (fuel : Nat) → List Char → Option (List Char × List Char)
  | 0, _ => none
  | fuel + 1, text =>
    if closing.isPrefixOf text then some ([], text.drop closing.length)
    else match text with
      | '\\' :: c :: rest => (body? closing fuel rest).map fun (s, rest) => ('\\' :: c :: s, rest)
      | c :: rest =>
        if closing.length = 1 && isLineEnd c then none
        else (body? closing fuel rest).map fun (s, rest) => (c :: s, rest)
      | [] => none

/-- Are the first characters so many hexadecimal digits? -/
def hasHex (count : Nat) (text : List Char) : Bool :=
  let digits := text.take count
  digits.length == count && digits.all isHexDigit

/-- The number that eight digits spell. -/
def longCode (text : List Char) : Nat :=
  Text.CharacterName.numeral 16 (text.take 8)

/-- Is the name in braces that of a character? -/
def hasCharacterName : List Char → Bool
  | '{' :: rest =>
    let name := rest.takeWhile (· != '}')
    name.length < rest.length && (Text.CharacterName.codePoint? name).isSome
  | _ => false

/-- Are the escapes of a string all in order? -/
def hasGoodEscapes (isBytes : Bool) : List Char → Bool
  | '\\' :: 'x' :: rest => hasHex 2 rest && hasGoodEscapes isBytes rest
  | '\\' :: 'u' :: rest => (isBytes || hasHex 4 rest) && hasGoodEscapes isBytes rest
  | '\\' :: 'U' :: rest =>
    (isBytes || (hasHex 8 rest && longCode rest ≤ 0x10FFFF)) && hasGoodEscapes isBytes rest
  | '\\' :: 'N' :: rest => (isBytes || hasCharacterName rest) && hasGoodEscapes isBytes rest
  | '\\' :: _ :: rest => hasGoodEscapes isBytes rest
  | _ :: rest => hasGoodEscapes isBytes rest
  | [] => true

/-- A string: does it stand for bytes, and what follows it? -/
def string? (text : List Char) : Option (Bool × List Char) := do
  let (m, quoted) ← marking? text
  let quotes := quoted.takeWhile (quoted.head? == some ·)
  let closing := quotes.take (if quotes.length < 3 then 1 else 3)
  let (s, rest) ← body? closing (quoted.length + 1) (quoted.drop closing.length)
  if (m.isRaw || hasGoodEscapes m.isBytes s) && (!m.isBytes || s.all fun c => c.toNat < 0x80) then
    return (m.isBytes, rest)
  else none

/-- Strings that follow a string are one with it, if they are of its kind. -/
def strings? (inside isBytes : Bool) : (fuel : Nat) → List Char → Found
  | 0, _ => none
  | fuel + 1, text =>
    let next := skipped inside text
    if (marking? next).isNone then some (.value true, text)
    else match string? next with
      | some (b, rest) => if b == isBytes then strings? inside isBytes fuel rest else none
      | none => none

/-! ### Values -/

/-- A sign may stand before a number that has none. -/
def signed : Kind × List Char → Found
  | (.number imaginary false, rest) => some (.number imaginary true, rest)
  | _ => none

/-- How deeply brackets may be nested. -/
def depthLimit : Nat := 200

mutual

/-- A value, which may be the sum of a real number and an imaginary one. -/
def sum? : (fuel depth : Nat) → List Char → Found
  | 0, _, _ => none
  | fuel + 1, depth, text => do
    let inside := 0 < depth
    let (left, rest) ← match text with
      | '+' :: rest | '-' :: rest => atom? fuel depth (skipped inside rest) >>= signed
      | text => atom? fuel depth text
    match left, skipped inside rest with
    | .number false _, '+' :: rest | .number false _, '-' :: rest =>
      match ← atom? fuel depth (skipped inside rest) with
      | (.number true false, rest) => return (.value true, rest)
      | _ => none
    | _, _ => return (left, rest)

def atom? : (fuel depth : Nat) → List Char → Found
  | 0, _, _ => none
  | fuel + 1, depth, text => do
    let inside := 0 < depth
    match text with
    | '(' :: rest =>
      if depthLimit ≤ depth then none
      else
        let (items, isList, rest) ← items? fuel (depth + 1) ')' (skipped true rest)
        match items, isList with
        | [item], false => return (item, rest)
        | items, _ => return (.value (items.all Kind.isKey), rest)
    | '{' :: rest =>
      if depthLimit ≤ depth then none
      else
        let rest := skipped true rest
        match rest with
        | '}' :: rest => return (.value false, rest)
        | rest =>
          let (first, rest) ← sum? fuel (depth + 1) rest
          if !first.isKey then none
          else match skipped true rest with
            | ':' :: rest => return (.value false, ← entries? fuel (depth + 1) (skipped true rest))
            | ',' :: rest =>
              let (items, _, rest) ← items? fuel (depth + 1) '}' (skipped true rest)
              if items.all Kind.isKey then return (.value false, rest) else none
            | '}' :: rest => return (.value false, rest)
            | _ => none
    | '.' :: '.' :: '.' :: rest => return (.value true, rest)
    | text =>
      if (marking? text).isSome then
        let (isBytes, rest) ← string? text
        strings? inside isBytes (text.length + 1) rest
      else if text.head?.any fun c => isDigit c || c == '.' then number? text
      else
        let name := text.takeWhile isNameChar
        let rest := text.drop name.length
        if ["True", "False", "None"].contains (String.ofList name) then return (.value true, rest)
        else if String.ofList name == "set" then
          match skipped inside rest with
          | '(' :: rest =>
            match skipped true rest with
            | ')' :: rest => return (.value false, rest)
            | _ => none
          | _ => none
        else none

/-- Values up to a closing bracket, whether a comma follows the first, and what follows the
bracket. -/
def items? : (fuel depth : Nat) → (closing : Char) → List Char →
    Option (List Kind × Bool × List Char)
  | 0, _, _, _ => none
  | fuel + 1, depth, closing, text => do
    if text.head? == some closing then return ([], false, text.tail)
    else
      let (item, rest) ← sum? fuel depth text
      match skipped true rest with
      | ',' :: rest =>
        let (more, _, rest) ← items? fuel depth closing (skipped true rest)
        return (item :: more, true, rest)
      | c :: rest => if c == closing then return ([item], false, rest) else none
      | [] => none

/-- The value behind a key and its colon, and the entries after it up to the closing bracket; what
follows that. -/
def entries? : (fuel depth : Nat) → List Char → Option (List Char)
  | 0, _, _ => none
  | fuel + 1, depth, text => do
    let (_, rest) ← sum? fuel depth text
    match skipped true rest with
    | '}' :: rest => return rest
    | ',' :: rest =>
      match skipped true rest with
      | '}' :: rest => return rest
      | rest =>
        let (key, rest) ← sum? fuel depth rest
        match key.isKey, skipped true rest with
        | true, ':' :: rest => entries? fuel depth (skipped true rest)
        | _, _ => none
    | _ => none

end

/-- Values with commas between them, up to the end of a text. -/
def isList : (fuel : Nat) → List Char → Bool
  | 0, _ => false
  | fuel + 1, text =>
    let isEnd := fun (text : List Char) => (skipped true text).isEmpty
    match sum? (8 * text.length + 8) 0 text with
    | none => false
    | some (_, rest) =>
      match skipped false rest with
      | ',' :: rest => isEnd rest || isList fuel (skipped false rest)
      | c :: rest => (isLineEnd c || c == '#') && isEnd (c :: rest)
      | [] => true

/-- The text from its first line on that is neither blank nor a comment; it may not be indented. -/
def start? : (fuel : Nat) → List Char → Option (List Char)
  | 0, _ => none
  | fuel + 1, text =>
    let body := text.dropWhile isBlank
    match body with
    | [] => none
    | c :: rest =>
      if isLineEnd c then start? fuel rest
      else if c == '#' then start? fuel (skipComment body)
      else if body.length < text.length then none
      else match body with
        | '\\' :: e :: rest =>
          if isLineEnd e && !rest.head?.any isBlank then start? fuel rest else none
        | _ => some body

/-- Is the text a literal as a whole? -/
def isLiteral (text : List Char) : Bool :=
  !text.contains '\x00' &&
    match start? (text.length + 1) text with
    | some body => isList (body.length + 1) body
    | none => false

end LintConfig.Console.Literal
