import LintConfig.Yaml.Cursor
import LintConfig.Yaml.Token

/-! Tags, and the tag a plain scalar has by its form alone (version 1.1 of the language). -/

namespace LintConfig.Yaml

/-- What the tags of the language's own types begin with. -/
def standardPrefix : String := "tag:yaml.org,2002:"

def standardTag (name : String) : String := standardPrefix ++ name

namespace Tag

def null : String := standardTag "null"
def bool : String := standardTag "bool"
def int : String := standardTag "int"
def float : String := standardTag "float"
def binary : String := standardTag "binary"
def timestamp : String := standardTag "timestamp"
def str : String := standardTag "str"
def seq : String := standardTag "seq"
def map : String := standardTag "map"
def set : String := standardTag "set"
def omap : String := standardTag "omap"
def pairs : String := standardTag "pairs"
def merge : String := standardTag "merge"
def value : String := standardTag "value"

/-! ### Forms of scalars -/

/-- A text without the line break at its end, which no form depends on. -/
def withoutBreak (text : List Char) : List Char :=
  if text.getLast? == some '\n' && text != ['\n'] then text.dropLast else text

/-- Does a text consist of a character with one property and others with another? -/
def isRun (first rest : Char → Bool) : List Char → Bool
  | c :: cs => first c && cs.all rest
  | [] => false

/-- The text without a sign at its start. -/
def unsigned : List Char → List Char
  | '-' :: rest => rest
  | '+' :: rest => rest
  | text => text

def isDigitOrGap (c : Char) : Bool := isDigit c || c == '_'

def isNonzeroDigit (c : Char) : Bool := '1' ≤ c && c ≤ '9'

def isHexDigitOrGap (c : Char) : Bool := isHexDigit c || c == '_'

def isOctalDigitOrGap (c : Char) : Bool := ('0' ≤ c && c ≤ '7') || c == '_'

def isBinaryDigitOrGap (c : Char) : Bool := c == '0' || c == '1' || c == '_'

/-- The pieces of a text between colons. -/
def colonParts : List Char → List (List Char)
  | [] => [[]]
  | ':' :: rest => [] :: colonParts rest
  | c :: rest =>
    match colonParts rest with
    | [] => [[c]]
    | part :: more => (c :: part) :: more

/-- A number below sixty, of one or two digits. -/
def isSixtieth : List Char → Bool
  | [a] => isDigit a
  | [a, b] => '0' ≤ a && a ≤ '5' && isDigit b
  | _ => false

def isBoolText (text : List Char) : Bool :=
  ["yes", "Yes", "YES", "no", "No", "NO", "true", "True", "TRUE", "false", "False", "FALSE",
   "on", "On", "ON", "off", "Off", "OFF"].contains (String.ofList text)

def isNullText (text : List Char) : Bool :=
  ["", "~", "null", "Null", "NULL"].contains (String.ofList text)

/-- An integer: binary, octal, decimal, hexadecimal or in base sixty. -/
def isIntText (text : List Char) : Bool :=
  let body := unsigned text
  let isPlain := body == ['0'] || isRun isNonzeroDigit isDigitOrGap body
  match body with
  | '0' :: 'b' :: rest => !rest.isEmpty && rest.all isBinaryDigitOrGap
  | '0' :: 'x' :: rest => !rest.isEmpty && rest.all isHexDigitOrGap
  | '0' :: d :: rest => isOctalDigitOrGap d && rest.all isOctalDigitOrGap
  | _ =>
    isPlain ||
      match colonParts body with
      | first :: part :: parts =>
        isRun isNonzeroDigit isDigitOrGap first && (part :: parts).all isSixtieth
      | _ => false

/-- An exponent with its sign, or nothing. -/
def isExponentText : List Char → Bool
  | [] => true
  | e :: s :: rest =>
    (e == 'e' || e == 'E') && (s == '-' || s == '+') && !rest.isEmpty && rest.all isDigit
  | [_] => false

/-- A fraction behind its point, with an exponent perhaps. -/
def isFractionText (text : List Char) : Bool := isExponentText (text.dropWhile isDigitOrGap)

/-- A number with a point: decimal, in base sixty, infinite, or none at all. -/
def isFloatText (text : List Char) : Bool :=
  let body := unsigned text
  let whole := body.takeWhile (· != '.')
  match body.drop whole.length with
  | '.' :: after =>
    match whole with
    | [] =>
      [".inf", ".Inf", ".INF"].contains (String.ofList ('.' :: after)) ||
        (body.length == text.length &&
          ([".nan", ".NaN", ".NAN"].contains (String.ofList ('.' :: after)) ||
            (after.head?.any isDigit && isFractionText after)))
    | _ =>
      if isRun isDigit isDigitOrGap whole then isFractionText after
      else
        after.all isDigitOrGap &&
          match colonParts whole with
          | first :: part :: parts =>
            isRun isDigit isDigitOrGap first && (part :: parts).all isSixtieth
          | _ => false
  | _ => false

end Tag

/-! ### Times -/

/-- A time as written: its parts as texts of digits. -/
structure TimeText where
  year : List Char
  month : List Char
  day : List Char
  /-- Hour, minute, second, and the fraction of a second. -/
  clock : Option (List Char × List Char × List Char × List Char) := none
  /-- The distance from universal time: its sign, hours and minutes; nothing for `Z`. -/
  zone : Option (Option (Char × List Char × List Char)) := none
  deriving DecidableEq, Repr

namespace TimeText

/-- One or two digits. -/
def shortNumber? : List Char → Option (List Char × List Char)
  | a :: b :: rest =>
    if isDigit a then if isDigit b then some ([a, b], rest) else some ([a], b :: rest) else none
  | [a] => if isDigit a then some ([a], []) else none
  | [] => none

/-- Exactly two digits. -/
def pair? : List Char → Option (List Char × List Char)
  | a :: b :: rest => if isDigit a && isDigit b then some ([a, b], rest) else none
  | _ => none

/-- A character that has to stand here. -/
def mark? (c : Char) : List Char → Option (List Char)
  | d :: rest => if c = d then some rest else none
  | [] => none

def skipBlanks (text : List Char) : List Char := text.dropWhile fun c => c == ' ' || c == '\t'

/-- The distance from universal time, up to the end of the text. -/
def zone? (text : List Char) : Option (Option (Option (Char × List Char × List Char))) :=
  match skipBlanks text with
  | [] => if text.isEmpty then some none else none
  | ['Z'] => some (some none)
  | sign :: rest => do
    if sign != '+' && sign != '-' then none
    else
      let (hours, rest) ← shortNumber? rest
      match rest with
      | [] => return some (some (sign, hours, []))
      | ':' :: rest =>
        let (minutes, rest) ← pair? rest
        if rest.isEmpty then return some (some (sign, hours, minutes)) else none
      | _ => none

/-- What separates a day from a clock: a letter, or blanks. -/
def gap? : List Char → Option (List Char)
  | c :: rest =>
    if c == 'T' || c == 't' then some rest
    else if c == ' ' || c == '\t' then some (skipBlanks rest)
    else none
  | [] => none

/-- Read a time; a day alone needs two digits for month and day only if it is `strict`. -/
def read? (strict : Bool) (text : List Char) : Option TimeText := do
  let year := text.take 4
  if year.length < 4 || !year.all isDigit then none
  else
    let (month, rest) ← shortNumber? (← mark? '-' (text.drop 4))
    let (day, rest) ← shortNumber? (← mark? '-' rest)
    if rest.isEmpty then
      if strict && (month.length < 2 || day.length < 2) then none else return { year, month, day }
    else
      let (hour, rest) ← shortNumber? (← gap? rest)
      let (minute, rest) ← pair? (← mark? ':' rest)
      let (second, rest) ← pair? (← mark? ':' rest)
      let (fraction, rest) := match rest with
        | '.' :: rest => (rest.takeWhile isDigit, rest.dropWhile isDigit)
        | rest => ([], rest)
      let zone ← zone? rest
      return { year, month, day, clock := some (hour, minute, second, fraction), zone }

end TimeText

namespace Tag

/-- The tag a plain scalar has by its form. -/
def ofPlain (content : String) : String :=
  let text := withoutBreak content.toList
  if isBoolText text then bool
  else if isFloatText text then float
  else if isIntText text then int
  else if text == ['<', '<'] then merge
  else if isNullText text then null
  else if (TimeText.read? true text).isSome then timestamp
  else if text == ['='] then value
  else str

end Tag

end LintConfig.Yaml
