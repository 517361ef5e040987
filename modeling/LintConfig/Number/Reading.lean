import LintConfig.Number.Decimal
import LintConfig.Text.Blank
import LintConfig.Text.Digit
import LintConfig.Text.Quotation

/-! Numbers as people write them: with blanks around them, a sign, digits of any script, and
underscores between digits. -/

namespace LintConfig.Number

/-- Why a text is no number. -/
inductive ReadError
  | notInteger (base : Nat) (text : String)
  | notNumber (text : String)
  /-- More digits than a number may have. -/
  | tooLong (digits : Nat)
  deriving DecidableEq, Repr

/-- How many digits an integer may have unless its base is a power of two. -/
def digitLimit : Nat := 4300

def ReadError.message : ReadError → String
  | notInteger base text =>
    "invalid literal for int() with base " ++ toString base ++ ": " ++
      String.ofList ((Text.quotation text).toList.take 200)
  | notNumber text => "could not convert string to float: " ++ Text.quotation text
  | tooLong digits =>
    "Exceeds the limit (" ++ toString digitLimit ++
      " digits) for integer string conversion: value has " ++ toString digits ++
      " digits; use sys.set_int_max_str_digits() to increase the limit"

/-- Digits of all scripts as those of ASCII, other characters as they are. -/
def plainDigits (text : List Char) : List Char :=
  text.map fun c => match Text.decimalValue? c with
    | some n => Char.ofNat ('0'.toNat + n)
    | none => c

/-- A blank at the ends of a number. Information separators are none. -/
def isPadding (c : Char) : Bool := Text.isBlank c && !(0x1C ≤ c.toNat && c.toNat ≤ 0x1F)

/-- The text without the blanks at its two ends. -/
def unpadded (text : List Char) : List Char :=
  ((text.dropWhile isPadding).reverse.dropWhile isPadding).reverse

def isAsciiDigit (c : Char) : Bool := '0' ≤ c && c ≤ '9'

/-- The text without its underscores, if each of them stands between two digits; `p` tells what a
digit is. -/
def dropGaps? (p : Char → Bool) (before : Bool) : List Char → Option (List Char)
  | [] => some []
  | '_' :: c :: rest =>
    if before && p c then (dropGaps? p true rest).map (c :: ·) else none
  | ['_'] => none
  | c :: rest => (dropGaps? p (p c) rest).map (c :: ·)

/-- A sign, if there is one: is it negative, and what follows it? -/
def sign : List Char → Bool × List Char
  | '-' :: rest => (true, rest)
  | '+' :: rest => (false, rest)
  | text => (false, text)

/-! ### Integers -/

/-- The value of a digit in bases up to sixteen. -/
def digitValue? (base : Nat) (c : Char) : Option Nat :=
  let n := c.toNat
  let v :=
    if '0' ≤ c && c ≤ '9' then n - '0'.toNat
    else if 'a' ≤ c && c ≤ 'f' then n - 'a'.toNat + 10
    else if 'A' ≤ c && c ≤ 'F' then n - 'A'.toNat + 10
    else base
  if v < base then some v else none

/-- What can stand between a zero and the digits to mark a base. -/
def baseMarks : List (Nat × List Char) := [(2, ['b', 'B']), (8, ['o', 'O']), (16, ['x', 'X'])]

/-- The text without the mark of its base, and without one underscore behind the mark. -/
def unmarked (base : Nat) : List Char → List Char
  | '0' :: c :: rest =>
    if ((baseMarks.lookup base).getD []).contains c then
      if rest.head? == some '_' then rest.tail else rest
    else '0' :: c :: rest
  | text => text

/-- The integer a text spells in a base. -/
def readInt (base : Nat) (text : String) : Except ReadError Int :=
  let (negative, body) := sign (plainDigits (unpadded text.toList))
  let isDigit := fun c => (digitValue? base c).isSome
  match dropGaps? isDigit false (unmarked base body) with
  | none => .error (.notInteger base text)
  | some digits =>
    if digits.isEmpty || !digits.all isDigit then .error (.notInteger base text)
    else if digitLimit < digits.length && base == 10 then .error (.tooLong digits.length)
    else
      let n : Int :=
        (digits.foldl (fun n c => n * base + (digitValue? base c).getD 0) 0 : Nat)
      .ok (if negative then -n else n)

/-! ### Numbers with a point -/

def lowerAscii (c : Char) : Char :=
  if 'A' ≤ c && c ≤ 'Z' then Char.ofNat (c.toNat + 32) else c

/-- An exponent up to the end of the text, or none. -/
def readExponent? : List Char → Option Int
  | [] => some 0
  | 'e' :: rest =>
    let (negative, digits) := sign rest
    if digits.isEmpty || !digits.all isAsciiDigit then none
    else
      let n : Int := natOfDigits digits
      some (if negative then -n else n)
  | _ => none

/-- An unsigned decimal numeral in lower case. -/
def readDecimal? (negative : Bool) (text : List Char) : Option Double :=
  let whole := text.takeWhile isAsciiDigit
  let rest := text.drop whole.length
  let (fraction, rest) := match rest with
    | '.' :: rest => (rest.takeWhile isAsciiDigit, rest.dropWhile isAsciiDigit)
    | rest => ([], rest)
  if whole.isEmpty && fraction.isEmpty then none
  else (readExponent? rest).map fun e =>
    .ofDecimal negative (natOfDigits (whole ++ fraction)) (e - fraction.length)

/-- The number a text spells. -/
def readDouble (text : String) : Except ReadError Double :=
  let (negative, body) := sign ((plainDigits (unpadded text.toList)).map lowerAscii)
  match dropGaps? isAsciiDigit false body with
  | none => .error (.notNumber text)
  | some body =>
    let word := String.ofList body
    if word == "inf" || word == "infinity" then .ok (.infinite negative)
    else if word == "nan" then .ok .nan
    else match readDecimal? negative body with
      | some x => .ok x
      | none => .error (.notNumber text)

end LintConfig.Number
