import LintConfig.Number.Arithmetic
import LintConfig.Number.Reading
import LintConfig.Text.Base64
import LintConfig.Value.Text
import LintConfig.Yaml.Tag

/-! The values of scalars, as their types say. -/

namespace LintConfig.Yaml.ScalarValue

def lowered (s : String) : String := String.ofList (s.toList.map Number.lowerAscii)

def truthValue (s : String) : Except Error Value :=
  let word := lowered s
  if ["yes", "true", "on"].contains word then .ok (.bool true)
  else if ["no", "false", "off"].contains word then .ok (.bool false)
  else .error .noTruthValue

def readInt (base : Nat) (text : List Char) : Except Error Int :=
  (Number.readInt base (String.ofList text)).mapError fun e => .badValue e.message

def readDouble (text : List Char) : Except Error Number.Double :=
  (Number.readDouble (String.ofList text)).mapError fun e => .badValue e.message

/-- A number without its sign: whether it is negative, and the rest of it without underscores. -/
def signed (s : String) : Except Error (Bool × List Char) :=
  match s.toList.filter (· != '_') with
  | [] => .error .emptyNumber
  | '-' :: rest => .ok (true, rest)
  | '+' :: rest => .ok (false, rest)
  | text => .ok (false, text)

/-- The number that digits in base sixty stand for. -/
def inSixties (digits : List Int) : Int := digits.foldl (fun n d => n * 60 + d) 0

def integer (s : String) : Except Error Value := do
  let (negative, text) ← signed s
  let n ← match text with
    | ['0'] => pure 0
    | '0' :: 'b' :: rest => readInt 2 rest
    | '0' :: 'x' :: rest => readInt 16 rest
    | '0' :: _ => readInt 8 text
    | [] => throw .emptyNumber
    | _ =>
      if text.contains ':' then pure (inSixties (← (Tag.colonParts text).mapM (readInt 10)))
      else readInt 10 text
  return .integer (if negative then -n else n)

/-- The number that parts in base sixty stand for, least part first. A part can stand for no more
than a double can be. -/
def sumOfSixties (unit : Int) (sum : Number.Double) : List Number.Double → Except Error Number.Double
  | [] => .ok sum
  | d :: rest =>
    match Number.Double.ofInt unit with
    | .infinite _ => .error .hugePart
    | u => sumOfSixties (unit * 60) (sum.add (d.mul u)) rest

/-- The name of what is no number. -/
def nan : List Char := ".nan".toList

def double (s : String) : Except Error Value := do
  let (negative, text) ← signed (lowered s)
  let x ←
    if text == ".inf".toList then pure (.infinite false)
    else if text == nan then pure .nan
    else if text.contains ':' then
      let parts ← (Tag.colonParts text).mapM readDouble
      sumOfSixties 1 (.zero false) parts.reverse
    else readDouble text
  return .double (if negative then x.negate else x)

/-- Does a scalar name what is no number? -/
def namesNan (s : Text.Spelled) : Bool :=
  match s with
  | .text s => match signed (lowered s) with
    | .ok (_, text) => text == nan
    | .error _ => false
  | .halves _ => false

/-- No number has halves of surrogate pairs. -/
def unreadable (what : String) (codes : List Nat) : Error :=
  .badValue (what ++ Text.codeQuotation (codes.filter (· != '_'.toNat)))

/-! ### Bytes -/

/-- The escape of a code point beyond ASCII in a message. -/
def codeEscape (n : Nat) : List Char :=
  if Text.isHalf n then Text.quotedCode '\'' n else Text.numericEscape (Char.ofNat n)

/-- What is said of code points beyond ASCII, the first of them at a position and those behind it in
a row. -/
def notAscii (first : Nat) (position length : Nat) : String :=
  let at_ :=
    if length = 1 then
      "character '" ++ String.ofList (codeEscape first) ++ "' in position " ++ toString position
    else "characters in position " ++ toString position ++ "-" ++ toString (position + length - 1)
  "'ascii' codec can't encode " ++ at_ ++ ": ordinal not in range(128)"

/-- The bytes that code points spell, in a scalar that begins at a mark. -/
def binary (start : Mark) (codes : List Nat) : Except Error Value :=
  let fault := fun problem => Error.fault {
    stage := .constructing, problem := "failed to " ++ problem, mark := start }
  let ascii := codes.takeWhile (· < 0x80)
  match codes.drop ascii.length with
  | n :: rest =>
    let length := (rest.takeWhile (0x80 ≤ ·)).length + 1
    .error (fault ("convert base64 data into ascii: " ++ notAscii n ascii.length length))
  | [] =>
    match Text.Base64.decode (String.ofList (ascii.map Char.ofNat)) with
    | .ok bytes => .ok (.bytes bytes)
    | .error f => .error (fault ("decode base64 data: " ++ f.message))

/-! ### Times -/

def date (year month day : Nat) : Except Error Date :=
  if year = 0 then .error (.badValue "year 0 is out of range")
  else if month = 0 || 12 < month then .error (.badValue "month must be in 1..12")
  else if day = 0 || Date.daysIn year month < day then
    .error (.badValue "day is out of range for month")
  else .ok ⟨year, month, day⟩

/-- The distance from universal time in minutes; it is below a day. -/
def offset (sign : Char) (hours minutes : List Char) : Except Error Int :=
  let n : Int := (Number.natOfDigits hours * 60 + Number.natOfDigits minutes : Nat)
  let n := if sign == '-' then -n else n
  if n.natAbs < 24 * 60 then .ok n
  else .error (.badValue (
    "offset must be a timedelta strictly between -timedelta(hours=24) and " ++
      "timedelta(hours=24), not " ++ offsetSpan n ++ "."))

/-- The first six digits of a fraction of a second. -/
def microseconds (fraction : List Char) : Nat :=
  Number.natOfDigits ((fraction ++ List.replicate 6 '0').take 6)

def time (s : String) : Except Error Value := do
  match TimeText.read? false (Tag.withoutBreak s.toList) with
  | none => throw .noTime
  | some t =>
    let number := Number.natOfDigits
    match t.clock with
    | none => return .date (← date (number t.year) (number t.month) (number t.day))
    | some (hour, minute, second, fraction) =>
      let zone ← match t.zone with
        | none => pure none
        | some none => pure (some 0)
        | some (some (sign, hours, minutes)) => pure (some (← offset sign hours minutes))
      let d ← date (number t.year) (number t.month) (number t.day)
      if 23 < number hour then throw (.badValue "hour must be in 0..23")
      if 59 < number minute then throw (.badValue "minute must be in 0..59")
      if 59 < number second then throw (.badValue "second must be in 0..59")
      return .moment ⟨d, number hour, number minute, number second, microseconds fraction, zone⟩

end ScalarValue

/-- The types of scalars. -/
inductive ScalarType
  | null
  | bool
  | int
  | float
  | binary
  | timestamp
  | str
  deriving DecidableEq, Repr

/-- The value that a scalar has in a type; the node that has the type begins at a mark. -/
def ScalarType.read (type : ScalarType) (start : Mark) (s : Text.Spelled) : Except Error Value :=
  match type, s with
  | null, _ => .ok .null
  | bool, .text s => ScalarValue.truthValue s
  | bool, .halves _ => .error .noTruthValue
  | int, .text s => ScalarValue.integer s
  | int, .halves codes => .error (ScalarValue.unreadable "invalid literal for int() with base 10: " codes)
  | float, .text s => ScalarValue.double s
  | float, .halves codes => .error (ScalarValue.unreadable "could not convert string to float: " codes)
  | binary, .text s => ScalarValue.binary start (s.toList.map Char.toNat)
  | binary, .halves codes => ScalarValue.binary start codes
  | timestamp, .text s => ScalarValue.time s
  | timestamp, .halves _ => .error .noTime
  | str, s => .ok (.ofSpelled s)

end LintConfig.Yaml
