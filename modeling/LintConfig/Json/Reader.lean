import LintConfig.Value

/-! Reading JSON text. Objects keep the order of their keys, numbers without a fraction or an
exponent are integers of any size, all others doubles. -/

namespace LintConfig.Json

def isSpace (c : Char) : Bool := c == ' ' || c == '\t' || c == '\n' || c == '\r'

def skipSpace (cs : List Char) : List Char := cs.dropWhile isSpace

def hexValue? (c : Char) : Option Nat :=
  if '0' ≤ c && c ≤ '9' then some (c.toNat - '0'.toNat)
  else if 'a' ≤ c && c ≤ 'f' then some (c.toNat - 'a'.toNat + 10)
  else if 'A' ≤ c && c ≤ 'F' then some (c.toNat - 'A'.toNat + 10)
  else none

/-- The number four hexadecimal digits spell. -/
def unit? : List Char → Option (Nat × List Char)
  | a :: b :: c :: d :: rest => do
    let n := (← hexValue? a) * 16 + (← hexValue? b)
    return ((n * 16 + (← hexValue? c)) * 16 + (← hexValue? d), rest)
  | _ => none

/-- The code point an escape by number stands for, behind its mark. Two halves of a surrogate pair
are one code point. -/
def unitCode? (cs : List Char) : Option (Nat × List Char) := do
  let (n, rest) ← unit? cs
  match rest with
  | '\\' :: 'u' :: more =>
    match unit? more with
    | some (m, after) => return if Text.isPair n m then (Text.paired n m, after) else (n, rest)
    | none => return (n, rest)
  | _ => return (n, rest)

def simpleEscape? : Char → Option Char
  | '"' => some '"'
  | '\\' => some '\\'
  | '/' => some '/'
  | 'b' => some '\x08'
  | 'f' => some '\x0c'
  | 'n' => some '\n'
  | 'r' => some '\r'
  | 't' => some '\t'
  | _ => none

/-- The code points of a string behind its opening quote, and what follows the closing one. -/
def stringCodes? : (fuel : Nat) → List Char → Option (List Nat × List Char)
  | 0, _ => none
  | fuel + 1, cs =>
    match cs with
    | [] => none
    | '"' :: rest => some ([], rest)
    | '\\' :: 'u' :: rest => do
      let (n, rest) ← unitCode? rest
      let (more, rest) ← stringCodes? fuel rest
      return (n :: more, rest)
    | '\\' :: e :: rest => do
      let c ← simpleEscape? e
      let (more, rest) ← stringCodes? fuel rest
      return (c.toNat :: more, rest)
    | c :: rest => do
      if c.toNat < 0x20 then none
      else
        let (more, rest) ← stringCodes? fuel rest
        return (c.toNat :: more, rest)

/-- A string, as the text it is. -/
def string? (cs : List Char) : Option (Value × List Char) :=
  match cs with
  | '"' :: rest => (stringCodes? (rest.length + 1) rest).map fun (codes, rest) =>
    (.ofSpelled (.ofCodes codes), rest)
  | _ => none

def isDigit (c : Char) : Bool := '0' ≤ c && c ≤ '9'

/-- Digits at the start of a text. -/
def digits (cs : List Char) : List Char × List Char := (cs.takeWhile isDigit, cs.dropWhile isDigit)

/-- A fraction, if there is one: its digits. -/
def fraction? (cs : List Char) : Option (List Char × List Char) :=
  match cs with
  | '.' :: rest =>
    let (ds, after) := digits rest
    if ds.isEmpty then none else some (ds, after)
  | _ => some ([], cs)

/-- An exponent, if there is one. -/
def exponent? (cs : List Char) : Option (Option Int × List Char) :=
  match cs with
  | e :: rest =>
    if e == 'e' || e == 'E' then
      let (negative, rest) := match rest with
        | '-' :: rest => (true, rest)
        | '+' :: rest => (false, rest)
        | rest => (false, rest)
      let (ds, after) := digits rest
      if ds.isEmpty then none
      else
        let n : Int := Number.natOfDigits ds
        some (some (if negative then -n else n), after)
    else some (none, cs)
  | [] => some (none, cs)

def number? (cs : List Char) : Option (Value × List Char) := do
  let (negative, rest) := match cs with
    | '-' :: rest => (true, rest)
    | rest => (false, rest)
  let (whole, rest) := digits rest
  if whole.isEmpty || (whole.length > 1 && whole.head? == some '0') then none
  else
    let (part, rest) ← fraction? rest
    let (power, rest) ← exponent? rest
    if part.isEmpty && power.isNone then
      let n : Int := Number.natOfDigits whole
      return (.integer (if negative then -n else n), rest)
    else
      let n := Number.natOfDigits (whole ++ part)
      return (.double (.ofDecimal negative n (power.getD 0 - part.length)), rest)

/-- Does the text begin with this word? What follows it, if so. -/
def word? (word : String) (cs : List Char) : Option (List Char) :=
  if word.toList.isPrefixOf cs then some (cs.drop word.length) else none

/-- The constants. -/
def constant? (cs : List Char) : Option (Value × List Char) :=
  ((word? "null" cs).map fun r => (Value.null, r)) <|>
  ((word? "true" cs).map fun r => (.bool true, r)) <|>
  ((word? "false" cs).map fun r => (.bool false, r))

mutual

/-- A value at the start of a text, and what follows it. -/
def value? : (fuel : Nat) → List Char → Option (Value × List Char)
  | 0, _ => none
  | fuel + 1, cs =>
    match skipSpace cs with
    | '"' :: rest => string? ('"' :: rest)
    | '[' :: rest =>
      match skipSpace rest with
      | ']' :: after => some (.list [], after)
      | rest => (items? fuel rest).map fun (items, rest) => (.list items, rest)
    | '{' :: rest =>
      match skipSpace rest with
      | '}' :: after => some (.map [], after)
      | rest => (entries? fuel rest).map fun (entries, rest) => (.map entries, rest)
    | cs => constant? cs <|> number? cs

/-- Items up to the closing bracket. -/
def items? : (fuel : Nat) → List Char → Option (List Value × List Char)
  | 0, _ => none
  | fuel + 1, cs => do
    let (v, rest) ← value? fuel cs
    match skipSpace rest with
    | ',' :: rest =>
      let (more, rest) ← items? fuel rest
      return (v :: more, rest)
    | ']' :: rest => return ([v], rest)
    | _ => none

/-- Entries up to the closing brace. -/
def entries? : (fuel : Nat) → List Char → Option (List (Value × Value) × List Char)
  | 0, _ => none
  | fuel + 1, cs => do
    let (k, rest) ← string? (skipSpace cs)
    match skipSpace rest with
    | ':' :: rest =>
      let (v, rest) ← value? fuel rest
      match skipSpace rest with
      | ',' :: rest =>
        let (more, rest) ← entries? fuel rest
        return ((k, v) :: more, rest)
      | '}' :: rest => return ([(k, v)], rest)
      | _ => none
    | _ => none

end

/-- The value a text spells as a whole. -/
def read? (text : String) : Option Value :=
  let cs := text.toList
  match value? (cs.length + 1) cs with
  | some (v, rest) => if (skipSpace rest).isEmpty then some v else none
  | none => none

mutual

/-- A value whose maps have every key once: the last value counts, in the place of the first. -/
def settled : Value → Value
  | .list items => .list (settledItems items)
  | .map entries => .map (settledEntries [] entries)
  | v => v

def settledItems : List Value → List Value
  | [] => []
  | v :: rest => settled v :: settledItems rest

/-- The entries so far, with more of them. -/
def settledEntries (es : List (Value × Value)) : List (Value × Value) → List (Value × Value)
  | [] => es
  | (k, v) :: rest => settledEntries (Value.assign k (settled v) es) rest

end

/-- The value that a text stands for. -/
def decode? (text : String) : Option Value := (read? text).map settled

end LintConfig.Json
