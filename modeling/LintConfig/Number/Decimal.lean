import LintConfig.Number.Double

/-! Decimal numerals and doubles: the double nearest to a numeral, and the shortest numeral that
reads back as a given double. -/

namespace LintConfig.Number

/-- The natural number a list of decimal digits spells. -/
def natOfDigits (digits : List Char) : Nat :=
  digits.foldl (fun n c => n * 10 + (c.toNat - '0'.toNat)) 0

namespace Double

-- Powers are those of the core library, whatever else is in scope.
attribute [local instance (high)] instPowNat

/-- The double nearest to `digits * 10 ^ exponent`. Numerals far outside of the range are not
computed with. -/
def ofDecimal (negative : Bool) (digits : Nat) (exponent : Int) : Double :=
  let top := ((toString digits).length : Int) + exponent
  if digits = 0 || top < -330 then zero negative
  else if 310 < top then .infinite negative
  else if 0 ≤ exponent then ofRatio negative (digits * 10 ^ exponent.toNat) 1
  else ofRatio negative digits (10 ^ (-exponent).toNat)

/-- The fraction `m * 2 ^ e / 10 ^ k` as numerator and denominator. -/
def inTens (m : Nat) (e k : Int) : Nat × Nat :=
  (m * 2 ^ e.toNat * 10 ^ (-k).toNat, 2 ^ (-e).toNat * 10 ^ k.toNat)

/-- How many digits `m * 2 ^ e` has before the decimal point, counted below zero for the zeros
that follow it: the least `p` with `m * 2 ^ e < 10 ^ p`. -/
def pointPosition (m : Nat) (e : Int) : Int :=
  let guess := ((m.log2 : Int) + e) * 30103 / 100000
  let fits := fun p => let (a, b) := inTens m e p; a < b
  if fits guess then guess
  else if fits (guess + 1) then guess + 1
  else guess + 2

/-- The numeral of `count` digits that reads back as `m * 2 ^ e`, nearest first, if there is
one: its digits and the power of ten of the last of them. -/
def numeral? (m : Nat) (e : Int) (count : Nat) : Option (Nat × Int) :=
  let k := pointPosition m e - count
  let (a, b) := inTens m e k
  let q := a / b
  let r := 2 * (a % b)
  let candidates := if r < b || (r = b && q % 2 = 0) then [q, q + 1] else [q + 1, q]
  (candidates.find? fun d => ofDecimal false d k == .finite false m e).map (·, k)

/-- The shortest numeral that reads back as `m * 2 ^ e`. Seventeen digits always do. -/
def shortest (m : Nat) (e : Int) : Nat × Int :=
  ((List.range 17).findSome? fun i => numeral? m e (i + 1)).getD (0, 0)

/-- The digits of a numeral without the zeros at its end, and the position of the decimal point
relative to the first of them. -/
def significantDigits (m : Nat) (e : Int) : List Char × Int :=
  let (d, k) := shortest m e
  let digits := (toString d).toList
  let kept := (digits.reverse.dropWhile (· == '0')).reverse
  (if kept.isEmpty then ['0'] else kept, digits.length + k)

/-- A power of ten as the end of a numeral: with a sign and at least two digits. -/
def exponentText (e : Int) : String :=
  let digits := toString e.natAbs
  let sign := if e < 0 then "-" else "+"
  "e" ++ sign ++ (if digits.length < 2 then "0" ++ digits else digits)

/-- Where numerals with a power of ten begin: a point in front of four or more zeros, or behind
more than sixteen digits. -/
def isPositional (point : Int) : Bool := -4 < point && point ≤ 16

/-- The digits with the decimal point at its position. -/
def positional (digits : List Char) (point : Int) : String :=
  let zeros := fun (n : Int) => List.replicate n.toNat '0'
  if point ≤ 0 then String.ofList ('0' :: '.' :: zeros (-point) ++ digits)
  else
    let whole := digits.take point.toNat ++ zeros (point - digits.length)
    let fraction := digits.drop point.toNat
    String.ofList (whole ++ '.' :: (if fraction.isEmpty then ['0'] else fraction))

/-- The digits as a numeral with one digit before the point and a power of ten. -/
def scientific (digits : List Char) (point : Int) : String :=
  let mantissa := match digits with
    | first :: second :: rest => first :: '.' :: second :: rest
    | few => few
  String.ofList mantissa ++ exponentText (point - 1)

/-- The shortest text that reads back as the number. -/
def text : Double → String
  | .nan => "nan"
  | .infinite s => if s then "-inf" else "inf"
  | .finite s m e =>
    let sign := if s then "-" else ""
    if m = 0 then sign ++ "0.0"
    else
      let (digits, point) := significantDigits m e
      sign ++ if isPositional point then positional digits point else scientific digits point

end Double

end LintConfig.Number
