/-! Double-precision binary numbers, held exactly: a finite one is a significand below `2 ^ 53`
times a power of two. Rounding and order are defined on natural numbers, so that both can be
reasoned about. -/

namespace LintConfig.Number

inductive Double
  /-- The value `significand * 2 ^ exponent`, with its sign. -/
  | finite (negative : Bool) (significand : Nat) (exponent : Int)
  | infinite (negative : Bool)
  | nan
  deriving DecidableEq, Repr, Inhabited

/-- A quotient rounded to the nearest natural number; a tie goes to the even one. -/
def roundDiv (n d : Nat) : Nat :=
  let q := n / d
  let r := 2 * (n % d)
  if r < d then q
  else if d < r then q + 1
  else if q % 2 = 0 then q
  else q + 1

namespace Double

-- Powers are those of the core library, whatever else is in scope.
attribute [local instance (high)] instPowNat

/-- How many binary digits a significand has at most. -/
def precision : Nat := 53

def leastExponent : Int := -1074

def greatestExponent : Int := 971

def zero (negative : Bool) : Double := .finite negative 0 leastExponent

/-- The fraction `n / d / 2 ^ e` as numerator and denominator. -/
def scaled (n d : Nat) (e : Int) : Nat × Nat :=
  if 0 ≤ e then (n, d * 2 ^ e.toNat) else (n * 2 ^ (-e).toNat, d)

/-- The exponent of the last place of `n / d`: the least one for which the significand fits. The
estimate from the lengths of `n` and `d` is at most one too small. -/
def lastPlace (n d : Nat) : Int :=
  let e := max leastExponent ((n.log2 : Int) - d.log2 - precision)
  let (a, b) := scaled n d e
  if a / b < 2 ^ precision then e else e + 1

/-- The number nearest to `n / d`. A number past the greatest finite one becomes infinite. -/
def ofRatio (negative : Bool) (n d : Nat) : Double :=
  if n = 0 then zero negative
  else
    let e := lastPlace n d
    let (a, b) := scaled n d e
    let m := roundDiv a b
    let (m, e) := if m = 2 ^ precision then (2 ^ (precision - 1), e + 1) else (m, e)
    if greatestExponent < e then .infinite negative else .finite negative m e

def ofInt (n : Int) : Double := ofRatio (n < 0) n.natAbs 1

def isZero : Double → Bool
  | .finite _ m _ => m == 0
  | _ => false

/-- The significand with its sign, counted in units of `2 ^ unit`; exact if `unit ≤ exponent`. -/
def units (negative : Bool) (m : Nat) (e unit : Int) : Int :=
  let n : Int := m * 2 ^ (e - unit).toNat
  if negative then -n else n

/-- The order of numbers; nothing is below or above a number that is none. -/
def lt : Double → Double → Bool
  | .nan, _ | _, .nan => false
  | .infinite s, .infinite t => s && !t
  | .infinite s, .finite _ _ _ => s
  | .finite _ _ _, .infinite t => !t
  | .finite s m e, .finite t n f => units s m e (min e f) < units t n f (min e f)

/-- Equality of numbers: both zeros are the same one, and what is no number equals nothing. -/
def same : Double → Double → Bool
  | .infinite s, .infinite t => s == t
  | .finite s m e, .finite t n f => units s m e (min e f) == units t n f (min e f)
  | _, _ => false

def le (x y : Double) : Bool := x.lt y || x.same y

/-- Is the number this integer exactly? -/
def isInt (x : Double) (n : Int) : Bool :=
  match x with
  | .finite s m e => units s m e (min e 0) == n * 2 ^ (-(min e 0)).toNat
  | _ => false

end Double

end LintConfig.Number
