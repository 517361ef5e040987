import LintConfig.Number.Double

/-! Sums and products of doubles: the exact result, rounded; and the whole part of a double. -/

namespace LintConfig.Number.Double

-- Powers are those of the core library, whatever else is in scope.
attribute [local instance (high)] instPowNat

/-- The double nearest to `n * 2 ^ e`. -/
def ofScaled (n e : Int) : Double :=
  if 0 ≤ e then ofRatio (n < 0) (n.natAbs * 2 ^ e.toNat) 1
  else ofRatio (n < 0) n.natAbs (2 ^ (-e).toNat)

def negate : Double → Double
  | finite s m e => finite (!s) m e
  | infinite s => infinite (!s)
  | nan => nan

def isNegative : Double → Bool
  | finite s _ _ | infinite s => s
  | nan => false

def add : Double → Double → Double
  | nan, _ | _, nan => nan
  | infinite s, infinite t => if s == t then infinite s else nan
  | infinite s, _ => infinite s
  | _, infinite t => infinite t
  | finite s m e, finite t n f =>
    if m == 0 && n == 0 then zero (s && t)
    else ofScaled (units s m e (min e f) + units t n f (min e f)) (min e f)

def mul : Double → Double → Double
  | nan, _ | _, nan => nan
  | x@(infinite _), y | x, y@(infinite _) =>
    if x.isZero || y.isZero then nan else infinite (x.isNegative != y.isNegative)
  | finite s m e, finite t n f =>
    if m * n == 0 then zero (s != t)
    else ofScaled (if s != t then -(m * n : Nat) else (m * n : Nat)) (e + f)

/-- The part of a number before its point, without its sign. -/
def wholePart : Double → Nat
  | finite _ m e => if 0 ≤ e then m * 2 ^ e.toNat else m / 2 ^ (-e).toNat
  | _ => 0

end LintConfig.Number.Double
