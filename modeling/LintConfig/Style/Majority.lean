import LintConfig.Config.Fragment
import LintConfig.Number.Double
import LintConfig.Style.Statistic

/-! From observations to settings: a style rule is enforced if one candidate dominates, and turned
off otherwise. -/

namespace LintConfig.Style
open Number (Double)

/-- The share of observations a candidate must exceed unless told otherwise. -/
def defaultThreshold : Double := .ofRatio false 1 2

/-- Does the first candidate win over the second? More observations win, then the smaller text. -/
def beats (a b : Candidate × Int) : Bool :=
  b.2 < a.2 || (a.2 == b.2 && a.1.text < b.1.text)

/-- The candidate that wins over all others; of several that are equal, the first. -/
def winner? : Tally → Option (Candidate × Int)
  | [] => none
  | c :: rest => some (rest.foldl (fun best d => if beats d best then d else best) c)

/-- A share is beyond all doubles: counts below zero can leave a total far smaller than a count. -/
structure HugeShare where
  deriving DecidableEq, Repr

/-- A quotient of integers, rounded. -/
def quotient (n d : Int) : Double := .ofRatio (decide (n < 0) != decide (d < 0)) n.natAbs d.natAbs

/-- The share of a total that a count is. -/
def share (n total : Int) : Except HugeShare Double :=
  match quotient n total with
  | .infinite _ => .error {}
  | x => .ok x

/-- The candidate whose share of the observations exceeds the threshold. -/
def dominant? (threshold : Double) (t : Tally) : Except HugeShare (Option Candidate) := do
  if t.total = 0 then return none
  else match winner? t with
    | some (c, n) => return if threshold.lt (← share n t.total) then some c else none
    | none => return none

def Candidate.value : Candidate → Value
  | number n => .integer n
  | word s => .text s

/-- The setting for a rule that a tally justifies. -/
def settingFor (threshold : Double) (t : Tally) : Except HugeShare Setting :=
  (dominant? threshold t).map fun
    | some c => .error c.value
    | none => .off

/-- The configuration that a statistic justifies: a setting for each style rule. -/
def Statistic.resolve (s : Statistic) (threshold : Double) : Except HugeShare Fragment := do
  let rules ← Rule.all.mapM fun r => do return (r.name, ← settingFor threshold (s.counts.of r))
  return { rules, base := some recommended }

end LintConfig.Style
