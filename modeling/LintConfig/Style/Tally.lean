/-! Tallies: how often each candidate for a style setting was observed. The candidates stand in
the order in which they were first seen. -/

namespace LintConfig.Style

/-- A candidate for the setting of a style rule: a width or a word. -/
inductive Candidate
  | number (n : Int)
  | word (s : String)
  deriving DecidableEq, Repr, Inhabited

def Candidate.text : Candidate → String
  | number n => toString n
  | word s => s

/-- Counts of candidates, each of which occurs once. -/
abbrev Tally := List (Candidate × Int)

namespace Tally

-- The zero of a sum is the numeral, whatever else is in scope.
attribute [local instance (high)] Zero.ofOfNat0

/-- How often a candidate was observed. -/
def count (c : Candidate) : Tally → Int
  | [] => 0
  | (d, n) :: rest => if d = c then n else count c rest

def has (c : Candidate) (t : Tally) : Bool := t.any (·.1 == c)

/-- Give a candidate a count: in its place if it is there, else at the end. -/
def set (c : Candidate) (n : Int) : Tally → Tally
  | [] => [(c, n)]
  | (d, m) :: rest => if d = c then (d, n) :: rest else (d, m) :: set c n rest

/-- One more observation of a candidate. -/
def observe (t : Tally) (c : Candidate) : Tally := t.set c (t.count c + 1)

/-- The tally of a list of observations. -/
def ofList (cs : List Candidate) : Tally := cs.foldl observe []

/-- The tally of a list of counts, the last of a repeated candidate being the one that counts. -/
def ofCounts (entries : List (Candidate × Int)) : Tally :=
  entries.foldl (fun t (c, n) => t.set c n) []

def total (t : Tally) : Int := (t.map (·.2)).sum

/-- The sums of two tallies, as far as they are positive. -/
def merge (s t : Tally) : Tally :=
  let left := s.filterMap fun (c, n) => if 0 < n + t.count c then some (c, n + t.count c) else none
  let right := t.filter fun (c, n) => !s.has c && 0 < n
  left ++ right

end Tally

end LintConfig.Style
