import LintConfig.Style.Tally

/-! What sources show about style: a tally for each style rule, how many files were read, and
which could not be. -/

namespace LintConfig.Style

/-- The rules that are inferred from sources. -/
inductive Rule
  | indent
  | quotes
  | linebreak
  | semi
  deriving DecidableEq, Repr

namespace Rule

/-- The rules in the order in which settings for them are written. -/
def all : List Rule := [indent, quotes, linebreak, semi]

def name : Rule → String
  | indent => "indent"
  | quotes => "quotes"
  | linebreak => "linebreak-style"
  | semi => "semi"

end Rule

structure Counts where
  indent : Tally := []
  quotes : Tally := []
  linebreak : Tally := []
  semi : Tally := []
  deriving DecidableEq, Repr, Inhabited

namespace Counts

def of (c : Counts) : Rule → Tally
  | .indent => c.indent
  | .quotes => c.quotes
  | .linebreak => c.linebreak
  | .semi => c.semi

/-- The counts that a function gives for each rule. -/
def build (f : Rule → Tally) : Counts :=
  ⟨f .indent, f .quotes, f .linebreak, f .semi⟩

end Counts

/-- A file that could not be read, and why. -/
structure Warning where
  path : String
  message : String
  deriving DecidableEq, Repr, Inhabited

structure Statistic where
  counts : Counts := {}
  filesScanned : Int := 0
  warnings : List Warning := []
  deriving DecidableEq, Repr, Inhabited

/-- What two bodies of sources show together. -/
def Statistic.merge (s t : Statistic) : Statistic where
  counts := .build fun r => (s.counts.of r).merge (t.counts.of r)
  filesScanned := s.filesScanned + t.filesScanned
  warnings := s.warnings ++ t.warnings

end LintConfig.Style
