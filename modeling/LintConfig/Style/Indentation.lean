import LintConfig.Style.Tally
import LintConfig.Text.Blank
import LintConfig.Ecma.Tree

/-! The indentation of a source text: by how much lines are indented further than the line before
them. Lines that are blank, go on with a block comment, or begin inside of a template tell
nothing. -/

namespace LintConfig.Style.Indentation
open Ecma (Span)

/-- A step deeper than this is alignment, not indentation. -/
def deepestStep : Nat := 8

def isIndent (c : Char) : Bool := c == ' ' || c == '\t'

/-- The lines of a text, each with the offset of its first character. -/
def numbered (offset : Nat) : List (List Char) → List (Nat × List Char)
  | [] => []
  | line :: rest => (offset, line) :: numbered (offset + line.length) rest

/-- Does a place lie strictly inside of a span? -/
def isInside (start : Nat) (s : Span) : Bool := s.start < start && start < s.stop

/-- Does a line tell something about indentation? -/
def isSignificant (skipped : List Span) (start : Nat) (line : List Char) : Bool :=
  let body := line.dropWhile isIndent
  !Text.isAllBlank body && body.head? != some '*' && !skipped.any (isInside start)

/-- The indentation of a significant line. -/
structure Indent where
  width : Nat
  hasTab : Bool
  deriving DecidableEq, Repr

def Indent.none : Indent := ⟨0, false⟩

def Indent.ofLine (line : List Char) : Indent :=
  let leading := line.takeWhile isIndent
  ⟨leading.length, leading.contains '\t'⟩

/-- What a line shows, given the indentation before it. -/
def step? (previous next : Indent) : Option Candidate :=
  if previous.width < next.width then
    if next.hasTab then some (.word "tab")
    else if !previous.hasTab && next.width - previous.width ≤ deepestStep then
      some (.number (next.width - previous.width : Nat))
    else none
  else none

/-- What a run of indentations shows, given the one before it. -/
def steps (previous : Indent) : List Indent → List Candidate
  | [] => []
  | next :: rest => (step? previous next).toList ++ steps next rest

/-- The indentations of the significant lines of a text. -/
def indents (skipped : List Span) (text : List Char) : List Indent :=
  ((numbered 0 (Text.lines text)).filter fun (start, line) =>
    isSignificant skipped start line).map fun (_, line) => Indent.ofLine line

def tally (skipped : List Span) (text : List Char) : Tally :=
  .ofList (steps .none (indents skipped text))

end LintConfig.Style.Indentation
