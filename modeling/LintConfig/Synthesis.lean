import LintConfig.Answers.Mapping
import LintConfig.Scan
import LintConfig.Style.Majority

/-! From answers to a configuration: a style guide if one is named, else the answers themselves, or
what the sources show. -/

namespace LintConfig.Synthesis
open Answers (Record Refusal)
open Files (Tree)

/-- Why there is no configuration. -/
inductive Failure
  | refused (r : Refusal)
  | unsupportedGuide (e : StyleGuide.Unsupported)
  /-- An integer is too long for the text that tells what is wrong. -/
  | longInteger (e : LongInteger)
  | scan (f : Scan.Failure)
  | hugeShare (e : Style.HugeShare)
  deriving BEq, Repr

/-- A refusal, unless it cannot be put into words. -/
def Failure.ofRefusal (r : Refusal) : Failure := if r.isLong then .longInteger {} else .refused r

/-- A guide that there is not, unless its name cannot be put into words. -/
def Failure.ofUnsupported (e : StyleGuide.Unsupported) : Failure :=
  if e.name.isLong then .longInteger {} else .unsupportedGuide e

/-- A configuration, how many files were looked at for it, and which of them could not be used. -/
structure Outcome where
  fragment : Fragment
  examined : Nat := 0
  skipped : List Style.Warning := []
  deriving BEq, Repr

/-- The configuration inferred from sources, for the platform the answers describe. -/
def inferred (root : Tree) (o : Scan.Options) (r : Record) : Except Failure Outcome := do
  let files ← (Scan.filesOf root o r.patterns).mapError .scan
  let s ← (Scan.scanFiles root r.jsx.isTruthy files).mapError .scan
  let style ← (s.resolve o.threshold).mapError .hugeShare
  return {
    fragment := style.merge r.environmentFragment
    examined := files.length
    skipped := s.warnings }

/-- The configuration for checked answers. -/
def synthesize (root : Tree) (o : Scan.Options) (r : Record) : Except Failure Outcome := do
  (r.validate).mapError Failure.ofRefusal
  if r.styleGuide.isTruthy then
    let f ← (StyleGuide.resolve r.styleGuide).mapError Failure.ofUnsupported
    return { fragment := f }
  else if r.source.text? == some "prompt" then return { fragment := r.fragment }
  else inferred root o r

end LintConfig.Synthesis
