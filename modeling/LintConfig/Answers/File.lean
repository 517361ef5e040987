import LintConfig.Answers.Record
import LintConfig.Document

/-! Answers in files. -/

namespace LintConfig.Answers
open Files (Path Tree)

/-- Why a file gives no mapping of answers, or its mapping no record. -/
inductive FileFailure
  | document (f : Document.Failure)
  | mapping (f : Failure)
  deriving BEq, Repr

/-- The mapping of answers in a file; a file without a value holds the empty one. -/
def readMapping (root : Tree) (p : Path) : Except FileFailure Mapping := do
  match (← (Document.read root p).mapError .document).unrolled with
  | .null => return []
  | .map entries => return entries
  | _ => throw (.mapping (.refused (.notMapping p.text)))

/-- The record of answers in a file, checked. -/
def readRecord (root : Tree) (p : Path) : Except FileFailure Record := do
  let mapping ← readMapping root p
  (ofMapping mapping).mapError .mapping

end LintConfig.Answers
