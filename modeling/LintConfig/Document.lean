import LintConfig.Files.Tree
import LintConfig.Yaml.Reader

/-! Documents: files that hold one YAML value each. -/

namespace LintConfig.Document
open Files (Path Tree)

/-- Why a file holds no value. -/
inductive Failure
  | unreadable (e : Files.FileError)
  | notText (f : Text.Utf8.Fault)
  | malformed (path : Path) (e : Yaml.Error)
  deriving DecidableEq, Repr

def Failure.message : Failure → String
  | unreadable e => e.message
  | notText f => f.message
  | malformed p e => e.message p.text

/-- Does the failure concern the notation of the value, and not the file? -/
def Failure.isNotation : Failure → Bool
  | malformed _ (.fault _) | malformed _ (.unacceptable ..) => true
  | _ => false

/-- An error in reading the document of a file. -/
def failure (p : Path) : Yaml.Error → Failure
  | .undecodable f => .notText f
  | e => .malformed p e

/-- The value in a file. Any kind of line break will do. -/
def read (root : Tree) (p : Path) : Except Failure Value := do
  let bytes ← (root.read p).mapError .unreadable
  (Yaml.read (.ofBytes Yaml.portionSize bytes)).mapError (failure p)

end LintConfig.Document
