import LintConfig.Text.Hex
import LintConfig.Text.Utf8

/-! Why a text is not a YAML document, or its document no value. -/

namespace LintConfig.Yaml

/-- A place in a text; lines and columns are counted from zero. -/
structure Mark where
  line : Nat
  column : Nat
  deriving DecidableEq, Repr, Inhabited

/-- What was being done when a fault was noticed. -/
inductive Stage
  | scanning
  | parsing
  | composing
  | constructing
  deriving DecidableEq, Repr

/-- A fault in a document: what was found where, and what it was found in. -/
structure Fault where
  stage : Stage
  context : Option String := none
  contextMark : Option Mark := none
  problem : String
  mark : Mark
  deriving DecidableEq, Repr

inductive Error
  | fault (f : Fault)
  /-- A character that no document may hold, and how many characters precede it. -/
  | unacceptable (c : Char) (position : Nat)
  /-- Bytes that are no text. -/
  | undecodable (f : Text.Utf8.Fault)
  /-- A scalar that its tag has no value for. -/
  | badValue (message : String)
  /-- A number too large for a character. -/
  | hugeCharacter
  /-- A part of a number in base sixty whose place is too high for a double. -/
  | hugePart
  /-- A scalar tagged as a truth value that is none. -/
  | noTruthValue
  /-- A scalar tagged as a number that has no characters. -/
  | emptyNumber
  /-- A scalar tagged as a time that is none. -/
  | noTime
  /-- A mapping tagged as a time; it has a default value, but no form of its own. -/
  | timeOfMapping
  /-- A mapping whose default value is the mapping itself. -/
  | endlessDefault
  deriving DecidableEq, Repr

/-- A place as text; a reader counts from one. -/
def Mark.message (name : String) (m : Mark) : String :=
  "  in \"" ++ name ++ "\", line " ++ toString (m.line + 1) ++ ", column " ++ toString (m.column + 1)

/-- A fault in the document of a file. The place of the context is left out where it is the same. -/
def Fault.message (name : String) (f : Fault) : String :=
  let context := match f.context with
    | some c => c ++ "\n"
    | none => ""
  let place := match f.contextMark with
    | some m => if m = f.mark then "" else m.message name ++ "\n"
    | none => ""
  context ++ place ++ f.problem ++ "\n" ++ f.mark.message name

def Error.message (name : String) : Error → String
  | fault f => f.message name
  | unacceptable c position =>
    let n := c.toNat
    let digits := Text.hexDigits (if n < 0x10000 then 4 else if n < 0x100000 then 5 else 6) n
    "unacceptable character #x" ++ String.ofList digits ++
      ": special characters are not allowed\n  in \"" ++ name ++ "\", position " ++
      toString position
  | undecodable f => f.message
  | badValue message => message
  | hugeCharacter => "signed integer is greater than maximum"
  | hugePart => "int too large to convert to float"
  | noTruthValue => "not a truth value"
  | emptyNumber => "string index out of range"
  | noTime => "not a time"
  | timeOfMapping => "a mapping is not a time"
  | endlessDefault => "a mapping is its own default value"

end LintConfig.Yaml
