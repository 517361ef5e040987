import LintConfig.Text.Blank
import LintConfig.Number.Reading
import LintConfig.Value.Length

/-! Questions asked on a terminal and answered by lines of input. The empty line takes the default,
if there is one; an answer that will not do is asked for again. -/

namespace LintConfig.Command

/-- The lines not read yet, and what has been shown so far. -/
structure Dialogue where
  typed : List String
  shown : String := ""
  deriving DecidableEq, Repr, Inhabited

/-- Why a dialogue ends early. -/
inductive Interruption
  /-- The input has ended. -/
  | endOfInput (shown : String)
  /-- Digits that spell no width. -/
  | unreadableWidth (e : Number.ReadError)
  /-- The default of a list of names is none. -/
  | defaultNotNames
  /-- A default is too long to be shown. -/
  | longInteger (e : LongInteger)
  deriving DecidableEq, Repr

namespace Dialogue

/-- A question with its default in brackets. -/
def question (text : String) (default : Option String) : String :=
  text ++ (default.map fun d => " [" ++ d ++ "]").getD "" ++ ": "

/-- An answer in words of its own. -/
def askText (text default : String) (d : Dialogue) : Except Interruption (String × Dialogue) :=
  let shown := d.shown ++ question text (some default)
  match d.typed with
  | [] => .error (.endOfInput shown)
  | line :: rest => .ok (if line == "" then default else line, ⟨rest, shown⟩)

/-- What an answer that is no choice is met with. -/
def notOneOf (v : Value) (choices : List String) : String :=
  "Error: " ++ v.display ++ " is not one of " ++ joined ", " (choices.map Text.quotation) ++ ".\n"

/-- One of several words, among which the default may be. -/
def chooseFrom (text : String) (choices : List String) (default : Option Value) :
    (typed : List String) → (shown : String) → Except Interruption (String × Dialogue)
  | typed, shown =>
    let shown := shown ++ question (text ++ " (" ++ joined ", " choices ++ ")")
      (default.map Value.plain)
    match typed with
    | [] => .error (.endOfInput shown)
    | line :: rest =>
      match if line == "" then default else some (.text line) with
      | some v =>
        if choices.contains v.plain then .ok (v.plain, ⟨rest, shown⟩)
        else chooseFrom text choices default rest (shown ++ notOneOf v choices)
      | none => chooseFrom text choices default rest shown

def choose (text : String) (choices : List String) (default : Option Value) (d : Dialogue) :
    Except Interruption (String × Dialogue) :=
  if default.any Value.isLong then .error (.longInteger {})
  else chooseFrom text choices default d.typed d.shown

/-- The answer a line gives to a question for yes or no. -/
def yesOrNo? (default : Option Value) (line : String) : Option Value :=
  let word := String.ofList (Text.strip (line.toList.map Number.lowerAscii))
  if word == "y" || word == "yes" then some (.bool true)
  else if word == "n" || word == "no" then some (.bool false)
  else if word == "" then default
  else none

/-- The letters for yes and no, the default in upper case. -/
def letters : Option Value → String
  | none => "y/n"
  | some v => if v.isTruthy then "Y/n" else "y/N"

/-- Yes or no. The default can be a value of any kind. -/
def confirmFrom (text : String) (default : Option Value) :
    (typed : List String) → (shown : String) → Except Interruption (Value × Dialogue)
  | typed, shown =>
    let shown := shown ++ question text (some (letters default))
    match typed with
    | [] => .error (.endOfInput shown)
    | line :: rest =>
      match yesOrNo? default line with
      | some v => .ok (v, ⟨rest, shown⟩)
      | none => confirmFrom text default rest (shown ++ "Error: invalid input\n")

def confirm (text : String) (default : Option Value) (d : Dialogue) :
    Except Interruption (Value × Dialogue) :=
  confirmFrom text default d.typed d.shown

end Dialogue

end LintConfig.Command
