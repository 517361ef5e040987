import LintConfig.Answers.Layers
import LintConfig.Command.Arguments
import LintConfig.Command.Dialogue

/-! The questions that a run asks for its answers. What is known already is the default; what does
not matter any more is not asked. -/

namespace LintConfig.Command.Questions
open Answers (Mapping)

/-- Give a field a value. -/
def answer (m : Mapping) (field : String) (v : Value) : Mapping := Value.assign (.text field) v m

/-- The value of a field, or what it is taken to be. -/
def known (m : Mapping) (field : String) (fallback : Value) : Value := (m.get? field).getD fallback

/-- A value as a default; null is none. -/
def default? : Value → Option Value
  | .null => none
  | v => some v

/-- Texts of items that all are texts. -/
def allTexts? (items : List Value) : Option (List String) :=
  if items.all (·.text?.isSome) then some (items.filterMap Value.text?) else none

/-- Names separated by spaces. A text gives its characters. -/
def spaced? (v : Value) : Option String :=
  let names : Option (List String) := match v.unrolled with
    | .text s => some (s.toList.map fun c => String.ofList [c])
    | .halves codes => some (codes.map fun n => String.ofList (Text.characters [n]))
    | .list items | .tuple items | .set items => allTexts? items
    | .map entries => allTexts? (entries.map Prod.fst)
    | _ => none
  names.map (joined " ")

/-- The environments to suggest. -/
def suggestedEnv (m : Mapping) : Except Interruption String :=
  let v := known m "env" .null
  if v.isTruthy then
    match spaced? v with
    | some s => .ok s
    | none => .error .defaultNotNames
  else .ok "browser"

def chooseField (m : Mapping) (field text : String) (choices : List String) (fallback : String)
    (d : Dialogue) : Except Interruption (Mapping × Dialogue) := do
  let (word, d) ← d.choose text choices (default? (known m field (.text fallback)))
  return (answer m field (.text word), d)

def confirmField (m : Mapping) (field text : String) (fallback : Bool) (d : Dialogue) :
    Except Interruption (Mapping × Dialogue) := do
  let (v, d) ← d.confirm text (default? (known m field (.bool fallback)))
  return (answer m field v, d)

/-- The questions about style. -/
def askStyle (m : Mapping) (d : Dialogue) : Except Interruption (Mapping × Dialogue) := do
  let default ← (known m "indent" (.integer 4)).told.mapError .longInteger
  let (indent, d) ← d.askText "Indentation (number of spaces, or 'tab')" default
  let indent ← (indentOf indent).mapError .unreadableWidth
  let m := answer m "indent" indent
  let (m, d) ← chooseField m "quotes" "Quotes" Answers.quoteStyles "single" d
  let (m, d) ← chooseField m "linebreak" "Line endings" Answers.linebreakStyles "unix" d
  confirmField m "semi" "Require semicolons?" true d

/-- The questions about what the code uses. -/
def askPlatform (m : Mapping) (d : Dialogue) : Except Interruption (Mapping × Dialogue) := do
  let (m, d) ← confirmField m "es6" "Are you using ECMAScript 6 features?" false d
  let (env, d) ← d.askText "Environments (space separated)" (← suggestedEnv m)
  let names := (Text.words env.toList).map fun word => Value.text (String.ofList word)
  let m := answer m "env" (.list names)
  let (m, d) ← confirmField m "commonjs" "Do you use CommonJS?" false d
  let (m, d) ← confirmField m "jsx" "Do you use JSX?" false d
  if (known m "jsx" .null).isTruthy then confirmField m "react" "Do you use React?" false d
  else return (m, d)

/-- The word for no style guide. -/
def noGuide : String := "none"

/-- Ask for a style guide; it settles all that is asked about style and platform. -/
def askGuide (m : Mapping) (d : Dialogue) : Except Interruption (Mapping × Dialogue) := do
  let v := known m "style_guide" .null
  let (guide, d) ← d.choose "Style guide" (noGuide :: StyleGuide.all.map StyleGuide.name)
    (some (if v.isTruthy then v else .text noGuide))
  return (answer m "style_guide" (if guide == noGuide then .null else .text guide), d)

/-- Ask for all answers. -/
def ask (m : Mapping) (d : Dialogue) : Except Interruption (Mapping × Dialogue) := do
  let (m, d) ← askGuide m d
  let isFree := m.get? "style_guide" == some .null
  let (m, d) ←
    if isFree && (m.get? "source").bind Value.text? == some "prompt" then askStyle m d
    else pure (m, d)
  let (m, d) ← if isFree then askPlatform m d else pure (m, d)
  chooseField m "format" "Config file format" Format.names "JSON" d

end LintConfig.Command.Questions
