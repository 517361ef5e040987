import LintConfig.Config.Entries
import LintConfig.Value

/-! Fragments of a lint configuration, and how two of them become one. -/

namespace LintConfig

/-- How strictly a rule is enforced. -/
inductive Severity
  | off
  | warn
  | error
  deriving DecidableEq, Repr

def Severity.level : Severity → Int
  | off => 0
  | warn => 1
  | error => 2

/-- The setting of a rule: a severity, alone or in a list with the rule's options. -/
abbrev Setting := Value

namespace Setting

def off : Setting := .integer Severity.off.level

/-- A rule whose violation is an error, with one option. -/
def error (option : Value) : Setting := .list [.integer Severity.error.level, option]

end Setting

/-- The set of rules that a generated configuration builds on. -/
def recommended : String := "eslint:recommended"

structure Fragment where
  rules : Entries Setting := []
  env : Entries Bool := []
  ecmaFeatures : Entries Bool := []
  plugins : List String := []
  /-- The configuration this one extends. -/
  base : Option String := none
  deriving BEq, Repr, Inhabited

/-- The first occurrences of the members of a list that are not `seen` yet. -/
def firstOccurrences (seen : List String) : List String → List String
  | [] => []
  | x :: rest =>
    if seen.contains x then firstOccurrences seen rest
    else x :: firstOccurrences (x :: seen) rest

namespace Fragment

/-- Two fragments as one; where both say something, the second one counts. -/
def merge (a b : Fragment) : Fragment where
  rules := a.rules.merge b.rules
  env := a.env.merge b.env
  ecmaFeatures := a.ecmaFeatures.merge b.ecmaFeatures
  plugins := firstOccurrences [] (a.plugins ++ b.plugins)
  base := b.base <|> a.base

def entriesValue (es : Entries Value) : Value := .map (es.map fun (k, v) => (.text k, v))

def flagsValue (es : Entries Bool) : Value := entriesValue (es.map fun (k, b) => (k, .bool b))

/-- A section of the document, left out if it is empty. -/
def sectionOf (name : String) (isEmpty : Bool) (v : Value) : Entries Value :=
  if isEmpty then [] else [(name, v)]

/-- The sections of a configuration that are not empty. -/
def sections (f : Fragment) : Entries Value :=
  (f.base.map fun b => ("extends", Value.text b)).toList ++
  sectionOf "env" f.env.isEmpty (flagsValue f.env) ++
  sectionOf "parserOptions" f.ecmaFeatures.isEmpty
    (entriesValue [("ecmaFeatures", flagsValue f.ecmaFeatures)]) ++
  sectionOf "plugins" f.plugins.isEmpty (.list (f.plugins.map .text)) ++
  sectionOf "rules" f.rules.isEmpty (entriesValue f.rules)

/-- The document of a configuration, without its empty sections. -/
def document (f : Fragment) : Value := entriesValue f.sections

end Fragment

end LintConfig
