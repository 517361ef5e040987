import LintConfig.Value.Text

/-! The formats a configuration can be written in. -/

namespace LintConfig

inductive Format
  | json
  | yaml
  | javaScript
  deriving DecidableEq, Repr

namespace Format

def all : List Format := [json, yaml, javaScript]

def name : Format → String
  | json => "JSON"
  | yaml => "YAML"
  | javaScript => "JavaScript"

def names : List String := all.map name

def ofName? (name : String) : Option Format := all.find? fun f => f.name == name

/-- The name of the file that holds a configuration in this format. -/
def fileName : Format → String
  | json => ".eslintrc.json"
  | yaml => ".eslintrc.yml"
  | javaScript => ".eslintrc.js"

/-- A name that no format has. -/
structure Unsupported where
  name : Value
  deriving BEq, Repr

def Unsupported.message (e : Unsupported) : String :=
  "Unsupported config format: " ++ e.name.display

/-- The format with a name. -/
def resolve (name : Value) : Except Unsupported Format :=
  match name.text?.bind ofName? with
  | some f => .ok f
  | none => .error ⟨name⟩

end Format

end LintConfig
