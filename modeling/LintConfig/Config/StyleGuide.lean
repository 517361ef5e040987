import LintConfig.Config.Fragment
import LintConfig.Value.Text

/-! Published style guides. A configuration that uses one consists of the guide alone. -/

namespace LintConfig

inductive StyleGuide
  | google
  | airbnb
  | standard
  deriving DecidableEq, Repr

namespace StyleGuide

def all : List StyleGuide := [google, airbnb, standard]

def name : StyleGuide → String
  | google => "google"
  | airbnb => "airbnb"
  | standard => "standard"

def ofName? (name : String) : Option StyleGuide := all.find? fun g => g.name == name

/-- The plugins a guide's rules come from. -/
def plugins : StyleGuide → List String
  | google => []
  | airbnb => ["react"]
  | standard => ["standard"]

def fragment (g : StyleGuide) : Fragment := { base := some g.name, plugins := g.plugins }

/-- A name that no guide has. -/
structure Unsupported where
  name : Value
  deriving BEq, Repr

def Unsupported.message (e : Unsupported) : String :=
  "You referenced an unsupported guide: " ++ e.name.display

/-- The configuration of the guide with a name. -/
def resolve (name : Value) : Except Unsupported Fragment :=
  match name.text?.bind ofName? with
  | some g => .ok g.fragment
  | none => .error ⟨name⟩

end StyleGuide

end LintConfig
