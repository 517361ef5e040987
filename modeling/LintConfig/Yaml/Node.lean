import LintConfig.Text.Surrogate
import LintConfig.Yaml.Error

/-! The nodes of a YAML document, each with its tag and the place where it begins. A node is known
by its number, so that it can be in several collections, and a collection in itself. -/

namespace LintConfig.Yaml

abbrev NodeId := Nat

inductive Content
  | scalar (s : Text.Spelled)
  | sequence (items : List NodeId)
  | mapping (entries : List (NodeId × NodeId))
  deriving DecidableEq, Repr, Inhabited

structure Node where
  tag : String
  content : Content
  start : Mark
  deriving DecidableEq, Repr, Inhabited

/-- What a kind of node is called in messages. -/
def Content.kindName : Content → String
  | scalar _ => "scalar"
  | sequence _ => "sequence"
  | mapping _ => "mapping"

/-- The nodes of a document, in the order of their numbers. -/
abbrev Nodes := Array Node

namespace Nodes

def node (ns : Nodes) (id : NodeId) : Node := ns.getD id default

/-- The entries of a node; only a mapping has some. -/
def entries (ns : Nodes) (id : NodeId) : List (NodeId × NodeId) :=
  match (ns.node id).content with
  | .mapping es => es
  | _ => []

def setContent (ns : Nodes) (id : NodeId) (c : Content) : Nodes :=
  ns.modify id fun n => { n with content := c }

def setTag (ns : Nodes) (id : NodeId) (tag : String) : Nodes :=
  ns.modify id fun n => { n with tag }

end Nodes

end LintConfig.Yaml
