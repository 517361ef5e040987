import LintConfig.Ecma.Tree

/-! Going through all nodes of a tree: with a stack of nodes still to be visited, and by plain
recursion. Each node comes with the kind of the node that holds it. -/

namespace LintConfig.Ecma.Node

/-- A node with the kind of its parent; the root has none. -/
abbrev Visit := Node × Option Kind

/-- The nodes directly below a node, as visits. -/
def visitsBelow (n : Node) : List Visit := n.nodes.map fun c => (c, some n.kind)

/-- Visit the nodes on a stack and all below them. What a node holds goes on top of the stack,
its last child uppermost. -/
def visitStack : (fuel : Nat) → List Visit → List Visit
  | 0, _ => []
  | _ + 1, [] => []
  | fuel + 1, v :: stack => v :: visitStack fuel (v.1.visitsBelow.reverse ++ stack)

/-- All nodes of a tree, a parent always before what it holds. There are as many visits as
nodes. -/
def visits (tree : Node) : List Visit := visitStack tree.size [(tree, none)]

mutual

/-- All nodes of a tree, by recursion along it. -/
def preorder (parent : Option Kind) : Node → List Visit
  | .mk kind span last fields =>
    (.mk kind span last fields, parent) :: fieldsPreorder kind fields

def fieldsPreorder (parent : Kind) : List Field → List Visit
  | [] => []
  | .plain _ _ :: rest => fieldsPreorder parent rest
  | .child _ n :: rest => preorder (some parent) n ++ fieldsPreorder parent rest
  | .children _ items :: rest => itemsPreorder parent items ++ fieldsPreorder parent rest

def itemsPreorder (parent : Kind) : List Item → List Visit
  | [] => []
  | .plain _ :: rest => itemsPreorder parent rest
  | .node n :: rest => preorder (some parent) n ++ itemsPreorder parent rest

end

end LintConfig.Ecma.Node
