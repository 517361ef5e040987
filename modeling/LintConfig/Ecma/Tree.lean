import LintConfig.Ecma.Token

/-! Syntax trees. A node has a kind, the stretch of text it covers, the last token that was read for
it and named fields; a field holds a node, a list whose items are nodes or holes, or a plain value. -/

namespace LintConfig.Ecma

/-- The kinds of nodes. -/
inductive Kind
  | script | module
  | emptyStatement | expressionStatement | blockStatement | ifStatement | labeledStatement
  | breakStatement | continueStatement | withStatement | switchStatement | switchCase
  | returnStatement | throwStatement | tryStatement | catchClause | debuggerStatement
  | whileStatement | doWhileStatement | forStatement | forInStatement | forOfStatement
  | variableDeclaration | variableDeclarator | functionDeclaration | classDeclaration
  | importDeclaration | importSpecifier | importDefaultSpecifier | importNamespaceSpecifier
  | exportNamedDeclaration | exportDefaultDeclaration | exportAllDeclaration | exportSpecifier
  | identifier | literal | thisExpression | super | importCallee | arrayExpression
  | objectExpression | property | functionExpression | arrowFunctionExpression | classExpression
  | classBody | methodDefinition | templateLiteral | templateElement | taggedTemplateExpression
  | memberExpression | callExpression | newExpression | metaProperty | unaryExpression
  | updateExpression | awaitExpression | binaryExpression | logicalExpression
  | conditionalExpression | yieldExpression | assignmentExpression | sequenceExpression
  | spreadElement | restElement | arrayPattern | objectPattern | assignmentPattern
  /-- The parameters of an arrow function, before its arrow is read. -/
  | arrowParameters
  | jsxElement | jsxOpeningElement | jsxClosingElement | jsxIdentifier | jsxNamespacedName
  | jsxMemberExpression | jsxAttribute | jsxSpreadAttribute | jsxExpressionContainer
  | jsxEmptyExpression | jsxText
  deriving DecidableEq, Repr

/-- A field value that holds no node. -/
inductive Atom
  | absent
  | flag (value : Bool)
  | text (value : String)
  deriving DecidableEq, Repr

mutual

inductive Node
  | mk (kind : Kind) (span : Span) (last : Option Token) (fields : List Field)

inductive Field
  | plain (label : String) (value : Atom)
  | child (label : String) (node : Node)
  | children (label : String) (items : List Item)

inductive Item
  | plain (value : Atom)
  | node (node : Node)

end

def Item.node? : Item → Option Node
  | .node n => some n
  | .plain _ => none

namespace Field

def label : Field → String
  | plain l _ | child l _ | children l _ => l

/-- The nodes a field directly holds, in order. -/
def nodes : Field → List Node
  | plain _ _ => []
  | child _ n => [n]
  | children _ items => items.filterMap Item.node?

end Field

namespace Node

def kind : Node → Kind
  | mk k _ _ _ => k

def span : Node → Span
  | mk _ s _ _ => s

/-- The last token that was read for the node; a node without tokens has none. -/
def last : Node → Option Token
  | mk _ _ t _ => t

def fields : Node → List Field
  | mk _ _ _ fs => fs

/-- The nodes directly below a node, in the order of its fields. -/
def nodes (n : Node) : List Node := n.fields.flatMap Field.nodes

def field? (n : Node) (label : String) : Option Field := n.fields.find? (·.label == label)

def text? (n : Node) (label : String) : Option String :=
  match n.field? label with
  | some (.plain _ (.text s)) => some s
  | _ => none

def flag (n : Node) (label : String) : Bool :=
  match n.field? label with
  | some (.plain _ (.flag b)) => b
  | _ => false

def child? (n : Node) (label : String) : Option Node :=
  match n.field? label with
  | some (.child _ c) => some c
  | _ => none

def items (n : Node) (label : String) : List Item :=
  match n.field? label with
  | some (.children _ is) => is
  | _ => []

/-- The nodes of a list field, holes left out. -/
def list (n : Node) (label : String) : List Node := (n.items label).filterMap Item.node?

/-- The name of an identifier. -/
def name? (n : Node) : Option String :=
  if n.kind = .identifier then n.text? "name" else none

mutual

/-- How many nodes the tree has. -/
def size : Node → Nat
  | .mk _ _ _ fields => 1 + fieldsSize fields

def fieldsSize : List Field → Nat
  | [] => 0
  | .plain _ _ :: rest => fieldsSize rest
  | .child _ n :: rest => n.size + fieldsSize rest
  | .children _ items :: rest => itemsSize items + fieldsSize rest

def itemsSize : List Item → Nat
  | [] => 0
  | .plain _ :: rest => itemsSize rest
  | .node n :: rest => n.size + itemsSize rest

end

end Node

end LintConfig.Ecma
