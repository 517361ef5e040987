import LintConfig.Ecma.Parser.Key

/-! Binding patterns and formal parameters. The tokens a pattern binds are collected on the way,
so that duplicates among them can be told. -/

namespace LintConfig.Ecma.Parser

def bind (t : Token) : Parse Unit := modify fun s => { s with bindings := s.bindings ++ [t] }

/-- Run a parse and give the tokens it bound along with its result. -/
def collecting {α : Type} (p : Parse α) : Parse (α × List Token) := do
  let outer := (← get).bindings
  modify fun s => { s with bindings := [] }
  let x ← p
  let inner := (← get).bindings
  modify fun s => { s with bindings := outer }
  return (x, inner)

/-- Run a parse whose bindings nobody asks for. -/
def discarding {α : Type} (p : Parse α) : Parse α := do return (← collecting p).1

/-- A pattern with an optional initial value. -/
def parsePatternWithDefault (g : Grammar) (kind : BindingKind) : Parse Node := do
  let start := (← lookahead).start
  let pattern ← g (.pattern kind)
  if ← accept .assign then
    let allowYield := (← context).allowYield
    modifyContext fun c => { c with allowYield := true }
    let right ← isolated (g .assignment)
    modifyContext fun c => { c with allowYield }
    finish start .assignmentPattern [field "left" pattern, field "right" right]
  else return pattern

def parseArrayPattern (g : Grammar) (kind : BindingKind) : Parse Node := do
  let start ← mark
  expect .leftBracket
  let rec elements : (fuel : Nat) → Parse (List Item)
    | 0 => tooDeep
    | fuel + 1 => do
      if ← sees .rightBracket then return []
      else if ← accept .comma then return .plain .absent :: (← elements fuel)
      else if ← sees .ellipsis then
        let restStart ← mark
        expect .ellipsis
        let arg ← g (.pattern kind)
        return [.node (← finish restStart .restElement [field "argument" arg])]
      else
        let e ← parsePatternWithDefault g kind
        unless ← sees .rightBracket do expect .comma
        return .node e :: (← elements fuel)
  let items ← elements (← tokensLeft)
  expect .rightBracket
  finish start .arrayPattern [.children "elements" items]

def propertyFields (kind : String) (key value : Node) (computed method shorthand : Bool) :
    List Field :=
  [field "key" key, flag "computed" computed, field "value" value, text "kind" kind,
   flag "method" method, flag "shorthand" shorthand]

def parsePropertyPattern (g : Grammar) (kind : BindingKind) : Parse Node := do
  let start ← mark
  let t ← lookahead
  if t.isIdentifier then
    let key ← parseBindingName .parameter
    let init ← identifier start t.value
    if ← sees .assign then
      bind t
      let _ ← advance
      let e ← g .assignment
      let value ← finish t.start .assignmentPattern [field "left" init, field "right" e]
      finish start .property (propertyFields "init" key value false false true)
    else if ← accept .colon then
      let value ← parsePatternWithDefault g kind
      finish start .property (propertyFields "init" key value false false false)
    else
      bind t
      finish start .property (propertyFields "init" key init false false true)
  else
    let computed ← sees .leftBracket
    let key ← parsePropertyKey g
    expect .colon
    let value ← parsePatternWithDefault g kind
    finish start .property (propertyFields "init" key value computed false false)

def parseRestProperty (g : Grammar) : Parse Node := do
  let start ← mark
  expect .ellipsis
  let arg ← g (.pattern .parameter)
  if ← sees .assign then fail .defaultOfRest
  unless ← sees .rightBrace do fail .itemAfterRestProperty
  finish start .restElement [field "argument" arg]

def parseObjectPattern (g : Grammar) (kind : BindingKind) : Parse Node := do
  let start ← mark
  expect .leftBrace
  let property : Parse Node := do
    let p ← if ← sees .ellipsis then parseRestProperty g else parsePropertyPattern g kind
    unless ← sees .rightBrace do expect .comma
    return p
  let ps ← untilDone (sees .rightBrace) property (← tokensLeft)
  expect .rightBrace
  finish start .objectPattern [many "properties" ps]

def parsePattern (g : Grammar) (kind : BindingKind) : Parse Node := do
  if ← sees .leftBracket then parseArrayPattern g kind
  else if ← sees .leftBrace then parseObjectPattern g kind
  else
    let t ← lookahead
    if t.isKeyword .let_ && kind == .lexical then failAt t .letBoundLexically
    bind t
    parseBindingName kind

/-! ### Parameters -/

/-- What is known of a parameter list: whether all of it is plain names, what strict code would
object to, and the names so far. An objection stands with the line it is reported on; `none` is
the line of the last token read. -/
structure Parameters where
  simple : Bool := true
  nodes : List Node := []
  names : List String := []
  /-- Refused in code that is strict already, and, of a repeated name, in code that becomes so. -/
  objection : Option (Option Nat) := none
  /-- Refused in code that its own body makes strict. -/
  laterObjection : Option (Option Nat) := none
  cause : Option Cause := none

namespace Parameters

/-- Take in a name, bound on the given line. -/
def add (ps : Parameters) (strict : Bool) (line : Option Nat) (name : String) : Parameters :=
  let checked :=
    if strict then
      let ps := if isRestrictedName name then
        { ps with objection := some line, cause := some .restrictedParameter } else ps
      if ps.names.contains name then
        { ps with objection := some line, cause := some .duplicateParameter } else ps
    else if ps.laterObjection.isNone then
      if isRestrictedName name then
        { ps with laterObjection := some line, cause := some .restrictedParameter }
      else if isStrictReserved name then
        { ps with laterObjection := some line, cause := some .strictReservedWord }
      else if ps.names.contains name then
        { ps with objection := some line, cause := some .duplicateParameter }
      else ps
    else ps
  { checked with names := name :: checked.names }

end Parameters

/-- Report an objection. -/
def object {α : Type} (line : Option Nat) (cause : Cause) : Parse α := fun s =>
  .error (.malformed (line.getD s.lastLine) cause)

def parseRestParameter (g : Grammar) : Parse Node := do
  let start ← mark
  expect .ellipsis
  let arg ← g (.pattern .parameter)
  if ← sees .assign then fail .defaultOfRest
  unless ← sees .rightParen do fail .parameterAfterRest
  finish start .restElement [field "argument" arg]

def parseParameter (g : Grammar) (ps : Parameters) : Parse Parameters := do
  let one := do
    if ← sees .ellipsis then parseRestParameter g else parsePatternWithDefault g .parameter
  let (param, bound) ← collecting one
  let strict := (← context).strict
  let ps := bound.foldl (fun ps t => ps.add strict (some t.line) t.value) ps
  return { ps with
    simple := ps.simple && param.kind == .identifier
    nodes := ps.nodes ++ [param] }

/-- The parameters of a function in parentheses; an objection to its name comes before those to
the parameters. -/
def parseParameters (g : Grammar) (name : Option (Option Nat)) : Parse Parameters := do
  expect .leftParen
  let rec list : (fuel : Nat) → Parameters → Parse Parameters
    | 0, _ => tooDeep
    | fuel + 1, ps => do
      if (← lookahead).isEnd then return ps
      else
        let ps ← parseParameter g ps
        if ← sees .rightParen then return ps
        else
          expect .comma
          if ← sees .rightParen then return ps else list fuel ps
  let none : Parameters := { laterObjection := name }
  let ps ← if ← sees .rightParen then pure none else list (← tokensLeft) none
  expect .rightParen
  return ps

end LintConfig.Ecma.Parser
