import LintConfig.Ecma.Parser.Pattern

/-! Functions: their bodies with directives, declarations and expressions, and methods. -/

namespace LintConfig.Ecma.Parser

/-- Run a parse and put back the parts of the context that a function has for itself. -/
def withFunctionContext {α : Type} (p : Parse α) : Parse α := do
  let before ← context
  let x ← p
  modifyContext fun c => { c with
    strict := before.strict
    allowStrictDirective := before.allowStrictDirective
    await := before.await
    allowYield := before.allowYield }
  return x

/-! ### Bodies -/

/-- A statement that may be a directive: a string literal on its own. Gives the text between its
quotes if it is one; an empty string is none. -/
def parseDirective (g : Grammar) : Parse (Node × Option String) := do
  let t ← lookahead
  let start ← mark
  let e ← g .expression
  let content := String.ofList ((t.raw.toList.drop 1).dropLast)
  let directive := if e.kind == .literal && content != "" then some content else none
  endStatement
  match directive with
  | some d =>
    return (← finish start .expressionStatement [field "expression" e, text "directive" d], directive)
  | none => return (← finish start .expressionStatement [field "expression" e], none)

/-- The directives at the start of a body. A directive that makes the code strict also objects to
an octal escape in one before it. -/
def parseDirectives (g : Grammar) : (fuel : Nat) → (octal : Option Token) → Parse (List Node)
  | 0, _ => tooDeep
  | fuel + 1, octal => do
    let t ← lookahead
    if !t.isString then return []
    else
      let (statement, directive) ← parseDirective g
      match directive with
      | none => return [statement]
      | some d =>
        if d == "use strict" then
          modifyContext fun c => { c with strict := true }
          if let some o := octal then failAt o .strictOctal
          unless (← context).allowStrictDirective do failAt t .illegalStrictDirective
          return statement :: (← parseDirectives g fuel octal)
        else
          let octal := if octal.isNone && t.isOctal then some t else octal
          return statement :: (← parseDirectives g fuel octal)

/-- The body of a function in braces. -/
def parseFunctionBody (g : Grammar) : Parse Node := do
  let start ← mark
  expect .leftBrace
  let directives ← parseDirectives g (← tokensLeft) none
  let before ← context
  modifyContext fun c => { c with
    labels := [], inIteration := false, inSwitch := false, inFunctionBody := true }
  let done : Parse Bool := do return (← lookahead).isEnd || (← sees .rightBrace)
  let statements ← untilDone done (g .statementItem) (← tokensLeft)
  expect .rightBrace
  modifyContext fun c => { c with
    labels := before.labels
    inIteration := before.inIteration
    inSwitch := before.inSwitch
    inFunctionBody := before.inFunctionBody }
  finish start .blockStatement [many "body" (directives ++ statements)]

/-! ### Declarations and expressions -/

/-- Is the lookahead `async`, with `function` on the same line? -/
def seesAsyncFunction : Parse Bool := do
  if ← seesWord "async" then
    let line := (← get).cursor.line
    let next ← peek
    return line == next.line && next.isKeyword .function
  else return false

def functionFields (id : Option Node) (params : List Node) (body : Node)
    (generator async : Bool) : List Field :=
  [optional "id" id, many "params" params, field "body" body, flag "generator" generator,
   flag "async" async]

/-- What strict code objects to in the name of a function that is not strict yet. -/
def nameObjection (t : Token) : Parse (Option (Option Nat) × Option Cause) := do
  if (← context).strict then
    if isRestrictedName t.value then failAt t .restrictedFunctionName
    return (none, none)
  else if isRestrictedName t.value then return (some (some t.line), some .restrictedFunctionName)
  else if isStrictReserved t.value then return (some (some t.line), some .strictReservedWord)
  else return (none, none)

/-- The parameters and the body of a function, and the objections to them once the body has told
whether it is strict. -/
def parseFunctionRest (g : Grammar) (objection : Option (Option Nat)) (cause : Option Cause) :
    Parse (List Node × Node) := do
  let ps ← parseParameters g objection
  let cause := (ps.cause <|> cause).getD .illegalCharacter
  modifyContext fun c => { c with allowStrictDirective := ps.simple }
  let body ← g .functionBody
  if (← context).strict then
    if let some line := ps.laterObjection then object line cause
    if let some line := ps.objection then object line cause
  return (ps.nodes, body)

/-- The words that open a function: tells whether it is async, and whether a generator. -/
def parseFunctionHead : Parse (Bool × Bool) := do
  let async ← acceptWord "async"
  expectKeyword .function
  if async then return (true, false) else return (false, ← accept .times)

def parseFunctionDeclaration (g : Grammar) (nameIsOptional : Bool) : Parse Node := do
  let start ← mark
  let (async, generator) ← parseFunctionHead
  let (id, objection, cause) ←
    if nameIsOptional && (← sees .leftParen) then pure (none, none, none)
    else
      let t ← lookahead
      let id ← parseBindingName .parameter
      let (objection, cause) ← nameObjection t
      pure (some id, objection, cause)
  let (params, body) ← withFunctionContext do
    modifyContext fun c => { c with await := async, allowYield := !generator }
    parseFunctionRest g objection cause
  finish start .functionDeclaration (functionFields id params body generator async)

def parseFunctionExpression (g : Grammar) : Parse Node := do
  let start ← mark
  let (async, generator) ← parseFunctionHead
  let (id, params, body) ← withFunctionContext do
    modifyContext fun c => { c with await := async, allowYield := !generator }
    let (id, objection, cause) ←
      if ← sees .leftParen then pure (none, none, none)
      else
        let t ← lookahead
        let id ←
          if !(← context).strict && !generator && t.isKeyword .yield then parseName
          else parseBindingName .parameter
        let (objection, cause) ← nameObjection t
        pure (some id, objection, cause)
    let (params, body) ← parseFunctionRest g objection cause
    return (id, params, body)
  finish start .functionExpression (functionFields id params body generator async)

/-! ### Methods -/

/-- The body of a method with the given parameters. -/
def parseMethodBody (g : Grammar) (ps : Parameters) : Parse Node := do
  onlyValue
  let before ← context
  modifyContext fun c => { c with allowStrictDirective := ps.simple }
  let body ← isolated (g .functionBody)
  if (← context).strict then
    let cause := ps.cause.getD .illegalCharacter
    if let some line := ps.laterObjection then object line cause
    if let some line := ps.objection then object line cause
  modifyContext fun c => { c with
    strict := before.strict, allowStrictDirective := before.allowStrictDirective }
  return body

/-- What a method is. -/
inductive MethodKind
  | plain
  | getter
  | setter
  | generator
  | async
  deriving DecidableEq, Repr

def parseMethod (g : Grammar) (kind : MethodKind) : Parse Node := do
  let start ← mark
  let before ← context
  modifyContext fun c => { c with
    allowYield := kind != .async, await := c.await || kind == .async }
  let ps ← parseParameters g none
  match kind with
  | .getter => unless ps.nodes.isEmpty do failHere .badGetterArity
  | .setter =>
    match ps.nodes with
    | [p] => if p.kind == .restElement then failHere .restSetterParameter
    | _ => failHere .badSetterArity
  | .generator => modifyContext fun c => { c with allowYield := false }
  | _ => pure ()
  let body ← parseMethodBody g ps
  modifyContext fun c => { c with allowYield := before.allowYield, await := before.await }
  finish start .functionExpression
    (functionFields none ps.nodes body (kind == .generator) (kind == .async))

end LintConfig.Ecma.Parser
