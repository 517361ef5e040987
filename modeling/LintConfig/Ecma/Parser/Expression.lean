import LintConfig.Ecma.Parser.Class
import LintConfig.Ecma.Parser.Cover
import LintConfig.Ecma.Parser.Markup

/-! Expressions, from the primary ones up to sequences. -/

namespace LintConfig.Ecma.Parser

/-! ### Primary expressions -/

def seesImportCall : Parse Bool := do
  if ← seesKeyword .import_ then return (← peek).isPunctuator .leftParen else return false

def parseLiteral (start : Nat) : Parse Node := do
  onlyValue
  let t ← advance
  literal start t

def parseRegularExpression (start : Nat) : Parse Node := do
  onlyValue
  let t ← advanceRegularExpression
  finish start .literal [.plain "value" .absent, text "raw" t.raw]

def parseKeywordExpression (g : Grammar) (start : Nat) (k : Keyword) : Parse Node := do
  let c ← context
  if !c.strict && c.allowYield && k == .yield then parseName
  else if !c.strict && k == .let_ then
    let t ← advance
    identifier start t.value
  else
    onlyValue
    match k with
    | .function => parseFunctionExpression g
    | .this =>
      let _ ← advance
      finish start .thisExpression []
    | .class_ => parseClassExpression g
    | _ =>
      if ← seesImportCall then
        expectKeyword .import_
        finish start .importCallee []
      else unexpected (← advance)

def parsePrimary (g : Grammar) : Parse Node := do
  let start ← mark
  let t ← lookahead
  match t.lexeme with
  | .identifier name =>
    let c ← context
    if (c.isModule || c.await) && name == "await" then unexpected t
    if ← seesAsyncFunction then parseFunctionExpression g
    else
      let _ ← advance
      identifier start name
  | .numeric octal | .string _ octal =>
    if (← context).strict && octal then failAt t .strictOctal
    parseLiteral start
  | .boolean _ | .null => parseLiteral start
  | .template _ head _ => if head then parseTemplate g else abort .missingOperand
  | .punctuator .less => if (← get).markup then parseMarkup g else unexpected (← advance)
  | .punctuator .leftParen =>
    modifyContext fun c => { c with isBindingElement := false }
    inherited (parseGroup g)
  | .punctuator .leftBracket => inherited (parseArray g)
  | .punctuator .leftBrace => inherited (parseObject g)
  | .punctuator .divide | .punctuator .divideAssign => parseRegularExpression start
  | .keyword k => parseKeywordExpression g start k
  | _ => unexpected (← advance)

/-! ### Members and calls -/

def parseArguments (argument : Parse Node) : Parse (List Node) := do
  expect .leftParen
  let one : Parse Node := do
    let a ← argument
    unless ← sees .rightParen do expect .comma
    return a
  let args ← untilDone (sees .rightParen) one (← tokensLeft)
  expect .rightParen
  return args

def parseArgument (g : Grammar) : Parse Node := do
  if ← sees .ellipsis then parseSpread g else isolated (g .assignment)

/-- An argument of a call that may be the head of an async arrow function. -/
def parseAsyncArgument (g : Grammar) : Parse Node := do
  if ← sees .ellipsis then parseSpread g
  else isolated do
    let e ← g .assignment
    modifyContext fun c => { c with coverInitializer := none }
    return e

def parseNew (g : Grammar) : Parse Node := do
  let start ← mark
  let word ← parseName
  if ← accept .dot then
    let t ← lookahead
    if t.isWord "target" && (← context).inFunctionBody then
      let property ← parseName
      finish start .metaProperty [field "meta" word, field "property" property]
    else unexpected t
  else if ← seesKeyword .import_ then unexpected (← lookahead)
  else
    let callee ← isolated (g .member)
    let args ← if ← sees .leftParen then parseArguments (parseArgument g) else pure []
    onlyValue
    finish start .newExpression [field "callee" callee, many "arguments" args]

def memberFields (object property : Node) (computed : Bool) : List Field :=
  [flag "computed" computed, field "object" object, field "property" property]

/-- What may follow both the callee of a call and that of a construction. -/
def parseAccess (g : Grammar) (start : Nat) (e : Node) : Parse (Option Node) := do
  if ← sees .dot then
    modifyContext fun c => { c with isBindingElement := false, isAssignmentTarget := true }
    expect .dot
    let property ← parseName
    return some (← finish start .memberExpression (memberFields e property false))
  else if ← sees .leftBracket then
    modifyContext fun c => { c with isBindingElement := false, isAssignmentTarget := true }
    expect .leftBracket
    let property ← isolated (g .expression)
    expect .rightBracket
    return some (← finish start .memberExpression (memberFields e property true))
  else if (← lookahead).isTemplateHead then
    let quasi ← parseTemplate g
    return some (← finish start .taggedTemplateExpression [field "tag" e, field "quasi" quasi])
  else return none

def parseNewOrPrimary (g : Grammar) : Parse Node := do
  if ← seesKeyword .new then inherited (parseNew g) else inherited (parsePrimary g)

/-- `super`, which has to be followed by one of the given marks. -/
def parseSuper (followers : List Punctuator) : Parse Node := do
  let start ← mark
  let _ ← advance
  let e ← finish start .super []
  unless ← seesAny followers do unexpected (← lookahead)
  return e

def seesSuper : Parse Bool := do
  return (← seesKeyword .super) && (← context).inFunctionBody

/-- The callee of a construction: members, but no calls. -/
def parseMember (g : Grammar) : Parse Node := do
  let start := (← lookahead).start
  let e ← if ← seesSuper then parseSuper [.leftBracket, .dot] else parseNewOrPrimary g
  iterate (parseAccess g start) (← tokensLeft) e

/-- One call. If it may be the head of an async arrow function and an arrow follows, its arguments
are parameters. -/
def parseCallArguments (g : Grammar) (startToken : Token) (maybeAsync : Bool) (e : Node) :
    Parse Node := do
  let asyncArrow := maybeAsync && startToken.line == (← lookahead).line
  onlyValue
  let args ← parseArguments (if asyncArrow then parseAsyncArgument g else parseArgument g)
  if e.kind == .importCallee && args.length != 1 then failHere .importCallArity
  let call ← finish startToken.start .callExpression [field "callee" e, many "arguments" args]
  if asyncArrow && (← sees .arrow) then
    return arrowParameters (args.map Node.asPattern) true
  else return call

/-- Members and calls. -/
def parseCall (g : Grammar) : Parse Node := do
  let startToken ← lookahead
  let maybeAsync := startToken.isWord "async"
  let allowIn := (← context).allowIn
  modifyContext fun c => { c with allowIn := true }
  let e ← if ← seesSuper then parseSuper [.leftParen, .dot, .leftBracket] else parseNewOrPrimary g
  let step := fun e => do
    if ← sees .leftParen then return some (← parseCallArguments g startToken maybeAsync e)
    else parseAccess g startToken.start e
  let e ← iterate step (← tokensLeft) e
  modifyContext fun c => { c with allowIn }
  return e

/-! ### Operators -/

def updateFields (op : Token) (e : Node) (isPrefix : Bool) : List Field :=
  [flag "prefix" isPrefix, text "operator" op.value, field "argument" e]

/-- The operand of an increment or decrement has to be assignable. -/
def checkUpdate (e : Node) (restricted : Cause) : Parse Unit := do
  let c ← context
  if c.strict && e.name?.any isRestrictedName then failHere restricted
  unless c.isAssignmentTarget do failHere .badAssignmentTarget

def parseUpdate (g : Grammar) : Parse Node := do
  let startToken ← lookahead
  if ← seesAny [.increment, .decrement] then
    let op ← advance
    let e ← inherited (g .unary)
    checkUpdate e .restrictedPrefix
    let node ← finish startToken.start .updateExpression (updateFields op e true)
    onlyValue
    return node
  else
    let e ← inherited (g .call)
    if !(← get).afterNewline && (← seesAny [.increment, .decrement]) then
      checkUpdate e .restrictedPostfix
      onlyValue
      let op ← advance
      finish startToken.start .updateExpression (updateFields op e false)
    else return e

def isUnaryOperator (t : Token) : Bool :=
  match t.lexeme with
  | .punctuator p => [Punctuator.plus, .minus, .tilde, .not].contains p
  | .keyword k => [Keyword.delete, .void, .typeof].contains k
  | _ => false

def parseUnary (g : Grammar) : Parse Node := do
  let t ← lookahead
  let start := t.start
  if isUnaryOperator t then
    let op ← advance
    let e ← inherited (g .unary)
    let node ← finish start .unaryExpression
      [flag "prefix" true, text "operator" op.value, field "argument" e]
    if (← context).strict && op.isKeyword .delete && e.kind == .identifier then
      failHere .strictDelete
    onlyValue
    return node
  else if (← context).await && t.isWord "await" then
    let _ ← advance
    let e ← g .unary
    finish start .awaitExpression [field "argument" e]
  else parseUpdate g

def binaryFields (op : String) (left right : Node) : List Field :=
  [text "operator" op, field "left" left, field "right" right]

def parseExponentiation (g : Grammar) : Parse Node := do
  let start := (← lookahead).start
  let e ← inherited (g .unary)
  if e.kind != .unaryExpression && (← sees .power) then
    let _ ← advance
    onlyValue
    let right ← isolated (g .exponentiation)
    finish start .binaryExpression (binaryFields "**" e right)
  else return e

/-- How tightly the token binds as a binary operator; zero if it is none. -/
def precedence (allowIn : Bool) (t : Token) : Nat :=
  match t.lexeme with
  | .punctuator p => p.precedence
  | .keyword .instanceof => 7
  | .keyword .in_ => if allowIn then 7 else 0
  | _ => 0

/-- Extend an expression by the operators that bind more tightly than `above`, with their right
operands. -/
def parseBinaryRest (g : Grammar) : (fuel : Nat) → (above start : Nat) → Node → Parse Node
  | 0, _, _, _ => tooDeep
  | fuel + 1, above, start, left => do
    let p := precedence (← context).allowIn (← lookahead)
    if p ≤ above then return left
    else
      let op ← advance
      onlyValue
      let rightStart := (← lookahead).start
      let operand ← isolated (g .exponentiation)
      let right ← parseBinaryRest g fuel p rightStart operand
      let kind := if op.isPunctuator .logicalOr || op.isPunctuator .logicalAnd
        then .logicalExpression else .binaryExpression
      let node ← finish start kind (binaryFields op.value left right)
      parseBinaryRest g fuel above start node

def parseBinary (g : Grammar) : Parse Node := do
  let start := (← lookahead).start
  let e ← inherited (g .exponentiation)
  parseBinaryRest g (← tokensLeft) 0 start e

def parseConditional (g : Grammar) : Parse Node := do
  let start := (← lookahead).start
  let test ← inherited (parseBinary g)
  if ← accept .question then
    let allowIn := (← context).allowIn
    modifyContext fun c => { c with allowIn := true }
    let consequent ← isolated (g .assignment)
    modifyContext fun c => { c with allowIn }
    expect .colon
    let alternate ← isolated (g .assignment)
    let node ← finish start .conditionalExpression
      [field "test" test, field "consequent" consequent, field "alternate" alternate]
    onlyValue
    return node
  else return test

/-! ### Arrow functions -/

/-- The names bound by a parameter, and whether it is a plain name. -/
def addPattern (strict : Bool) : (fuel : Nat) → Parameters → Node → Parameters
  | 0, ps, _ => ps
  | fuel + 1, ps, n =>
    let below := fun (ps : Parameters) (ns : List Node) => ns.foldl (addPattern strict fuel) ps
    let target := fun (p : Node) =>
      if p.kind == Kind.property then (p.child? "value").getD p else p
    let ps := match n.kind with
      | .identifier => ps.add strict none ((n.text? "name").getD "")
      | .restElement => below ps (n.child? "argument").toList
      | .assignmentPattern => below ps (n.child? "left").toList
      | .arrayPattern => below ps (n.list "elements")
      | .objectPattern => below ps ((n.list "properties").map target)
      | _ => ps
    { ps with simple := ps.simple && n.kind == .identifier }

/-- An initial value `yield` is a name in the parameters of an arrow function. -/
def yieldAsName (n : Node) : Option Node :=
  match n.kind, n.child? "right" with
  | .assignmentPattern, some right =>
    if right.kind == .yieldExpression then
      match right.child? "argument", n with
      | none, .mk k s t fields =>
        let name := Node.mk .identifier right.span right.last [text "name" "yield"]
        some (.mk k s t (fields.map fun f => if f.label == "right" then field "right" name else f))
      | some _, _ => none
    else some n
  | _, _ => some n

/-- The parameters an expression before an arrow spells, or `none` if it spells none. -/
def arrowParametersOf? (e : Node) : Parse (Option (Parameters × Bool)) := do
  let async := e.kind == .arrowParameters && e.flag "async"
  let nodes? := match e.kind with
    | .identifier => some [e]
    | .arrowParameters => some (e.list "params")
    | _ => none
  match nodes? with
  | none => return none
  | some nodes =>
    let c ← context
    let params ← nodes.mapM fun n => do
      if async && n.name? == some "await" then unexpected (← lookahead)
      match yieldAsName n with
      | some n => return n
      | none => unexpected (← lookahead)
    let ps := params.foldl (fun ps n => addPattern c.strict (n.size + 1) ps n) {}
    if (c.strict || !c.allowYield) && params.any (·.kind == .yieldExpression) then
      unexpected (← lookahead)
    if ps.cause == some .duplicateParameter then
      object ((if c.strict then ps.objection else ps.laterObjection).join) .duplicateParameter
    return some ({ ps with nodes := params }, async)

def parseArrowFunction (g : Grammar) (start : Nat) (ps : Parameters) (async : Bool) :
    Parse Node := do
  if (← get).afterNewline then unexpected (← lookahead)
  modifyContext fun c => { c with coverInitializer := none }
  withFunctionContext do
    modifyContext fun c => { c with
      allowStrictDirective := ps.simple, allowYield := true, await := async }
    expect .arrow
    let body ←
      if ← sees .leftBrace then
        let allowIn := (← context).allowIn
        modifyContext fun c => { c with allowIn := true }
        let body ← g .functionBody
        modifyContext fun c => { c with allowIn }
        pure body
      else isolated (g .assignment)
    if (← context).strict then
      let cause := ps.cause.getD .illegalCharacter
      if let some line := ps.laterObjection then object line cause
      if let some line := ps.objection then object line cause
    finish start .arrowFunctionExpression
      (functionFields none ps.nodes body false async ++
        [flag "expression" (body.kind != .blockStatement)])

/-! ### Assignments -/

/-- Can the lookahead begin the argument of `yield`? -/
def beginsExpression (markup : Bool) (t : Token) : Bool :=
  match t.lexeme with
  | .punctuator p =>
    [Punctuator.leftBracket, .leftParen, .leftBrace, .plus, .minus, .not, .tilde, .increment,
     .decrement, .divide, .divideAssign].contains p || (markup && p == .less)
  | .keyword k =>
    [Keyword.class_, .delete, .function, .let_, .new, .super, .this, .typeof, .void,
     .yield].contains k
  | _ => true

def parseYield (g : Grammar) : Parse Node := do
  let start ← mark
  expectKeyword .yield
  let (argument, delegate) ←
    if (← get).afterNewline then pure (none, false)
    else
      let allowYield := (← context).allowYield
      modifyContext fun c => { c with allowYield := false }
      let delegate ← accept .times
      let argument ←
        if delegate || beginsExpression (← get).markup (← lookahead) then
          pure (some (← g .assignment))
        else pure none
      modifyContext fun c => { c with allowYield }
      pure (argument, delegate)
  finish start .yieldExpression [optional "argument" argument, flag "delegate" delegate]

/-- The rest of an assignment whose left side is read. -/
def parseAssignmentRest (g : Grammar) (startToken : Token) (e : Node) : Parse Node := do
  let c ← context
  unless c.isAssignmentTarget do failHere .badAssignmentTarget
  if c.strict then
    if let some name := e.name? then
      if isRestrictedName name then failAt startToken .restrictedAssignment
      if isStrictReserved name then failAt startToken .strictReservedWord
  let plain ← sees .assign
  unless plain do onlyValue
  let left := if plain then e.asPattern else e
  let op ← advance
  let right ← isolated (g .assignment)
  let node ← finish startToken.start .assignmentExpression (binaryFields op.value left right)
  modifyContext fun c => { c with coverInitializer := none }
  return node

/-- After `async` on the same line, the one parameter of an arrow function without parentheses. -/
def parseBareAsyncParameter (g : Grammar) (startToken : Token) (e : Node) : Parse Node := do
  let t ← lookahead
  if startToken.isWord "async" && startToken.line == t.line &&
      (t.isIdentifier || t.isKeyword .yield) then
    let arg ← parsePrimary g
    return arrowParameters [arg.asPattern] true
  else return e

def parseAssignment (g : Grammar) : Parse Node := do
  if !(← context).allowYield && (← seesKeyword .yield) then parseYield g
  else
    let startToken ← lookahead
    let e ← parseBareAsyncParameter g startToken (← parseConditional g)
    if e.kind == .arrowParameters || (← sees .arrow) then
      onlyValue
      match ← arrowParametersOf? e with
      | some (ps, async) => parseArrowFunction g startToken.start ps async
      | none => return e
    else
      match (← lookahead).lexeme with
      | .punctuator p => if p.isAssignment then parseAssignmentRest g startToken e else return e
      | _ => return e

def parseExpression (g : Grammar) : Parse Node := do
  let start := (← lookahead).start
  let first ← isolated (g .assignment)
  if ← sees .comma then
    let done : Parse Bool := do return (← lookahead).isEnd || !(← sees .comma)
    let next : Parse Node := do
      let _ ← advance
      isolated (g .assignment)
    let rest ← untilDone done next (← tokensLeft)
    finish start .sequenceExpression [many "expressions" (first :: rest)]
  else return first

end LintConfig.Ecma.Parser
