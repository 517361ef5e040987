import LintConfig.Ecma.Parser.Expression

/-! Statements and declarations. -/

namespace LintConfig.Ecma.Parser

def parseBlock (g : Grammar) : Parse Node := do
  let start ← mark
  expect .leftBrace
  let body ← untilDone (sees .rightBrace) (g .statementItem) (← tokensLeft)
  expect .rightBrace
  finish start .blockStatement [many "body" body]

def parseExpressionStatement (g : Grammar) : Parse Node := do
  let start ← mark
  let e ← g .expression
  endStatement
  finish start .expressionStatement [field "expression" e]

/-- An expression in parentheses that is part of a statement's head. -/
def parseHead (g : Grammar) : Parse Node := do
  expect .leftParen
  let e ← g .expression
  expect .rightParen
  return e

/-- Run a parse with other values of the context's loop and switch marks and put them back. -/
def insideLoop {α : Type} (p : Parse α) : Parse α := do
  let inIteration := (← context).inIteration
  modifyContext fun c => { c with inIteration := true }
  let x ← p
  modifyContext fun c => { c with inIteration }
  return x

/-- Run a parse in which `in` is no operator. -/
def withoutIn {α : Type} (p : Parse α) : Parse α := do
  let allowIn := (← context).allowIn
  modifyContext fun c => { c with allowIn := false }
  let x ← p
  modifyContext fun c => { c with allowIn }
  return x

/-! ### Variables -/

def declaratorFields (id : Node) (init : Option Node) : List Field :=
  [field "id" id, optional "init" init]

/-- The pattern of a declarator; strict code restricts the names it can be. -/
def parseDeclared (g : Grammar) (kind : BindingKind) : Parse Node := do
  let id ← discarding (g (.pattern kind))
  if (← context).strict && id.name?.any isRestrictedName then failHere .restrictedVariable
  return id

def parseInitializer (g : Grammar) : Parse Node := do
  expect .assign
  isolated (g .assignment)

def parseVariableDeclarator (g : Grammar) (inFor : Bool) : Parse Node := do
  let start ← mark
  let id ← parseDeclared g .var
  let init ←
    if (← sees .assign) || (id.kind != .identifier && !inFor) then
      pure (some (← parseInitializer g))
    else pure none
  finish start .variableDeclarator (declaratorFields id init)

/-- One binding of a `let` or, with `isConst`, of a `const`. -/
def parseLexicalDeclarator (g : Grammar) (isConst inFor : Bool) : Parse Node := do
  let start ← mark
  let id ← parseDeclared g .lexical
  let init ←
    if isConst then
      if (← seesKeyword .in_) || (← seesWord "of") then pure none
      else if ← sees .assign then pure (some (← parseInitializer g))
      else fail (.missingInitializer "const")
    else if (!inFor && id.kind != .identifier) || (← sees .assign) then
      pure (some (← parseInitializer g))
    else pure none
  finish start .variableDeclarator (declaratorFields id init)

/-- Items with commas between them, at least one. -/
def parseList (item : Parse Node) : Parse (List Node) := do
  let first ← item
  let done : Parse Bool := do return !(← sees .comma)
  let next : Parse Node := do
    expect .comma
    item
  let rest ← untilDone done next (← tokensLeft)
  return first :: rest

def declarationFields (declarations : List Node) (kind : String) : List Field :=
  [many "declarations" declarations, text "kind" kind]

def parseVariableStatement (g : Grammar) : Parse Node := do
  let start ← mark
  expectKeyword .var
  let ds ← parseList (parseVariableDeclarator g false)
  endStatement
  finish start .variableDeclaration (declarationFields ds "var")

/-- Does `let` begin a declaration? Elsewhere it is a name. -/
def letDeclares : Parse Bool := do
  let t ← peek
  return t.isIdentifier || t.isPunctuator .leftBracket || t.isPunctuator .leftBrace ||
    t.isKeyword .let_ || t.isKeyword .yield

def parseLexicalDeclaration (g : Grammar) : Parse Node := do
  let start ← mark
  let word ← advance
  let ds ← parseList (parseLexicalDeclarator g (word.isKeyword .const) false)
  endStatement
  finish start .variableDeclaration (declarationFields ds word.value)

/-! ### Branches -/

def parseIfClause (g : Grammar) : Parse Node := do
  if (← context).strict && (← seesKeyword .function) then failHere .strictFunctionPlace
  g .statement

def parseIf (g : Grammar) : Parse Node := do
  let start ← mark
  expectKeyword .if_
  let test ← parseHead g
  let consequent ← parseIfClause g
  let alternate ← if ← acceptKeyword .else_ then pure (some (← parseIfClause g)) else pure none
  finish start .ifStatement
    [field "test" test, field "consequent" consequent, optional "alternate" alternate]

def parseSwitchCase (g : Grammar) : Parse Node := do
  let start ← mark
  let test ←
    if ← acceptKeyword .default then pure none
    else
      expectKeyword .case
      pure (some (← g .expression))
  expect .colon
  let done : Parse Bool := do
    return (← sees .rightBrace) || (← seesKeyword .default) || (← seesKeyword .case)
  let consequent ← untilDone done (g .statementItem) (← tokensLeft)
  finish start .switchCase [optional "test" test, many "consequent" consequent]

/-- The clauses of a switch, of which one can be the default. -/
def parseSwitchCases (g : Grammar) : (fuel : Nat) → (hasDefault : Bool) → Parse (List Node)
  | 0, _ => tooDeep
  | fuel + 1, hasDefault => do
    if ← sees .rightBrace then return []
    else
      let clause ← parseSwitchCase g
      let isDefault := (clause.child? "test").isNone
      if isDefault && hasDefault then fail .secondDefault
      return clause :: (← parseSwitchCases g fuel (hasDefault || isDefault))

def parseSwitch (g : Grammar) : Parse Node := do
  let start ← mark
  expectKeyword .switch
  let discriminant ← parseHead g
  let inSwitch := (← context).inSwitch
  modifyContext fun c => { c with inSwitch := true }
  expect .leftBrace
  let cases ← parseSwitchCases g (← tokensLeft) false
  expect .rightBrace
  modifyContext fun c => { c with inSwitch }
  finish start .switchStatement [field "discriminant" discriminant, many "cases" cases]

/-! ### Loops -/

def parseDoWhile (g : Grammar) : Parse Node := do
  let start ← mark
  expectKeyword .do_
  let body ← insideLoop (g .statement)
  expectKeyword .while_
  let test ← parseHead g
  let _ ← accept .semicolon
  finish start .doWhileStatement [field "body" body, field "test" test]

def parseWhile (g : Grammar) : Parse Node := do
  let start ← mark
  expectKeyword .while_
  let test ← parseHead g
  let body ← insideLoop (g .statement)
  finish start .whileStatement [field "test" test, field "body" body]

/-- What a `for` loops over. -/
inductive LoopHead
  /-- Three parts with semicolons between them; the later two are still to be read. -/
  | counted (init : Option Node)
  /-- The keys of an object. -/
  | keys (left right : Node)
  /-- The items of an iterable. -/
  | items (left right : Node)

/-- Does a declaration bind one variable and leave its value open? -/
def isBareBinding (ds : List Node) : Bool :=
  match ds with
  | [d] => (d.child? "init").isNone
  | _ => false

/-- The head of a loop over keys, from the `in` on. -/
def parseKeysHead (g : Grammar) (left : Node) : Parse LoopHead := do
  expectKeyword .in_
  return .keys left (← g .expression)

/-- The head of a loop over items, from the `of` on. -/
def parseItemsHead (g : Grammar) (left : Node) : Parse LoopHead := do
  let _ ← advance
  return .items left (← g .assignment)

def parseVarHead (g : Grammar) : Parse LoopHead := do
  let start ← mark
  expectKeyword .var
  let ds ← withoutIn (parseList (parseVariableDeclarator g true))
  let declaration := finish start .variableDeclaration (declarationFields ds "var")
  if ds.length == 1 && (← seesKeyword .in_) then
    let isPattern := ds.any fun d => (d.child? "id").any (·.kind != .identifier)
    if !isBareBinding ds && (isPattern || (← context).strict) then
      failHere (.loopInitializer "for-in")
    parseKeysHead g (← declaration)
  else if isBareBinding ds && (← seesWord "of") then parseItemsHead g (← declaration)
  else
    let init ← declaration
    expect .semicolon
    return .counted init

def parseLexicalHead (g : Grammar) : Parse LoopHead := do
  let start ← mark
  let word ← advance
  if !(← context).strict && (← lookahead).value == "in" then
    let name ← identifier start word.value
    let _ ← advance
    return .keys name (← g .expression)
  else
    let ds ← withoutIn (parseList (parseLexicalDeclarator g (word.isKeyword .const) true))
    let declaration := finish start .variableDeclaration (declarationFields ds word.value)
    if isBareBinding ds && (← seesKeyword .in_) then parseKeysHead g (← declaration)
    else if isBareBinding ds && (← seesWord "of") then parseItemsHead g (← declaration)
    else
      endStatement
      return .counted (← declaration)

def parseExpressionHead (g : Grammar) : Parse LoopHead := do
  let start := (← lookahead).start
  let init ← withoutIn (inherited (g .assignment))
  let isTarget := (← context).isAssignmentTarget && init.kind != .assignmentExpression
  if ← seesKeyword .in_ then
    unless isTarget do failHere .badForInTarget
    parseKeysHead g init.asPattern
  else if ← seesWord "of" then
    unless isTarget do failHere .badForOfTarget
    parseItemsHead g init.asPattern
  else
    let init ←
      if ← sees .comma then
        let next : Parse Node := do
          expect .comma
          isolated (g .assignment)
        let done : Parse Bool := do return !(← sees .comma)
        let rest ← untilDone done next (← tokensLeft)
        finish start .sequenceExpression [many "expressions" (init :: rest)]
      else pure init
    expect .semicolon
    return .counted init

def parseLoopHead (g : Grammar) : Parse LoopHead := do
  if ← accept .semicolon then return .counted none
  else if ← seesKeyword .var then parseVarHead g
  else if (← seesKeyword .const) || (← seesKeyword .let_) then parseLexicalHead g
  else parseExpressionHead g

def parseFor (g : Grammar) : Parse Node := do
  let start ← mark
  expectKeyword .for_
  expect .leftParen
  let head ← parseLoopHead g
  let (kind, fields) ← match head with
    | .counted init =>
      let test ← if ← sees .semicolon then pure none else pure (some (← g .expression))
      expect .semicolon
      let update ← if ← sees .rightParen then pure none else pure (some (← g .expression))
      pure (Kind.forStatement, [optional "init" init, optional "test" test, optional "update" update])
    | .keys left right => pure (.forInStatement, [field "left" left, field "right" right])
    | .items left right => pure (.forOfStatement, [field "left" left, field "right" right])
  expect .rightParen
  let body ← insideLoop (isolated (g .statement))
  finish start kind (fields ++ [field "body" body])

/-! ### Jumps -/

/-- The label a jump names on its line. -/
def parseJumpLabel : Parse (Option Node) := do
  let s ← get
  if s.lookahead.isIdentifier && !s.afterNewline then
    let id ← parseBindingName .parameter
    let name := id.name?.getD ""
    unless (← context).labels.contains name do fail (.unknownLabel name)
    return some id
  else return none

def parseContinue : Parse Node := do
  let start ← mark
  expectKeyword .continue_
  let label ← parseJumpLabel
  endStatement
  if label.isNone && !(← context).inIteration then fail .illegalContinue
  finish start .continueStatement [optional "label" label]

def parseBreak : Parse Node := do
  let start ← mark
  expectKeyword .break_
  let label ← parseJumpLabel
  endStatement
  let c ← context
  if label.isNone && !c.inIteration && !c.inSwitch then fail .illegalBreak
  finish start .breakStatement [optional "label" label]

def parseReturn (g : Grammar) : Parse Node := do
  unless (← context).inFunctionBody do failHere .illegalReturn
  let start ← mark
  expectKeyword .return_
  let s ← get
  let t := s.lookahead
  let ends := t.isPunctuator .semicolon || t.isPunctuator .rightBrace || s.afterNewline || t.isEnd
  let argument ←
    if !ends || t.isString || t.isTemplate then pure (some (← g .expression)) else pure none
  endStatement
  finish start .returnStatement [optional "argument" argument]

def parseThrow (g : Grammar) : Parse Node := do
  let start ← mark
  expectKeyword .throw_
  if (← get).afterNewline then fail .newlineAfterThrow
  let argument ← g .expression
  endStatement
  finish start .throwStatement [field "argument" argument]

def parseDebugger : Parse Node := do
  let start ← mark
  expectKeyword .debugger
  endStatement
  finish start .debuggerStatement []

/-! ### Other statements -/

def parseEmptyStatement : Parse Node := do
  let start ← mark
  expect .semicolon
  finish start .emptyStatement []

def parseWith (g : Grammar) : Parse Node := do
  if (← context).strict then failHere .strictWith
  let start ← mark
  expectKeyword .with_
  let object ← parseHead g
  let body ← g .statement
  finish start .withStatement [field "object" object, field "body" body]

/-- The first name that occurs twice. -/
def repeated? : List String → List String → Option String
  | _, [] => none
  | seen, name :: rest => if seen.contains name then some name else repeated? (name :: seen) rest

def parseCatch (g : Grammar) : Parse Node := do
  let start ← mark
  expectKeyword .catch_
  expect .leftParen
  if ← sees .rightParen then unexpected (← lookahead)
  let (param, bound) ← collecting (g (.pattern .parameter))
  if let some name := repeated? [] (bound.map (·.value)) then failHere (.duplicateBinding name)
  if (← context).strict && param.name?.any isRestrictedName then
    failHere .restrictedCatchVariable
  expect .rightParen
  let body ← parseBlock g
  finish start .catchClause [field "param" param, field "body" body]

def parseTry (g : Grammar) : Parse Node := do
  let start ← mark
  expectKeyword .try_
  let block ← parseBlock g
  let handler ← if ← seesKeyword .catch_ then pure (some (← parseCatch g)) else pure none
  let finalizer ← if ← acceptKeyword .finally_ then pure (some (← parseBlock g)) else pure none
  if handler.isNone && finalizer.isNone then fail .missingHandler
  finish start .tryStatement
    [field "block" block, optional "handler" handler, optional "finalizer" finalizer]

/-- The statement behind a label. -/
def parseLabelled (g : Grammar) : Parse Node := do
  let t ← lookahead
  if t.isKeyword .class_ then unexpected t
  else if t.isKeyword .function then
    let declaration ← parseFunctionDeclaration g false
    if (← context).strict then failAt t .strictFunctionPlace
    if declaration.flag "generator" then failAt t .generatorInLegacyContext
    return declaration
  else g .statement

/-- A statement that begins with a name: with a label, or an expression. -/
def parseNamedStatement (g : Grammar) : Parse Node := do
  let start ← mark
  let e ← g .expression
  match if ← sees .colon then e.name? else none with
  | some name =>
    expect .colon
    let labels := (← context).labels
    if labels.contains name then fail (.redeclaredLabel name)
    modifyContext fun c => { c with labels := name :: labels }
    let body ← parseLabelled g
    modifyContext fun c => { c with labels }
    finish start .labeledStatement [field "label" e, field "body" body]
  | none =>
    endStatement
    finish start .expressionStatement [field "expression" e]

def parseStatement (g : Grammar) : Parse Node := do
  let t ← lookahead
  match t.lexeme with
  | .endOfInput | .markupName _ => unexpected t
  | .identifier _ =>
    if ← seesAsyncFunction then parseFunctionDeclaration g false else parseNamedStatement g
  | .punctuator .leftBrace => parseBlock g
  | .punctuator .semicolon => parseEmptyStatement
  | .keyword k =>
    match k with
    | .break_ => parseBreak
    | .continue_ => parseContinue
    | .debugger => parseDebugger
    | .do_ => parseDoWhile g
    | .for_ => parseFor g
    | .function => parseFunctionDeclaration g false
    | .if_ => parseIf g
    | .return_ => parseReturn g
    | .switch => parseSwitch g
    | .throw_ => parseThrow g
    | .try_ => parseTry g
    | .var => parseVariableStatement g
    | .while_ => parseWhile g
    | .with_ => parseWith g
    | _ => parseExpressionStatement g
  | _ => parseExpressionStatement g

end LintConfig.Ecma.Parser
