import LintConfig.Ecma.Parser.Function

/-! Classes. Their code is strict. -/

namespace LintConfig.Ecma.Parser

/-- What a class element begins with: the token that decides its kind, its key if that was read,
whether the key was computed, and whether the element is static and async. -/
structure ElementHead where
  token : Token
  key : Option Node := none
  computed : Bool := false
  isStatic : Bool := false
  isAsync : Bool := false

def parseElementHead (g : Grammar) : Parse ElementHead := do
  let t ← lookahead
  if ← accept .times then return { token := t }
  else
    let computed ← sees .leftBracket
    let key ← parsePropertyKey g
    let la ← lookahead
    let head ←
      if key.text? "name" == some "static" && (la.beginsPropertyKey || la.isPunctuator .times) then
        let computed ← sees .leftBracket
        if ← accept .times then
          pure { token := la, key := some key, computed, isStatic := true : ElementHead }
        else
          let key ← parsePropertyKey g
          pure { token := la, key := some key, computed, isStatic := true : ElementHead }
      else pure { token := t, key := some key, computed : ElementHead }
    if head.token.isWord "async" && !(← get).afterNewline then
      let after := (← lookahead).value
      if after != ":" && after != "(" && after != "*" then
        let t ← lookahead
        let key ← parsePropertyKey g
        if t.isWord "constructor" then failAt t .asyncConstructor
        return { head with token := t, key := some key, isAsync := true }
      else return head
    else return head

/-- One element of a class body. Tells whether it is the constructor, of which there can be one
only. -/
def parseClassElement (g : Grammar) (hasConstructor : Bool) : Parse (Node × Bool) := do
  let start ← mark
  let head ← parseElementHead g
  let hasKey := (← lookahead).beginsPropertyKey
  let special : Option MethodKind :=
    if !hasKey then none
    else if head.token.isWord "get" then some .getter
    else if head.token.isWord "set" then some .setter
    else if head.token.isPunctuator .times then some .generator
    else none
  let (kind, key, computed, value) ← match special with
    | some kind =>
      let computed ← sees .leftBracket
      let key ← parsePropertyKey g
      if kind == .getter then modifyContext fun c => { c with allowYield := false }
      pure (kind, key, computed, ← parseMethod g kind)
    | none =>
      match head.key with
      | some key =>
        if ← sees .leftParen then
          let kind := if head.isAsync then .async else .plain
          pure (kind, key, head.computed, ← parseMethod g kind)
        else unexpected (← lookahead)
      | none => unexpected (← lookahead)
  let isConstructor := !computed && !head.isStatic && isKey key "constructor"
  if !computed && head.isStatic && isKey key "prototype" then failAt head.token .staticPrototype
  if isConstructor then
    unless kind == .plain || kind == .async do failAt head.token .accessorConstructor
    if hasConstructor then failAt head.token .duplicateConstructor
  let name := if isConstructor then "constructor" else match kind with
    | .getter => "get"
    | .setter => "set"
    | _ => "method"
  let node ← finish start .methodDefinition
    [field "key" key, flag "computed" computed, field "value" value, text "kind" name,
     flag "static" head.isStatic]
  return (node, hasConstructor || isConstructor)

def parseClassElements (g : Grammar) : (fuel : Nat) → (hasConstructor : Bool) → Parse (List Node)
  | 0, _ => tooDeep
  | fuel + 1, hasConstructor => do
    if ← sees .rightBrace then return []
    else if ← accept .semicolon then parseClassElements g fuel hasConstructor
    else
      let (e, hasConstructor) ← parseClassElement g hasConstructor
      return e :: (← parseClassElements g fuel hasConstructor)

def parseClassBody (g : Grammar) : Parse Node := do
  let start ← mark
  expect .leftBrace
  let elements ← parseClassElements g (← tokensLeft) false
  expect .rightBrace
  finish start .classBody [many "body" elements]

/-- A class; as an expression it needs no name, and only sometimes does as a declaration. -/
def parseClass (g : Grammar) (kind : Kind) (nameIsOptional : Bool) : Parse Node := do
  let start ← mark
  let strict := (← context).strict
  modifyContext fun c => { c with strict := true }
  expectKeyword .class_
  let id ← if nameIsOptional && !(← lookahead).isIdentifier then pure none
    else pure (some (← parseBindingName .parameter))
  let superClass ← if ← acceptKeyword .extends_ then pure (some (← isolated (g .call)))
    else pure none
  let body ← parseClassBody g
  modifyContext fun c => { c with strict }
  finish start kind [optional "id" id, optional "superClass" superClass, field "body" body]

def parseClassDeclaration (g : Grammar) (nameIsOptional : Bool) : Parse Node :=
  parseClass g .classDeclaration nameIsOptional

def parseClassExpression (g : Grammar) : Parse Node := parseClass g .classExpression true

end LintConfig.Ecma.Parser
