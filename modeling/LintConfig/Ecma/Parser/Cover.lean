import LintConfig.Ecma.Parser.Function

/-! Expressions that may turn out to be patterns: arrays, objects and parenthesised lists, and the
reading of an expression as the pattern it spells. -/

namespace LintConfig.Ecma

/-- The kind of pattern an expression spells, and the field whose nodes are patterns then too. -/
def Kind.asPattern? : Kind → Option (Kind × String)
  | .spreadElement => some (.restElement, "argument")
  | .arrayExpression => some (.arrayPattern, "elements")
  | .objectExpression => some (.objectPattern, "properties")
  | .property => some (.property, "value")
  | .assignmentExpression => some (.assignmentPattern, "left")
  | _ => none

mutual

/-- The pattern an expression spells. -/
def Node.asPattern : Node → Node
  | .mk kind span last fields =>
    match kind.asPattern? with
    | some (kind, label) => .mk kind span last (fieldsAsPatterns label fields)
    | none => .mk kind span last fields

/-- The fields of a pattern: those of the expression, without its operator. -/
def fieldsAsPatterns (label : String) : List Field → List Field
  | [] => []
  | .plain l a :: rest =>
    if l = "operator" then fieldsAsPatterns label rest
    else .plain l a :: fieldsAsPatterns label rest
  | .child l n :: rest =>
    (if l = label then .child l n.asPattern else .child l n) :: fieldsAsPatterns label rest
  | .children l is :: rest =>
    (if l = label then .children l (itemsAsPatterns is) else .children l is) ::
      fieldsAsPatterns label rest

def itemsAsPatterns : List Item → List Item
  | [] => []
  | .plain a :: rest => .plain a :: itemsAsPatterns rest
  | .node n :: rest => .node n.asPattern :: itemsAsPatterns rest

end

namespace Parser

def parseSpread (g : Grammar) : Parse Node := do
  let start ← mark
  expect .ellipsis
  let arg ← inherited (g .assignment)
  finish start .spreadElement [field "argument" arg]

/-! ### Arrays -/

def parseArray (g : Grammar) : Parse Node := do
  let start ← mark
  expect .leftBracket
  let element : Parse Item := do
    if ← accept .comma then return .plain .absent
    else if ← sees .ellipsis then
      let e ← parseSpread g
      unless ← sees .rightBracket do
        onlyValue
        expect .comma
      return .node e
    else
      let e ← inherited (g .assignment)
      unless ← sees .rightBracket do expect .comma
      return .node e
  let items ← untilDone (sees .rightBracket) element (← tokensLeft)
  expect .rightBracket
  finish start .arrayExpression [.children "elements" items]

/-! ### Objects -/

/-- What a property begins with: its first token, its key if that was read, whether the key was
computed, and whether the property is an async method. -/
structure PropertyHead where
  token : Token
  key : Option Node := none
  computed : Bool := false
  isAsync : Bool := false

def parsePropertyHead (g : Grammar) : Parse PropertyHead := do
  let start ← mark
  let t ← lookahead
  match t.lexeme with
  | .identifier name =>
    let _ ← advance
    let computed ← sees .leftBracket
    let isAsync := !(← get).afterNewline && name == "async" &&
      !(← seesAny [.colon, .leftParen, .times, .comma])
    let key ← if isAsync then parsePropertyKey g else identifier start name
    return { token := t, key := some key, computed, isAsync }
  | _ =>
    if ← accept .times then return { token := t }
    else
      let computed ← sees .leftBracket
      let key ← parsePropertyKey g
      return { token := t, key := some key, computed }

/-- What follows the key of a property that is neither an accessor nor a generator: its value,
whether it is a method, whether it is a shorthand, and whether it sets the prototype. -/
def parsePropertyValue (g : Grammar) (start : Nat) (head : PropertyHead) (key : Node)
    (hasPrototype : Bool) : Parse (Node × Bool × Bool × Bool) := do
  if !head.isAsync && (← sees .colon) then
    let isPrototype := !head.computed && isKey key "__proto__"
    if isPrototype && hasPrototype then failHere .duplicatePrototype
    let _ ← advance
    return (← inherited (g .assignment), false, false, isPrototype)
  else if ← sees .leftParen then
    return (← parseMethod g (if head.isAsync then .async else .plain), true, false, false)
  else
    match head.token.lexeme with
    | .identifier name =>
      let id ← identifier start name
      if ← sees .assign then
        let t ← lookahead
        modifyContext fun c => { c with coverInitializer := some t }
        let _ ← advance
        let init ← isolated (g .assignment)
        let value ← finish start .assignmentPattern [field "left" id, field "right" init]
        return (value, false, true, false)
      else return (id, false, true, false)
    | _ => unexpected (← advance)

/-- One property of an object. Tells whether it sets the prototype, which only one may. -/
def parseProperty (g : Grammar) (hasPrototype : Bool) : Parse (Node × Bool) := do
  let start ← mark
  let head ← parsePropertyHead g
  let hasKey := (← lookahead).beginsPropertyKey
  let special : Option (MethodKind × String) :=
    if !hasKey then none
    else if head.token.isWord "get" && !head.isAsync then some (.getter, "get")
    else if head.token.isWord "set" && !head.isAsync then some (.setter, "set")
    else if head.token.isPunctuator .times then some (.generator, "init")
    else none
  match special with
  | some (kind, name) =>
    let computed ← sees .leftBracket
    let key ← parsePropertyKey g
    if kind == .getter then modifyContext fun c => { c with allowYield := false }
    let value ← parseMethod g kind
    let node ← finish start .property
      (propertyFields name key value computed (kind == .generator) false)
    return (node, hasPrototype)
  | none =>
    match head.key with
    | none => unexpected (← lookahead)
    | some key =>
      let (value, method, shorthand, isPrototype) ←
        parsePropertyValue g start head key hasPrototype
      let node ← finish start .property
        (propertyFields "init" key value head.computed method shorthand)
      return (node, hasPrototype || isPrototype)

def parseProperties (g : Grammar) : (fuel : Nat) → (hasPrototype : Bool) → Parse (List Node)
  | 0, _ => tooDeep
  | fuel + 1, hasPrototype => do
    if ← sees .rightBrace then return []
    else
      let (p, hasPrototype) ←
        if ← sees .ellipsis then pure (← parseSpread g, hasPrototype)
        else parseProperty g hasPrototype
      unless ← sees .rightBrace do expect .comma
      return p :: (← parseProperties g fuel hasPrototype)

def parseObject (g : Grammar) : Parse Node := do
  let start ← mark
  expect .leftBrace
  let ps ← parseProperties g (← tokensLeft) false
  expect .rightBrace
  finish start .objectExpression [many "properties" ps]

/-! ### Parentheses -/

/-- The parameters of an arrow function, as they stand before the arrow. -/
def arrowParameters (params : List Node) (async : Bool) : Node :=
  .mk .arrowParameters ⟨0, 0⟩ none [many "params" params, flag "async" async]

/-- The arrow has to follow; it is left for the function to read. -/
def requireArrow : Parse Unit := do
  unless ← sees .arrow do expect .arrow

/-- The list after the first expression in parentheses, which may turn out to be parameters. -/
def parseGroupRest (g : Grammar) : (fuel : Nat) → List Node → Parse (List Node × Bool)
  | 0, _ => tooDeep
  | fuel + 1, es => do
    if (← lookahead).isEnd || !(← sees .comma) then return (es, false)
    else
      let _ ← advance
      if ← accept .rightParen then return (es.map Node.asPattern, true)
      else if ← sees .ellipsis then
        unless (← context).isBindingElement do unexpected (← lookahead)
        let es := es ++ [← discarding (parseRestParameter g)]
        expect .rightParen
        requireArrow
        modifyContext fun c => { c with isBindingElement := false }
        return (es.map Node.asPattern, true)
      else parseGroupRest g fuel (es ++ [← inherited (g .assignment)])

/-- An expression in parentheses, or the parameters of an arrow function. -/
def parseGroup (g : Grammar) : Parse Node := do
  expect .leftParen
  if ← accept .rightParen then
    requireArrow
    return arrowParameters [] false
  else if ← sees .ellipsis then
    let e ← discarding (parseRestParameter g)
    expect .rightParen
    requireArrow
    return arrowParameters [e] false
  else
    let start := (← lookahead).start
    modifyContext fun c => { c with isBindingElement := true }
    let first ← inherited (g .assignment)
    let isList ← sees .comma
    let (es, closed) ←
      if isList then
        modifyContext fun c => { c with isAssignmentTarget := false }
        parseGroupRest g (← tokensLeft) [first]
      else pure ([first], false)
    if closed then return arrowParameters es false
    else
      let e ← if isList then finish start .sequenceExpression [many "expressions" es] else pure first
      expect .rightParen
      let result ←
        if ← sees .arrow then
          if e.name? == some "yield" then pure (arrowParameters [e] false)
          else
            unless (← context).isBindingElement do unexpected (← lookahead)
            pure (arrowParameters (es.map Node.asPattern) false)
        else pure e
      modifyContext fun c => { c with isBindingElement := false }
      return result

end Parser

end LintConfig.Ecma
