import LintConfig.Ecma.Parser.State

/-! Names, property keys and template literals: the small nonterminals that many others use. -/

namespace LintConfig.Ecma.Parser

/-- Any word, reserved or not. -/
def parseName : Parse Node := do
  let start ← mark
  let t ← advance
  if t.isName then identifier start t.value else unexpected t

/-- The name that a declaration of this kind binds, or a reference to one. -/
def parseBindingName (kind : BindingKind) : Parse Node := do
  let start ← mark
  let t ← advance
  let c ← context
  match t.lexeme with
  | .keyword .yield =>
    if c.strict then failAt t .strictReservedWord
    else if !c.allowYield then unexpected t
  | .keyword k =>
    if c.strict && Keyword.strictOnly.contains k then failAt t .strictReservedWord
    else if c.strict || k != .let_ || kind != .var then unexpected t
  | .identifier name =>
    if (c.isModule || c.await) && name == "await" then unexpected t
  | _ => if c.strict || t.value != "let" || kind != .var then unexpected t
  identifier start t.value

/-- The key of a property: a word, a string, a number, or an expression in brackets. -/
def parsePropertyKey (g : Grammar) : Parse Node := do
  let start ← mark
  let t ← advance
  match t.lexeme with
  | .string _ _ | .numeric _ =>
    if (← context).strict && t.isOctal then failAt t .strictOctal
    literal start t
  | .punctuator .leftBracket =>
    let key ← isolated (g .assignment)
    expect .rightBracket
    return key
  | _ => if t.isName then identifier start t.value else unexpected t

/-- Is the key this name, written as a word or as a string? -/
def isKey (key : Node) (name : String) : Bool :=
  match key.kind with
  | .identifier => key.text? "name" == some name
  | .literal => key.text? "value" == some name
  | _ => false

/-! ### Templates -/

def parseTemplateElement : Parse (Node × Bool) := do
  let start ← mark
  let t ← advance
  match t.lexeme with
  | .template content _ tail =>
    return (← finish start .templateElement [text "raw" content, flag "tail" tail], tail)
  | _ => unexpected t

/-- The substitutions and later stretches of a template, paired. -/
def parseTemplateRest (g : Grammar) : (fuel : Nat) → (closed : Bool) → Parse (List Node × List Node)
  | _, true => return ([], [])
  | 0, false => tooDeep
  | fuel + 1, false => do
    let e ← g .expression
    if (← lookahead).isTemplate then
      let (q, tail) ← parseTemplateElement
      let (qs, es) ← parseTemplateRest g fuel tail
      return (q :: qs, e :: es)
    else fail .illegalCharacter

def parseTemplate (g : Grammar) : Parse Node := do
  let start ← mark
  let (q, tail) ← parseTemplateElement
  let (qs, es) ← parseTemplateRest g (← tokensLeft) tail
  finish start .templateLiteral [many "quasis" (q :: qs), many "expressions" es]

end LintConfig.Ecma.Parser
