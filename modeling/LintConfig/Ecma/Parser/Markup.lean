import LintConfig.Ecma.Parser.State

/-! Elements of markup inside expressions (JSX). Inside an element tokens are read one at a time
with no lookahead, and text between tags is not tokenised at all; on the way in the lookahead is
given back to the text, on the way out a new one is read. -/

namespace LintConfig.Ecma.Parser
open Character Cursor

/-! ### Tokens -/

/-- Move over a character reference behind its ampersand, up to its semicolon, the closing quote
or the first character that cannot belong to it. A number that names no character is an error. -/
def reference (quote : Char) (c : Cursor) : Scan Cursor :=
  let body := c.rest.takeWhile (· != quote)
  let upToEnd := fun (p : Char → Bool) (digits : List Char) => digits.takeWhile p
  let number := fun (hex : Bool) (mark : Nat) (digits : List Char) (after : List Char) =>
    match after with
    | ';' :: _ =>
      let code := digits.foldl (fun n d => n * (if hex then 16 else 10) + (hexValue? d).getD 0) 0
      if !hex && Number.digitLimit < digits.length then
        .error (.aborted (.longReference digits.length))
      else if code > 0x10FFFF then .error (.aborted (.characterReference code))
      else .ok (c.move (mark + digits.length + 1))
    | [] => .ok (c.move (mark + digits.length))
    | _ :: _ => .ok (c.move (mark + digits.length + 1))
  match body with
  | '#' :: 'x' :: rest =>
    let digits := upToEnd isHexDigit rest
    number true 2 digits (rest.drop digits.length)
  | '#' :: d :: rest =>
    if isDecimalDigit d then
      let digits := d :: upToEnd isDecimalDigit rest
      number false 1 digits ((d :: rest).drop digits.length)
    else .ok (c.move 2)
  | _ =>
    let name := body.takeWhile (· != ';')
    .ok (c.move (if name.length < body.length then name.length + 1 else name.length))

/-- Move to behind the closing quote of an attribute, or to the end of the text. -/
def attributeEnd (quote : Char) : (fuel : Nat) → Cursor → Scan Cursor
  | 0, c => c.fail .tooDeep
  | fuel + 1, c => do
    match c.rest with
    | [] => return c
    | ch :: _ =>
      if ch == quote then return c.move 1
      else if ch == '&' then attributeEnd quote fuel (← reference quote (c.move 1))
      else attributeEnd quote fuel (c.move 1)

/-- The punctuators of a tag. -/
def tagPunctuator? : List Char → Option Punctuator
  | '<' :: _ => some .less
  | '>' :: _ => some .greater
  | '/' :: _ => some .divide
  | ':' :: _ => some .colon
  | '=' :: _ => some .assign
  | '{' :: _ => some .leftBrace
  | '}' :: _ => some .rightBrace
  | '.' :: '.' :: '.' :: _ => some .ellipsis
  | '.' :: _ => some .dot
  | _ => none

def isTagNameStart (c : Char) : Bool := c != '\\' && isIdentifierStart c

def isTagNamePart (c : Char) : Bool := c == '-' || (c != '\\' && isIdentifierPart c)

/-- Read the token at a cursor inside of a tag. -/
def lexTag (braces : List Lexer.Brace) (c : Cursor) : Scan Lexer.Lexed := do
  match tagPunctuator? c.rest with
  | some p =>
    let d := c.move p.text.length
    return ⟨Lexer.token c d (.punctuator p), d, braces⟩
  | none =>
    match c.rest with
    | ch :: _ =>
      if ch == '"' || ch == '\'' then
        let d ← attributeEnd ch c.rest.length (c.move 1)
        return ⟨Lexer.token c d (.string "" false), d, braces⟩
      else if ch == '`' then return ⟨Lexer.token c c (.template "" false false), c, braces⟩
      else if isTagNameStart ch then
        let (name, d) := c.moveWhile isTagNamePart
        return ⟨Lexer.token c d (.markupName (String.ofList name)), d, braces⟩
      else Lexer.lex braces c
    | [] => Lexer.lex braces c

/-- Read and consume a token inside of a tag. -/
def advanceTag : Parse Token := do
  skipGap
  let s ← get
  let lexed ← fromScan (lexTag s.braces s.cursor)
  set { s with
    start := s.cursor
    cursor := lexed.next
    braces := lexed.braces
    lastStop := lexed.next.index
    lastLine := lexed.next.line
    last := some lexed.token }
  return lexed.token

/-- The next token inside of a tag, which is not consumed. -/
def peekTag : Parse Token := do
  let s ← get
  let skipped ← fromScan (s.cursor.skipGap s.context.isModule)
  let lexed ← fromScan (lexTag s.braces skipped.next)
  set { s with braces := lexed.braces }
  return lexed.token

def expectTag (p : Punctuator) : Parse Unit := do
  let t ← advanceTag
  unless t.isPunctuator p do unexpected t

def seesTag (p : Punctuator) : Parse Bool := do return (← peekTag).isPunctuator p

/-! ### Between text and expressions -/

/-- Give the lookahead back to the text. -/
def enterMarkup : Parse Unit := modify fun s => { s with cursor := s.start }

/-- Read a lookahead again. -/
def leaveMarkup : Parse Unit := readLookahead

/-- Return from an expression in braces. -/
def reenterMarkup : Parse Unit := do
  enterMarkup
  expectTag .rightBrace

/-- Where a node of a tag begins. -/
def tagMark : Parse Nat := do
  skipGap
  return (← get).cursor.index

/-! ### Tags -/

def parseTagName : Parse Node := do
  let start ← tagMark
  let t ← advanceTag
  match t.lexeme with
  | .markupName name => finish start .jsxIdentifier [text "name" name]
  | _ => unexpected t

/-- The part of a namespaced name behind its colon. -/
def parseNamespaced (start : Nat) (space : Node) : Parse Node := do
  expectTag .colon
  let name ← parseTagName
  finish start .jsxNamespacedName [field "namespace" space, field "name" name]

def parseElementName : Parse Node := do
  let start ← tagMark
  let first ← parseTagName
  if ← seesTag .colon then parseNamespaced start first
  else
    let member : Node → Parse (Option Node) := fun object => do
      if ← seesTag .dot then
        expectTag .dot
        let property ← parseTagName
        return some (← finish start .jsxMemberExpression
          [field "object" object, field "property" property])
      else return none
    iterate member (← tokensLeft) first

def parseAttributeName : Parse Node := do
  let start ← tagMark
  let first ← parseTagName
  if ← seesTag .colon then parseNamespaced start first else return first

def parseAttributeString : Parse Node := do
  let start ← tagMark
  let t ← advanceTag
  if t.isString then
    finish start .literal [.plain "value" .absent, text "raw" t.raw]
  else unexpected t

def parseAttributeExpression (g : Grammar) : Parse Node := do
  let start ← tagMark
  expectTag .leftBrace
  leaveMarkup
  if ← sees .rightBrace then failHere .emptyAttributeExpression
  let e ← g .assignment
  reenterMarkup
  finish start .jsxExpressionContainer [field "expression" e]

def parseAttributeValue (g : Grammar) : Parse Node := do
  if ← seesTag .leftBrace then parseAttributeExpression g
  else if ← seesTag .less then g .markupElement
  else parseAttributeString

def parseNamedAttribute (g : Grammar) : Parse Node := do
  let start ← tagMark
  let name ← parseAttributeName
  let value ←
    if ← seesTag .assign then
      expectTag .assign
      pure (some (← parseAttributeValue g))
    else pure none
  finish start .jsxAttribute [field "name" name, optional "value" value]

def parseSpreadAttribute (g : Grammar) : Parse Node := do
  let start ← tagMark
  expectTag .leftBrace
  expectTag .ellipsis
  leaveMarkup
  let arg ← g .assignment
  reenterMarkup
  finish start .jsxSpreadAttribute [field "argument" arg]

def parseAttributes (g : Grammar) : Parse (List Node) := do
  let done : Parse Bool := do return (← seesTag .divide) || (← seesTag .greater)
  let one : Parse Node := do
    if ← seesTag .leftBrace then parseSpreadAttribute g else parseNamedAttribute g
  untilDone done one (← tokensLeft)

/-- An opening tag behind its bracket. -/
def parseOpeningRest (g : Grammar) (start : Nat) : Parse Node := do
  let name ← parseElementName
  let attributes ← parseAttributes g
  let selfClosing ← seesTag .divide
  if selfClosing then expectTag .divide
  expectTag .greater
  finish start .jsxOpeningElement
    [field "name" name, flag "selfClosing" selfClosing, many "attributes" attributes]

/-- An opening or a closing tag. -/
def parseTag (g : Grammar) : Parse Node := do
  let start ← tagMark
  expectTag .less
  if ← seesTag .divide then
    expectTag .divide
    let name ← parseElementName
    expectTag .greater
    finish start .jsxClosingElement [field "name" name]
  else parseOpeningRest g start

/-! ### Children -/

/-- Move over text up to a brace or a tag. -/
def textEnd : (fuel : Nat) → Cursor → Cursor
  | 0, c => c
  | fuel + 1, c =>
    match c.rest with
    | [] | '{' :: _ | '<' :: _ => c
    | ch :: _ => textEnd fuel (if isLineTerminator ch then c.newline else c.move 1)

/-- The text at the cursor, if there is any. -/
def parseText : Parse (Option Node) := do
  let s ← get
  let d := textEnd s.cursor.rest.length s.cursor
  set { s with start := s.cursor, cursor := d, lastStop := d.index, lastLine := d.line }
  if s.cursor.index < d.index then
    let raw := s.cursor.upTo d
    return some (← finish s.cursor.index .jsxText [text "value" raw, text "raw" raw])
  else return none

/-- An expression in braces among the children; it may be empty but for comments. -/
def parseContainer (g : Grammar) : Parse Node := do
  let start ← tagMark
  expectTag .leftBrace
  let e ←
    if ← seesTag .rightBrace then
      let start := (← get).cursor.index
      skipGap
      modify fun s => { s with lastStop := s.cursor.index, lastLine := s.cursor.line }
      let e ← finish start .jsxEmptyExpression []
      expectTag .rightBrace
      pure e
    else
      leaveMarkup
      let e ← g .assignment
      reenterMarkup
      pure e
  finish start .jsxExpressionContainer [field "expression" e]

/-- The text and the containers up to the next tag. -/
def parseChildren (g : Grammar) : (fuel : Nat) → Parse (List Node)
  | 0 => tooDeep
  | fuel + 1 => do
    if (← get).cursor.rest.isEmpty then return []
    else
      let before := (← parseText).toList
      if (← get).cursor.rest.head? == some '{' then
        let c ← parseContainer g
        return before ++ c :: (← parseChildren g fuel)
      else return before

/-- The name of an element, spelled out. -/
def qualifiedName : (fuel : Nat) → Node → String
  | 0, _ => ""
  | fuel + 1, n =>
    let part := fun label => ((n.child? label).map (qualifiedName fuel)).getD ""
    match n.kind with
    | .jsxNamespacedName => part "namespace" ++ ":" ++ part "name"
    | .jsxMemberExpression => part "object" ++ "." ++ part "property"
    | _ => (n.text? "name").getD ""

/-- The name a tag has. -/
def tagName (tag : Node) : String :=
  ((tag.child? "name").map fun n => qualifiedName (n.size + 1) n).getD ""

/-- An element whose opening tag is read and whose closing tag is not. -/
structure OpenElement where
  start : Nat
  opening : Node
  children : List Node := []

def elementFields (opening : Node) (children : List Node) (closing : Option Node) : List Field :=
  [field "openingElement" opening, many "children" children, optional "closingElement" closing]

/-- Read children and tags until the outermost open element is closed; `outer` are the elements
around the one being read. At the end of the text the element being read is given as it is. -/
def parseElementRest (g : Grammar) : (fuel : Nat) → (outer : List OpenElement) → OpenElement →
    Parse (List Node × Option Node)
  | 0, _, _ => tooDeep
  | fuel + 1, outer, el => do
    if (← get).cursor.rest.isEmpty then return (el.children, none)
    else
      let el := { el with children := el.children ++ (← parseChildren g (← tokensLeft)) }
      let start := (← get).cursor.index
      let tag ← parseTag g
      if tag.kind == .jsxOpeningElement then
        if tag.flag "selfClosing" then
          let child ← finish start .jsxElement (elementFields tag [] none)
          parseElementRest g fuel outer { el with children := el.children ++ [child] }
        else parseElementRest g fuel (el :: outer) { start, opening := tag }
      else
        let name := tagName el.opening
        if name != tagName tag then failHere (.unclosedElement name)
        match outer with
        | [] => return (el.children, some tag)
        | parent :: outer =>
          let child ← finish el.start .jsxElement (elementFields el.opening el.children (some tag))
          parseElementRest g fuel outer { parent with children := parent.children ++ [child] }

def parseElement (g : Grammar) : Parse Node := do
  let start ← tagMark
  let openingStart ← tagMark
  expectTag .less
  let opening ← parseOpeningRest g openingStart
  let (children, closing) ←
    if opening.flag "selfClosing" then pure ([], none)
    else parseElementRest g (← tokensLeft) [] { start, opening }
  finish start .jsxElement (elementFields opening children closing)

/-- An element where an expression can stand. -/
def parseMarkup (g : Grammar) : Parse Node := do
  enterMarkup
  let e ← g .markupElement
  leaveMarkup
  return e

end LintConfig.Ecma.Parser
