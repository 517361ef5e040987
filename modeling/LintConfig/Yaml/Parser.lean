import LintConfig.Text.Quotation
import LintConfig.Yaml.Node
import LintConfig.Yaml.Tag
import LintConfig.Yaml.Token

/-! From the tokens of a YAML text to the nodes of its document. An alias stands for the node with
its anchor, which may be a collection that the alias is in. -/

namespace LintConfig.Yaml.Parser

structure State where
  tokens : List Token
  /-- The error behind the last token. -/
  error : Option Error
  /-- What the handles of tags stand for. -/
  handles : List (String × String) := []
  /-- The nodes with anchors so far, the latest first. -/
  anchors : List (String × NodeId) := []
  nodes : Nodes := #[]

abbrev Parse := StateT State (Except Error)

def fault {α : Type} (stage : Stage) (context : Option String) (contextMark : Option Mark)
    (problem : String) (mark : Mark) : Parse α := fun _ =>
  .error (.fault { stage, context, contextMark, problem, mark })

/-- The next token. -/
def peek : Parse Token := fun s =>
  match s.tokens with
  | t :: _ => .ok (t, s)
  | [] => match s.error with
    | some e => .error e
    | none => .ok (⟨.streamEnd, ⟨0, 0⟩, ⟨0, 0⟩⟩, s)

def advance : Parse Token := do
  let t ← peek
  modify fun s => { s with tokens := s.tokens.drop 1 }
  return t

/-- Is the next token one of these? -/
def sees (lexemes : List Lexeme) : Parse Bool := do return lexemes.contains (← peek).lexeme

def accept (lexeme : Lexeme) : Parse Bool := do
  if ← sees [lexeme] then
    let _ ← advance
    return true
  else return false

/-- A token that was not expected. -/
def unexpected {α : Type} (context : String) (start : Mark) (expected : String) (verb : String) :
    Parse α := do
  let t ← peek
  fault .parsing (some context) (some start)
    ("expected " ++ expected ++ ", but " ++ verb ++ " " ++ Text.quotation t.lexeme.name) t.start

/-- Give a new node its number. -/
def addNode (n : Node) : Parse NodeId := fun s =>
  .ok (s.nodes.size, { s with nodes := s.nodes.push n })

/-- A node that is left out. -/
def emptyNode (m : Mark) : Parse NodeId := addNode ⟨Tag.null, .scalar (.text ""), m⟩

/-! ### Anchors and tags -/

/-- What stands before a node's content. -/
structure Properties where
  anchor : Option String := none
  tag : Option TagText := none
  /-- Where the first of the two begins. -/
  start : Option Mark := none
  tagStart : Option Mark := none

def parseAnchor? (p : Properties) : Parse Properties := do
  let t ← peek
  match t.lexeme with
  | .anchor name =>
    let _ ← advance
    return { p with anchor := some name, start := p.start <|> some t.start }
  | _ => return p

def parseTag? (p : Properties) : Parse Properties := do
  let t ← peek
  match t.lexeme with
  | .tag text =>
    let _ ← advance
    return { p with
      tag := some text, start := p.start <|> some t.start, tagStart := some t.start }
  | _ => return p

def parseProperties : Parse Properties := do
  let p ← parseAnchor? {}
  let p ← parseTag? p
  if p.anchor.isNone && p.tag.isSome then parseAnchor? p else return p

/-- A tag with its handle replaced by what it stands for. -/
def fullTag (p : Properties) : Parse (Option String) := do
  match p.tag with
  | none => return none
  | some ⟨none, suffix⟩ => return some suffix
  | some ⟨some handle, suffix⟩ =>
    match (← get).handles.find? fun (h, _) => h == handle with
    | some (_, meaning) => return some (meaning ++ suffix)
    | none =>
      let mark := p.tagStart.getD ⟨0, 0⟩
      fault .parsing (some "while parsing a node") p.start
        ("found undefined tag handle " ++ Text.quotation handle) mark

/-- An anchor can be given once. -/
def checkAnchor (anchor : Option String) (start : Mark) : Parse Unit := do
  match anchor with
  | none => pure ()
  | some name =>
    match (← get).anchors.find? fun (a, _) => a == name with
    | some (_, id) =>
      fault .composing
        (some ("found duplicate anchor " ++ Text.quotation name ++ "; first occurrence"))
        (some ((← get).nodes.node id).start) "second occurrence" start
    | none => pure ()

def setAnchor (anchor : Option String) (id : NodeId) : Parse Unit :=
  match anchor with
  | some name => modify fun s => { s with anchors := (name, id) :: s.anchors }
  | none => pure ()

/-- The node an alias stands for. -/
def resolveAlias (name : String) (m : Mark) : Parse NodeId := do
  match (← get).anchors.find? fun (a, _) => a == name with
  | some (_, id) => return id
  | none => fault .composing none none ("found undefined alias " ++ Text.quotation name) m

/-- A tag, unless it only says that there is none. -/
def tagOr (tag : Option String) (fallback : String) : String :=
  match tag with
  | some t => if t == "!" then fallback else t
  | none => fallback

/-- The tag of a scalar. A quoted one is a text unless its tag says otherwise. -/
def scalarTag (tag : Option String) (content : Text.Spelled) (style : ScalarStyle) : String :=
  let byForm := match content with
    | .text s => Tag.ofPlain s
    | .halves _ => Tag.str
  match tag with
  | none => if style = .plain then byForm else Tag.str
  | some t => if t == "!" then byForm else t

/-! ### Collections -/

/-- Where a node stands. -/
structure Position where
  /-- In a block, and not in a flow collection? -/
  inBlock : Bool
  /-- Can a sequence begin here without being indented? -/
  indentless : Bool := false

/-- A collection whose first token is consumed. Its number is known before its content, so that an
alias in it can stand for it. -/
def parseCollection (anchor : Option String) (empty : Node) (content : Parse Content) :
    Parse NodeId := do
  checkAnchor anchor empty.start
  let id ← addNode empty
  setAnchor anchor id
  let content ← content
  modify fun s => { s with nodes := s.nodes.setContent id content }
  return id

/-- The items of a block sequence, or of one that is not indented, whose end needs no token. -/
def parseBlockItems (node : Parse NodeId) (start : Option Mark) : (fuel : Nat) → Parse (List NodeId)
  | 0 => return []
  | fuel + 1 => do
    if ← sees [.blockEntry] then
      let t ← advance
      let followers := if start.isSome then [Lexeme.blockEntry, .blockEnd]
        else [.blockEntry, .key, .value, .blockEnd]
      let n ← if ← sees followers then emptyNode t.stop else node
      return n :: (← parseBlockItems node start fuel)
    else
      match start with
      | none => return []
      | some start =>
        if ← accept .blockEnd then return []
        else unexpected "while parsing a block collection" start "<block end>" "found"

/-- A key or a value behind its token, which is left out before one of the given tokens. -/
def parsePart (node : Parse NodeId) (followers : List Lexeme) (t : Token) : Parse NodeId := do
  if ← sees followers then emptyNode t.stop else node

/-- A value, if its token is there. -/
def parseValue (node : Parse NodeId) (followers : List Lexeme) : Parse NodeId := do
  if ← sees [.value] then
    let t ← advance
    parsePart node followers t
  else emptyNode (← peek).start

/-- The entries of a block mapping. -/
def parseBlockEntries (node : Parse NodeId) (start : Mark) : (fuel : Nat) →
    Parse (List (NodeId × NodeId))
  | 0 => return []
  | fuel + 1 => do
    if ← sees [.key] then
      let t ← advance
      let followers := [Lexeme.key, .value, .blockEnd]
      let key ← parsePart node followers t
      let value ← parseValue node followers
      return (key, value) :: (← parseBlockEntries node start fuel)
    else if ← accept .blockEnd then return []
    else unexpected "while parsing a block mapping" start "<block end>" "found"

/-- What separates the members of a flow collection; none stands before the first. -/
def parseSeparator (first : Bool) (context : String) (start : Mark) (expected : String) :
    Parse Unit := do
  unless first do
    unless ← accept .flowEntry do unexpected context start expected "got"

/-- The items of a flow sequence. A key makes an item a mapping of one entry. -/
def parseFlowItems (node : Parse NodeId) (start : Mark) : (fuel : Nat) → (first : Bool) →
    Parse (List NodeId)
  | 0, _ => return []
  | fuel + 1, first => do
    if ← accept .flowSequenceEnd then return []
    else
      parseSeparator first "while parsing a flow sequence" start "',' or ']'"
      if ← sees [.key] then
        let t ← advance
        let key ← parsePart node [.value, .flowEntry, .flowSequenceEnd] t
        let value ← parseValue node [.flowEntry, .flowSequenceEnd]
        let n ← addNode ⟨Tag.map, .mapping [(key, value)], t.start⟩
        return n :: (← parseFlowItems node start fuel false)
      else if ← accept .flowSequenceEnd then return []
      else
        let n ← node
        return n :: (← parseFlowItems node start fuel false)

/-- The entries of a flow mapping. A node without a key's token is a key without a value. -/
def parseFlowEntries (node : Parse NodeId) (start : Mark) : (fuel : Nat) → (first : Bool) →
    Parse (List (NodeId × NodeId))
  | 0, _ => return []
  | fuel + 1, first => do
    if ← accept .flowMappingEnd then return []
    else
      parseSeparator first "while parsing a flow mapping" start "',' or '\x7d'"
      if ← sees [.key] then
        let t ← advance
        let key ← parsePart node [.value, .flowEntry, .flowMappingEnd] t
        let value ← parseValue node [.flowEntry, .flowMappingEnd]
        return (key, value) :: (← parseFlowEntries node start fuel false)
      else if ← accept .flowMappingEnd then return []
      else
        let key ← node
        let value ← emptyNode (← peek).start
        return (key, value) :: (← parseFlowEntries node start fuel false)

/-! ### Nodes -/

def tokensLeft : Parse Nat := do return (← get).tokens.length + 1

/-- The content of a node behind its properties; `below` parses the nodes in it. -/
def parseContent (below : Position → Parse NodeId) (at_ : Position) (p : Properties)
    (tag : Option String) : Parse NodeId := do
  let t ← peek
  let start := p.start.getD t.start
  let fuel ← tokensLeft
  let sequence := fun (items : Parse (List NodeId)) => do
    parseCollection p.anchor ⟨tagOr tag Tag.seq, .sequence [], start⟩ (.sequence <$> items)
  let mapping := fun (entries : Parse (List (NodeId × NodeId))) => do
    parseCollection p.anchor ⟨tagOr tag Tag.map, .mapping [], start⟩ (.mapping <$> entries)
  let plainBlock := below { inBlock := true }
  let keyBlock := below { inBlock := true, indentless := true }
  let flow := below { inBlock := false }
  match t.lexeme with
  | .scalar content style =>
    let _ ← advance
    checkAnchor p.anchor start
    let id ← addNode ⟨scalarTag tag content style, .scalar content, start⟩
    setAnchor p.anchor id
    return id
  | .flowSequenceStart =>
    let _ ← advance
    sequence (parseFlowItems flow t.start fuel true)
  | .flowMappingStart =>
    let _ ← advance
    mapping (parseFlowEntries flow t.start fuel true)
  | lexeme =>
    if at_.indentless && lexeme == .blockEntry then
      sequence (parseBlockItems plainBlock none fuel)
    else if at_.inBlock && lexeme == .blockSequenceStart then
      let _ ← advance
      sequence (parseBlockItems plainBlock (some t.start) fuel)
    else if at_.inBlock && lexeme == .blockMappingStart then
      let _ ← advance
      mapping (parseBlockEntries keyBlock t.start fuel)
    else if p.anchor.isSome || p.tag.isSome then
      checkAnchor p.anchor start
      let tag := match tag with
        | some t => if t == "!" then Tag.null else t
        | none => Tag.null
      let id ← addNode ⟨tag, .scalar (.text ""), start⟩
      setAnchor p.anchor id
      return id
    else
      let kind := if at_.inBlock then "block" else "flow"
      unexpected ("while parsing a " ++ kind ++ " node") start "the node content" "found"

/-- A node, with a bound on its nesting. -/
def parseNode : (levels : Nat) → Position → Parse NodeId
  | 0, _ => do fault .parsing none none "nested too deeply" (← peek).start
  | levels + 1, position => do
    let t ← peek
    match t.lexeme with
    | .repetition name =>
      let _ ← advance
      resolveAlias name t.start
    | _ =>
      let p ← parseProperties
      let tag ← fullTag p
      parseContent (parseNode levels) position p tag

/-! ### Documents -/

/-- The handles every document has. -/
def defaultHandles : List (String × String) := [("!", "!"), ("!!", standardPrefix)]

/-- The directives before a document. -/
def parseDirectives : (fuel : Nat) → (versioned : Bool) → List (String × String) →
    Parse (List (String × String))
  | 0, _, handles => return handles
  | fuel + 1, versioned, handles => do
    let t ← peek
    match t.lexeme with
    | .directive d =>
      let _ ← advance
      match d with
      | .version major _ =>
        if versioned then fault .parsing none none "found duplicate YAML directive" t.start
        if major != 1 then
          fault .parsing none none "found incompatible YAML document (version 1.* is required)" t.start
        parseDirectives fuel true handles
      | .tagHandle handle meaning =>
        if handles.any fun (h, _) => h == handle then
          fault .parsing none none ("duplicate tag handle " ++ Text.quotation handle) t.start
        parseDirectives fuel versioned ((handle, meaning) :: handles)
      | .other => parseDirectives fuel versioned handles
    | _ => return handles

/-- Move over marks that end a document. -/
def skipDocumentEnds : (fuel : Nat) → Parse Unit
  | 0 => pure ()
  | fuel + 1 => do
    if ← accept .documentEnd then skipDocumentEnds fuel

/-- The start of a document that is marked as such; `none` at the end of the text. -/
def parseDocumentStart : Parse (Option Mark) := do
  skipDocumentEnds (← tokensLeft)
  let t ← peek
  if t.lexeme == .streamEnd then return none
  else
    let handles ← parseDirectives (← tokensLeft) false []
    modify fun s => { s with handles := handles ++ defaultHandles }
    if ← accept .documentStart then return some t.start
    else
      let t ← peek
      fault .parsing none none
        ("expected '<document start>', but found " ++ Text.quotation t.lexeme.name) t.start

def isDirective : Lexeme → Bool
  | .directive _ => true
  | _ => false

/-- The root of the one document in a text; a text can also be empty. -/
def parseDocument : Parse (Option NodeId) := do
  let levels := (← get).tokens.length + 2
  let t ← peek
  let explicit := isDirective t.lexeme || t.lexeme == .documentStart || t.lexeme == .streamEnd
  let start ← if explicit then parseDocumentStart else pure (some t.start)
  match start with
  | none => return none
  | some _ =>
    let t ← peek
    let isEmpty := explicit && (isDirective t.lexeme || t.lexeme == .documentStart ||
      t.lexeme == .documentEnd || t.lexeme == .streamEnd)
    let id ← if isEmpty then emptyNode t.start else parseNode levels { inBlock := true }
    let _ ← accept .documentEnd
    match ← parseDocumentStart with
    | none => return some id
    | some another =>
      fault .composing (some "expected a single document in the stream")
        (some ((← get).nodes.node id).start) "but found another document" another

/-- The nodes of a document; its root, unless the text is empty. -/
def parse (ts : TokenStream) : Except Error (Option NodeId × Nodes) := do
  let (root, s) ← parseDocument.run {
    tokens := ts.tokens, error := ts.error, handles := defaultHandles }
  return (root, s.nodes)

end LintConfig.Yaml.Parser
