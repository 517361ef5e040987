import LintConfig.Yaml.Indicator

/-! From a YAML text to its tokens. A node turns out to be a mapping's key only when the colon
behind it is read. So places where a key may begin are remembered, and its token is put in front of
the node later; until then the tokens from there on are not certain. -/

namespace LintConfig.Yaml.Lexer
open Cursor

/-- A place where a key may have begun. -/
structure PossibleKey where
  /-- How many tokens precede it. -/
  position : Nat
  /-- Must this be a key, because of its indentation? -/
  required : Bool
  index : Nat
  mark : Mark
  deriving DecidableEq, Repr, Inhabited

structure State where
  cursor : Cursor
  tokens : Array Token := #[]
  isDone : Bool := false
  /-- How many flow collections are open. -/
  flow : Int := 0
  /-- One more than the column of the innermost block; zero outside of all blocks. -/
  indent : Nat := 0
  /-- The indentation of the blocks around it, innermost first. -/
  indents : List Nat := []
  /-- Can a key begin here? -/
  keyAllowed : Bool := true
  /-- The possible keys, at most one in each of the open flow collections. -/
  keys : List (Int × PossibleKey) := []

abbrev Lex := StateT State (Except Error)

def fault {α : Type} (context : Option String) (contextMark : Option Mark) (problem : String) :
    Lex α := fun s =>
  .error (.fault { stage := .scanning, context, contextMark, problem, mark := s.cursor.mark })

def here : Lex Char := do return (← get).cursor.here

def inFlow : Lex Bool := do return (← get).flow != 0

def emit (start stop : Mark) (lexeme : Lexeme) : Lex Unit :=
  modify fun s => { s with tokens := s.tokens.push ⟨lexeme, start, stop⟩ }

/-- A token of some characters at the cursor. -/
def emitMoving (length : Nat) (lexeme : Lexeme) : Lex Unit := do
  let c := (← get).cursor
  let d := c.move length
  modify fun s => { s with cursor := d }
  emit c.mark d.mark lexeme

/-- A token that takes no characters. -/
def emitHere (lexeme : Lexeme) : Lex Unit := emitMoving 0 lexeme

def allowKey (b : Bool) : Lex Unit := modify fun s => { s with keyAllowed := b }

/-! ### Possible keys -/

/-- A key has to end on the line it begins on, and not too far behind. -/
def isStale (c : Cursor) (k : PossibleKey) : Bool :=
  k.mark.line != c.line || 1024 < c.index - k.index

def missingColon {α : Type} (k : PossibleKey) : Lex α :=
  fault (some "while scanning a simple key") (some k.mark) "could not find expected ':'"

/-- Forget the keys that can be none any more. -/
def dropStaleKeys : Lex Unit := do
  let s ← get
  let stale := s.keys.filter fun (_, k) => isStale s.cursor k
  match stale.find? fun (_, k) => k.required with
  | some (_, k) => missingColon k
  | none => set { s with keys := s.keys.filter fun (_, k) => !isStale s.cursor k }

/-- Forget the possible key of the innermost flow collection. -/
def dropKey : Lex Unit := do
  let s ← get
  match s.keys.find? fun (flow, _) => flow == s.flow with
  | some (_, k) =>
    if k.required then missingColon k
    else set { s with keys := s.keys.filter fun (flow, _) => flow != s.flow }
  | none => pure ()

/-- Remember the cursor as a place where a key may begin. -/
def saveKey : Lex Unit := do
  if (← get).keyAllowed then
    dropKey
    modify fun (s : State) =>
      let k : PossibleKey := {
        position := s.tokens.size
        required := s.flow == 0 && s.indent == s.cursor.column + 1
        index := s.cursor.index
        mark := s.cursor.mark }
      { s with keys := s.keys ++ [(s.flow, k)] }

/-! ### Blocks -/

/-- Close the blocks that are indented further than `indent`. -/
def closeBlocks (indent : Nat) : Lex Unit := do
  unless ← inFlow do
    let rec close : (fuel : Nat) → Lex Unit
      | 0 => pure ()
      | fuel + 1 => do
        let s ← get
        if indent < s.indent then
          emitHere .blockEnd
          modify fun s => { s with indent := s.indents.headD 0, indents := s.indents.tail }
          close fuel
    close ((← get).indents.length + 1)

/-- Open a block at a column, unless one is open there. -/
def opensBlock (column : Nat) : Lex Bool := do
  let s ← get
  if s.indent < column + 1 then
    set { s with indent := column + 1, indents := s.indent :: s.indents }
    return true
  else return false

/-- An indicator that can open a block, where `what` can stand. -/
def openBlockAt (what : String) (lexeme : Lexeme) : Lex Unit := do
  unless ← inFlow do
    let s ← get
    unless s.keyAllowed do fault none none (what ++ " are not allowed here")
    if ← opensBlock s.cursor.column then emitHere lexeme

/-! ### Tokens -/

/-- Move over blanks, comments and line breaks. -/
def skipGap : (fuel : Nat) → Lex Unit
  | 0 => pure ()
  | fuel + 1 => do
    let c := (← get).cursor.skipSpaces.skipComment
    match c.lineBreak with
    | (some _, c) =>
      modify fun s => { s with cursor := c, keyAllowed := s.keyAllowed || s.flow == 0 }
      skipGap fuel
    | (none, c) => modify fun s => { s with cursor := c }

/-- Move over a byte order mark at the start of the text. -/
def skipMark : Lex Unit :=
  modify fun s =>
    if s.cursor.index == 0 && s.cursor.here == '\ufeff' then { s with cursor := s.cursor.next }
    else s

def lexStreamEnd : Lex Unit := do
  closeBlocks 0
  dropKey
  modify fun s => { s with keyAllowed := false, keys := [], isDone := true }
  emitHere .streamEnd

def lexDirective : Lex Unit := do
  closeBlocks 0
  dropKey
  allowKey false
  let c := (← get).cursor
  let (d, stop, c') ← Indicator.directive c
  modify fun s => { s with cursor := c' }
  emit c.mark stop (.directive d)

def lexSeparator (lexeme : Lexeme) : Lex Unit := do
  closeBlocks 0
  dropKey
  allowKey false
  emitMoving 3 lexeme

def lexFlowStart (lexeme : Lexeme) : Lex Unit := do
  saveKey
  modify fun s => { s with flow := s.flow + 1, keyAllowed := true }
  emitMoving 1 lexeme

def lexFlowEnd (lexeme : Lexeme) : Lex Unit := do
  dropKey
  modify fun s => { s with flow := s.flow - 1, keyAllowed := false }
  emitMoving 1 lexeme

def lexFlowEntry : Lex Unit := do
  allowKey true
  dropKey
  emitMoving 1 .flowEntry

def lexBlockEntry : Lex Unit := do
  openBlockAt "sequence entries" .blockSequenceStart
  allowKey true
  dropKey
  emitMoving 1 .blockEntry

def lexKey : Lex Unit := do
  openBlockAt "mapping keys" .blockMappingStart
  allowKey !(← inFlow)
  dropKey
  emitMoving 1 .key

/-- Put the token of a key in front of the node that turned out to be one. -/
def insertKey (k : PossibleKey) : Lex Unit := do
  let insert := fun (lexeme : Lexeme) => modify fun (s : State) =>
    { s with tokens := s.tokens.insertIdxIfInBounds k.position ⟨lexeme, k.mark, k.mark⟩ }
  insert .key
  unless ← inFlow do
    if ← opensBlock k.mark.column then insert .blockMappingStart

def lexValue : Lex Unit := do
  let s ← get
  match s.keys.find? fun (flow, _) => flow == s.flow with
  | some (_, k) =>
    set { s with keys := s.keys.filter fun (flow, _) => flow != s.flow }
    insertKey k
    allowKey false
  | none =>
    openBlockAt "mapping values" .blockMappingStart
    allowKey !(← inFlow)
    dropKey
  emitMoving 1 .value

/-- An anchor or an alias. -/
def lexAnchor (lexeme : String → Lexeme) : Lex Unit := do
  saveKey
  allowKey false
  let c := (← get).cursor
  let (name, d) ← Indicator.anchorName c
  modify fun s => { s with cursor := d }
  emit c.mark d.mark (lexeme name)

def lexTag : Lex Unit := do
  saveKey
  allowKey false
  let c := (← get).cursor
  let (t, d) ← Indicator.tag c
  modify fun s => { s with cursor := d }
  emit c.mark d.mark (.tag t)

def lexBlockScalar (style : ScalarStyle) : Lex Unit := do
  allowKey true
  dropKey
  let s ← get
  let (content, d) ← Scalar.block s.indent s.cursor
  modify fun s => { s with cursor := d }
  emit s.cursor.mark d.mark (.scalar (.text content) style)

def lexQuoted (style : ScalarStyle) : Lex Unit := do
  saveKey
  allowKey false
  let c := (← get).cursor
  let (content, d) ← Scalar.quoted c
  modify fun s => { s with cursor := d }
  emit c.mark d.mark (.scalar content style)

def lexPlain : Lex Unit := do
  saveKey
  let s ← get
  let p := Scalar.plain (s.flow != 0) s.indent s.cursor
  modify fun s => { s with cursor := p.cursor, keyAllowed := p.newLine }
  emit s.cursor.mark p.stop (.scalar (.text (String.ofList p.content)) .plain)

/-- Does a plain scalar begin at the cursor? -/
def beginsPlain (inFlow : Bool) (c : Cursor) : Bool :=
  let x := c.here
  !(isBlankOrEnd x || "-?:,[]\x7b\x7d#&*!|>'\"%@`".toList.contains x) ||
    (!isBlankOrEnd (c.peek 1) && (x == '-' || (!inFlow && (x == '?' || x == ':'))))

/-- Read the token that begins at the cursor. -/
def lexHere : Lex Unit := do
  let c := (← get).cursor
  let inFlow ← inFlow
  let x := c.here
  let atStart := c.column == 0
  let alone := isBlankOrEnd (c.peek 1)
  if isEnd x then lexStreamEnd
  else if x == '%' && atStart then lexDirective
  else if x == '-' && atStart && c.atSeparator then lexSeparator .documentStart
  else if x == '.' && atStart && c.atSeparator then lexSeparator .documentEnd
  else if x == '[' then lexFlowStart .flowSequenceStart
  else if x == '{' then lexFlowStart .flowMappingStart
  else if x == ']' then lexFlowEnd .flowSequenceEnd
  else if x == '}' then lexFlowEnd .flowMappingEnd
  else if x == ',' then lexFlowEntry
  else if x == '-' && alone then lexBlockEntry
  else if x == '?' && (inFlow || alone) then lexKey
  else if x == ':' && (inFlow || alone) then lexValue
  else if x == '*' then lexAnchor .repetition
  else if x == '&' then lexAnchor .anchor
  else if x == '!' then lexTag
  else if x == '|' && !inFlow then lexBlockScalar .literal
  else if x == '>' && !inFlow then lexBlockScalar .folded
  else if x == '\'' then lexQuoted .singleQuoted
  else if x == '"' then lexQuoted .doubleQuoted
  else if beginsPlain inFlow c then lexPlain
  else
    fault (some "while scanning for the next token") none
      ("found character " ++ Scalar.shown x ++ " that cannot start any token")

/-- Read the next token, along with the blocks that end before it. -/
def lexToken : Lex Unit := do
  skipMark
  skipGap ((← get).cursor.rest.length + 1)
  dropStaleKeys
  closeBlocks ((← get).cursor.column + 1)
  lexHere

/-- How many tokens are certain: those before the first place where a key may have begun. -/
def certain (s : State) : Nat := s.keys.foldl (fun n (_, k) => min n k.position) s.tokens.size

/-- Does an error in a token hang on what follows the text? It does at the end, and where it would
be another one if the text went on. -/
def isOpen (s : State) (e : Error) : Bool :=
  let stop := (s.cursor.move s.cursor.rest.length).mark
  let longer := { s.cursor with rest := s.cursor.rest ++ ['x'] }
  (match e with
    | .fault f => f.mark == stop
    | _ => false) ||
    match lexToken.run { s with cursor := longer } with
    | .error other => other != e
    | .ok _ => true

/-- Read tokens to the end of the text; `behind` is the error that comes up where the text is read
on. `sure` tokens were certain before the last one was read; an error that it brings to light shows
right behind them. -/
def lexAll (behind : Option Error) : (fuel sure : Nat) → State → TokenStream
  | 0, sure, s => ⟨s.tokens.toList.take sure, behind⟩
  | fuel + 1, sure, s =>
    if s.isDone then ⟨s.tokens.toList, none⟩
    else
      match dropStaleKeys.run s with
      | .error e => ⟨s.tokens.toList.take sure, some e⟩
      | .ok (_, s) =>
        let sure := certain s
        let stop := fun (e : Error) => TokenStream.mk (s.tokens.toList.take sure) (some e)
        match lexToken.run s, behind with
        | .error e, none => stop e
        | .error e, some b => stop (if isOpen s e then b else e)
        | .ok (_, s), none => lexAll behind fuel sure s
        | .ok (_, s), some b => if s.cursor.rest.isEmpty then stop b else lexAll behind fuel sure s

/-- The tokens of a text, behind which an error may come up. -/
def tokens (text : List Char) (behind : Option Error) : TokenStream :=
  lexAll behind (2 * text.length + 2) 0 { cursor := { rest := text } }

end LintConfig.Yaml.Lexer
