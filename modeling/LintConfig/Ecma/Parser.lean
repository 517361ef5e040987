import LintConfig.Ecma.Parser.Module

/-! Reading a source text as a script or as a module. The grammar is closed over itself level by
level; every level of nesting reads a token or goes down a bounded number of nonterminals, so the
number of levels a text can need is known from its length. -/

namespace LintConfig.Ecma

namespace Parser

/-- The grammar with a bound on its nesting. -/
def grammar : (levels : Nat) → Grammar
  | 0, _ => tooDeep
  | levels + 1, rule =>
    let below := grammar levels
    match rule with
    | .expression => parseExpression below
    | .assignment => parseAssignment below
    | .exponentiation => parseExponentiation below
    | .unary => parseUnary below
    | .call => parseCall below
    | .member => parseMember below
    | .pattern kind => parsePattern below kind
    | .statement => parseStatement below
    | .statementItem => parseStatementItem below
    | .functionBody => parseFunctionBody below
    | .markupElement => parseElement below

/-- What a source text is read as. -/
inductive Goal
  | script
  | module
  deriving DecidableEq, Repr

/-- A whole source text. The first token is read before a module's own rules hold. -/
def parseProgram (goal : Goal) : Parse Node := do
  readLookahead
  modify fun s => { s with lastStop := s.cursor.index, lastLine := s.cursor.line }
  if goal == .module then modifyContext fun c => { c with isModule := true, strict := true }
  let levels := 16 * ((← get).length + 4)
  let g := grammar levels
  let start ← mark
  let directives ← parseDirectives g (← tokensLeft) none
  let done : Parse Bool := do return (← lookahead).isEnd
  let items ← untilDone done (g .statementItem) (← tokensLeft)
  let kind := match goal with
    | .script => Kind.script
    | .module => .module
  finish start kind [many "body" (directives ++ items)]

end Parser

/-- What a source text is: its syntax tree, and the block comments between its tokens. -/
structure Program where
  tree : Node
  comments : List Span

/-- The program that a text is for one goal; `markup` tells whether elements of markup are
expressions. -/
def parseAs (goal : Parser.Goal) (markup : Bool) (text : List Char) : Except ParseError Program :=
  ((Parser.parseProgram goal).run (Parser.initial text markup)).map fun (tree, s) =>
    { tree, comments := s.comments.reverse }

/-- The program that a text is: as a script or else as a module. If it is neither, the objection
to the script is reported. -/
def parse (markup : Bool) (text : List Char) : Except ParseError Program :=
  match parseAs .script markup text with
  | .ok p => .ok p
  | .error (.aborted reason) => .error (.aborted reason)
  | .error (.malformed line cause) =>
    match parseAs .module markup text with
    | .ok p => .ok p
    | .error (.aborted reason) => .error (.aborted reason)
    | .error (.malformed _ _) => .error (.malformed line cause)

end LintConfig.Ecma
