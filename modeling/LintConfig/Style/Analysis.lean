import LintConfig.Ecma.Parser
import LintConfig.Ecma.Traversal
import LintConfig.Style.Indentation
import LintConfig.Style.Statistic

/-! What one source text shows about style: its quotes, semicolons, indentation and line ends. -/

namespace LintConfig.Style
open Ecma (Kind Node Span)

/-! ### Quotes -/

/-- What a literal shows about quotes. The value of a markup attribute shows nothing, nor does a
literal that is no string. -/
def quoteOf? (n : Node) (parent : Option Kind) : Option Candidate :=
  if n.kind = .literal && parent ≠ some .jsxAttribute then
    match (n.text? "raw").bind (·.toList.head?) with
    | some '\'' => some (.word "single")
    | some '"' => some (.word "double")
    | _ => none
  else none

/-! ### Semicolons -/

/-- The statements that end in a semicolon, unless it is left out. -/
def endsInSemicolon : Kind → Bool
  | .expressionStatement | .variableDeclaration | .returnStatement | .throwStatement
  | .breakStatement | .continueStatement | .debuggerStatement | .doWhileStatement
  | .importDeclaration => true
  | _ => false

/-- The statements whose head can declare variables. -/
def isFor : Kind → Bool
  | .forStatement | .forInStatement | .forOfStatement => true
  | _ => false

/-- Is the last character of a span a semicolon? -/
def endsWithSemicolon (text : Array Char) (s : Span) : Bool :=
  0 < s.stop && text[s.stop - 1]? == some ';'

/-- What a statement shows about semicolons. -/
def semicolonOf? (text : Array Char) (n : Node) (parent : Option Kind) : Option Candidate :=
  if endsInSemicolon n.kind && !(n.kind = .variableDeclaration && parent.any isFor) then
    some (.word (if endsWithSemicolon text n.span then "always" else "never"))
  else none

/-! ### Line ends -/

/-- How many line feeds a text has that follow a carriage return, and how many that do not. -/
def lineEnds : List Char → Nat × Nat
  | [] => (0, 0)
  | '\r' :: '\n' :: rest => let (crlf, lf) := lineEnds rest; (crlf + 1, lf)
  | '\n' :: rest => let (crlf, lf) := lineEnds rest; (crlf, lf + 1)
  | _ :: rest => lineEnds rest

/-- A text votes once: for the line end that most of its lines have, in doubt for the plain one. -/
def linebreakTally (text : List Char) : Tally :=
  let (crlf, lf) := lineEnds text
  if crlf = 0 && lf = 0 then []
  else [(.word (if lf < crlf then "windows" else "unix"), 1)]

/-! ### All together -/

/-- The stretches of template literals, whose lines are not code. -/
def templateSpans (visits : List Node.Visit) : List Span :=
  visits.filterMap fun (n, _) => if n.kind = .templateLiteral then some n.span else none

/-- What a text with a given syntax tree shows. -/
def countsOf (text : List Char) (tree : Node) : Counts :=
  let visits := tree.visits
  let chars := text.toArray
  { indent := Indentation.tally (templateSpans visits) text
    quotes := .ofList (visits.filterMap fun (n, parent) => quoteOf? n parent)
    linebreak := linebreakTally text
    semi := .ofList (visits.filterMap fun (n, parent) => semicolonOf? chars n parent) }

/-- The text without a byte order mark at its start. -/
def withoutMark : List Char → List Char
  | '\ufeff' :: rest => rest
  | text => text

/-- What a source text shows; `markup` tells whether elements of markup are expressions. -/
def analyze (markup : Bool) (text : String) : Except Ecma.ParseError Statistic := do
  let text := withoutMark text.toList
  let p ← Ecma.parse markup text
  return { counts := countsOf text p.tree, filesScanned := 1 }

end LintConfig.Style
