import LintConfig.Console.Literal
import LintConfig.Console.Picture
import LintConfig.Console.Style
import LintConfig.Text.IdentifierTable
import LintConfig.Text.Ranges

/-! Markup of printed text: tags in brackets that switch styles on and off. A terminal without
colours shows the text between them only. -/

namespace LintConfig.Console
open Text (strip)

inductive MarkupError
  /-- A closing tag that closes nothing. -/
  | unmatched (tag : String)
  /-- A handler whose parameters are no literals. -/
  | badHandler (parameters : String)
  deriving DecidableEq, Repr

def MarkupError.message : MarkupError → String
  | unmatched tag => "closing tag '[" ++ tag ++ "]' doesn't match any open tag"
  | badHandler parameters => "error parsing '" ++ parameters ++ "'"

namespace Markup

/-- What a text with markup consists of. -/
inductive Piece
  | text (s : List Char)
  /-- A tag that is kept from being one, or the backslashes before a tag. -/
  | verbatim (s : List Char)
  | tag (name : List Char) (parameters : Option (List Char))
  deriving DecidableEq, Repr

/-- Can a tag begin with the character? -/
def opensTag (c : Char) : Bool := ('a' ≤ c && c ≤ 'z') || c == '#' || c == '/' || c == '@'

/-- The text between the brackets of a tag that a text begins with. -/
def tagAt? : List Char → Option (List Char)
  | '[' :: c :: rest =>
    let inside := rest.takeWhile fun d => d != '[' && d != ']'
    if opensTag c && (rest.drop inside.length).head? == some ']' then some (c :: inside) else none
  | _ => none

/-- The name of a tag and what is behind its equals sign. -/
def tagOf (inside : List Char) : Piece :=
  let name := inside.takeWhile (· != '=')
  match inside.drop name.length with
  | _ :: parameters => .tag name (some parameters)
  | [] => .tag name none

/-- The pieces of a tag with a number of backslashes before it. Two of them stand for one; an odd
one keeps the tag from being a tag. -/
def tagPieces (backslashes : Nat) (inside : List Char) : List Piece :=
  let before :=
    if backslashes < 2 then [] else [.verbatim (List.replicate (backslashes / 2) '\\')]
  before ++
    [if backslashes % 2 = 1 then .verbatim ('[' :: inside ++ [']']) else tagOf inside]

/-- Put a character in front of pieces. -/
def addChar (c : Char) : List Piece → List Piece
  | .text s :: rest => .text (c :: s) :: rest
  | pieces => .text [c] :: pieces

/-- The pieces of a text; `skip` characters are done with. -/
def piecesFrom : (skip : Nat) → List Char → List Piece
  | _, [] => []
  | skip + 1, _ :: rest => piecesFrom skip rest
  | 0, c :: rest =>
    let backslashes := ((c :: rest).takeWhile (· == '\\')).length
    match tagAt? ((c :: rest).drop backslashes) with
    | some inside => tagPieces backslashes inside ++ piecesFrom (backslashes + inside.length + 1) rest
    | none => addChar c (piecesFrom 0 rest)

def pieces (text : List Char) : List Piece := piecesFrom 0 text

/-- A backslash before a bracket is left out. -/
def unescape : List Char → List Char
  | '\\' :: '[' :: rest => '[' :: unescape rest
  | c :: rest => c :: unescape rest
  | [] => []

/-- A piece of text as it is shown. -/
def shown (s : List Char) : List Char := Picture.replace (unescape s)

/-- A tag that is open: its name, and what is behind its equals sign. -/
structure OpenTag where
  name : String
  parameters : Option (List Char)
  deriving DecidableEq, Repr

/-- Take the innermost tag of a name out of those that are open. -/
def close? (name : String) : List OpenTag → Option (OpenTag × List OpenTag)
  | [] => none
  | tag :: rest =>
    if tag.name = name then some (tag, rest)
    else (close? name rest).map fun (found, others) => (found, tag :: others)

/-- Can the character be in the name of a handler? -/
def isHandlerChar (c : Char) : Bool :=
  c == '.' ||
    (if c.toNat < 0x80 then Literal.isNameChar c
      else Text.Ranges.contains Text.IdentifierTable.followers c)

/-- The arguments of a handler: what stands in parentheses behind its name, or all if there is no
name with parentheses. A name alone has none. -/
def arguments (parameters : List Char) : List Char :=
  match parameters.dropWhile isHandlerChar with
  | [] => ['(', ')']
  | '(' :: rest =>
    if rest.getLast? == some ')' && !rest.contains '\n' then '(' :: rest else parameters
  | _ => parameters

/-- When a handler's tag is closed, its arguments have to be literals. -/
def checkHandler (tag : OpenTag) : Except MarkupError Unit :=
  match tag.name.toList, tag.parameters with
  | '@' :: _, some (c :: cs) =>
    if Literal.isLiteral (arguments (strip (c :: cs))) then .ok ()
    else .error (.badHandler (String.ofList (c :: cs)))
  | _, _ => .ok ()

/-- The text of pieces; `stack` are the tags that are open, the innermost first. -/
def render (stack : List OpenTag) : List Piece → Except MarkupError (List Char)
  | [] => .ok []
  | .text s :: rest | .verbatim s :: rest => (render stack rest).map (shown s ++ ·)
  | .tag name parameters :: rest =>
    match name with
    | '/' :: closed =>
      let closing? :=
        if (strip closed).isEmpty then stack.head?.map (·, stack.tail)
        else close? (styleName (strip closed)) stack
      match closing? with
      | some (tag, stack) =>
        match checkHandler tag with
        | .ok _ => render stack rest
        | .error e => .error e
      | none => .error (.unmatched (String.ofList name))
    | name => render (⟨styleName name, parameters⟩ :: stack) rest

end Markup

/-- The text that markup shows. -/
def markup (text : List Char) : Except MarkupError (List Char) :=
  Markup.render [] (Markup.pieces text)

end LintConfig.Console
