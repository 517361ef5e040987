import LintConfig.Console.Width
import LintConfig.Text.Blank

/-! Text broken into lines of a limited number of columns. Lines are broken between words; the
blanks behind a word stay with it. -/

namespace LintConfig.Console
open Text (isBlank)

/-- What becomes of a word that is wider than a line. -/
inductive Overflow
  /-- It is continued on the next lines. -/
  | fold
  /-- It is cut off, and dots tell so. -/
  | ellipsis
  deriving DecidableEq, Repr

namespace Wrap

/-- Controls that are not printed. -/
def isDropped (c : Char) : Bool :=
  c == '\x07' || c == '\x08' || c == '\x0b' || c == '\x0c' || c == '\r'

/-- The parts of a text between line feeds. -/
def lineParts : List Char → List (List Char)
  | [] => [[]]
  | '\n' :: rest => [] :: lineParts rest
  | c :: rest =>
    match lineParts rest with
    | [] => [[c]]
    | part :: more => (c :: part) :: more

/-- The distance of the places that a tab leads to. -/
def tabSize : Nat := 8

/-- Tabs as spaces, in a line that goes on at a column. -/
def expandTabs : (column : Nat) → List (Char × Nat) → List Char
  | _, [] => []
  | column, (c, w) :: rest =>
    if c = '\t' then
      let n := tabSize - column % tabSize
      spaces n ++ expandTabs (column + n) rest
    else c :: expandTabs (column + w) rest

/-- Runs of a text, each of them a word with the blanks behind it; the first may be blanks only. -/
def runs : List Char → List (List Char)
  | [] => []
  | c :: rest =>
    match runs rest with
    | [] => [[c]]
    | run :: more =>
      if isBlank c && !run.head?.any isBlank then [c] :: run :: more else (c :: run) :: more

/-- The words of a text with the blanks behind each, and before the first. A blank text has none. -/
def words (text : List Char) : List (List Char) :=
  match runs text with
  | [] => []
  | first :: rest =>
    if first.all isBlank then
      match rest with
      | [] => []
      | word :: more => (first ++ word) :: more
    else first :: rest

/-- The text without the blanks at its end. -/
def trimEnd (text : List Char) : List Char := (text.reverse.dropWhile isBlank).reverse

/-- A word cut into parts that fit into some columns, the first of them into `room`. -/
def chop (columns : Nat) : (room : Nat) → List (Char × Nat) → List (List Char)
  | _, [] => [[]]
  | room, (c, w) :: rest =>
    if w ≤ room then
      match chop columns (room - w) rest with
      | [] => [[c]]
      | part :: more => (c :: part) :: more
    else
      match chop columns (columns - w) rest with
      | [] => [[], [c]]
      | part :: more => [] :: (c :: part) :: more

/-- Set words into lines. `line` is what the current line holds and `used` the columns it takes. -/
def setWords (columns : Nat) (overflow : Overflow) : (line : List Char) → (used : Nat) →
    List (List Char) → List (List Char)
  | line, _, [] => [line]
  | line, used, word :: rest =>
    let needed := width (trimEnd word)
    if used + needed ≤ columns then setWords columns overflow (line ++ word) (used + width word) rest
    else
      let finished := if line.isEmpty then [] else [line]
      match if columns < needed then overflow else .ellipsis with
      | .fold =>
        let parts := chop columns columns (cells word)
        let last := parts.getLast?.getD []
        finished ++ parts.dropLast ++ setWords columns overflow last (width last) rest
      | .ellipsis => finished ++ setWords columns overflow word (width word) rest

/-- Remove blanks at the end of a line, as far as it has more characters than columns. -/
def trimExcess (columns : Nat) (line : List Char) : List Char :=
  let blanks := line.length - (trimEnd line).length
  line.take (line.length - min blanks (line.length - columns))

/-- Make a line fit. -/
def truncate (columns : Nat) (overflow : Overflow) (line : List Char) : List Char :=
  if width line ≤ columns then line
  else match overflow with
    | .fold => fit columns line
    | .ellipsis => fit (columns - 1) line ++ ['…']

/-- A line of text as lines that fit. -/
def wrapLine (columns : Nat) (overflow : Overflow) (line : List Char) : List (List Char) :=
  let line := expandTabs 0 (cells line)
  let lines := match words line with
    | [] => [line]
    | ws => setWords columns overflow [] 0 ws
  lines.map fun l => truncate columns overflow (trimExcess columns l)

end Wrap

/-- A text as lines that fit into some columns. -/
def wrap (columns : Nat) (overflow : Overflow) (text : List Char) : List (List Char) :=
  (Wrap.lineParts (text.filter (!Wrap.isDropped ·))).flatMap (Wrap.wrapLine columns overflow)

end LintConfig.Console
