import LintConfig.Console.Markup
import LintConfig.Console.Wrap

/-! What is printed on a terminal of a fixed width. -/

namespace LintConfig.Console

/-- The columns of the terminal. -/
def columns : Nat := 80

/-- Lines, each of them ended. -/
def ended (lines : List (List Char)) : String :=
  String.ofList (lines.flatMap fun line => line ++ ['\n'])

/-- Print a text with markup. -/
def print (text : String) : Except MarkupError String :=
  (markup text.toList).map fun shown => ended (wrap columns .fold shown)

/-- A title in the middle of a line across the terminal. -/
def ruled (title : String) : String :=
  let inner := ' ' :: title.toList ++ [' ']
  let free := columns - width inner
  let left := free / 2
  ended [List.replicate left '─' ++ inner ++ List.replicate (free - left) '─']

/-- Print a listing: lines that are not broken but cut off, over the full width. What follows the
last line break is a line too. -/
def listing (text : String) : String :=
  ended ((Wrap.lineParts text.toList).map (fit columns))

end LintConfig.Console
