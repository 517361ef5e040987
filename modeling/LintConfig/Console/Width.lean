import LintConfig.Console.WidthTable
import LintConfig.Text.Ranges

/-! How many columns of a terminal a text takes. -/

namespace LintConfig.Console
open Text

-- The zero of a sum is the numeral, whatever else is in scope.
attribute [local instance (high)] Zero.ofOfNat0

/-- What joins two pictures into one. -/
def joiner : Char := '\u200d'

/-- What asks for the character before it to be a picture. -/
def pictureSelector : Char := '\ufe0f'

/-- The columns a character takes by itself. -/
def charWidth (c : Char) : Nat :=
  if ' ' ≤ c && c ≤ '~' then 1
  else if Ranges.contains WidthTable.none c then 0
  else if Ranges.contains WidthTable.double c then 2
  else 1

/-- The columns a character takes before others. -/
def widthBefore (c : Char) (rest : List Char) : Nat :=
  if rest.head? == some pictureSelector && Ranges.contains WidthTable.pictures c then 2
  else charWidth c

/-- Characters with the columns that each of them takes. What is joined to a character takes none. -/
def cells : List Char → List (Char × Nat)
  | [] => []
  | [c] => [(c, charWidth c)]
  | c :: d :: rest =>
    if c = joiner then (c, 0) :: (d, 0) :: cells rest
    else (c, widthBefore c (d :: rest)) :: cells (d :: rest)

/-- The columns a text takes. -/
def width (text : List Char) : Nat := ((cells text).map (·.2)).sum

/-- The text of cells. -/
def plain (cs : List (Char × Nat)) : List Char := cs.map (·.1)

def spaces (n : Nat) : List Char := List.replicate n ' '

/-- Cells made to take as many columns as there are: what does not fit is left out, and what remains
of the columns is filled with spaces. -/
def fitCells : (columns : Nat) → List (Char × Nat) → List Char
  | columns, [] => spaces columns
  | columns, (c, w) :: rest =>
    if w ≤ columns then c :: fitCells (columns - w) rest else spaces columns

/-- A text made to take exactly so many columns. -/
def fit (columns : Nat) (text : List Char) : List Char := fitCells columns (cells text)

/-- A text that takes at most so many columns. -/
def crop (columns : Nat) (text : List Char) : List Char :=
  if width text ≤ columns then text else fit columns text

end LintConfig.Console
