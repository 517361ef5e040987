import LintConfig.Text.DigitTable
import LintConfig.Text.Ranges

/-! Digits of all scripts. -/

namespace LintConfig.Text

/-- The value of a decimal digit of any script. -/
def decimalValue? (c : Char) : Option Nat :=
  (Ranges.find? DigitTable.decimal c).bind fun i =>
    (DigitTable.decimal[i]?).map fun (first, _) => (c.toNat - first) % 10

/-- Is the character a digit, decimal or not? -/
def isDigit (c : Char) : Bool :=
  (decimalValue? c).isSome || Ranges.contains DigitTable.isolated c

/-- Does a text consist of digits, at least one? -/
def isDigits (text : List Char) : Bool := !text.isEmpty && text.all isDigit

end LintConfig.Text
