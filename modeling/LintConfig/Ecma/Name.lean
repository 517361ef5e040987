import LintConfig.Text.Hex
import LintConfig.Text.Surrogate

/-! Names that escapes spell. An escape in braces can name any code point, also half of a surrogate
pair, which is no character. In a name such a half stands as an escape of four digits; so does the
backslash, and two names are the same text only if they are the same code points. -/

namespace LintConfig.Ecma.Name

/-- A code point as it stands in a name. -/
def spell (code : Nat) : List Char :=
  if Text.isHalf code || code = '\\'.toNat then '\\' :: 'u' :: Text.hexDigits 4 code
  else [Char.ofNat code]

def digit (c : Char) : Nat :=
  if c ≤ '9' then c.toNat - '0'.toNat else c.toNat - 'a'.toNat + 10

/-- The code points of a name. -/
def codes : List Char → List Nat
  | [] => []
  | '\\' :: 'u' :: a :: b :: c :: d :: rest =>
    (((digit a * 16 + digit b) * 16 + digit c) * 16 + digit d) :: codes rest
  | c :: rest => c.toNat :: codes rest

/-- A name in a message. -/
def shown (name : String) : String := String.ofList (Text.characters (codes name.toList))

end LintConfig.Ecma.Name
