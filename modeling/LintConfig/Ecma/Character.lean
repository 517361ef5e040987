import LintConfig.Text.Ranges
import LintConfig.Text.IdentifierTable

/-! Character classes of ECMAScript source text. A backslash counts as a name character, because
an escape may stand for one; the lexer looks behind it. -/

namespace LintConfig.Ecma.Character
open LintConfig.Text

def isWhiteSpace (c : Char) : Bool :=
  c == ' ' || c == '\t' || c == '\x0b' || c == '\x0c' || c == '\xa0' ||
    (c.toNat ≥ 0x1680 &&
      (let n := c.toNat
       n == 0x1680 || n == 0x180E || (0x2000 ≤ n && n ≤ 0x200A) || n == 0x202F || n == 0x205F ||
         n == 0x3000 || n == 0xFEFF))

def isLineTerminator (c : Char) : Bool :=
  c == '\n' || c == '\r' || c == '\u2028' || c == '\u2029'

def isAsciiLetter (c : Char) : Bool :=
  ('a' ≤ c && c ≤ 'z') || ('A' ≤ c && c ≤ 'Z')

def isDecimalDigit (c : Char) : Bool := '0' ≤ c && c ≤ '9'

def isOctalDigit (c : Char) : Bool := '0' ≤ c && c ≤ '7'

def isBinaryDigit (c : Char) : Bool := c == '0' || c == '1'

/-- The value of a digit of base sixteen or less. -/
def hexValue? (c : Char) : Option Nat :=
  if isDecimalDigit c then some (c.toNat - '0'.toNat)
  else if 'a' ≤ c && c ≤ 'f' then some (c.toNat - 'a'.toNat + 10)
  else if 'A' ≤ c && c ≤ 'F' then some (c.toNat - 'A'.toNat + 10)
  else none

def isHexDigit (c : Char) : Bool := (hexValue? c).isSome

def isIdentifierStart (c : Char) : Bool :=
  isAsciiLetter c || c == '$' || c == '_' || c == '\\' ||
    (c.toNat ≥ 0x80 && Ranges.contains IdentifierTable.starters c)

def isIdentifierPart (c : Char) : Bool :=
  isAsciiLetter c || isDecimalDigit c || c == '$' || c == '_' || c == '\\' ||
    (c.toNat ≥ 0x80 && Ranges.contains IdentifierTable.followers c)

end LintConfig.Ecma.Character
