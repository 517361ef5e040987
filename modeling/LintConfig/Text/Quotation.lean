import LintConfig.Text.Hex
import LintConfig.Text.PrintableTable
import LintConfig.Text.Ranges
import LintConfig.Text.Surrogate

/-! Quotations: a text between quotes, with all that is not visible written as an escape. Single
quotes are used unless the text holds some and no double ones. -/

namespace LintConfig.Text

/-- Has the character a visible form of its own, or is it the plain space? -/
def isPrintable (c : Char) : Bool := !Ranges.contains PrintableTable.hidden c

/-- The quote to put around a text. -/
def quoteFor (text : List Char) : Char :=
  if text.contains '\'' && !text.contains '"' then '"' else '\''

/-- The escape of a character, as short as its number allows. -/
def numericEscape (c : Char) : List Char :=
  let n := c.toNat
  if n < 0x100 then '\\' :: 'x' :: hexDigits 2 n
  else if n < 0x10000 then '\\' :: 'u' :: hexDigits 4 n
  else '\\' :: 'U' :: hexDigits 8 n

/-- A character as it stands between quotes. -/
def quotedChar (quote c : Char) : List Char :=
  if c == quote || c == '\\' then ['\\', c]
  else if c == '\t' then ['\\', 't']
  else if c == '\n' then ['\\', 'n']
  else if c == '\r' then ['\\', 'r']
  else if isPrintable c then [c]
  else numericEscape c

/-- A text in quotes. -/
def quotation (text : String) : String :=
  let chars := text.toList
  let quote := quoteFor chars
  String.ofList (quote :: chars.flatMap (quotedChar quote) ++ [quote])

/-- A code point as it stands between quotes. -/
def quotedCode (quote : Char) (code : Nat) : List Char :=
  if isHalf code then '\\' :: 'u' :: hexDigits 4 code else quotedChar quote (Char.ofNat code)

/-- Code points in quotes. -/
def codeQuotation (codes : List Nat) : String :=
  let quote := quoteFor (codes.map Char.ofNat)
  String.ofList (quote :: codes.flatMap (quotedCode quote) ++ [quote])

/-- A byte as it stands between quotes; only ASCII is taken to be visible. -/
def quotedByte (quote : Char) (b : UInt8) : List Char :=
  if b.toNat < 0x7F then quotedChar quote (Char.ofNat b.toNat)
  else '\\' :: 'x' :: hexDigits 2 b.toNat

/-- Bytes in quotes, marked as such. -/
def byteQuotation (bytes : List UInt8) : String :=
  let quote := quoteFor (bytes.map fun b => Char.ofNat b.toNat)
  String.ofList ('b' :: quote :: bytes.flatMap (quotedByte quote) ++ [quote])

end LintConfig.Text
