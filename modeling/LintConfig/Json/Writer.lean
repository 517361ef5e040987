import LintConfig.Text.Hex
import LintConfig.Value.Text

/-! Values as JSON text in ASCII: one item per line, four spaces of indentation per level. -/

namespace LintConfig.Json

/-- The escape of a UTF-16 unit. -/
def unitEscape (n : Nat) : List Char := '\\' :: 'u' :: Text.hexDigits 4 n

/-- The escape of a code point by its UTF-16 units. -/
def codeEscape (n : Nat) : List Char :=
  if n < 0x10000 then unitEscape n
  else
    let (high, low) := Text.halvesOf n
    unitEscape high ++ unitEscape low

/-- A character as it stands in a string. -/
def stringChar (c : Char) : List Char :=
  if c == '"' then ['\\', '"']
  else if c == '\\' then ['\\', '\\']
  else if c == '\n' then ['\\', 'n']
  else if c == '\r' then ['\\', 'r']
  else if c == '\t' then ['\\', 't']
  else if c == '\x0c' then ['\\', 'f']
  else if c == '\x08' then ['\\', 'b']
  else if ' ' ≤ c && c ≤ '~' then [c]
  else codeEscape c.toNat

def string (s : String) : String :=
  String.ofList ('"' :: s.toList.flatMap stringChar ++ ['"'])

/-- A string of code points; halves of surrogate pairs stand as they are. -/
def codeString (codes : List Nat) : String :=
  let written := codes.flatMap fun n =>
    if Text.isHalf n then unitEscape n else stringChar (Char.ofNat n)
  String.ofList ('"' :: written ++ ['"'])

def double : Number.Double → String
  | .nan => "NaN"
  | .infinite s => if s then "-Infinity" else "Infinity"
  | x => x.text

/-- A value without items. What JSON has no form for is written as a string of its text. -/
def scalar : Value → String
  | .null => "null"
  | .bool b => if b then "true" else "false"
  | .integer n => toString n
  | .double x => double x
  | .halves codes => codeString codes
  | v => string v.plain

/-- The key of an entry. Keys that are no texts are written as their text. -/
def key : Value → String
  | .text s => string s
  | .halves codes => codeString codes
  | .date d => string d.plain
  | .moment m => string m.plain
  | .bytes b => string (Text.byteQuotation b)
  | .list items => string (Value.list items).display
  | .tuple items => string (Value.tuple items).display
  | .set items => string (Value.set items).display
  | .map entries => string (Value.map entries).display
  | v => string (scalar v)

/-- A line break and the indentation of a level. -/
def newline (level : Nat) : String :=
  String.ofList ('\n' :: List.replicate (4 * level) ' ')

/-- Items on lines of their own between two brackets, or the brackets alone. -/
def bracketed (level : Nat) (opening closing : String) (items : List String) : String :=
  if items.isEmpty then opening ++ closing
  else
    opening ++ newline (level + 1) ++ joined ("," ++ newline (level + 1)) items ++ newline level ++
      closing

mutual

/-- A value at a level of nesting. -/
def valueAt (level : Nat) : Value → String
  | .list items | .tuple items | .set items => bracketed level "[" "]" (itemsAt (level + 1) items)
  | .map entries => bracketed level "\x7b" "\x7d" (entriesAt (level + 1) entries)
  | v => scalar v

def itemsAt (level : Nat) : List Value → List String
  | [] => []
  | v :: rest => valueAt level v :: itemsAt level rest

def entriesAt (level : Nat) : List (Value × Value) → List String
  | [] => []
  | (k, v) :: rest => (key k ++ ": " ++ valueAt level v) :: entriesAt level rest

end

/-- A value as JSON text. -/
def write (v : Value) : String := valueAt 0 v

mutual

/-- A value as JSON text on one line. -/
def writeLine : Value → String
  | .list items | .tuple items | .set items => "[" ++ joined "," (itemLines items) ++ "]"
  | .map entries => "\x7b" ++ joined "," (entryLines entries) ++ "\x7d"
  | v => scalar v

def itemLines : List Value → List String
  | [] => []
  | v :: rest => writeLine v :: itemLines rest

def entryLines : List (Value × Value) → List String
  | [] => []
  | (k, v) :: rest => (key k ++ ":" ++ writeLine v) :: entryLines rest

end

end LintConfig.Json
