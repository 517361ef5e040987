import LintConfig.Number.Reading
import LintConfig.Value.Text

/-! Integers that are too long to be put into words, alone or inside of other values. Whatever is to be
written with such a value fails as a whole. -/

namespace LintConfig

-- Powers are those of the core library, whatever else is in scope.
attribute [local instance (high)] instPowNat

/-- An integer has more digits than are written. -/
structure LongInteger where
  deriving DecidableEq, Repr

def LongInteger.message (_ : LongInteger) : String :=
  "Exceeds the limit (" ++ toString Number.digitLimit ++
    " digits) for integer string conversion; use sys.set_int_max_str_digits() to increase the limit"

namespace Value

mutual

/-- Does a value hold an integer that is too long? -/
def isLong : Value → Bool
  | integer n => 10 ^ Number.digitLimit ≤ n.natAbs
  | list items | tuple items | set items => areLong items
  | map entries => entriesLong entries
  | knot _ body => body.isLong
  | _ => false

def areLong : List Value → Bool
  | [] => false
  | v :: rest => v.isLong || areLong rest

def entriesLong : List (Value × Value) → Bool
  | [] => false
  | (k, v) :: rest => k.isLong || v.isLong || entriesLong rest

end

/-- A value as text, unless an integer is too long. -/
def told (v : Value) : Except LongInteger String := if v.isLong then .error {} else .ok v.plain

/-- Values as texts, unless an integer is too long. -/
def allTold (vs : List Value) : Except LongInteger (List String) :=
  if areLong vs then .error {} else .ok (vs.map plain)

end Value

end LintConfig
