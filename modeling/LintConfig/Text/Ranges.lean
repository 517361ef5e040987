/-! Membership in a table of sorted inclusive ranges, by halving. The search is bounded by the
size of the table, since every step at least halves the part that is left. -/

namespace LintConfig.Text.Ranges

/-- The index of the range that holds `x`, looked for between `lo` and `hi`. -/
def search (table : Array (Nat × Nat)) (x : Nat) : (steps lo hi : Nat) → Option Nat
  | 0, _, _ => none
  | steps + 1, lo, hi =>
    if lo < hi then
      let mid := (lo + hi) / 2
      match table[mid]? with
      | none => none
      | some (first, last) =>
        if x < first then search table x steps lo mid
        else if last < x then search table x steps (mid + 1) hi
        else some mid
    else none

/-- The index of the range of a sorted table that holds the character. -/
def find? (table : Array (Nat × Nat)) (c : Char) : Option Nat :=
  search table c.toNat (table.size + 1) 0 table.size

def contains (table : Array (Nat × Nat)) (c : Char) : Bool := (find? table c).isSome

end LintConfig.Text.Ranges
