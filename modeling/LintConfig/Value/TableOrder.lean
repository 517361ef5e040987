import LintConfig.Value

/-! The order in which a set of numbers lists its members: that of a table with open addresses, where
a number's place follows from its residue. Members of other kinds have no place of their own; a set
with such a member lists all of them as they came. -/

namespace LintConfig.Value.TableOrder

-- Powers are those of the core library, whatever else is in scope.
attribute [local instance (high)] instPowNat

/-- The prime that numbers are reduced by. It is one less than a power of two, so the residue of a
power of two is one. -/
def modulus : Nat := 2 ^ (61 : Nat) - 1

/-- The residue of `m * 2 ^ e` with a sign. One below zero is set apart, and taken for two. -/
def residue (negative : Bool) (m : Nat) (e : Int) : Int :=
  let r : Int := (m * 2 ^ (e % 61).toNat % modulus : Nat)
  let r := if negative then -r else r
  if r = -1 then -2 else r

/-- The residue of what is beyond all numbers. -/
def infiniteResidue : Int := 314159

/-- The address of a number, in words of 64 digits. -/
def address? (v : Value) : Option Nat :=
  let word := fun (r : Int) => (r % 2 ^ (64 : Nat)).toNat
  match v.integer? with
  | some n => some (word (residue (n < 0) n.natAbs 0))
  | none =>
    match v with
    | .double (.finite negative m e) => some (word (residue negative m e))
    | .double (.infinite negative) =>
      some (word (if negative then -infiniteResidue else infiniteResidue))
    | _ => none

abbrev Table := Array (Option Value)

/-- How many places next to an address are looked at before another address is. -/
def neighbours : Nat := 9

/-- The free place for an address: near it, or near one that follows from it. -/
def free? (t : Table) : (fuel : Nat) → (address rest : Nat) → Option Nat
  | 0, _, _ => none
  | fuel + 1, address, rest =>
    let count := if address + neighbours < t.size then neighbours + 1 else 1
    match (List.range count).find? fun i => (t[address + i]?).any Option.isNone with
    | some i => some (address + i)
    | none =>
      let rest := rest / 32
      free? t fuel ((address * 5 + 1 + rest) % t.size) rest

def put (t : Table) (v : Value) (address : Nat) : Table :=
  match free? t (t.size + 16) (address % t.size) address with
  | some i => t.setIfInBounds i (some v)
  | none => t

/-- The size of a table for some members: at least eight, and more than twice as many as there are,
unless they are few. -/
def sizeFor (count : Nat) : Nat := if count < 5 then 8 else max 8 (2 ^ ((2 * count).log2 + 1))

/-- The members of a set in their order. -/
def order (members : List Value) : List Value :=
  let addressed := members.filterMap fun v => (address? v).map (v, ·)
  if addressed.length < members.length then members
  else
    let empty : Table := Array.replicate (sizeFor members.length) none
    (addressed.foldl (fun t (v, a) => put t v a) empty).toList.filterMap id

end LintConfig.Value.TableOrder
