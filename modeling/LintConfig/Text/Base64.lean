/-! Bytes written in base 64. Characters outside of the alphabet are skipped. -/

namespace LintConfig.Text.Base64

/-- What is wrong with a text that spells no bytes. -/
inductive Fault
  | padding
  /-- One character is left over behind the last whole group. -/
  | leftOver (dataChars : Nat)
  deriving DecidableEq, Repr

def Fault.message : Fault → String
  | padding => "Incorrect padding"
  | leftOver n =>
    "Invalid base64-encoded string: number of data characters (" ++ toString n ++
      ") cannot be 1 more than a multiple of 4"

/-- The value of a character of the alphabet. -/
def value? (c : Char) : Option Nat :=
  if 'A' ≤ c && c ≤ 'Z' then some (c.toNat - 'A'.toNat)
  else if 'a' ≤ c && c ≤ 'z' then some (c.toNat - 'a'.toNat + 26)
  else if '0' ≤ c && c ≤ '9' then some (c.toNat - '0'.toNat + 52)
  else if c == '+' then some 62
  else if c == '/' then some 63
  else none

/-- How much of a group of four is read, and the bits that are no whole byte yet. -/
structure Group where
  count : Nat := 0
  bits : Nat := 0
  pads : Nat := 0

/-- Decode from within a group; `done` bytes precede. -/
def decodeFrom (g : Group) (done : Nat) : List Char → Except Fault (List UInt8)
  | [] =>
    if g.count = 0 then .ok []
    else if g.count = 1 then .error (.leftOver (done / 3 * 4 + 1))
    else .error .padding
  | c :: rest =>
    if c == '=' then
      if 2 ≤ g.count && 4 ≤ g.count + (g.pads + 1) then .ok []
      else decodeFrom { g with pads := if 2 ≤ g.count then g.pads + 1 else g.pads } done rest
    else match value? c with
      | none => decodeFrom g done rest
      | some v =>
        let bits := g.bits * 64 + v
        match g.count with
        | 0 => decodeFrom ⟨1, bits, 0⟩ done rest
        | 1 => (decodeFrom ⟨2, bits % 16, 0⟩ (done + 1) rest).map (UInt8.ofNat (bits / 16) :: ·)
        | 2 => (decodeFrom ⟨3, bits % 4, 0⟩ (done + 1) rest).map (UInt8.ofNat (bits / 4) :: ·)
        | _ => (decodeFrom ⟨0, 0, 0⟩ (done + 1) rest).map (UInt8.ofNat bits :: ·)

/-- The bytes a text spells. -/
def decode (text : String) : Except Fault (List UInt8) := decodeFrom {} 0 text.toList

end LintConfig.Text.Base64
