/-! Halves of surrogate pairs. Escapes can spell them one by one; alone they are no characters, so a
text that has some is held as its code points. -/

namespace LintConfig.Text

/-- Is the code point half of a surrogate pair? -/
def isHalf (code : Nat) : Bool := 0xD800 ≤ code && code < 0xE000

/-- Are two code points the halves of a pair, in order? -/
def isPair (a b : Nat) : Bool := 0xD800 ≤ a && a < 0xDC00 && 0xDC00 ≤ b && b < 0xE000

/-- The code point that a pair stands for. -/
def paired (a b : Nat) : Nat := 0x10000 + (a - 0xD800) * 0x400 + (b - 0xDC00)

/-- The units that a code point above `0xFFFF` is split into. -/
def halvesOf (code : Nat) : Nat × Nat :=
  (0xD800 + (code - 0x10000) / 0x400, 0xDC00 + (code - 0x10000) % 0x400)

/-- Code points as characters, where two halves of a pair make one, and a half alone is replaced. -/
def characters : List Nat → List Char
  | [] => []
  | [a] => [if isHalf a then '\ufffd' else Char.ofNat a]
  | a :: b :: rest =>
    if isPair a b then Char.ofNat (paired a b) :: characters rest
    else (if isHalf a then '\ufffd' else Char.ofNat a) :: characters (b :: rest)

/-- What escapes spell: a text, or code points of which some are halves of surrogate pairs. -/
inductive Spelled
  | text (s : String)
  | halves (codes : List Nat)
  deriving DecidableEq, Repr, Inhabited

/-- The code points as a text, if they are one. -/
def Spelled.ofCodes (codes : List Nat) : Spelled :=
  if codes.any isHalf then .halves codes else .text (String.ofList (codes.map Char.ofNat))

end LintConfig.Text
