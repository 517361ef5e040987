import LintConfig.Text.Hex

/-! UTF-8: the bytes of a text, and the text of bytes with an account of the first fault. -/

namespace LintConfig.Text.Utf8

/-- What is wrong with bytes that are no text. -/
inductive Reason
  | invalidStart
  | invalidContinuation
  | unexpectedEnd
  deriving DecidableEq, Repr

/-- The first fault: the bytes concerned, and where they begin. -/
structure Fault where
  reason : Reason
  position : Nat
  /-- The first of the bytes. -/
  first : UInt8
  count : Nat
  deriving DecidableEq, Repr

def Reason.message : Reason → String
  | invalidStart => "invalid start byte"
  | invalidContinuation => "invalid continuation byte"
  | unexpectedEnd => "unexpected end of data"

def Fault.message (f : Fault) : String :=
  let place :=
    if f.count = 1 then
      "byte 0x" ++ String.ofList (hexDigits 2 f.first.toNat) ++ " in position " ++
        toString f.position
    else
      "bytes in position " ++ toString f.position ++ "-" ++ toString (f.position + f.count - 1)
  "'utf-8' codec can't decode " ++ place ++ ": " ++ f.reason.message

def isContinuation (b : UInt8) : Bool := 0x80 ≤ b && b < 0xC0

/-- How many continuation bytes follow a first byte, and the bounds of the first of them. -/
def shape? (first : UInt8) : Option (Nat × UInt8 × UInt8) :=
  if first < 0x80 then some (0, 0, 0)
  else if first < 0xC2 then none
  else if first < 0xE0 then some (1, 0x80, 0xBF)
  else if first = 0xE0 then some (2, 0xA0, 0xBF)
  else if first = 0xED then some (2, 0x80, 0x9F)
  else if first < 0xF0 then some (2, 0x80, 0xBF)
  else if first = 0xF0 then some (3, 0x90, 0xBF)
  else if first < 0xF4 then some (3, 0x80, 0xBF)
  else if first = 0xF4 then some (3, 0x80, 0x8F)
  else none

/-- The number that a first byte and its continuation bytes spell. -/
def codePoint (first : UInt8) (rest : List UInt8) : Nat :=
  let lead := match rest.length with
    | 0 => first.toNat
    | 1 => first.toNat % 0x20
    | 2 => first.toNat % 0x10
    | _ => first.toNat % 0x08
  rest.foldl (fun n b => n * 0x40 + b.toNat % 0x40) lead

/-- How many of the bytes are in order as continuation bytes, the first within its bounds. -/
def goodContinuations (low high : UInt8) : List UInt8 → Nat
  | [] => 0
  | b :: rest =>
    if low ≤ b && b ≤ high then 1 + (rest.takeWhile isContinuation).length else 0

/-- Decode bytes that begin at a position; `skip` bytes belong to the character before. -/
def decodeFrom : (position skip : Nat) → List UInt8 → Except Fault (List Char)
  | _, _, [] => .ok []
  | position, skip + 1, _ :: rest => decodeFrom (position + 1) skip rest
  | position, 0, first :: rest =>
    match shape? first with
    | none => .error ⟨.invalidStart, position, first, 1⟩
    | some (n, low, high) =>
      let next := rest.take n
      let good := goodContinuations low high next
      if good = n then
        match decodeFrom (position + 1) n rest with
        | .ok more => .ok (Char.ofNat (codePoint first next) :: more)
        | .error f => .error f
      else if good = next.length then .error ⟨.unexpectedEnd, position, first, 1 + good⟩
      else .error ⟨.invalidContinuation, position, first, 1 + good⟩

/-- The text that bytes spell. -/
def decode (bytes : List UInt8) : Except Fault String := (decodeFrom 0 0 bytes).map String.ofList

/-- The bytes of a character. -/
def encodeChar (c : Char) : List UInt8 :=
  let n := c.toNat
  let tail := fun n => UInt8.ofNat (0x80 + n % 0x40)
  if n < 0x80 then [UInt8.ofNat n]
  else if n < 0x800 then [UInt8.ofNat (0xC0 + n / 0x40), tail n]
  else if n < 0x10000 then [UInt8.ofNat (0xE0 + n / 0x1000), tail (n / 0x40), tail n]
  else [UInt8.ofNat (0xF0 + n / 0x40000), tail (n / 0x1000), tail (n / 0x40), tail n]

/-- The bytes of a text. -/
def encode (text : String) : List UInt8 := text.toList.flatMap encodeChar

end LintConfig.Text.Utf8
