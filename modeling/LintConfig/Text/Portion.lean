import LintConfig.Number.Arithmetic
import LintConfig.Text.Newline
import LintConfig.Text.Utf8

/-! Text that is read portion by portion. Its bytes are taken in chunks, whose size follows from how
many bytes a character took so far; a chunk is decoded along with the bytes that the one before it
left unfinished. So the position of a fault counts from there, and a fault shows no earlier than its
chunk is taken. -/

namespace LintConfig.Text
open Number (Double)

/-- A text on its way from bytes to characters. -/
structure Inflow where
  /-- The bytes not taken yet. -/
  bytes : List UInt8
  /-- The bytes of a character that is not complete. -/
  unfinished : List UInt8 := []
  /-- Is a carriage return kept back, until it is known what follows it? -/
  keepsReturn : Bool := false
  /-- The characters not given out yet. -/
  ready : List Char := []
  /-- How many bytes a character of the last chunk took. -/
  ratio : Double := .zero false

namespace Inflow

def leastChunk : Nat := 8192

/-- How many bytes to take for some characters. -/
def chunkSize (ratio : Double) (wanted : Nat) : Nat :=
  let one := Double.ofInt 1
  let ratio := if ratio.lt one then one else ratio
  max leastChunk (ratio.mul (.ofInt wanted)).wholePart

/-- Decode bytes up to a character that is not complete. -/
def decodeComplete (bytes : List UInt8) : Except Utf8.Fault (List Char × List UInt8) :=
  match Utf8.decodeFrom 0 0 bytes with
  | .ok chars => .ok (chars, [])
  | .error f =>
    match f.reason with
    | .unexpectedEnd =>
      (Utf8.decodeFrom 0 0 (bytes.take f.position)).map (·, bytes.drop f.position)
    | _ => .error f

/-- Take a chunk. Behind the last byte an empty one ends what is unfinished. -/
def takeChunk (wanted : Nat) (s : Inflow) : Except Utf8.Fault Inflow := do
  let chunk := s.bytes.take (chunkSize s.ratio wanted)
  let isLast := chunk.isEmpty
  let (chars, unfinished) ←
    if isLast then (Utf8.decodeFrom 0 0 s.unfinished).map (·, [])
    else decodeComplete (s.unfinished ++ chunk)
  let chars := if s.keepsReturn && (isLast || !chars.isEmpty) then '\r' :: chars else chars
  let endsInReturn := !isLast && chars.getLast? == some '\r'
  let chars := unifyNewlines (if endsInReturn then chars.dropLast else chars)
  return {
    bytes := s.bytes.drop chunk.length
    unfinished
    keepsReturn := endsInReturn || (s.keepsReturn && !isLast && chars.isEmpty)
    ready := s.ready ++ chars
    ratio := if chars.isEmpty then .zero false else .ofRatio false chunk.length chars.length }

/-- Take chunks until some characters are ready, or the text ends. -/
def fill (wanted : Nat) : (fuel : Nat) → Inflow → Except Utf8.Fault Inflow
  | 0, s => .ok s
  | fuel + 1, s => do
    if wanted ≤ s.ready.length then return s
    else
      let t ← s.takeChunk (wanted - s.ready.length)
      if s.bytes.isEmpty && t.ready.length = s.ready.length then return t else fill wanted fuel t

end Inflow

/-- A text as far as it can be read, in portions of one size, and the fault behind it. -/
structure Portions where
  portions : List (List Char) := []
  fault : Option Utf8.Fault := none
  deriving DecidableEq, Repr

namespace Portions

def ofInflow (size : Nat) : (fuel : Nat) → Inflow → Portions
  | 0, _ => {}
  | fuel + 1, s =>
    match s.fill size (s.bytes.length + 3) with
    | .error f => { fault := some f }
    | .ok s =>
      if s.ready.isEmpty then {}
      else
        let more := ofInflow size fuel { s with ready := s.ready.drop size }
        { more with portions := s.ready.take size :: more.portions }

/-- The portions of the text that bytes spell. -/
def ofBytes (size : Nat) (bytes : List UInt8) : Portions := ofInflow size (bytes.length + 2) { bytes }

end Portions

end LintConfig.Text
