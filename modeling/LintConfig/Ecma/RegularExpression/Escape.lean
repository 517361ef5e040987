import LintConfig.Ecma.RegularExpression.Basic
import LintConfig.Text.CharacterName

/-! Escapes of regular expressions, and classes of characters. -/

namespace LintConfig.Ecma.RegularExpression
open LintConfig.Ecma.Character

def number (base : Nat) (digits : List Char) : Nat :=
  digits.foldl (fun n c => n * base + (hexValue? c).getD 0) 0

/-- Exactly `n` hexadecimal digits. -/
def hexDigits (n : Nat) : Check Nat := do
  let ds ← takeWhile isHexDigit n
  if ds.length = n then return number 16 ds else refuse

def letterIn (code : Nat) (letters : String) : Bool :=
  code < 0x80 && letters.toList.contains (Char.ofNat code)

def isLetter (code : Nat) : Bool := code < 0x80 && isAsciiLetter (Char.ofNat code)

def isDigit (code : Nat) : Bool := code < 0x80 && isDecimalDigit (Char.ofNat code)

def isOctal (code : Nat) : Bool := code < 0x80 && isOctalDigit (Char.ofNat code)

/-- A character by its name in braces. -/
def namedCharacter : Check Nat := do
  require '{'
  let name ← upTo '}' ((← get).rest.length + 1)
  if name.all (· < 0x80) then
    match Text.CharacterName.codePoint? (name.map Char.ofNat) with
    | some code => return code
    | none => refuse
  else refuse

/-- The code point of a numeric, named or plain escape, which means the same in and out of a
class. -/
def commonEscape (code : Nat) : Check Nat :=
  if code = 'x'.toNat then hexDigits 2
  else if code = 'u'.toNat then hexDigits 4
  else if code = 'U'.toNat then do
    let n ← hexDigits 8
    if n ≤ 0x10FFFF then return n else refuse
  else if code = 'N'.toNat then namedCharacter
  else if isLetter code || isDigit code then refuse
  else return code

/-- A single letter that names a control character. -/
def control? (code : Nat) : Option Nat :=
  if code = 'a'.toNat then some 7 else if code = 'b'.toNat then some 8
  else if code = 'f'.toNat then some 12 else if code = 'n'.toNat then some 10
  else if code = 'r'.toNat then some 13 else if code = 't'.toNat then some 9
  else if code = 'v'.toNat then some 11 else none

/-- An escape inside a class: a code point, or `none` for a class of characters. -/
def classEscape (code : Nat) : Check (Option Nat) := do
  match control? code with
  | some n => return some n
  | none =>
    if letterIn code "dDsSwW" then return none
    else if isOctal code then
      let n := number 8 (Char.ofNat code :: (← takeWhile isOctalDigit 2))
      if n ≤ 0o377 then return some n else refuse
    else return some (← commonEscape code)

/-- An escape outside of classes. -/
def escape (code : Nat) : Check (Shape × Width) := do
  if letterIn code "AbBZ" then return (.position, .empty)
  else if letterIn code "dDsSwW" || (control? code).isSome then return (.other, .one)
  else if code = '0'.toNat then
    let _ ← takeWhile isOctalDigit 2
    return (.other, .one)
  else if isDigit code then
    let first := Char.ofNat code
    match ← takeWhile isDecimalDigit 1 with
    | [] => return (.other, ← reference (number 10 [first]))
    | second :: _ =>
      if isOctalDigit first && isOctalDigit second then
        match ← takeWhile isOctalDigit 1 with
        | third :: _ =>
          if number 8 [first, second, third] ≤ 0o377 then return (.other, .one) else refuse
        | [] => return (.other, ← reference (number 10 [first, second]))
      else return (.other, ← reference (number 10 [first, second]))
  else
    let _ ← commonEscape code
    return (.other, .one)

/-! ### Classes -/

/-- One member of a class: its code point, or `none` for a class of characters. -/
def classMember : Piece → Check (Option Nat)
  | .escaped code => classEscape code
  | .plain code => return some code

/-- The members of a class up to its closing bracket, which is a member if it comes first. -/
def classMembers : (fuel : Nat) → (first : Bool) → Check Unit
  | 0, _ => refuse
  | fuel + 1, first => do
    match ← take with
    | none => refuse
    | some p =>
      if p == .plain ']'.toNat && !first then return ()
      else
        let low ← classMember p
        if ← accept '-' then
          match ← take with
          | none => refuse
          | some q =>
            if q == .plain ']'.toNat then return ()
            else
              match low, ← classMember q with
              | some a, some b =>
                if a ≤ b then classMembers fuel false else refuse
              | _, _ => refuse
        else classMembers fuel false

end LintConfig.Ecma.RegularExpression
