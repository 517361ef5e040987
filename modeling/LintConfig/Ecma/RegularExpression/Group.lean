import LintConfig.Ecma.RegularExpression.Escape
import LintConfig.Number.Reading

/-! What stands behind the question mark that makes a group a special one. -/

namespace LintConfig.Ecma.RegularExpression
open LintConfig.Ecma.Character

/-- What a group's opening mark makes of it. -/
inductive Opening
  | capturing (name : Option (List Nat))
  /-- A group of its own; blanks may be skipped in it, or not, unlike around it. -/
  | plain (verbose : Option Bool)
  | lookAhead
  | lookBehind
  | conditional (group : Nat)
  | reference (width : Width)
  | comment
  /-- Modes of the whole pattern. -/
  | modes
  deriving Repr

/-! ### Names -/

/-- Letters of scripts that cannot be in a name, because their decomposed form is none. -/
def undecomposed : List Nat :=
  [0x37A, 0x2E2F, 0x309B, 0x309C, 0xFC5E, 0xFC5F, 0xFC60, 0xFC61, 0xFC62, 0xFC63, 0xFDFA, 0xFDFB,
   0xFE70, 0xFE72, 0xFE74, 0xFE76, 0xFE78, 0xFE7A, 0xFE7C, 0xFE7E]

/-- Letters that decompose into a mark and more, so that no name can begin with them. -/
def markFirst : List Nat := [0xE33, 0xEB3, 0xFF9E, 0xFF9F]

/-- The joiners, which have no place in the name of a group. -/
def joiners : List Nat := [0x200C, 0x200D]

def isGroupName : List Nat → Bool
  | [] => false
  | c :: rest =>
    let ok := fun (f : Char → Bool) n =>
      n != '$'.toNat && n != '\\'.toNat && !undecomposed.contains n && !joiners.contains n &&
        f (Char.ofNat n)
    ok isIdentifierStart c && !markFirst.contains c && rest.all (ok isIdentifierPart)

def groupName (terminator : Char) (fuel : Nat) : Check (List Nat) := do
  let name ← upTo terminator fuel
  if isGroupName name then return name else refuse

/-- The group that a condition is about, by its name or its number. -/
def conditionGroup (name : List Nat) : Check Nat := do
  if isGroupName name then
    match (← get).names.lookup name with
    | some n => return n
    | none => refuse
  else match Number.readInt 10 (String.ofList (name.map Char.ofNat)) with
    | .ok (.ofNat (n + 1)) => return n + 1
    | _ => refuse

/-! ### Modes -/

/-- Letters that set a mode, read up to the mark that ends them. -/
def modeLetters : (fuel : Nat) → (seen : List Mode) → Check (List Mode × Nat)
  | 0, _ => refuse
  | fuel + 1, seen => do
    match ← take with
    | some (.plain c) =>
      if c = ')'.toNat || c = ':'.toNat || c = '-'.toNat then return (seen, c)
      else match Mode.ofCode? c with
        | some m => modeLetters fuel (m :: seen)
        | none => refuse
    | _ => refuse

/-- A group that begins with mode letters: modes for the whole pattern may stand at its start
only. -/
def modeGroup (fuel : Nat) (first : Nat) (atStart : Bool) : Check Opening := do
  let (on, mark) ←
    if first = '-'.toNat then pure ([], first)
    else match Mode.ofCode? first with
      | some m => modeLetters fuel [m]
      | none => refuse
  if !modesAgree on then refuse
  else if mark = ')'.toNat then
    if atStart then
      modify fun s => { s with modes := on ++ s.modes }
      return .modes
    else refuse
  else if on.contains .template then refuse
  else
    let off ←
      if mark = ':'.toNat then pure []
      else do
        let (off, mark) ← modeLetters fuel []
        if mark = ':'.toNat && !off.isEmpty then pure off else refuse
    if off.all fun m => m.isSwitch && !on.contains m then
      return .plain (if on.contains .verbose then some true
        else if off.contains .verbose then some false else none)
    else refuse

/-- Read what follows a question mark at the start of a group. -/
def opening (fuel : Nat) (atStart : Bool) : Check Opening := do
  match ← take with
  | some (.plain c) =>
    if c = ':'.toNat || c = '>'.toNat then return .plain none
    else if c = '='.toNat || c = '!'.toNat then return .lookAhead
    else if c = '<'.toNat then
      match ← take with
      | some (.plain d) => if d = '='.toNat || d = '!'.toNat then return .lookBehind else refuse
      | _ => refuse
    else if c = 'P'.toNat then
      if ← accept '<' then return .capturing (some (← groupName '>' fuel))
      else if ← accept '=' then
        let name ← groupName ')' fuel
        match (← get).names.lookup name with
        | some n => return .reference (← reference n)
        | none => refuse
      else refuse
    else if c = '('.toNat then
      let n ← conditionGroup (← upTo ')' fuel)
      if (← get).lookBehindFrom.isSome then
        let _ ← reference n
      modify fun s => { s with conditions := n :: s.conditions }
      return .conditional n
    else if c = '#'.toNat then
      if ← skipPast ')' fuel then return .comment else refuse
    else modeGroup fuel c atStart
  | _ => refuse

end LintConfig.Ecma.RegularExpression
