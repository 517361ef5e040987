import LintConfig.Ecma.Character

/-! What is kept while a regular expression is checked: how many characters its parts can match, the
groups met so far and the modes that hold. Text is given as code points, since an escape may name
half of a surrogate pair. -/

namespace LintConfig.Ecma.RegularExpression
open LintConfig.Ecma.Character

/-- One piece of a pattern: a plain code point or an escaped one. -/
inductive Piece
  | plain (code : Nat)
  | escaped (code : Nat)
  deriving DecidableEq, Repr

/-- Split a pattern into pieces; a backslash needs something behind it. -/
def pieces : List Nat → Option (List Piece)
  | [] => some []
  | 0x5C :: c :: rest => (pieces rest).map (.escaped c :: ·)
  | [0x5C] => none
  | c :: rest => (pieces rest).map (.plain c :: ·)

/-! ### Widths -/

/-- The number of characters a part may match, at least and at most. -/
structure Width where
  least : Nat
  most : Nat
  deriving DecidableEq, Repr

namespace Width

-- Powers are those of the core library, whatever else is in scope.
attribute [local instance (high)] instPowNat

/-- No bound above this one is told apart. -/
def unbounded : Nat := 2 ^ (64 : Nat)

def empty : Width := ⟨0, 0⟩

def one : Width := ⟨1, 1⟩

def then_ (a b : Width) : Width :=
  ⟨min (a.least + b.least) unbounded, min (a.most + b.most) unbounded⟩

def or (a b : Width) : Width := ⟨min a.least b.least, max a.most b.most⟩

/-- Between `low` and `high` repetitions, `none` meaning without end. -/
def repeated (w : Width) (low : Nat) : Option Nat → Width
  | some high => ⟨min (w.least * low) unbounded, min (w.most * high) unbounded⟩
  | none => ⟨min (w.least * low) unbounded, if w.most = 0 then 0 else unbounded⟩

/-- Can a look-behind have this width? It has to step back a fixed distance, of 31 bits. -/
def isFixed (w : Width) : Bool := w.least = w.most && w.least < 2 ^ (31 : Nat)

end Width

/-- What stands last in a sequence, as far as a quantifier after it cares. -/
inductive Shape
  | position
  | repetition
  | other
  deriving DecidableEq, Repr

/-! ### Modes -/

/-- What a letter in a group of modes turns on. -/
inductive Mode
  | ignoreCase
  | multiline
  | dotAll
  /-- Blanks and comments between items are skipped. -/
  | verbose
  | ascii
  | unicode
  /-- Nothing is repeated. -/
  | template
  deriving DecidableEq, Repr

def Mode.ofCode? (code : Nat) : Option Mode :=
  ([('i', Mode.ignoreCase), ('m', .multiline), ('s', .dotAll), ('x', .verbose), ('a', .ascii),
    ('u', .unicode), ('t', .template)].find? fun (c, _) => c.toNat == code).map (·.2)

/-- Can the mode be turned off again? -/
def Mode.isSwitch : Mode → Bool
  | ignoreCase | multiline | dotAll | verbose => true
  | ascii | unicode | template => false

/-- Two modes choose a character set each; they exclude each other. -/
def modesAgree (modes : List Mode) : Bool := !(modes.contains .ascii && modes.contains .unicode)

/-! ### The state of a check -/

/-- Where a check stands: what is left to read, and what has been met so far. A group that is still
open has no width yet. -/
structure State where
  rest : List Piece
  groups : List (Option Width) := [none]
  names : List (List Nat × Nat) := []
  lookBehindFrom : Option Nat := none
  conditions : List Nat := []
  /-- The modes of the whole pattern. -/
  modes : List Mode := []
  hasRepetition : Bool := false

abbrev Check := StateT State Option

def refuse {α : Type} : Check α := fun _ => none

def next : Check (Option Piece) := do return (← get).rest.head?

def skip : Check Unit := modify fun s => { s with rest := s.rest.tail }

/-- Take the next piece, if there is one. -/
def take : Check (Option Piece) := do
  let p ← next
  skip
  return p

/-- Take the next piece if it is this character. -/
def accept (c : Char) : Check Bool := do
  if (← next) == some (.plain c.toNat) then
    skip
    return true
  else return false

def require (c : Char) : Check Unit := do
  unless ← accept c do refuse

/-- Take at most `n` plain characters of a class. -/
def takeWhile (p : Char → Bool) : Nat → Check (List Char)
  | 0 => return []
  | n + 1 => do
    match ← next with
    | some (.plain code) =>
      let c := Char.ofNat code
      if code < 0x80 && p c then
        skip
        return c :: (← takeWhile p n)
      else return []
    | _ => return []

/-- Skip pieces up to and with a plain character; is there one? -/
def skipPast (c : Char) : (fuel : Nat) → Check Bool
  | 0 => return false
  | fuel + 1 => do
    match ← take with
    | none => return false
    | some p => if p == .plain c.toNat then return true else skipPast c fuel

/-- The code points up to a terminator. -/
def upTo (terminator : Char) : (fuel : Nat) → Check (List Nat)
  | 0 => refuse
  | fuel + 1 => do
    match ← take with
    | some (.plain c) =>
      if c = terminator.toNat then return [] else return c :: (← upTo terminator fuel)
    | _ => refuse

def group? (s : State) (n : Nat) : Option Width := (s.groups[n]?).join

/-- A reference to an earlier group, which has to be closed, and inside a look-behind has to
stand before it. -/
def reference (n : Nat) : Check Width := do
  let s ← get
  match group? s n with
  | none => refuse
  | some w =>
    match s.lookBehindFrom with
    | some k => if n < k then return w else refuse
    | none => return w

end LintConfig.Ecma.RegularExpression
