/-! Patterns for file names. A star stands for any text, a question mark for any character, and
brackets for one character of a class; all else stands for itself. -/

namespace LintConfig.Files.Pattern

/-- The characters a class holds, given as runs: the last character of a run and the first of the
next one are the ends of a range. -/
structure CharClass where
  negated : Bool
  runs : List (List Char)
  deriving DecidableEq, Repr

inductive Piece
  | star
  | any
  /-- No character at all. -/
  | nothing
  | literal (c : Char)
  | oneOf (cls : CharClass)
  deriving DecidableEq, Repr

/-- Is a character between the ends of a range? -/
def inRange (first last : Option Char) (c : Char) : Bool :=
  match first, last with
  | some a, some b => a ≤ c && c ≤ b
  | _, _ => false

/-- Is a character in one of the ranges between runs? -/
def inRanges (c : Char) : List (List Char) → Bool
  | a :: b :: rest => inRange a.getLast? b.head? c || inRanges c (b :: rest)
  | _ => false

namespace CharClass

def contains (cls : CharClass) (c : Char) : Bool :=
  (cls.runs.any (·.contains c) || inRanges c cls.runs) != cls.negated

end CharClass

/-! ### Classes -/

/-- Cut a class at the hyphens that make ranges. A hyphen at the start, at the end or right after
the end of a range stands for itself; `held` are the characters of the run so far, last first, and
`wait` of the characters to come cannot be such a hyphen. -/
def cut : (held : List Char) → (wait : Nat) → List Char → List (List Char)
  | held, _, [] => [held.reverse]
  | held, wait + 1, c :: rest => cut (c :: held) wait rest
  | held, 0, c :: rest =>
    if c == '-' then
      if rest.isEmpty then [(c :: held).reverse] else held.reverse :: cut [] 2 rest
    else cut (c :: held) 0 rest

/-- Join runs whose range would be empty; the ends of the range vanish. -/
def dropEmptyRanges : List (List Char) → List (List Char)
  | [] => []
  | run :: rest =>
    match dropEmptyRanges rest with
    | [] => [run]
    | next :: later =>
      match run.getLast?, next.head? with
      | some a, some b =>
        if b < a then (run.dropLast ++ next.drop 1) :: later else run :: next :: later
      | _, _ => run :: next :: later

/-- The piece that the inside of brackets spells. -/
def classPiece (inside : List Char) : Piece :=
  let runs :=
    if inside.contains '-' then
      dropEmptyRanges (cut [] (if inside.head? == some '!' then 2 else 1) inside)
    else [inside]
  match runs with
  | [] | [[]] => .nothing
  | [['!']] => .any
  | ('!' :: run) :: later => .oneOf ⟨true, run :: later⟩
  | runs => .oneOf ⟨false, runs⟩

/-- The inside of brackets that are just opened, and what follows them. A closing bracket at the
start belongs to the class. -/
def bracketed? (text : List Char) : Option (List Char × List Char) :=
  let marks := match text with
    | '!' :: ']' :: _ => 2
    | '!' :: _ => 1
    | ']' :: _ => 1
    | _ => 0
  let body := (text.drop marks).takeWhile (· != ']')
  match text.drop (marks + body.length) with
  | _ :: rest => some (text.take marks ++ body, rest)
  | [] => none

/-- The pieces of a pattern. -/
def pieces : (fuel : Nat) → List Char → List Piece
  | 0, _ => []
  | _ + 1, [] => []
  | fuel + 1, '*' :: rest => .star :: pieces fuel rest
  | fuel + 1, '?' :: rest => .any :: pieces fuel rest
  | fuel + 1, '[' :: rest =>
    match bracketed? rest with
    | some (inside, after) => classPiece inside :: pieces fuel after
    | none => .literal '[' :: pieces fuel rest
  | fuel + 1, c :: rest => .literal c :: pieces fuel rest

def ofString (pattern : String) : List Piece :=
  let chars := pattern.toList
  pieces chars.length chars

/-! ### Matching -/

/-- Does a piece other than a star stand for this character? -/
def Piece.admits : Piece → Char → Bool
  | .star, _ | .nothing, _ => false
  | .any, _ => true
  | .literal d, c => c == d
  | .oneOf cls, c => cls.contains c

/-- Does a text fit pieces? After a star, all its ends are tried. -/
def fits : List Piece → List Char → Bool
  | [], text => text.isEmpty
  | .star :: later, text => skip (fits later) text
  | p :: later, c :: text => p.admits c && fits later text
  | _ :: _, [] => false
where
  /-- Does some end of a text have a property? -/
  skip (f : List Char → Bool) : List Char → Bool
    | [] => f []
    | c :: text => f (c :: text) || skip f text

def matchesName (pattern name : String) : Bool := fits (ofString pattern) name.toList

/-- Has a text characters that are special in patterns? -/
def isSpecial (text : String) : Bool := text.toList.any fun c => c == '*' || c == '?' || c == '['

end LintConfig.Files.Pattern
