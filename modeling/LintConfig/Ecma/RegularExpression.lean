import LintConfig.Ecma.RegularExpression.Group

/-! Which patterns a regular expression literal may hold. The check reads the pattern once and
keeps, for every part, the least and the greatest number of characters it can match: a
look-behind has to match a fixed number of them. -/

namespace LintConfig.Ecma.RegularExpression
open LintConfig.Ecma.Character

/-- The repetitions a brace asks for, or `none` if it stands for itself; then nothing is read. -/
def bounds (fuel : Nat) : Check (Option (Nat × Option Nat)) := do
  let start ← get
  if (← next) == some (.plain '}'.toNat) then return none
  let low ← takeWhile isDecimalDigit fuel
  let comma ← accept ','
  let high ← if comma then takeWhile isDecimalDigit fuel else pure low
  if ← accept '}' then
    let limit := 4294967295
    let a := number 10 low
    let b := number 10 high
    if max low.length high.length > Number.digitLimit then refuse
    else if limit ≤ a || limit ≤ b || (!high.isEmpty && b < a) then refuse
    else return some (a, if high.isEmpty then none else some b)
  else
    set start
    return none

/-- Turn the last item of a sequence into a repetition of it. -/
def quantify (last : Option (Shape × Width)) (low : Nat) (high : Option Nat) :
    Check (Shape × Width) := do
  match last with
  | some (.other, w) =>
    unless ← accept '?' do
      let _ ← accept '+'
    modify fun s => { s with hasRepetition := true }
    return (.repetition, w.repeated low high)
  | _ => refuse

/-- Is this a blank that a verbose pattern may hold between its items? -/
def isGap (code : Nat) : Bool := code = 0x20 || (0x09 ≤ code && code ≤ 0x0D)

/-- Does the whole pattern skip blanks from here on? -/
def isVerbose : Check Bool := do return (← get).modes.contains .verbose

/-- A pattern's syntactic parts. Each is read with blanks skipped or not. -/
inductive Part
  /-- Alternatives separated by bars. -/
  | alternatives (outermost : Bool)
  /-- One alternative: the width of what is read, and of its last item, which may yet be
  repeated. -/
  | sequence (outermostFirst : Bool) (before : Width) (last : Option (Shape × Width))

/-- Read further alternatives for as long as bars follow, with the width of those before. -/
def moreAlternatives (one : Check Width) : (fuel : Nat) → Width → Check Width
  | 0, _ => refuse
  | fuel + 1, w => do
    if ← accept '|' then moreAlternatives one fuel (w.or (← one)) else return w

/-- Read a part, going at most `fuel` levels and items deep. -/
def read : (fuel : Nat) → (verbose : Bool) → Part → Check Width
  | 0, _, _ => refuse
  | fuel + 1, verbose, .alternatives outermost => do
    let later : Check Width := do
      let verbose ← if outermost then isVerbose else pure verbose
      read fuel verbose (.sequence false .empty none)
    moreAlternatives later fuel (← read fuel verbose (.sequence outermost .empty none))
  | fuel + 1, verbose, .sequence outermostFirst before last => do
    let whole := match last with
      | some (_, w) => before.then_ w
      | none => before
    let goOn := fun verbose => read fuel verbose (.sequence outermostFirst before last)
    let append := fun item => read fuel verbose (.sequence false whole (some item))
    let repeat_ : Nat → Option Nat → Check Width := fun low high => do
      read fuel verbose (.sequence false before (some (← quantify last low high)))
    match ← next with
    | none => return whole
    | some (.escaped code) =>
      skip
      append (← escape code)
    | some (.plain code) =>
      if code = '|'.toNat || code = ')'.toNat then return whole
      else
        skip
        if verbose && isGap code then goOn verbose
        else if verbose && code = '#'.toNat then
          let _ ← skipPast '\n' fuel
          goOn verbose
        else if code = '['.toNat then
          let _ ← accept '^'
          classMembers fuel true
          append (.other, .one)
        else if code = '*'.toNat then repeat_ 0 none
        else if code = '+'.toNat then repeat_ 1 none
        else if code = '?'.toNat then repeat_ 0 (some 1)
        else if code = '{'.toNat then
          match ← bounds fuel with
          | some (low, high) => repeat_ low high
          | none => append (.other, .one)
        else if code = '^'.toNat || code = '$'.toNat then append (.position, .empty)
        else if code = '('.toNat then
          let kind ← if ← accept '?' then opening fuel outermostFirst else pure (.capturing none)
          match kind with
          | .comment => goOn verbose
          | .modes => goOn (← isVerbose)
          | .reference w => append (.other, w)
          | .plain inner =>
            let w ← read fuel (inner.getD verbose) (.alternatives false)
            require ')'
            append (.other, w)
          | .lookAhead =>
            let _ ← read fuel verbose (.alternatives false)
            require ')'
            append (.other, .empty)
          | .lookBehind =>
            let outer := (← get).lookBehindFrom
            modify fun s => { s with lookBehindFrom := some (outer.getD s.groups.length) }
            let w ← read fuel verbose (.alternatives false)
            modify fun s => { s with lookBehindFrom := outer }
            require ')'
            if w.isFixed then append (.other, .empty) else refuse
          | .conditional _ =>
            let yes ← read fuel verbose (.sequence false .empty none)
            let w ← if ← accept '|' then
                pure (yes.or (← read fuel verbose (.sequence false .empty none)))
              else pure ⟨0, yes.most⟩
            require ')'
            append (.other, w)
          | .capturing name =>
            let s ← get
            let n := s.groups.length
            match name with
            | some name =>
              if (s.names.lookup name).isSome then refuse
              else set { s with groups := s.groups ++ [none], names := (name, n) :: s.names }
            | none => set { s with groups := s.groups ++ [none] }
            let w ← read fuel verbose (.alternatives false)
            require ')'
            modify fun s => { s with groups := s.groups.set n (some w) }
            append (.other, w)
        else append (.other, .one)

/-- Is a pattern in order once it is read? Nothing is left over, every condition is about a group
that there is, and the modes fit each other and what the pattern holds. -/
def isComplete (s : State) : Bool :=
  s.rest.isEmpty && s.conditions.all (· < s.groups.length) && modesAgree s.modes &&
    !(s.modes.contains .template && s.hasRepetition)

/-- The code point an escape at the head of the text names, and the text after it: any number of
hexadecimal digits in braces, or exactly four of them. -/
def named? : List Nat → Option (Nat × List Nat)
  | 0x5C :: 0x75 :: 0x7B :: rest =>
    let digits := rest.takeWhile hex
    match digits, rest.drop digits.length with
    | _ :: _, 0x7D :: after => some (number 16 (digits.map Char.ofNat), after)
    | _, _ => none
  | 0x5C :: 0x75 :: rest =>
    let digits := (rest.take 4).takeWhile hex
    if digits.length = 4 then some (number 16 (digits.map Char.ofNat), rest.drop 4) else none
  | _ => none
where
  hex (code : Nat) : Bool := code < 0x80 && isHexDigit (Char.ofNat code)

/-- Replace the escapes that name a code point by what they name; a name beyond the last code
point is refused. A code point that needs two units becomes the last one that needs only one. -/
def unescape : (fuel : Nat) → List Nat → Option (List Nat)
  | 0, _ => none
  | _ + 1, [] => some []
  | fuel + 1, c :: rest =>
    match named? (c :: rest) with
    | some (n, after) =>
      if n > 0x10FFFF then none
      else (unescape fuel after).map ((if n ≤ 0xFFFF then n else 0xFFFF) :: ·)
    | none => (unescape fuel rest).map (c :: ·)

/-- Write every surrogate pair as one code point. -/
def joinPairs : List Nat → List Nat
  | [] => []
  | [c] => [c]
  | c :: d :: rest =>
    if 0xD800 ≤ c && c ≤ 0xDBFF && 0xDC00 ≤ d && d ≤ 0xDFFF then 0xFFFF :: joinPairs rest
    else c :: joinPairs (d :: rest)

/-- Is this the text of a valid pattern? -/
def isValid (pattern : List Char) : Bool :=
  let check : Option Unit := do
    let codes ← unescape (pattern.length + 1) (pattern.map (·.toNat))
    let ps ← pieces (joinPairs codes)
    let (_, s) ← (read (4 * ps.length + 4) false (.alternatives true)).run { rest := ps }
    if isComplete s then some () else none
  check.isSome

end LintConfig.Ecma.RegularExpression
