import LintConfig.Number.Decimal
import LintConfig.Text.Utf8
import LintConfig.Yaml.Scalar
import LintConfig.Yaml.Token

/-! Anchors, tags and directives: the parts of a YAML text that say something about its nodes. -/

namespace LintConfig.Yaml.Indicator
open Cursor
open Scalar (shown)

/-! ### Anchors -/

/-- The characters that may follow the name of an anchor. -/
def endsAnchor (c : Char) : Bool := isBlankOrEnd c || "?:,]\x7d%@`".toList.contains c

/-- The name of an anchor or an alias, the cursor standing at its mark. -/
def anchorName (c : Cursor) : Scan (String × Cursor) := do
  let context := "while scanning an " ++ (if c.here == '*' then "alias" else "anchor")
  let expected := "expected alphabetic or numeric character, but found "
  let (name, d) := c.next.takeWhile isWordChar
  if name.isEmpty || !endsAnchor d.here then d.fault context c.mark (expected ++ shown d.here)
  else return (String.ofList name, d)

/-! ### Tags -/

def isUriChar (c : Char) : Bool := isWordChar c || ";/?:@&=+$,.!~*'()[]%".toList.contains c

/-- Bytes written as escapes, one after the other. -/
def uriBytes (what : String) (start : Mark) : (fuel : Nat) → Cursor → Scan (List UInt8 × Cursor)
  | 0, c => .ok ([], c)
  | fuel + 1, c => do
    if c.here == '%' then
      let c := c.next
      let digits := (c.rest.take 2).takeWhile isHexDigit
      if digits.length < 2 then
        c.fault ("while scanning a " ++ what) start
          ("expected URI escape sequence of 2 hexadecimal numbers, but found " ++
            shown (c.peek digits.length))
      else
        let b := digits.foldl (fun n d => n * 16 + Scalar.hexValue d) 0
        let (more, c) ← uriBytes what start fuel (c.move 2)
        return (UInt8.ofNat b :: more, c)
    else return ([], c)

/-- The characters that a run of escapes stands for. -/
def uriEscapes (what : String) (start : Mark) (c : Cursor) : Scan (List Char × Cursor) := do
  let (bytes, d) ← uriBytes what start (c.rest.length + 1) c
  match Text.Utf8.decode bytes with
  | .ok s => return (s.toList, d)
  | .error f => c.fault ("while scanning a " ++ what) start f.message

def uriChars (what : String) (start : Mark) : (fuel : Nat) → Cursor → Scan (List Char × Cursor)
  | 0, c => .ok ([], c)
  | fuel + 1, c => do
    if c.here == '%' then
      let (chars, c) ← uriEscapes what start c
      let (more, c) ← uriChars what start fuel c
      return (chars ++ more, c)
    else if isUriChar c.here then
      let (more, c') ← uriChars what start fuel c.next
      return (c.here :: more, c')
    else return ([], c)

/-- The URI at the cursor, which has one character at least. -/
def uri (what : String) (start : Mark) (c : Cursor) : Scan (String × Cursor) := do
  if isUriChar c.here then
    let (chars, d) ← uriChars what start (c.rest.length + 1) c
    return (String.ofList chars, d)
  else c.fault ("while parsing a " ++ what) start ("expected URI, but found " ++ shown c.here)

/-- The handle at the cursor: an exclamation mark, or a name between two of them. -/
def handle (what : String) (start : Mark) (c : Cursor) : Scan (String × Cursor) := do
  let context := "while scanning a " ++ what
  let expected := fun (x : Char) => "expected '!', but found " ++ shown x
  if c.here != '!' then c.fault context start (expected c.here)
  else if c.peek 1 == ' ' then return ("!", c.next)
  else
    let (name, d) := c.next.takeWhile isWordChar
    if d.here == '!' then return ("!" ++ String.ofList name ++ "!", d.next)
    else d.fault context start (expected d.here)

/-- Is there a second exclamation mark before the next space or line end? -/
def hasHandle (c : Cursor) : Bool :=
  ((c.rest.drop 1).takeWhile fun x => !(isSpaceOrEnd x)).contains '!'

/-- The tag at the cursor. -/
def tag (c : Cursor) : Scan (TagText × Cursor) := do
  let start := c.mark
  let (t, d) ←
    if c.peek 1 == '<' then
      let (suffix, d) ← uri "tag" start (c.move 2)
      if d.here != '>' then
        d.fault "while parsing a tag" start ("expected '>', but found " ++ shown d.here)
      pure (⟨none, suffix⟩, d.next)
    else if isBlankOrEnd (c.peek 1) then pure (⟨none, "!"⟩, c.next)
    else
      let (h, d) ← if hasHandle c then handle "tag" start c else pure ("!", c.next)
      let (suffix, d) ← uri "tag" start d
      pure (⟨some h, suffix⟩, d)
  unless isSpaceOrEnd d.here do
    d.fault "while scanning a tag" start ("expected ' ', but found " ++ shown d.here)
  return (t, d)

/-! ### Directives -/

def directiveFault {α : Type} (c : Cursor) (start : Mark) (expected : String) : Scan α :=
  c.fault "while scanning a directive" start ("expected " ++ expected ++ ", but found " ++ shown c.here)

def directiveName (start : Mark) (c : Cursor) : Scan (String × Cursor) := do
  let (name, d) := c.takeWhile isWordChar
  if name.isEmpty || !isSpaceOrEnd d.here then
    directiveFault d start "alphabetic or numeric character"
  else return (String.ofList name, d)

def versionNumber (start : Mark) (c : Cursor) : Scan (Nat × Cursor) := do
  let (digits, d) := c.takeWhile isDigit
  if digits.isEmpty then directiveFault c start "a digit"
  else return (Number.natOfDigits digits, d)

def version (start : Mark) (c : Cursor) : Scan (Directive × Cursor) := do
  let (major, c) ← versionNumber start c.skipSpaces
  if c.here != '.' then directiveFault c start "a digit or '.'"
  let (minor, c) ← versionNumber start c.next
  unless isSpaceOrEnd c.here do directiveFault c start "a digit or ' '"
  return (.version major minor, c)

def tagHandle (start : Mark) (c : Cursor) : Scan (Directive × Cursor) := do
  let (h, c) ← handle "directive" start c.skipSpaces
  if c.here != ' ' then directiveFault c start "' '"
  let (meaning, c) ← uri "directive" start c.skipSpaces
  unless isSpaceOrEnd c.here do directiveFault c start "' '"
  return (.tagHandle h meaning, c)

/-- The directive at the cursor with the place where it ends, and the cursor behind its line. -/
def directive (c : Cursor) : Scan (Directive × Mark × Cursor) := do
  let start := c.mark
  let (name, d) ← directiveName start c.next
  let (value, stop, d) ←
    if name == "YAML" then
      let (v, d) ← version start d
      pure (v, d.mark, d)
    else if name == "TAG" then
      let (v, d) ← tagHandle start d
      pure (v, d.mark, d)
    else pure (.other, d.mark, d.skipWhile (!isBreak ·))
  let d := d.skipSpaces.skipComment
  unless isBreakOrEnd d.here do directiveFault d start "a comment or a line break"
  return (value, stop, d.lineBreak.2)

end LintConfig.Yaml.Indicator
