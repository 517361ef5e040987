import LintConfig.Config.Entries
import LintConfig.Console.ColorTable
import LintConfig.Console.Picture
import LintConfig.Text.Digit
import LintConfig.Value.Text

/-! Styles of printed text, as far as they tell which tags belong together: two texts that name the
same style are one. -/

namespace LintConfig.Console
open Text (words strip)

structure Style where
  /-- The attributes that are switched on or off. -/
  attributes : Entries Bool := []
  color : Option String := none
  background : Option String := none
  link : Option String := none
  deriving BEq, Repr, Inhabited

namespace Style

/-- The attributes in the order in which they are written. -/
def attributeNames : List String :=
  ["bold", "dim", "italic", "underline", "blink", "blink2", "reverse", "conceal", "strike",
   "underline2", "frame", "encircle", "overline"]

/-- Short names of attributes. -/
def shortNames : Entries String :=
  [("d", "dim"), ("b", "bold"), ("i", "italic"), ("u", "underline"), ("r", "reverse"),
   ("c", "conceal"), ("s", "strike"), ("uu", "underline2"), ("o", "overline")]

def attribute? (word : String) : Option String :=
  if attributeNames.contains word then some word else shortNames.get? word

def isHexDigit (c : Char) : Bool := ('0' ≤ c && c ≤ '9') || ('a' ≤ c && c ≤ 'f')

/-- A number below 256, in digits of any script. -/
def isByte (digits : List Char) : Bool :=
  !digits.isEmpty && digits.all (fun c => (Text.decimalValue? c).isSome) &&
    digits.foldl (fun n c => n * 10 + (Text.decimalValue? c).getD 0) 0 < 256

/-- The parts of a text between commas. -/
def commaParts : List Char → List (List Char)
  | [] => [[]]
  | ',' :: rest => [] :: commaParts rest
  | c :: rest =>
    match commaParts rest with
    | [] => [[c]]
    | part :: more => (c :: part) :: more

/-- What stands between a beginning and a closing parenthesis at the end. -/
def argument? (beginning : String) (word : List Char) : Option (List Char) :=
  let opening := beginning.toList ++ ['(']
  if opening.isPrefixOf word && word.getLast? == some ')' then
    some ((word.drop opening.length).dropLast)
  else none

/-- Is the word, in lower case, a colour: by name, by number, or by its parts? -/
def isColor (word : List Char) : Bool :=
  word == "default".toList ||
    ColorTable.lines.any (fun line => (words line.toList).contains word) ||
    (match word with
      | '#' :: digits => digits.length == 6 && digits.all isHexDigit
      | _ => false) ||
    (argument? "color" word).any (fun digits =>
      digits.length ≤ 3 && digits.all (fun c => '0' ≤ c && c ≤ '9') && isByte digits) ||
    (argument? "rgb" word).any fun parts =>
      let components := commaParts parts
      components.length == 3 && components.all isByte

def lower (word : List Char) : List Char := word.map lowerLatin

/-- Read the words of a style. -/
def ofWords? (s : Style) : List (List Char) → Option Style
  | [] => some s
  | first :: rest =>
    let word := lower first
    if word == "on".toList then
      match rest with
      | color :: rest =>
        if isColor (lower color) then
          ofWords? { s with background := some (String.ofList (lower color)) } rest
        else none
      | [] => none
    else if word == "not".toList then
      match rest with
      | name :: rest =>
        match attribute? (String.ofList name) with
        | some a => ofWords? { s with attributes := s.attributes.put a false } rest
        | none => none
      | [] => none
    else if word == "link".toList then
      match rest with
      | target :: rest => ofWords? { s with link := some (String.ofList target) } rest
      | [] => none
    else
      match attribute? (String.ofList word) with
      | some a => ofWords? { s with attributes := s.attributes.put a true } rest
      | none =>
        if isColor word then ofWords? { s with color := some (String.ofList word) } rest else none

/-- A style in words, in a fixed order. -/
def text (s : Style) : String :=
  let switched := attributeNames.filterMap fun a =>
    (s.attributes.get? a).map fun on => if on then a else "not " ++ a
  let parts := switched ++ s.color.toList ++ (s.background.map ("on " ++ ·)).toList ++
    (s.link.map ("link " ++ ·)).toList
  if parts.isEmpty then "none" else joined " " parts

end Style

/-- The name that all ways to write a style have in common. What is no style is its own name, in
lower case. -/
def styleName (text : List Char) : String :=
  let bare := strip text
  if bare == "none".toList || text.isEmpty then "none"
  else match Style.ofWords? {} (words text) with
    | some s => s.text
    | none => String.ofList (Style.lower bare)

end LintConfig.Console
