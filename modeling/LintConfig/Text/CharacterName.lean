import LintConfig.Text.Hex
import LintConfig.Text.NameTable

/-! Characters by name. Names are told apart without regard to case, except for those of ideographs
and syllables, which are composed by a rule. -/

namespace LintConfig.Text.CharacterName

/-- The pieces of a text between marks. -/
def pieces (isMark : Char → Bool) : List Char → List (List Char)
  | [] => [[]]
  | c :: rest =>
    if isMark c then [] :: pieces isMark rest
    else match pieces isMark rest with
      | [] => [[c]]
      | piece :: more => (c :: piece) :: more

/-- The words of a name. -/
def wordsOf (name : List Char) : List (List Char) := pieces (· == ' ') name

def upper (c : Char) : Char :=
  if 'a' ≤ c && c ≤ 'z' then Char.ofNat (c.toNat - 32) else c

def isUpperHex (c : Char) : Bool := ('0' ≤ c && c ≤ '9') || ('A' ≤ c && c ≤ 'F')

/-- The number that digits spell, where the letters from A on follow the nine. -/
def numeral (base : Nat) (digits : List Char) : Nat :=
  digits.foldl (fun n c =>
    n * base + (if c ≤ '9' then c.toNat - '0'.toNat else (upper c).toNat - 'A'.toNat + 10)) 0

/-! ### Listed names -/

/-- The code point an entry gives, if it does, the number of words it shares with the entry before
it, and its own words. -/
def entry (text : List Char) : Option Nat × Nat × List (List Char) :=
  let code := text.takeWhile (· != ':')
  let (given, text) := match text.drop code.length with
    | _ :: behind => (some (numeral 16 code), behind)
    | [] => (none, text)
  match text with
  | [] => (given, 0, [])
  | digit :: own => (given, numeral 36 [digit], if own.isEmpty then [] else wordsOf own)

/-- The code point of the entry with these words; `before` are the words of the entry before and
`next` is the code point after its own. -/
def search (words : List (List Char)) :
    (before : List (List Char)) → (next : Nat) → List (List Char) → Option Nat
  | _, _, [] => none
  | before, next, text :: rest =>
    let (given, shared, own) := entry text
    let code := given.getD next
    let name := before.take shared ++ own
    if name == words then some code else search words name (code + 1) rest

def listed? (name : List Char) : Option Nat :=
  search (wordsOf (name.map upper)) [] 0
    (pieces (fun c => c == ';' || c == '\n') NameTable.entries.toList)

/-! ### Composed names -/

/-- What follows a text in another one that begins with it. -/
def behind? (start text : List Char) : Option (List Char) :=
  if start.isPrefixOf text then some (text.drop start.length) else none

/-- Is a code point in one of these ranges? -/
def isIn (ranges : List (Nat × Nat)) (code : Nat) : Bool :=
  ranges.any fun (first, last) => first ≤ code && code ≤ last

/-- The characters that are named by what they are and their code point. -/
def numbered : List (String × List (Nat × Nat)) :=
  [("CJK COMPATIBILITY IDEOGRAPH-", [(0xF900, 0xFA6D), (0xFA70, 0xFAD9), (0x2F800, 0x2FA1D)]),
   ("KHITAN SMALL SCRIPT CHARACTER-", [(0x18B00, 0x18CD5)]),
   ("NUSHU CHARACTER-", [(0x1B170, 0x1B2FB)])]

def numbered? (name : List Char) : Option Nat :=
  let name := name.map upper
  numbered.findSome? fun (start, ranges) => do
    let digits ← behind? start.toList name
    let code := numeral 16 digits
    if digits.all isUpperHex &&
        digits == (hexDigits (if code < 0x10000 then 4 else 5) code).map upper &&
        isIn ranges code then
      return code
    else none

/-- The unified ideographs. -/
def ideographs : List (Nat × Nat) :=
  [(0x3400, 0x4DBF), (0x4E00, 0x9FFF), (0x20000, 0x2A6DF), (0x2A700, 0x2B738), (0x2B740, 0x2B81D),
   (0x2B820, 0x2CEA1), (0x2CEB0, 0x2EBE0), (0x30000, 0x3134A)]

/-- The ideograph that four or five digits name. -/
def ideograph? (digits : List Char) : Option Nat :=
  let code := numeral 16 digits
  if (digits.length = 4 || digits.length = 5) && digits.all isUpperHex && isIn ideographs code then
    some code
  else none

def leads : List String :=
  ["G", "GG", "N", "D", "DD", "R", "M", "B", "BB", "S", "SS", "", "J", "JJ", "C", "K", "T", "P", "H"]

def vowels : List String :=
  ["A", "AE", "YA", "YAE", "EO", "E", "YEO", "YE", "O", "WA", "WAE", "OE", "YO", "U", "WEO", "WE",
   "WI", "YU", "EU", "YI", "I"]

def tails : List String :=
  ["", "G", "GG", "GS", "N", "NJ", "NH", "D", "L", "LG", "LM", "LB", "LS", "LT", "LP", "LH", "M",
   "B", "BS", "S", "SS", "NG", "J", "C", "K", "T", "P", "H"]

/-- The longest of some sounds that a text begins with, by its number, and what follows it. -/
def sound? (sounds : List String) (text : List Char) : Option (Nat × List Char) :=
  (sounds.zipIdx.foldl (fun best (s, i) =>
    match behind? s.toList text with
    | some rest =>
      match best with
      | some (j, other) => if rest.length < other.length then some (i, rest) else some (j, other)
      | none => some (i, rest)
    | none => best) none)

/-- The syllable that its sounds name. -/
def syllable? (sounds : List Char) : Option Nat := do
  let (lead, rest) ← sound? leads sounds
  let (vowel, rest) ← sound? vowels rest
  let (tail, rest) ← sound? tails rest
  if rest.isEmpty then return 0xAC00 + (lead * 21 + vowel) * 28 + tail else none

/-- The code point of the character with a name. -/
def codePoint? (name : List Char) : Option Nat :=
  match behind? "HANGUL SYLLABLE ".toList name with
  | some sounds => syllable? sounds
  | none =>
    match behind? "CJK UNIFIED IDEOGRAPH-".toList name with
    | some digits => ideograph? digits
    | none => numbered? name <|> listed? name

end LintConfig.Text.CharacterName
