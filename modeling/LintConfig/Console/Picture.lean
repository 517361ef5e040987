import LintConfig.Console.PictureTable
import LintConfig.Text.Blank

/-! Pictures written as names between colons. -/

namespace LintConfig.Console
open Text (isBlank)

/-- Lower case for the letters that names of pictures are written with. -/
def lowerLatin (c : Char) : Char :=
  let n := c.toNat
  if ('A' ≤ c && c ≤ 'Z') || (0xC0 ≤ n && n ≤ 0xDE && n != 0xD7) then Char.ofNat (n + 32)
  else if n == 0x212A then 'k'
  else if n == 0x212B then 'å'
  else c

namespace Picture

/-- The word behind a word that stands at an even place. -/
def second? (name : List Char) : List (List Char) → Option (List Char)
  | word :: picture :: rest => if word = name then some picture else second? name rest
  | _ => none

/-- The picture of a name. -/
def ofName? (name : List Char) : Option (List Char) :=
  PictureTable.lines.toList.findSome? fun line => second? name (Text.words line.toList)

/-- The endings of a name that ask for a form of the picture, and what selects the form. -/
def forms : List (List Char × Char) := [("-emoji".toList, '\ufe0f'), ("-text".toList, '\ufe0e')]

/-- The picture that a text between colons stands for. -/
def ofCode? (code : List Char) : Option (List Char) :=
  match forms.find? fun form => form.1.isSuffixOf code with
  | some (ending, selector) =>
    (ofName? ((code.take (code.length - ending.length)).map lowerLatin)).map (· ++ [selector])
  | none => ofName? (code.map lowerLatin)

/-- The text between a colon, after which `rest` follows, and the next one. No blank may come
first. -/
def codeAt? (rest : List Char) : Option (List Char) :=
  let code := rest.takeWhile fun c => c != ':' && !isBlank c
  if (rest.drop code.length).head? == some ':' then some code else none

/-- Replace codes by pictures; `skip` characters are done with. Colons of an unknown code are not
looked at again. -/
def replaceFrom : (skip : Nat) → List Char → List Char
  | _, [] => []
  | skip + 1, _ :: rest => replaceFrom skip rest
  | 0, c :: rest =>
    if c = ':' then
      match codeAt? rest with
      | some code =>
        ((ofCode? code).getD (':' :: code ++ [':'])) ++ replaceFrom (code.length + 1) rest
      | none => c :: replaceFrom 0 rest
    else c :: replaceFrom 0 rest

/-- A text with all its codes replaced. -/
def replace (text : List Char) : List Char := replaceFrom 0 text

end Picture

end LintConfig.Console
