import LintConfig.Text.Portion
import LintConfig.Yaml.Construction
import LintConfig.Yaml.Lexer
import LintConfig.Yaml.Parser

/-! Reading a YAML document as a value. The text comes in portions, each checked when it is read, so
what is wrong with the text shows only when the tokens before it have been looked at. -/

namespace LintConfig.Yaml

/-- How many characters a portion has. -/
def portionSize : Nat := 4096

/-- May a document hold the character? -/
def isAcceptable (c : Char) : Bool :=
  let n := c.toNat
  c == '\t' || c == '\n' || c == '\r' || (0x20 ≤ n && n ≤ 0x7E) || n == 0x85 ||
    (0xA0 ≤ n && n ≤ 0xFFFD) || 0x10000 ≤ n

/-- The text of blocks, from a position on, up to one with a character that no document may hold;
and what comes up behind it. -/
def readable (behind : Option Error) : (position : Nat) → List (List Char) →
    List Char × Option Error
  | _, [] => ([], behind)
  | position, block :: rest =>
    match block.zipIdx.find? fun (c, _) => !isAcceptable c with
    | some (c, i) => ([], some (.unacceptable c (position + i)))
    | none =>
      let (text, e) := readable behind (position + block.length) rest
      (block ++ text, e)

/-- The tokens of a text. Its first two portions are read as one. -/
def tokensOf (text : Text.Portions) : TokenStream :=
  let behind := text.fault.map Error.undecodable
  match text.portions, behind with
  | first :: second :: rest, behind =>
    let (text, e) := readable behind 0 ((first ++ second) :: rest)
    Lexer.tokens text e
  | _, some e => Lexer.tokens [] (some e)
  | portions, none =>
    let (text, e) := readable none 0 portions
    Lexer.tokens text e

/-- The value of the document in a text; an empty text is a null. -/
def read (text : Text.Portions) : Except Error Value := do
  match ← Parser.parse (tokensOf text) with
  | (none, _) => return .null
  | (some root, nodes) => Construction.construct root nodes

end LintConfig.Yaml
