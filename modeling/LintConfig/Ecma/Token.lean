import LintConfig.Ecma.Word

/-! Tokens of a source text, with the line and the offsets they were found at. -/

namespace LintConfig.Ecma

/-- The offsets of the first character of a stretch of text and of the one after its last. -/
structure Span where
  start : Nat
  stop : Nat
  deriving DecidableEq, Repr

/-- What a token is. -/
inductive Lexeme
  | endOfInput
  | identifier (name : String)
  | keyword (word : Keyword)
  | boolean (value : Bool)
  | null
  | numeric (octal : Bool)
  | string (value : String) (octal : Bool)
  /-- A stretch of a template, between two of its marks; `head` after the opening one, `tail`
  before the closing one. -/
  | template (content : String) (head tail : Bool)
  | regularExpression
  | punctuator (mark : Punctuator)
  /-- A name in markup, which may hold hyphens. -/
  | markupName (name : String)
  deriving DecidableEq, Repr

/-- A token. Its `line` is the line its last character is on. -/
structure Token where
  lexeme : Lexeme
  line : Nat
  start : Nat
  stop : Nat
  /-- The token as it is written. -/
  raw : String
  deriving DecidableEq, Repr

namespace Token

/-- What the token stands for, as text. -/
def value (t : Token) : String :=
  match t.lexeme with
  | .endOfInput | .regularExpression => ""
  | .identifier name | .markupName name => name
  | .keyword word => word.text
  | .boolean value => if value then "true" else "false"
  | .null => "null"
  | .numeric _ => t.raw
  | .string value _ => value
  | .template content _ _ => content
  | .punctuator mark => mark.text

def isPunctuator (t : Token) (p : Punctuator) : Bool := t.lexeme == .punctuator p

def isKeyword (t : Token) (k : Keyword) : Bool := t.lexeme == .keyword k

/-- Is the token this word, in a place where it is not reserved? -/
def isWord (t : Token) (word : String) : Bool := t.lexeme == .identifier word

def isEnd (t : Token) : Bool := t.lexeme == .endOfInput

def isIdentifier (t : Token) : Bool :=
  match t.lexeme with
  | .identifier _ => true
  | _ => false

def isString (t : Token) : Bool :=
  match t.lexeme with
  | .string _ _ => true
  | _ => false

def isTemplate (t : Token) : Bool :=
  match t.lexeme with
  | .template _ _ _ => true
  | _ => false

def isTemplateHead (t : Token) : Bool :=
  match t.lexeme with
  | .template _ head _ => head
  | _ => false

/-- Was an octal digit string or escape used? -/
def isOctal (t : Token) : Bool :=
  match t.lexeme with
  | .numeric octal | .string _ octal => octal
  | _ => false

/-- Can the token stand where any name can, reserved or not? -/
def isName (t : Token) : Bool :=
  match t.lexeme with
  | .identifier _ | .keyword _ | .boolean _ | .null => true
  | _ => false

/-- Can the token begin the key of a property? -/
def beginsPropertyKey (t : Token) : Bool :=
  match t.lexeme with
  | .identifier _ | .string _ _ | .boolean _ | .null | .numeric _ | .keyword _ => true
  | .punctuator p => p == .leftBracket
  | _ => false

end Token

end LintConfig.Ecma
