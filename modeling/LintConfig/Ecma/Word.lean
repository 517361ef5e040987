/-! The fixed vocabulary of ECMAScript: keywords and punctuators, each with its spelling. -/

namespace LintConfig.Ecma

/-- The words the grammar reserves, with those that only strict code reserves. -/
inductive Keyword
  | if_ | in_ | do_ | var | for_ | new | try_ | let_ | this | else_ | case | void | with_ | enum
  | while_ | break_ | catch_ | throw_ | const | yield | class_ | super | return_ | typeof
  | delete | switch | export_ | import_ | default | finally_ | extends_ | function | continue_
  | debugger | instanceof
  | implements | interface | package | private_ | protected_ | public_ | static
  deriving DecidableEq, Repr

namespace Keyword

def text : Keyword → String
  | if_ => "if" | in_ => "in" | do_ => "do" | var => "var" | for_ => "for" | new => "new"
  | try_ => "try" | let_ => "let" | this => "this" | else_ => "else" | case => "case"
  | void => "void" | with_ => "with" | enum => "enum" | while_ => "while" | break_ => "break"
  | catch_ => "catch" | throw_ => "throw" | const => "const" | yield => "yield"
  | class_ => "class" | super => "super" | return_ => "return" | typeof => "typeof"
  | delete => "delete" | switch => "switch" | export_ => "export" | import_ => "import"
  | default => "default" | finally_ => "finally" | extends_ => "extends"
  | function => "function" | continue_ => "continue" | debugger => "debugger"
  | instanceof => "instanceof" | implements => "implements" | interface => "interface"
  | package => "package" | private_ => "private" | protected_ => "protected"
  | public_ => "public" | static => "static"

/-- The words that are keywords in all code. -/
def always : List Keyword :=
  [if_, in_, do_, var, for_, new, try_, let_, this, else_, case, void, with_, enum, while_, break_,
   catch_, throw_, const, yield, class_, super, return_, typeof, delete, switch, export_, import_,
   default, finally_, extends_, function, continue_, debugger, instanceof]

/-- The words that strict code may not use as names. -/
def strictOnly : List Keyword :=
  [implements, interface, package, private_, protected_, public_, static, yield, let_]

/-- The words kept for future use. -/
def future : List Keyword := [enum, export_, import_, super]

def ofText? (word : String) : Option Keyword := always.find? fun k => k.text == word

def ofStrictText? (word : String) : Option Keyword := strictOnly.find? fun k => k.text == word

end Keyword

/-- Names that strict code may not bind or assign to. -/
def isRestrictedName (name : String) : Bool := name == "eval" || name == "arguments"

/-- Names that strict code reserves. -/
def isStrictReserved (name : String) : Bool := (Keyword.ofStrictText? name).isSome

inductive Punctuator
  | leftParen | rightParen | leftBrace | rightBrace | leftBracket | rightBracket
  | dot | ellipsis | semicolon | comma | colon | question | tilde
  | less | greater | lessEqual | greaterEqual | equal | notEqual | strictEqual | strictNotEqual
  | plus | minus | times | divide | remainder | power | increment | decrement
  | shiftLeft | shiftRight | shiftRightUnsigned | bitAnd | bitOr | bitXor | not
  | logicalAnd | logicalOr | assign | plusAssign | minusAssign | timesAssign | divideAssign
  | remainderAssign | powerAssign | shiftLeftAssign | shiftRightAssign
  | shiftRightUnsignedAssign | bitAndAssign | bitOrAssign | bitXorAssign | arrow
  deriving DecidableEq, Repr

namespace Punctuator

def text : Punctuator → String
  | leftParen => "(" | rightParen => ")" | leftBrace => "\x7b" | rightBrace => "\x7d"
  | leftBracket => "[" | rightBracket => "]" | dot => "." | ellipsis => "..."
  | semicolon => ";" | comma => "," | colon => ":" | question => "?" | tilde => "~"
  | less => "<" | greater => ">" | lessEqual => "<=" | greaterEqual => ">="
  | equal => "==" | notEqual => "!=" | strictEqual => "===" | strictNotEqual => "!=="
  | plus => "+" | minus => "-" | times => "*" | divide => "/" | remainder => "%"
  | power => "**" | increment => "++" | decrement => "--" | shiftLeft => "<<"
  | shiftRight => ">>" | shiftRightUnsigned => ">>>" | bitAnd => "&" | bitOr => "|"
  | bitXor => "^" | not => "!" | logicalAnd => "&&" | logicalOr => "||" | assign => "="
  | plusAssign => "+=" | minusAssign => "-=" | timesAssign => "*=" | divideAssign => "/="
  | remainderAssign => "%=" | powerAssign => "**=" | shiftLeftAssign => "<<="
  | shiftRightAssign => ">>=" | shiftRightUnsignedAssign => ">>>=" | bitAndAssign => "&="
  | bitOrAssign => "|=" | bitXorAssign => "^=" | arrow => "=>"

/-- All punctuators, longer spellings first, so that the first that fits is the longest. -/
def longestFirst : List Punctuator :=
  [shiftRightUnsignedAssign,
   ellipsis, strictEqual, strictNotEqual, shiftRightUnsigned, shiftLeftAssign, shiftRightAssign,
   powerAssign,
   logicalAnd, logicalOr, equal, notEqual, plusAssign, minusAssign, timesAssign, divideAssign,
   increment, decrement, shiftLeft, shiftRight, bitAndAssign, bitOrAssign, bitXorAssign,
   remainderAssign, lessEqual, greaterEqual, arrow, power,
   leftParen, rightParen, leftBrace, rightBrace, leftBracket, rightBracket, dot, semicolon,
   comma, colon, question, tilde, less, greater, assign, not, plus, minus, times, remainder,
   bitAnd, bitOr, bitXor, divide]

/-- The longest punctuator the text begins with. -/
def ofText? (text : List Char) : Option Punctuator :=
  longestFirst.find? fun p => p.text.toList.isPrefixOf text

def isAssignment : Punctuator → Bool
  | assign | plusAssign | minusAssign | timesAssign | divideAssign | remainderAssign
  | powerAssign | shiftLeftAssign | shiftRightAssign | shiftRightUnsignedAssign
  | bitAndAssign | bitOrAssign | bitXorAssign => true
  | _ => false

/-- How tightly a binary operator binds; zero for all else. The power operator is not listed, it
groups to the right and has a rule of its own. -/
def precedence : Punctuator → Nat
  | logicalOr => 1 | logicalAnd => 2 | bitOr => 3 | bitXor => 4 | bitAnd => 5
  | equal | notEqual | strictEqual | strictNotEqual => 6
  | less | greater | lessEqual | greaterEqual => 7
  | shiftLeft | shiftRight | shiftRightUnsigned => 8
  | plus | minus => 9
  | times | divide | remainder => 11
  | _ => 0

end Punctuator

end LintConfig.Ecma
