import LintConfig.Text.Surrogate
import LintConfig.Yaml.Error

/-! The tokens of a YAML text. Blocks, which are told by indentation alone, have tokens of their
own. -/

namespace LintConfig.Yaml

/-- How a scalar is written. -/
inductive ScalarStyle
  | plain
  | singleQuoted
  | doubleQuoted
  | literal
  | folded
  deriving DecidableEq, Repr, Inhabited

/-- A tag as written: with or without a handle that stands for its beginning. -/
structure TagText where
  handle : Option String
  suffix : String
  deriving DecidableEq, Repr, Inhabited

inductive Directive
  | version (major minor : Nat)
  | tagHandle (handle : String) (meaning : String)
  | other
  deriving DecidableEq, Repr, Inhabited

inductive Lexeme
  | streamEnd
  | directive (d : Directive)
  | documentStart
  | documentEnd
  | blockSequenceStart
  | blockMappingStart
  | blockEnd
  | flowSequenceStart
  | flowSequenceEnd
  | flowMappingStart
  | flowMappingEnd
  | flowEntry
  | blockEntry
  | key
  | value
  | repetition (name : String)
  | anchor (name : String)
  | tag (t : TagText)
  | scalar (content : Text.Spelled) (style : ScalarStyle)
  deriving DecidableEq, Repr, Inhabited

/-- The name a kind of token has in messages. -/
def Lexeme.name : Lexeme → String
  | streamEnd => "<stream end>"
  | directive _ => "<directive>"
  | documentStart => "<document start>"
  | documentEnd => "<document end>"
  | blockSequenceStart => "<block sequence start>"
  | blockMappingStart => "<block mapping start>"
  | blockEnd => "<block end>"
  | flowSequenceStart => "["
  | flowSequenceEnd => "]"
  | flowMappingStart => "\x7b"
  | flowMappingEnd => "\x7d"
  | flowEntry => ","
  | blockEntry => "-"
  | key => "?"
  | value => ":"
  | repetition _ => "<alias>"
  | anchor _ => "<anchor>"
  | tag _ => "<tag>"
  | scalar _ _ => "<scalar>"

structure Token where
  lexeme : Lexeme
  start : Mark
  stop : Mark
  deriving DecidableEq, Repr, Inhabited

/-- The tokens of a text as far as they can be told, and the error that follows them, if one
does. -/
structure TokenStream where
  tokens : List Token
  error : Option Error := none
  deriving DecidableEq, Repr, Inhabited

end LintConfig.Yaml
