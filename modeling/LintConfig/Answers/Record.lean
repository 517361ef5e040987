import LintConfig.Config.Format
import LintConfig.Config.StyleGuide
import LintConfig.Text.Blank
import LintConfig.Value.Length

/-! Answers about a project: what is to be linted and in which style. A record is filled from a
mapping of answers and checked as a whole. -/

namespace LintConfig.Answers

/-- A record of answers. All but the two lists of names can be of any kind until checked. -/
structure Record where
  /-- Where the style comes from: the answers or the sources. -/
  source : Value
  styleGuide : Value := .null
  indent : Value := .integer 4
  quotes : Value := .text "single"
  linebreak : Value := .text "unix"
  semi : Value := .bool true
  es6 : Value := .bool false
  env : List String := []
  jsx : Value := .bool false
  react : Value := .bool false
  commonjs : Value := .bool false
  /-- The sources to be looked at. -/
  patterns : List String := []
  format : Value := .text "JSON"
  deriving BEq, Repr, Inhabited

/-- Why answers are refused. -/
inductive Refusal
  | unknownFields (names : List String)
  | missingSource
  | notNames (field : String)
  /-- A field that is to be one of a few words. -/
  | notOneOf (field : String) (words : List String) (got : Value)
  | badIndent (got : Value)
  | notTruthValue (field : String)
  /-- The file at a path holds something other than a mapping. -/
  | notMapping (path : String)
  deriving BEq, Repr

/-- Words in parentheses, each in quotes. -/
def choices (words : List String) : String := (Value.tuple (words.map .text)).display

def Refusal.message : Refusal → String
  | unknownFields names => "Unknown answer field(s): " ++ joined ", " names
  | missingSource => "Missing required answer field: source"
  | notNames field => field ++ " must be a list or a whitespace-separated string"
  | notOneOf field words got =>
    field ++ " must be one of " ++ choices words ++ ", got " ++ got.display
  | badIndent got => "indent must be a positive integer or 'tab', got " ++ got.display
  | notTruthValue field => field ++ " must be true or false"
  | notMapping path => path ++ " does not contain a mapping of answers"

/-- Does a refusal show an integer that is too long? -/
def Refusal.isLong : Refusal → Bool
  | notOneOf _ _ got | badIndent got => got.isLong
  | _ => false

/-- Why there is no record: it is refused, or a mapping has a field whose name is no text, or an integer
is too long for the text that shows it. -/
inductive Failure
  | refused (r : Refusal)
  | fieldNotText
  | longInteger (e : LongInteger)
  deriving BEq, Repr

/-- A refusal, unless it cannot be put into words. -/
def Failure.ofRefusal (r : Refusal) : Failure := if r.isLong then .longInteger {} else .refused r

/-! ### Checking -/

def sources : List String := ["prompt", "auto"]

def quoteStyles : List String := ["single", "double"]

def linebreakStyles : List String := ["unix", "windows"]

def checkWord (field : String) (words : List String) (v : Value) : Except Refusal Unit :=
  if v.text?.any words.contains then .ok () else .error (.notOneOf field words v)

/-- A width is a positive integer. -/
def isIndent : Value → Bool
  | .integer n => 0 < n
  | .text s => s == "tab"
  | _ => false

def checkTruthValue (field : String) (v : Value) : Except Refusal Unit :=
  match v with
  | .bool _ => .ok ()
  | _ => .error (.notTruthValue field)

/-- Check all fields but the style guide, which has its own registry, in a fixed order. -/
def Record.validate (r : Record) : Except Refusal Unit := do
  checkWord "source" sources r.source
  unless isIndent r.indent do throw (.badIndent r.indent)
  checkWord "quotes" quoteStyles r.quotes
  checkWord "linebreak" linebreakStyles r.linebreak
  checkTruthValue "semi" r.semi
  checkTruthValue "es6" r.es6
  checkTruthValue "jsx" r.jsx
  checkTruthValue "react" r.react
  checkTruthValue "commonjs" r.commonjs
  checkWord "format" Format.names r.format

/-- Check a record, and tell what is wrong with it. -/
def Record.check (r : Record) : Except Failure Unit := (r.validate).mapError Failure.ofRefusal

/-! ### Reading a mapping -/

/-- The names of the fields. -/
def fieldNames : List String :=
  ["source", "style_guide", "indent", "quotes", "linebreak", "semi", "es6", "env", "jsx", "react",
   "commonjs", "patterns", "format"]

/-- A list of names: from a list, or from the words of a text. -/
def namesOf (field : String) (v : Value) : Except Failure (List String) :=
  match v.unrolled with
  | .null => .ok []
  | .list items | .tuple items => (Value.allTold items).mapError .longInteger
  | v =>
    match v.text? with
    | some s => .ok ((Text.words s.toList).map String.ofList)
    | none => .error (.refused (.notNames field))

/-- A mapping of answers, keyed by field name. -/
abbrev Mapping := List (Value × Value)

def Mapping.get? (m : Mapping) (field : String) : Option Value := Value.lookup? field m

/-- The keys that are no field names. -/
def unknownKeys (m : Mapping) : List Value :=
  (m.map (·.1)).filter fun k => !k.text?.any fieldNames.contains

/-- A mapping may only have fields; their names are texts. -/
def checkKeys (m : Mapping) : Except Failure Unit :=
  match unknownKeys m with
  | [] => .ok ()
  | unknown =>
    let names := unknown.filterMap Value.text?
    if names.length = unknown.length then
      .error (.refused (.unknownFields (names.mergeSort fun a b => !(b < a))))
    else .error .fieldNotText

/-- The record that a mapping spells; `env` and `patterns` are the names read from it. -/
def Mapping.record (m : Mapping) (source : Value) (env patterns : List String) : Record :=
  let default : Record := { source }
  let field := fun name fallback => (m.get? name).getD fallback
  { source
    styleGuide := field "style_guide" default.styleGuide
    indent := field "indent" default.indent
    quotes := field "quotes" default.quotes
    linebreak := field "linebreak" default.linebreak
    semi := field "semi" default.semi
    es6 := field "es6" default.es6
    env
    jsx := field "jsx" default.jsx
    react := field "react" default.react
    commonjs := field "commonjs" default.commonjs
    patterns
    format := field "format" default.format }

/-- The record that a mapping spells, checked. -/
def ofMapping (m : Mapping) : Except Failure Record := do
  checkKeys m
  match m.get? "source" with
  | none => throw (.refused .missingSource)
  | some source =>
    let env ← namesOf "env" ((m.get? "env").getD .null)
    let patterns ← namesOf "patterns" ((m.get? "patterns").getD .null)
    let r := m.record source env patterns
    r.check
    return r

end LintConfig.Answers
