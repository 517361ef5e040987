import LintConfig.Answers.Layers
import LintConfig.Files.Expansion
import LintConfig.Number.Reading
import LintConfig.Text.Digit

/-! The command line: words, which are patterns of sources, and options, which begin with dashes.
Whatever follows two dashes alone is a word. -/

namespace LintConfig.Command
open Files (Path Tree)

/-- What is wrong with a command line. -/
inductive Misuse
  | unknownOption (name : String)
  | missingValue (name : String)
  | surplusValue (name : String)
  /-- The value is none of those that an option can have. -/
  | badChoice (name value : String)
  /-- An option's value is to name a file. -/
  | noFile (name value : String)
  /-- An option's value can name nothing at all. -/
  | unusablePath (e : Files.FileError)
  deriving DecidableEq, Repr

/-- A command line taken apart. Options and switches stand in the order in which they are given. -/
structure Arguments where
  words : List String := []
  options : List (String × String) := []
  switches : List (String × Bool) := []
  deriving DecidableEq, Repr, Inhabited

namespace Arguments

/-- The options that have a value. -/
def optionNames : List String :=
  ["--answers", "--style-guide", "--indent", "--quotes", "--linebreak", "--env", "--format",
   "--output"]

/-- The switches that can be turned on and off. -/
def answerSwitches : List String := ["semi", "es6", "jsx", "react", "commonjs"]

/-- The switches that can only be turned on. -/
def runSwitches : List String :=
  ["interactive", "dry-run", "skip-package-check", "verbose", "help"]

/-- The switch that an option turns, and to what. -/
def switch? (name : String) : Option (String × Bool) :=
  ((answerSwitches ++ runSwitches).map fun s => ("--" ++ s, s, true)).lookup name <|>
    (answerSwitches.map fun s => ("--no-" ++ s, s, false)).lookup name

/-- Is the argument an option, and not a word? A dash alone is a word. -/
def isOption (argument : String) : Bool :=
  match argument.toList with
  | '-' :: _ :: _ => true
  | _ => false

/-- The name of an option, and the value behind an equals sign. -/
def split (argument : String) : String × Option String :=
  let text := argument.toList
  let name := text.takeWhile (· != '=')
  match text.drop name.length with
  | _ :: value => (String.ofList name, some (String.ofList value))
  | [] => (argument, none)

def addWord (w : String) (a : Arguments) : Arguments := { a with words := w :: a.words }

def addOption (name value : String) (a : Arguments) : Arguments :=
  { a with options := (name, value) :: a.options }

def addSwitch (s : String × Bool) (a : Arguments) : Arguments :=
  { a with switches := s :: a.switches }

/-- Take a command line apart. A value can follow its option as an argument of its own, whatever it
looks like. -/
def parse : List String → Except Misuse Arguments
  | [] => .ok {}
  | argument :: rest =>
    if argument = "--" then .ok { words := rest }
    else if isOption argument then
      let (name, attached) := split argument
      if optionNames.contains name then
        match attached with
        | some value => (parse rest).map (addOption name value)
        | none =>
          match rest with
          | value :: rest => (parse rest).map (addOption name value)
          | [] => .error (.missingValue name)
      else
        match switch? name with
        | some s =>
          match attached with
          | some _ => .error (.surplusValue name)
          | none => (parse rest).map (addSwitch s)
        | none => .error (.unknownOption name)
    else (parse rest).map (addWord argument)

/-- The values of an option. -/
def values (a : Arguments) (name : String) : List String :=
  (a.options.filter (·.1 == name)).map (·.2)

/-- The value of an option; the last one counts. -/
def value? (a : Arguments) (name : String) : Option String := (a.values name).getLast?

/-- How a switch is turned; the last time counts. -/
def turned? (a : Arguments) (name : String) : Option Bool :=
  ((a.switches.filter (·.1 == name)).map (·.2)).getLast?

def isOn (a : Arguments) (name : String) : Bool := (a.turned? name).getD false

def checkChoice (a : Arguments) (name : String) (choices : List String) : Except Misuse Unit :=
  match a.value? name with
  | some value => if choices.contains value then .ok () else .error (.badChoice name value)
  | none => .ok ()

/-- The text has to lead to a file. -/
def checkFile (root : Tree) (name value : String) : Except Misuse Unit :=
  match root.locate (.ofString value) with
  | .ok (_, .file _) => if Files.asksForFolder value then .error (.noFile name value) else .ok ()
  | .ok (_, .folder _) => .error (.noFile name value)
  | .error e =>
    if e.obstacle = .nullCharacter then .error (.unusablePath e) else .error (.noFile name value)

/-- Check the value of one option. -/
def checkOption (root : Tree) (a : Arguments) (name : String) : Except Misuse Unit :=
  match name with
  | "--answers" =>
    match a.value? name with
    | some value => checkFile root name value
    | none => .ok ()
  | "--style-guide" => a.checkChoice name (StyleGuide.all.map StyleGuide.name)
  | "--quotes" => a.checkChoice name Answers.quoteStyles
  | "--linebreak" => a.checkChoice name Answers.linebreakStyles
  | "--format" => a.checkChoice name Format.names
  | _ => .ok ()

/-- Check the values of options, in the order in which the options are given. -/
def check (root : Tree) (a : Arguments) : Except Misuse Unit :=
  a.options.forM fun (name, _) => a.checkOption root name

end Arguments

/-- The answer that a text about indentation gives: a width if it consists of digits, of any kind,
else the text as it is. -/
def indentOf (text : String) : Except Number.ReadError Value :=
  if Text.isDigits text.toList then (Number.readInt 10 text).map .integer else .ok (.text text)

namespace Arguments

def textAnswer (a : Arguments) (name : String) : Value :=
  ((a.value? name).map Value.text).getD .null

def switchAnswer (a : Arguments) (name : String) : Value :=
  ((a.turned? name).map Value.bool).getD .null

/-- The answers that a command line gives; null stands for no answer. -/
def answers (a : Arguments) : Except Number.ReadError Answers.Mapping := do
  let indent ← match a.value? "--indent" with
    | some text => indentOf text
    | none => pure .null
  let env := a.values "--env"
  return [
    (.text "style_guide", a.textAnswer "--style-guide"),
    (.text "indent", indent),
    (.text "quotes", a.textAnswer "--quotes"),
    (.text "linebreak", a.textAnswer "--linebreak"),
    (.text "semi", a.switchAnswer "semi"),
    (.text "es6", a.switchAnswer "es6"),
    (.text "env", if env.isEmpty then .null else .list (env.map .text)),
    (.text "jsx", a.switchAnswer "jsx"),
    (.text "react", a.switchAnswer "react"),
    (.text "commonjs", a.switchAnswer "commonjs"),
    (.text "format", a.textAnswer "--format")]

end Arguments

end LintConfig.Command
