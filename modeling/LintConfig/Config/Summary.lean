import LintConfig.Config.Fragment
import LintConfig.Console.Table
import LintConfig.Value.Length

/-! The summary of a configuration that is printed when it is finished. -/

namespace LintConfig.Summary

/-- Why a summary cannot be printed. -/
inductive Failure
  /-- Text of the configuration was taken for markup. -/
  | markup (e : Console.MarkupError)
  /-- A setting is a list without a severity. -/
  | noSeverity
  /-- A setting is too long to be shown. -/
  | longInteger (e : LongInteger)
  deriving DecidableEq, Repr

def Failure.message : Failure → String
  | markup e => e.message
  | noSeverity => "not enough values to unpack (expected at least 1, got 0)"
  | longInteger e => e.message

/-- Does the setting, a number, turn its rule off? -/
def isOff (s : Setting) : Bool := s.sameScalar Setting.off

/-- A setting in words: the severity, and the options behind it. -/
def describe (s : Setting) : Except Failure String :=
  if s.isLong then .error (.longInteger {})
  else match s with
    | .list [] => .error .noSeverity
    | .list (severity :: options) =>
      .ok (severity.plain ++ ": " ++ joined ", " (options.map Value.plain))
    | s => .ok (if isOff s then "off (mixed usage)" else s.plain)

def print (text : String) : Except Failure String := (Console.print text).mapError .markup

def cell (text : String) : Except Failure Console.Cell :=
  (Console.markup text.toList).mapError .markup

/-- A line with names, if there are any. -/
def namesLine (title : String) (names : List String) : Except Failure String :=
  if names.isEmpty then .ok "" else print (title ++ ": " ++ joined ", " names)

def sorted (names : List String) : List String := names.mergeSort fun a b => !(b < a)

/-- The table of the rules and their settings, if there are any. -/
def rulesTable (rules : Entries Setting) : Except Failure String := do
  if rules.isEmpty then return ""
  let described ← rules.mapM fun (name, s) => (describe s).map (name, ·)
  let rows ← described.mapM fun (name, text) => do return (← cell name, ← cell text)
  return Console.Table.print { heading := (← cell "Rule", ← cell "Setting"), rows }

end Summary

/-- The summary of a configuration. -/
def Fragment.summary (f : Fragment) : Except Summary.Failure String := do
  let base := if f.base.getD "" == "" then "-" else f.base.getD ""
  let extended ← Summary.print ("Extends: [bold]" ++ base ++ "[/bold]")
  let env ← Summary.namesLine "Environments" (Summary.sorted f.env.names)
  let plugins ← Summary.namesLine "Plugins" f.plugins
  let features ← Summary.namesLine "ECMA features" (Summary.sorted f.ecmaFeatures.names)
  let rules ← Summary.rulesTable f.rules
  return Console.ruled "Generated Config" ++ extended ++ env ++ plugins ++ features ++ rules

end LintConfig
