import LintConfig.Command.Help
import LintConfig.Command.Questions
import LintConfig.Config.Output
import LintConfig.Config.Packages
import LintConfig.Config.Summary
import LintConfig.Settings
import LintConfig.Synthesis

/-! A run of the command, from its arguments, its input and the files there are to what it prints
and the files there are then. -/

namespace LintConfig.Command
open Answers (Record)
open Files (Path Tree)

/-- What a run finds. -/
structure Surroundings where
  files : Tree := .empty
  environment : Settings.Variables := {}
  /-- The lines of the input. -/
  input : List String := []
  deriving Inhabited

/-- The lines of an input text. What follows the last line break is a line if it is not empty. -/
def inputLines (text : String) : List String :=
  let parts := (Console.Wrap.lineParts (Text.unifyNewlines text.toList)).map String.ofList
  if parts.getLast? == some "" then parts.dropLast else parts

/-- What a run leaves behind. -/
structure Outcome where
  status : Nat := 0
  output : String := ""
  files : Tree
  warnings : List String := []
  /-- The run has ended because the input had, with a question open. -/
  isOpen : Bool := false
  deriving Inhabited

/-- A failure that a run does not answer for. -/
inductive Failure
  | settings (f : Settings.Failure)
  | width (e : Number.ReadError)
  | answers (f : Answers.FileFailure)
  | defaultNotNames
  | longInteger (e : LongInteger)
  | markup (e : Console.MarkupError)
  | synthesis (f : Synthesis.Failure)
  | output (f : Output.Failure)
  | path (e : Files.FileError)
  | summary (f : Summary.Failure)
  deriving BEq, Repr

/-- A run that has come to a halt with a failure, and the files there are then. -/
structure Crash where
  failure : Failure
  files : Tree

/-- A step of a run that changes no files. -/
def orCrash {α : Type} (files : Tree) (step : Except Failure α) : Except Crash α :=
  step.mapError fun failure => ⟨failure, files⟩

/-- The status of a run whose command line is wrong. -/
def misuseStatus : Nat := 2

/-- The status of a run that gives up. -/
def failureStatus : Nat := 1

def print (text : String) : Except Failure String := (Console.print text).mapError .markup

/-- A run that gives up with a message, behind what has been printed already. -/
def giveUp (files : Tree) (shown label message : String) : Except Crash Outcome := do
  let text ← orCrash files (print ("[bold red]" ++ label ++ "[/bold red] " ++ message))
  return { status := failureStatus, output := shown ++ text, files }

/-! ### Messages -/

/-- Warnings of files that could not be used. -/
def skipWarnings (skipped : List Style.Warning) : List String :=
  skipped.map (fun w => "Skipping " ++ w.path ++ ": " ++ w.message) ++
    if skipped.isEmpty then []
    else [toString skipped.length ++ " file(s) could not be parsed and were skipped"]

/-- A warning that no sources were found. -/
def emptyWarning (examined : Nat) (patterns : List String) : List String :=
  if examined = 0 then
    ["No files matched " ++ joined " " patterns ++ "; every style rule will be turned off"]
  else []

/-- Which packages are missing, and how to get them. -/
def packageReport (files : Tree) (f : Fragment) : Except Failure String := do
  match Packages.missing (← (Packages.status files (Packages.required f)).mapError .path) with
  | [] => return ""
  | missing =>
    let count ← print ("\n[yellow]" ++ toString missing.length ++
      " package(s) not installed:[/yellow] " ++ joined ", " missing)
    let command ← print ("Install with: [bold]" ++ Packages.installCommand missing ++ "[/bold]")
    return count ++ command

/-! ### A run -/

/-- Is the style taken from the sources? -/
def usesSources (r : Record) : Bool := r.source.text? == some "auto" && !r.styleGuide.isTruthy

/-- Write a configuration, or show what would be written: what is printed, the file written, and the
files there are then. -/
def persist (files : Tree) (isDry : Bool) (folder : Path) (r : Record) (f : Fragment) :
    Except Crash (String × Option Path × Tree) :=
  if isDry then
    match Format.resolve r.format with
    | .ok format =>
      match f.write format with
      | .ok text => .ok (Console.listing text, none, files)
      | .error e => .error ⟨.output (.longInteger e), files⟩
    | .error e => .error ⟨.output (.unsupported e), files⟩
  else
    match Output.saveAs files folder r.format f with
    | .ok (p, files) => .ok ("", some p, files)
    | .error h => .error ⟨.output h.failure, h.files⟩

/-- The folder to write to. -/
def folderOf (a : Arguments) (s : Settings) : Path :=
  match a.value? "--output" with
  | some text => if text == "" then s.folder else .ofString text
  | none => s.folder

/-- What is printed about a configuration that is there: what it says, where it was saved to, and which
packages it lacks. -/
def report (files : Tree) (a : Arguments) (f : Fragment) (saved : Option Path) :
    Except Failure String := do
  let summary ← f.summary.mapError .summary
  let savedLine ← match saved with
    | some p => print ("\n[dim]Saved to: " ++ p.text ++ "[/dim]")
    | none => pure ""
  let packages ← if a.isOn "skip-package-check" then pure "" else packageReport files f
  return summary ++ savedLine ++ packages

/-- Finish a run with a configuration for its record. Where sources were looked at, an empty line
takes the place of the progress display. -/
def finish (files : Tree) (a : Arguments) (s : Settings) (r : Record) (shown : String)
    (o : Synthesis.Outcome) : Except Crash Outcome := do
  let (listing, saved, files) ← persist files (a.isOn "dry-run") (folderOf a s) r o.fragment
  let gap := if usesSources r then "\n" else ""
  let told ← orCrash files (report files a o.fragment saved)
  let warnings :=
    if usesSources r then emptyWarning o.examined r.patterns ++ skipWarnings o.skipped else []
  return { output := shown ++ listing ++ gap ++ told, files, warnings }

/-- A run with a record of answers. -/
def runRecord (files : Tree) (a : Arguments) (s : Settings) (r : Record) (shown : String) :
    Except Crash Outcome :=
  match Synthesis.synthesize files s.scan r with
  | .ok o => finish files a s r shown o
  | .error (.refused e) => giveUp files shown "Error:" e.message
  | .error (.unsupportedGuide e) => giveUp files shown "Error:" e.message
  | .error e => .error ⟨.synthesis e, files⟩

/-- A run with a mapping of answers. -/
def runMapping (files : Tree) (a : Arguments) (s : Settings) (m : Answers.Mapping)
    (shown : String) : Except Crash Outcome :=
  match Answers.ofMapping m with
  | .ok r => runRecord files a s r shown
  | .error (.refused e) => giveUp files shown "Error:" e.message
  | .error e => .error ⟨.answers (.mapping e), files⟩

/-- A run that asks for answers, with what is known already. -/
def runDialogue (w : Surroundings) (a : Arguments) (s : Settings) (m : Answers.Mapping) :
    Except Crash Outcome :=
  match Questions.ask m { typed := w.input } with
  | .ok (m, d) => runMapping w.files a s m d.shown
  | .error (.endOfInput shown) =>
    .ok { status := failureStatus, output := shown, files := w.files, isOpen := true }
  | .error (.unreadableWidth e) => .error ⟨.width e, w.files⟩
  | .error .defaultNotNames => .error ⟨.defaultNotNames, w.files⟩
  | .error (.longInteger e) => .error ⟨.longInteger e, w.files⟩

/-- Is the failure the answers' own fault? -/
def isReported : Answers.FileFailure → Bool
  | .document f => f.isNotation
  | .mapping (.refused _) => true
  | .mapping _ => false

def reportOf : Answers.FileFailure → String
  | .document f => f.message
  | .mapping (.refused r) => r.message
  | .mapping _ => ""

/-- A run with settings. -/
def runSettings (w : Surroundings) (a : Arguments) (s : Settings) : Except Crash Outcome := do
  let flags ← orCrash w.files (a.answers.mapError .width)
  match Answers.gather w.files s.format.name (a.value? "--answers") flags a.words with
  | .ok m =>
    if a.isOn "interactive" then runDialogue w a s m else runMapping w.files a s m ""
  | .error e =>
    if isReported e then giveUp w.files "" "Error:" (reportOf e)
    else .error ⟨.answers e, w.files⟩

/-- Is the failure one of what the settings say, or of where they are? -/
def isSettingsFault : Settings.Failure → Bool
  | .noFile _ | .unknownFormat _ | .unreadableNumber _ | .unreadableBytes _ | .unreadableHalves _
  | .badThreshold _ | .longInteger _ => true
  | .document (.notText _) | .document (.malformed _ (.badValue _)) => true
  | _ => false

/-- A run with a command line taken apart. -/
def runArguments (w : Surroundings) (a : Arguments) : Except Crash Outcome :=
  match Settings.load w.files w.environment none with
  | .ok s => runSettings w a s
  | .error e =>
    if isSettingsFault e then giveUp w.files "" "Config error:" e.message
    else .error ⟨.settings e, w.files⟩

/-- A run of the command. -/
def run (w : Surroundings) (arguments : List String) : Except Crash Outcome :=
  match Arguments.parse arguments with
  | .error _ => .ok { status := misuseStatus, files := w.files }
  | .ok a =>
    if a.isOn "help" then .ok { output := help, files := w.files }
    else match a.check w.files with
      | .error (.unusablePath e) => .error ⟨.path e, w.files⟩
      | .error _ => .ok { status := misuseStatus, files := w.files }
      | .ok _ => runArguments w a

/-- The status that a run ends with. One that comes to a halt has failed. -/
def statusOf : Except Crash Outcome → Nat
  | .ok o => o.status
  | .error _ => failureStatus

/-- The files there are after a run, whichever way it ends. -/
def filesAfter : Except Crash Outcome → Tree
  | .ok o => o.files
  | .error c => c.files

end LintConfig.Command
