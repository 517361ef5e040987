import LintConfig.Files.Expansion
import LintConfig.Style.Analysis
import LintConfig.Style.Majority

/-! Scanning a project: every source file that patterns stand for is analysed, and what the files
show is added up. A file that cannot be read or parsed leaves a warning and nothing else. The files are
analysed in threads of their own, which come to their ends in any order. -/

namespace LintConfig.Scan
open Files (Path Tree)
open Style (Statistic)

/-- Which files are sources, and how clearly they have to agree. -/
structure Options where
  extensions : List String := [".js", ".jsx"]
  excludeDirs : List String := ["node_modules", ".git"]
  threshold : Number.Double := Style.defaultThreshold
  deriving DecidableEq, Repr, Inhabited

/-- A statistic that only warns of a file. -/
def warned (p : Path) (message : String) : Statistic :=
  { warnings := [⟨p.text, message⟩] }

/-- Why a scan comes to no end. -/
inductive Failure
  | path (e : Files.FileError)
  | aborted (reason : Ecma.Abort)
  deriving DecidableEq, Repr

/-- What a file shows. -/
def analyzeFile (root : Tree) (markup : Bool) (p : Path) : Except Failure Statistic :=
  match root.read p with
  | .error e => if e.obstacle = .nullCharacter then .error (.path e) else .ok (warned p e.message)
  | .ok bytes =>
    match Text.Utf8.decode bytes with
    | .error f => .ok (warned p f.message)
    | .ok text =>
      match Style.analyze markup text with
      | .ok s => .ok s
      | .error (.malformed line cause) =>
        .ok (warned p (Ecma.ParseError.malformed line cause).message)
      | .error (.aborted reason) => .error (.aborted reason)

def filesOf (root : Tree) (o : Options) (patterns : List String) : Except Failure (List Path) :=
  (Files.expand root patterns o.extensions o.excludeDirs).mapError .path

/-- What all files together show. -/
def scanFiles (root : Tree) (markup : Bool) (files : List Path) : Except Failure Statistic := do
  let parts ← files.mapM (analyzeFile root markup)
  return parts.foldl Statistic.merge {}

/-! ### Threads -/

/-- How far the analysis of a file is. -/
inductive Stage
  | running
  | ended (r : Except Failure Statistic)
  | taken (r : Except Failure Statistic)

/-- The analysis of a file. -/
structure Job where
  file : Path
  stage : Stage := .running

/-- What the analysis came to, if it was taken up without a failure. -/
def Job.part? (j : Job) : Option Statistic :=
  match j.stage with
  | .taken (.ok s) => some s
  | _ => none

/-- What a scan tells its reporter. -/
inductive Report
  | advance
  | complete
  deriving DecidableEq, Repr

/-- What happens while a scan goes on: the thread of a file comes to its end, or what it came to is
taken up. -/
inductive Event
  | ends (i : Nat)
  | takes (i : Nat)
  deriving DecidableEq, Repr

/-- How far a scan is. -/
structure Course where
  jobs : List Job
  reports : List Report := []
  failure : Option Failure := none

namespace Course

def start (files : List Path) : Course := { jobs := files.map fun p => { file := p } }

/-- Take up what a thread came to. The first failure is the one that counts. -/
def take (c : Course) (i : Nat) (p : Path) (r : Except Failure Statistic) : Course where
  jobs := c.jobs.set i ⟨p, .taken r⟩
  reports := if r.toBool then c.reports ++ [.advance] else c.reports
  failure := c.failure <|> match r with | .error e => some e | .ok _ => none

/-- What an event changes. One that cannot happen changes nothing. -/
def step (root : Tree) (markup : Bool) (c : Course) : Event → Course
  | .ends i =>
    match c.jobs[i]? with
    | some ⟨p, .running⟩ => { c with jobs := c.jobs.set i ⟨p, .ended (analyzeFile root markup p)⟩ }
    | _ => c
  | .takes i =>
    match c.jobs[i]? with
    | some ⟨p, .ended r⟩ => c.take i p r
    | _ => c

def run (root : Tree) (markup : Bool) (c : Course) (schedule : List Event) : Course :=
  schedule.foldl (step root markup) c

/-- What the scan has come to. It waits for all files, unless there is a failure. -/
def result? (c : Course) : Option (Except Failure Statistic) :=
  match c.failure with
  | some e => some (.error e)
  | none =>
    if c.jobs.all (·.part?.isSome) then
      some (.ok ((c.jobs.filterMap Job.part?).foldl Statistic.merge {}))
    else none

end Course

/-- The files one after the other. -/
def inOrder (n : Nat) : List Event := (List.range n).flatMap fun i => [.ends i, .takes i]

/-- Scan the files that patterns stand for, with the events in the order of a schedule. -/
def scan (root : Tree) (o : Options) (markup : Bool) (patterns : List String)
    (schedule : List Event) : Except Failure Course := do
  let files ← filesOf root o patterns
  return (Course.start files).run root markup schedule

end LintConfig.Scan
