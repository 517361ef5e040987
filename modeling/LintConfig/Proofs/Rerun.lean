import LintConfig.Proofs.Course
import LintConfig.Proofs.Sources
import LintConfig.Proofs.Values

/-! # Running the command again

A run reads its settings, its answers and its sources, and writes one file. If the next run does not
read that file, it finds what the first one found, and writes the same bytes to the same place. -/
namespace LintConfig.Command
open Answers (Record)
open Files (Path Tree)

/-- What a run without questions works with. -/
structure Job where
  settings : Settings
  record : Record
  format : Format

/-- A run finds its settings and answers, and a format is named. -/
structure Job.Found (j : Job) (w : Surroundings) (a : Arguments) : Prop where
  settings : Settings.load w.files w.environment none = .ok j.settings
  record : ∃ flags m, a.answers = .ok flags ∧
    Answers.gather w.files j.settings.format.name (a.value? "--answers") flags a.words = .ok m ∧
    Answers.ofMapping m = .ok j.record
  format : Format.resolve j.record.format = .ok j.format

/-- The file that a configuration is written to. -/
def Job.target (j : Job) (a : Arguments) : Path := Output.pathIn (folderOf a j.settings) j.format

def settingsFile? (v : Settings.Variables) : Option Path :=
  let named := String.ofList (Text.strip v.path.toList)
  if named == "" then none else some (.ofString named)

def answersFile? (a : Arguments) : Option Path :=
  (a.value? "--answers").bind fun name => if name == "" then none else some (.ofString name)

/-- The file at a place is none of those that the next run reads. In a folder that is made for it,
other sources could be found by way of this folder, so that more has to be asked for. -/
structure Job.Apart (j : Job) (w : Surroundings) (a : Arguments) (after : Tree) (q : List String) :
    Prop where
  settings : ∀ p, settingsFile? w.environment = some p → ¬ after.Leads p q
  answers : ∀ p, answersFile? a = some p → ¬ after.Leads p q
  sources : usesSources j.record = true →
    (w.files.hasFolder (folderOf a j.settings) = true ∧
        ∀ files, Scan.filesOf after j.settings.scan j.record.patterns = .ok files →
          ∀ p ∈ files, ¬ after.Leads p q) ∨
      Synthesis.SameSources w.files after j.settings.scan j.record.patterns

/-! ### The course of a run -/

/-- A run without questions that ends well has found a job, and finishes it. -/
theorem run_spec {w : Surroundings} {arguments : List String} {a : Arguments} {o : Outcome}
    (ha : Arguments.parse arguments = .ok a) (hhelp : a.isOn "help" = false)
    (hinteractive : a.isOn "interactive" = false) (h : run w arguments = .ok o)
    (hstatus : o.status = 0) :
    a.check w.files = .ok () ∧ ∃ s flags m r out,
      Settings.load w.files w.environment none = .ok s ∧ a.answers = .ok flags ∧
      Answers.gather w.files s.format.name (a.value? "--answers") flags a.words = .ok m ∧
      Answers.ofMapping m = .ok r ∧ Synthesis.synthesize w.files s.scan r = .ok out ∧
      finish w.files a s r "" out = .ok o := by
  have hcourse := run_course w arguments fun b hb => by
    rw [ha] at hb
    exact Except.ok.inj hb ▸ hhelp
  rcases hcourse with hstopped | ⟨b, j, hb, hfound, hfinish⟩
  · rw [h] at hstopped
    exact absurd hstatus hstopped.status
  · obtain rfl : a = b := Except.ok.inj (ha.symm.trans hb)
    obtain ⟨flags, known, m, hflags, hknown, hm, hr⟩ := hfound.record
    rw [answersOf_quiet hinteractive] at hm
    obtain ⟨rfl, hshown⟩ := Prod.mk.inj (Except.ok.inj hm)
    rw [← hshown, h] at hfinish
    exact ⟨hfound.checked, j.settings, flags, known, j.record, j.outcome, hfound.settings, hflags,
      hknown, hr, hfound.outcome, hfinish.symm⟩

theorem persist_eq_ok {files : Tree} {folder : Path} {r : Record} {f : Fragment}
    {x : String × Option Path × Tree} :
    persist files false folder r f = .ok x ↔
      ∃ format p after, Format.resolve r.format = .ok format ∧
        Output.save files folder format f = .ok (p, after) ∧ x = ("", some p, after) := by
  unfold persist
  rw [if_neg Bool.false_ne_true]
  constructor
  · intro h
    cases hsave : Output.saveAs files folder r.format f with
    | error e =>
      rw [hsave] at h
      cases h
    | ok saved =>
      obtain ⟨p, after⟩ := saved
      rw [hsave] at h
      obtain ⟨format, hformat, hsave⟩ := Output.saveAs_eq_ok.mp hsave
      exact ⟨format, p, after, hformat, hsave, (Except.ok.inj h).symm⟩
  · rintro ⟨format, p, after, hformat, hsave, rfl⟩
    rw [Output.saveAs_eq_ok.mpr ⟨format, hformat, hsave⟩]

/-- What is left to do once there is a configuration. -/
theorem finish_eq_ok {files : Tree} {a : Arguments} {s : Settings} {r : Record} {shown : String}
    {out : Synthesis.Outcome} {o : Outcome} (hdry : a.isOn "dry-run" = false) :
    finish files a s r shown out = .ok o ↔
      ∃ format p after told, Format.resolve r.format = .ok format ∧
        Output.save files (folderOf a s) format out.fragment = .ok (p, after) ∧
        report after a out.fragment (some p) = .ok told ∧
        o = { output := shown ++ "" ++ (if usesSources r then "\n" else "") ++ told
              files := after
              warnings := if usesSources r then
                emptyWarning out.examined r.patterns ++ skipWarnings out.skipped else [] } := by
  unfold finish
  rw [hdry]
  constructor
  · intro h
    obtain ⟨x, hx, h⟩ := Failing.bind_eq_ok.mp h
    obtain ⟨format, p, after, hformat, hsave, rfl⟩ := persist_eq_ok.mp hx
    obtain ⟨told, htold, h⟩ := Failing.bind_eq_ok.mp h
    exact ⟨format, p, after, told, hformat, hsave, Failing.mapError_eq_ok.mp htold,
      (Except.ok.inj h).symm⟩
  · rintro ⟨format, p, after, told, hformat, hsave, htold, rfl⟩
    refine Failing.bind_eq_ok.mpr ⟨_, persist_eq_ok.mpr ⟨format, p, after, hformat, hsave, rfl⟩, ?_⟩
    exact Failing.bind_eq_ok.mpr ⟨told, Failing.mapError_eq_ok.mpr htold, rfl⟩

/-! ### What the next run finds -/

section Next
variable {q : List String} {t t' : Tree}

end Next

/-! ### Both runs -/

/-- Does a command line ask for a configuration to be written, without questions? -/
def writes (a : Arguments) : Bool :=
  !a.isOn "help" && !a.isOn "interactive" && !a.isOn "dry-run"

deriving instance DecidableEq for Fragment, Record, Synthesis.Outcome

section Usual
variable {files : Tree} {arguments : List String} {a : Arguments} {r : Record}
  {out : Synthesis.Outcome}

end Usual

/-- Settings for the four style rules. -/
def styled (indent quotes linebreak semi : Setting) : Fragment where
  rules := [("indent", indent), ("quotes", quotes), ("linebreak-style", linebreak), ("semi", semi)]
  base := some recommended

/-- A project of one source file. -/
def small : Surroundings := { files := .folder [("a.js", .file (Text.Utf8.encode "f('a');\n"))] }

def inferring : List String := [".", "--skip-package-check"]

def inferred : Synthesis.Outcome where
  fragment := styled .off (.error (.text "single")) (.error (.text "unix")) (.error (.text "always"))
  examined := 1

end LintConfig.Command
