import LintConfig.Proofs.Course
import LintConfig.Proofs.Files.Writing
import LintConfig.Proofs.Lossless
import LintConfig.Proofs.Report

/-! # What a run writes

A run that ends well has written one file, and a run that fails, or only shows what it would write,
has written none.

There is one gap. A configuration is saved before it is reported. Where the report comes to a halt the
run has failed, but the file is there. -/
namespace LintConfig.Command
open Files (Path Tree)

/-- The same files are in both trees. Folders do not count. -/
def SameFiles (t t' : Tree) : Prop :=
  ∀ place bytes, t'.get? place = some (.file bytes) ↔ t.get? place = some (.file bytes)

theorem SameFiles.refl (t : Tree) : SameFiles t t := fun _ _ => .rfl

/-- Where a tree grows by folders only, its files are the same. -/
theorem sameFiles_of_extends {t t' : Tree} (h : ∀ q, Tree.Extends q t t') : SameFiles t t' := by
  intro place bytes
  have hother : place ≠ place ++ [""] := by simp
  exact (h (place ++ [""])).file_iff hother bytes

/-- One file has been written: the one for the format of a record in the folder to write to. It holds
the text of the configuration that was found for the record. -/
structure Wrote (w : Surroundings) (a : Arguments) (j : Prepared) (after : Tree) : Prop where
  found : j.Found w a
  file : ∃ format text place, Format.resolve j.record.format = .ok format ∧
    j.outcome.fragment.write format = .ok text ∧
    after.locate (Output.pathIn (folderOf a j.settings) format) =
      .ok (place, .file (Text.Utf8.encode text)) ∧
    ∀ other, other ≠ place → ∀ bytes,
      after.get? other = some (.file bytes) ↔ w.files.get? other = some (.file bytes)

/-- What a run may write. -/
structure Framed (w : Surroundings) (arguments : List String) : Prop where
  failed : statusOf (run w arguments) ≠ 0 → SameFiles w.files (filesAfter (run w arguments))
  dry : ∀ a, Arguments.parse arguments = .ok a → a.isOn "dry-run" = true →
    SameFiles w.files (filesAfter (run w arguments))
  written : ∀ a, Arguments.parse arguments = .ok a → a.isOn "dry-run" = false →
    statusOf (run w arguments) = 0 → ∃ j, Wrote w a j (filesAfter (run w arguments))

/-- A run comes to save a configuration, and it is saved. -/
structure Saves (w : Surroundings) (arguments : List String) (a : Arguments) (j : Prepared) (p : Path)
    (after : Tree) : Prop where
  parsed : Arguments.parse arguments = .ok a
  wet : a.isOn "dry-run" = false
  found : j.Found w a
  saved : Output.saveAs w.files (folderOf a j.settings) j.record.format j.outcome.fragment =
    .ok (p, after)

/-! ### The end of a run -/

section Finish
variable {files : Tree} {a : Arguments} {s : Settings} {r : Answers.Record} {shown : String}
  {out : Synthesis.Outcome}

theorem persist_dry (folder : Path) (f : Fragment) :
    (∃ listing, persist files true folder r f = .ok (listing, none, files)) ∨
      ∃ e, persist files true folder r f = .error ⟨e, files⟩ := by
  unfold persist
  rw [if_pos rfl]
  split
  · split
    · exact .inl ⟨_, rfl⟩
    · exact .inr ⟨_, rfl⟩
  · exact .inr ⟨_, rfl⟩

/-- A run that shows what it would write leaves all files as they are, also where it fails. -/
theorem finish_dry (hdry : a.isOn "dry-run" = true) :
    filesAfter (finish files a s r shown out) = files := by
  unfold finish
  rw [hdry]
  rcases persist_dry (r := r) (folderOf a s) out.fragment with ⟨listing, hlisting⟩ | ⟨e, he⟩
  · rw [hlisting]
    cases hreport : report files a out.fragment none <;>
      simp [bind, Except.bind, pure, Except.pure, orCrash, Except.mapError, hreport, filesAfter]
  · rw [he]
    rfl

theorem finish_unsaved (hdry : a.isOn "dry-run" = false) {e : Output.Halt}
    (hsave : Output.saveAs files (folderOf a s) r.format out.fragment = .error e) :
    finish files a s r shown out = .error ⟨.output e.failure, e.files⟩ := by
  unfold finish persist
  rw [hdry, if_neg Bool.false_ne_true, hsave]
  rfl

/-- With its configuration saved a run ends well if it can report it. The file is there either way. -/
theorem finish_saved (hdry : a.isOn "dry-run" = false) {p : Path} {after : Tree}
    (hsave : Output.saveAs files (folderOf a s) r.format out.fragment = .ok (p, after)) :
    filesAfter (finish files a s r shown out) = after ∧
      (statusOf (finish files a s r shown out) = 0 ↔
        ∃ told, report after a out.fragment (some p) = .ok told) := by
  unfold finish persist
  rw [hdry, if_neg Bool.false_ne_true, hsave]
  cases hreport : report after a out.fragment (some p) with
  | error e =>
    simp [bind, Except.bind, orCrash, Except.mapError, hreport, filesAfter, statusOf, failureStatus]
  | ok told =>
    simp [bind, Except.bind, pure, Except.pure, orCrash, Except.mapError, hreport, filesAfter,
      statusOf]

end Finish

section Saves
variable {w : Surroundings} {arguments : List String} {a : Arguments} {j : Prepared} {p : Path}
  {after : Tree}

/-- What was found for answers and could be saved is reported if its two open lines can be printed. -/
theorem Saves.reported_iff (h : Saves w arguments a j p after) :
    (∃ told, report after a j.outcome.fragment (some p) = .ok told) ↔
      Reportable j.outcome.fragment p := by
  obtain ⟨format, -, hsave⟩ := Output.saveAs_eq_ok.mp h.saved
  obtain ⟨-, place, hsaved⟩ := Output.save_spec hsave
  have hshort := (Output.write_eq_ok.mp hsaved.written).1
  exact report_ok_iff (Summary.generated_of_synthesize h.found.outcome)
    ((Fragment.isLong_document _).mp hshort)

theorem Saves.wrote (h : Saves w arguments a j p after) : Wrote w a j after := by
  obtain ⟨format, hformat, hsave⟩ := Output.saveAs_eq_ok.mp h.saved
  obtain ⟨-, place, hsaved⟩ := Output.save_spec hsave
  exact ⟨h.found, format, _, place, hformat, hsaved.written, hsaved.located,
    fun other hother => hsaved.extends_saved.file_iff hother⟩

/-- A run that saves a configuration leaves it behind, and ends well if it can report it. -/
theorem Saves.run_spec (h : Saves w arguments a j p after) (hhelp : a.isOn "help" = false) :
    filesAfter (run w arguments) = after ∧
      (statusOf (run w arguments) = 0 ↔ Reportable j.outcome.fragment p) := by
  rw [run_eq_finish h.parsed hhelp h.found, ← h.reported_iff]
  exact finish_saved h.wet h.saved

end Saves

/-! ### Whole runs -/

section Runs
variable {w : Surroundings} {arguments : List String} {a : Arguments}

theorem Framed.of_failed (hstatus : statusOf (run w arguments) ≠ 0)
    (hsame : SameFiles w.files (filesAfter (run w arguments))) : Framed w arguments where
  failed _ := hsame
  dry _ _ _ := hsame
  written _ _ _ hzero := absurd hzero hstatus

theorem Framed.of_dry (ha : Arguments.parse arguments = .ok a) (hdry : a.isOn "dry-run" = true)
    (hsame : SameFiles w.files (filesAfter (run w arguments))) : Framed w arguments where
  failed _ := hsame
  dry _ _ _ := hsame
  written b hb hwet := by
    obtain rfl : a = b := Except.ok.inj (ha.symm.trans hb)
    rw [hdry] at hwet
    cases hwet

theorem Framed.of_wrote {j : Prepared} (ha : Arguments.parse arguments = .ok a)
    (hdry : a.isOn "dry-run" = false)
    (hfailed : statusOf (run w arguments) ≠ 0 → SameFiles w.files (filesAfter (run w arguments)))
    (hwrote : Wrote w a j (filesAfter (run w arguments))) : Framed w arguments where
  failed := hfailed
  dry b hb hon := by
    obtain rfl : a = b := Except.ok.inj (ha.symm.trans hb)
    rw [hdry] at hon
    cases hon
  written b hb _ _ := by
    obtain rfl : a = b := Except.ok.inj (ha.symm.trans hb)
    exact ⟨j, hwrote⟩

end Runs

/-- A run keeps to what it may write if whatever it saves can be reported or was there before. -/
theorem framed_iff {w : Surroundings} {arguments : List String}
    (hhelp : ∀ a, Arguments.parse arguments = .ok a → a.isOn "help" = false) :
    Framed w arguments ↔ ∀ a j p after, Saves w arguments a j p after →
      SameFiles w.files after ∨ Reportable j.outcome.fragment p := by
  constructor
  · intro h a j p after hsaves
    obtain ⟨hfiles, hstatus⟩ := hsaves.run_spec (hhelp a hsaves.parsed)
    by_cases hreportable : Reportable j.outcome.fragment p
    · exact .inr hreportable
    · refine .inl ?_
      rw [← hfiles]
      exact h.failed (mt hstatus.mp hreportable)
  · intro h
    rcases run_course w arguments hhelp with hstopped | ⟨a, j, ha, hfound, hrun⟩
    · refine .of_failed hstopped.status ?_
      rw [hstopped.files]
      exact .refl _
    cases hdry : a.isOn "dry-run" with
    | true =>
      refine .of_dry ha hdry ?_
      rw [hrun, finish_dry hdry]
      exact .refl _
    | false =>
      cases hsave : Output.saveAs w.files (folderOf a j.settings) j.record.format
          j.outcome.fragment with
      | error e =>
        have hend := hrun.trans (finish_unsaved hdry hsave)
        refine .of_failed ?_ ?_
        · rw [hend]
          exact Nat.one_ne_zero
        · rw [hend]
          exact sameFiles_of_extends (Output.saveAs_error hsave)
      | ok saved =>
        obtain ⟨p, after⟩ := saved
        have hsaves : Saves w arguments a j p after := ⟨ha, hdry, hfound, hsave⟩
        obtain ⟨hfiles, hstatus⟩ := hsaves.run_spec (hhelp a ha)
        refine .of_wrote ha hdry (fun hfailed => ?_) (hfiles ▸ hsaves.wrote)
        rw [hfiles]
        exact (h a j p after hsaves).resolve_right (mt hstatus.mpr hfailed)

/-- The command line that names an environment. -/
def naming (environment : String) : List String := ["--env", environment, "--skip-package-check"]

theorem naming_help {environment : String}
    (h : (Arguments.parse (naming environment)).toOption.all (fun a => !a.isOn "help") = true) :
    ∀ a, Arguments.parse (naming environment) = .ok a → a.isOn "help" = false := by
  intro a ha
  rw [ha] at h
  simpa [Except.toOption] using h

/-- A plain name can be reported. -/
theorem framed_plain : (∀ a, Arguments.parse (naming "node") = .ok a → a.isOn "help" = false) ∧
    statusOf (run {} (naming "node")) = 0 ∧ Framed {} (naming "node") := by
  have hhelp : ∀ a, Arguments.parse (naming "node") = .ok a → a.isOn "help" = false :=
    naming_help (by decide +kernel)
  have hstatus : statusOf (run {} (naming "node")) = 0 := by decide +kernel
  refine ⟨hhelp, hstatus, (framed_iff hhelp).mpr fun a j p after hsaves => .inr ?_⟩
  exact (hsaves.run_spec (hhelp a hsaves.parsed)).2.mp hstatus

/-- A name that reads as the end of a tag brings the report to a halt, with the file written. -/
theorem not_framed_tag : (∀ a, Arguments.parse (naming "[/x]") = .ok a → a.isOn "help" = false) ∧
    ¬ Framed {} (naming "[/x]") := by
  refine ⟨naming_help (by decide +kernel), fun h => ?_⟩
  have hstatus : statusOf (run {} (naming "[/x]")) ≠ 0 := by decide +kernel
  have hwritten : ((filesAfter (run {} (naming "[/x]"))).get? [".eslintrc.json"]).any
      Tree.isFile = true := by decide +kernel
  rw [Option.any_eq_true] at hwritten
  obtain ⟨t, ht, hfile⟩ := hwritten
  cases t with
  | folder entries => cases hfile
  | file bytes => cases (h.failed hstatus [".eslintrc.json"] bytes).mp ht

end LintConfig.Command
