import LintConfig.Command.Run
import LintConfig.Proofs.Failing

/-! # The course of a run

A run looks for its settings, its answers and its sources before it writes anything. Where it gives up
or halts on the way, it does not end well and leaves the files as they were. Where it gets through, it
has found a configuration for a record, and all that is left is to finish. -/
namespace LintConfig.Command
open Answers (Record)
open Files (Tree)

/-- A run came to its end without having written anything. -/
structure Stopped (files : Tree) (x : Except Crash Outcome) : Prop where
  status : statusOf x ≠ 0
  files : filesAfter x = files

theorem stopped_crash (files : Tree) (f : Failure) : Stopped files (.error ⟨f, files⟩) :=
  ⟨by simp [statusOf, failureStatus], rfl⟩

theorem stopped_misuse (files : Tree) :
    Stopped files (.ok { status := misuseStatus, files }) :=
  ⟨by simp [statusOf, misuseStatus], rfl⟩

theorem stopped_giveUp (files : Tree) (shown label message : String) :
    Stopped files (giveUp files shown label message) := by
  unfold giveUp
  cases print ("[bold red]" ++ label ++ "[/bold red] " ++ message) with
  | error e => exact stopped_crash files e
  | ok text => exact ⟨by simp [orCrash, Except.mapError, bind, Except.bind, pure, Except.pure, statusOf,
      failureStatus], rfl⟩

/-- What a run has found when it comes to finish. -/
structure Prepared where
  settings : Settings
  record : Record
  /-- What has been printed by then. -/
  shown : String
  outcome : Synthesis.Outcome

/-- The answers that a run goes by, and what has been printed to get them: those known already, or in
a dialogue those given there. -/
def answersOf (w : Surroundings) (a : Arguments) (known : Answers.Mapping) :
    Except Interruption (Answers.Mapping × String) :=
  if a.isOn "interactive" then
    (fun (m, d) => (m, d.shown)) <$> Questions.ask known { typed := w.input }
  else .ok (known, "")

/-- Without questions the answers known already are all there are. -/
theorem answersOf_quiet {a : Arguments} (h : a.isOn "interactive" = false) (w : Surroundings)
    (known : Answers.Mapping) : answersOf w a known = .ok (known, "") := by
  rw [answersOf, h]
  rfl

structure Prepared.Found (j : Prepared) (w : Surroundings) (a : Arguments) : Prop where
  checked : a.check w.files = .ok ()
  settings : Settings.load w.files w.environment none = .ok j.settings
  record : ∃ flags known m, a.answers = .ok flags ∧
    Answers.gather w.files j.settings.format.name (a.value? "--answers") flags a.words = .ok known ∧
    answersOf w a known = .ok (m, j.shown) ∧ Answers.ofMapping m = .ok j.record
  outcome : Synthesis.synthesize w.files j.settings.scan j.record = .ok j.outcome

/-- The record that a run goes by. -/
def recordOf (w : Surroundings) (a : Arguments) (s : Settings) : Option Record := do
  let flags ← a.answers.toOption
  let known ← (Answers.gather w.files s.format.name (a.value? "--answers") flags a.words).toOption
  let (m, _) ← (answersOf w a known).toOption
  (Answers.ofMapping m).toOption

theorem recordOf_eq_some {w : Surroundings} {a : Arguments} {s : Settings} {r : Record} :
    recordOf w a s = some r ↔ ∃ flags known m shown, a.answers = .ok flags ∧
      Answers.gather w.files s.format.name (a.value? "--answers") flags a.words = .ok known ∧
      answersOf w a known = .ok (m, shown) ∧ Answers.ofMapping m = .ok r := by
  unfold recordOf
  constructor
  · intro h
    obtain ⟨flags, hflags, h⟩ := Option.bind_eq_some_iff.mp h
    obtain ⟨known, hknown, h⟩ := Option.bind_eq_some_iff.mp h
    obtain ⟨⟨m, shown⟩, hm, hr⟩ := Option.bind_eq_some_iff.mp h
    exact ⟨flags, known, m, shown, Failing.toOption_eq_some.mp hflags,
      Failing.toOption_eq_some.mp hknown, Failing.toOption_eq_some.mp hm,
      Failing.toOption_eq_some.mp hr⟩
  · rintro ⟨flags, known, m, shown, hflags, hknown, hm, hr⟩
    simp [hflags, hknown, hm, hr, Except.toOption]

/-! ### One part of a run after the other -/

section Parts
variable (w : Surroundings) (files : Tree) (a : Arguments) (s : Settings) (r : Record)
  (m known : Answers.Mapping) (shown : String)

theorem runRecord_course : Stopped files (runRecord files a s r shown) ∨
    ∃ out, Synthesis.synthesize files s.scan r = .ok out ∧
      runRecord files a s r shown = finish files a s r shown out := by
  unfold runRecord
  split
  · exact .inr ⟨_, ‹_›, rfl⟩
  · exact .inl (stopped_giveUp ..)
  · exact .inl (stopped_giveUp ..)
  · exact .inl (stopped_crash ..)

theorem runMapping_course : Stopped files (runMapping files a s m shown) ∨
    ∃ r out, Answers.ofMapping m = .ok r ∧ Synthesis.synthesize files s.scan r = .ok out ∧
      runMapping files a s m shown = finish files a s r shown out := by
  unfold runMapping
  split
  · rename_i r hr
    rcases runRecord_course files a s r shown with hstopped | ⟨out, hout, hrun⟩
    · exact .inl hstopped
    · exact .inr ⟨r, out, hr, hout, hrun⟩
  · exact .inl (stopped_giveUp ..)
  · exact .inl (stopped_crash ..)

theorem runDialogue_course : Stopped w.files (runDialogue w a s known) ∨
    ∃ m d, Questions.ask known { typed := w.input } = .ok (m, d) ∧
      runDialogue w a s known = runMapping w.files a s m d.shown := by
  unfold runDialogue
  split
  · exact .inr ⟨_, _, ‹_›, rfl⟩
  · exact .inl ⟨by simp [statusOf, failureStatus], rfl⟩
  · exact .inl (stopped_crash ..)
  · exact .inl (stopped_crash ..)
  · exact .inl (stopped_crash ..)

/-- With its answers known a run asks for the rest of them, or does without. -/
theorem answered_course :
    let x := if a.isOn "interactive" then runDialogue w a s known
      else runMapping w.files a s known ""
    Stopped w.files x ∨ ∃ m shown, answersOf w a known = .ok (m, shown) ∧
      x = runMapping w.files a s m shown := by
  dsimp only
  cases hinteractive : a.isOn "interactive" with
  | true =>
    rcases runDialogue_course w a s known with hstopped | ⟨m, d, hask, hrun⟩
    · exact .inl hstopped
    · refine .inr ⟨m, d.shown, ?_, hrun⟩
      rw [answersOf, if_pos hinteractive, hask]
      rfl
  | false => exact .inr ⟨known, "", answersOf_quiet hinteractive w known, rfl⟩

theorem runSettings_course : Stopped w.files (runSettings w a s) ∨
    ∃ flags known m shown, a.answers = .ok flags ∧
      Answers.gather w.files s.format.name (a.value? "--answers") flags a.words = .ok known ∧
      answersOf w a known = .ok (m, shown) ∧ runSettings w a s = runMapping w.files a s m shown := by
  unfold runSettings
  cases hflags : a.answers with
  | error e => exact .inl (stopped_crash ..)
  | ok flags =>
    simp only [orCrash, Except.mapError, bind, Except.bind]
    cases hknown : Answers.gather w.files s.format.name (a.value? "--answers") flags a.words with
    | error e =>
      dsimp only
      split
      · exact .inl (stopped_giveUp ..)
      · exact .inl (stopped_crash ..)
    | ok known =>
      rcases answered_course w a s known with hstopped | ⟨m, shown, hm, hrun⟩
      · exact .inl hstopped
      · exact .inr ⟨flags, known, m, shown, rfl, hknown, hm, hrun⟩

theorem runArguments_course : Stopped w.files (runArguments w a) ∨
    ∃ s, Settings.load w.files w.environment none = .ok s ∧ runArguments w a = runSettings w a s := by
  unfold runArguments
  split
  · exact .inr ⟨_, ‹_›, rfl⟩
  · split
    · exact .inl (stopped_giveUp ..)
    · exact .inl (stopped_crash ..)

end Parts

/-- A run with a command line that asks for no help stops, with all files as they were, or it has
found what it needs and finishes. -/
theorem run_course (w : Surroundings) (arguments : List String)
    (hhelp : ∀ a, Arguments.parse arguments = .ok a → a.isOn "help" = false) :
    Stopped w.files (run w arguments) ∨
      ∃ a j, Arguments.parse arguments = .ok a ∧ Prepared.Found j w a ∧
        run w arguments = finish w.files a j.settings j.record j.shown j.outcome := by
  unfold run
  cases ha : Arguments.parse arguments with
  | error e => exact .inl (stopped_misuse _)
  | ok a =>
    simp only [hhelp a ha, Bool.false_eq_true, if_false]
    split
    · exact .inl (stopped_crash ..)
    · exact .inl (stopped_misuse _)
    · rename_i hcheck
      rcases runArguments_course w a with hstopped | ⟨s, hs, hrun⟩
      · exact .inl hstopped
      rw [hrun]
      rcases runSettings_course w a s with
        hstopped | ⟨flags, known, m, shown, hflags, hknown, hm, hrun⟩
      · exact .inl hstopped
      rw [hrun]
      rcases runMapping_course w.files a s m shown with hstopped | ⟨r, out, hr, hout, hrun⟩
      · exact .inl hstopped
      exact .inr ⟨a, ⟨s, r, shown, out⟩, rfl,
        ⟨hcheck, hs, ⟨flags, known, m, hflags, hknown, hm, hr⟩, hout⟩, hrun⟩

/-- With its settings and its answers found a run goes by them. -/
theorem run_eq_mapping {w : Surroundings} {arguments : List String} {a : Arguments} {s : Settings}
    {flags known m : Answers.Mapping} {shown : String} (ha : Arguments.parse arguments = .ok a)
    (hhelp : a.isOn "help" = false) (hcheck : a.check w.files = .ok ())
    (hs : Settings.load w.files w.environment none = .ok s) (hflags : a.answers = .ok flags)
    (hknown : Answers.gather w.files s.format.name (a.value? "--answers") flags a.words = .ok known)
    (hm : answersOf w a known = .ok (m, shown)) :
    run w arguments = runMapping w.files a s m shown := by
  have hanswered : (if a.isOn "interactive" then runDialogue w a s known
      else runMapping w.files a s known "") = runMapping w.files a s m shown := by
    unfold answersOf at hm
    split at hm
    · obtain ⟨⟨asked, d⟩, hask, hfound⟩ := Failing.map_eq_ok.mp hm
      have hshown : d.shown = shown := congrArg Prod.snd hfound
      have hsame : asked = m := congrArg Prod.fst hfound
      rw [if_pos ‹_›, runDialogue, hask, ← hshown, ← hsame]
    · have hfound := Except.ok.inj hm
      have hshown : "" = shown := congrArg Prod.snd hfound
      have hsame : known = m := congrArg Prod.fst hfound
      rw [if_neg ‹_›, ← hshown, ← hsame]
  rw [← hanswered]
  simp only [run, ha, hhelp, hcheck, runArguments, hs, runSettings, orCrash, hflags, hknown,
    Except.mapError, bind, Except.bind, Bool.false_eq_true, if_false]

/-- A run that finds what it needs finishes with it. -/
theorem run_eq_finish {w : Surroundings} {arguments : List String} {a : Arguments} {j : Prepared}
    (ha : Arguments.parse arguments = .ok a) (hhelp : a.isOn "help" = false) (hj : j.Found w a) :
    run w arguments = finish w.files a j.settings j.record j.shown j.outcome := by
  obtain ⟨flags, known, m, hflags, hknown, hm, hr⟩ := hj.record
  rw [run_eq_mapping ha hhelp hj.checked hj.settings hflags hknown hm, runMapping, hr]
  dsimp only
  rw [runRecord, hj.outcome]

end LintConfig.Command
