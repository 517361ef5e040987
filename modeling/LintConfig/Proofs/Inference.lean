import LintConfig.Proofs.Expansion
import LintConfig.Proofs.Merging
import LintConfig.Settings
import LintConfig.Synthesis

/-! # What is inferred from sources is what the majority of them does

A candidate is observed as often as the files that can be read and parsed show it, taken together.
Every file adds its counts to the statistic, or none at all; so the counts that settings are made
from are the observations of all files, whatever their number and whichever of them fail. What the
statement cannot pass over are files whose text brings the parser itself to a halt. -/
namespace LintConfig.Inference
open Answers (Record)
open Files (Path Tree)
open Number (Double)
open Style (Candidate Counts Justified Rule Statistic Tally)

/-! ### Observations -/

/-- The text of a file, if the file can be read. -/
def textOf? (root : Tree) (p : Path) : Option String :=
  match root.read p with
  | .ok bytes => (Text.Utf8.decode bytes).toOption
  | .error _ => none

/-- How often a file shows a candidate. A file that cannot be read or parsed shows none. -/
def shown (root : Tree) (markup : Bool) (r : Rule) (v : Candidate) (p : Path) : Int :=
  match textOf? root p with
  | none => 0
  | some text =>
    match Style.analyze markup text with
    | .ok s => (s.counts.of r).count v
    | .error _ => 0

/-- How often files show a candidate together. -/
def observed (root : Tree) (markup : Bool) (files : List Path) (r : Rule) (v : Candidate) : Int :=
  (files.map (shown root markup r v)).sum

/-- Does a file bring the scan to a halt, instead of leaving a warning? -/
def Stops (root : Tree) (markup : Bool) (p : Path) : Prop :=
  (∃ e, root.read p = .error e ∧ e.obstacle = .nullCharacter) ∨
    ∃ text reason, textOf? root p = some text ∧
      Style.analyze markup text = .error (.aborted reason)

/-! ### One file -/

/-- The counts of a text are made by observing. -/
theorem proper_countsOf (text : List Char) (tree : Ecma.Node) (r : Rule) :
    ((Style.countsOf text tree).of r).Proper := by
  cases r with
  | indent => exact Tally.proper_ofList _
  | quotes => exact Tally.proper_ofList _
  | semi => exact Tally.proper_ofList _
  | linebreak =>
    simp only [Counts.of, Style.countsOf, Style.linebreakTally]
    split
    · exact Tally.proper_nil
    · exact ⟨by simp, by simp⟩

theorem proper_analyze {markup : Bool} {text : String} {s : Statistic}
    (h : Style.analyze markup text = .ok s) (r : Rule) : (s.counts.of r).Proper := by
  obtain ⟨p, -, h⟩ := Failing.bind_eq_ok.mp h
  cases h
  exact proper_countsOf _ _ r

/-- A file adds what it shows, and nothing else. -/
theorem analyzeFile_counts {root : Tree} {markup : Bool} {p : Path} {s : Statistic}
    (h : Scan.analyzeFile root markup p = .ok s) (r : Rule) :
    (s.counts.of r).Proper ∧ ∀ v, (s.counts.of r).count v = shown root markup r v p := by
  have hnone : ∀ message, ((Scan.warned p message).counts.of r).Proper ∧
      ∀ v, ((Scan.warned p message).counts.of r).count v = 0 := by
    intro message
    have : (Scan.warned p message).counts.of r = [] := by cases r <;> rfl
    rw [this]
    exact ⟨Tally.proper_nil, fun _ => rfl⟩
  unfold Scan.analyzeFile at h
  unfold shown textOf?
  cases hread : root.read p with
  | error e =>
    simp only [hread] at h ⊢
    split at h
    · contradiction
    · cases h
      exact hnone _
  | ok bytes =>
    simp only [hread] at h ⊢
    cases hdecode : Text.Utf8.decode bytes with
    | error f =>
      simp only [hdecode] at h ⊢
      cases h
      exact hnone _
    | ok text =>
      simp only [hdecode] at h ⊢
      cases hanalyze : Style.analyze markup text with
      | ok t =>
        simp only [hanalyze] at h ⊢
        cases h
        exact ⟨proper_analyze hanalyze r, by simp [Except.toOption, hanalyze]⟩
      | error e =>
        cases e with
        | malformed line cause =>
          simp only [hanalyze] at h ⊢
          cases h
          simpa [Except.toOption, hanalyze] using hnone _
        | aborted reason =>
          simp only [hanalyze] at h
          contradiction

/-- A file can be analysed unless it brings the scan to a halt. -/
theorem analyzeFile_ok_iff {root : Tree} {markup : Bool} {p : Path} :
    (∃ s, Scan.analyzeFile root markup p = .ok s) ↔ ¬ Stops root markup p := by
  unfold Scan.analyzeFile Stops textOf?
  cases hread : root.read p with
  | error e =>
    by_cases he : e.obstacle = .nullCharacter <;> simp [he]
  | ok bytes =>
    cases hdecode : Text.Utf8.decode bytes with
    | error f => simp [hdecode, Except.toOption]
    | ok text =>
      cases hanalyze : Style.analyze markup text with
      | ok t => simp [hdecode, Except.toOption, hanalyze]
      | error e => cases e <;> simp [hdecode, Except.toOption, hanalyze]

/-! ### All files -/

/-- A scan comes to a statistic unless one of the files brings it to a halt. -/
theorem scanFiles_ok_iff {root : Tree} {markup : Bool} {files : List Path} :
    (∃ s, Scan.scanFiles root markup files = .ok s) ↔ ∀ p ∈ files, ¬ Stops root markup p := by
  constructor
  · rintro ⟨s, hs⟩ p hp
    obtain ⟨parts, hparts, -⟩ := Failing.bind_eq_ok.mp hs
    exact analyzeFile_ok_iff.mp (Failing.forall_of_mapM_ok hparts hp)
  · intro h
    obtain ⟨parts, hparts⟩ := Failing.mapM_ok_of_forall fun p hp => analyzeFile_ok_iff.mpr (h p hp)
    exact ⟨_, Failing.bind_eq_ok.mpr ⟨parts, hparts, rfl⟩⟩

/-- The statistic of a scan holds what all files show. -/
theorem scanFiles_counts {root : Tree} {markup : Bool} {files : List Path} {s : Statistic}
    (h : Scan.scanFiles root markup files = .ok s) :
    s.Natural ∧ ∀ r, (fun v => s.count r v) = observed root markup files r := by
  obtain ⟨parts, hparts, hs⟩ := Failing.bind_eq_ok.mp h
  cases hs
  have hnatural : ∀ t ∈ parts, t.Natural := by
    intro t ht r
    obtain ⟨p, -, hp⟩ := Failing.exists_of_mem_mapM hparts ht
    exact (analyzeFile_counts hp r).1.natural
  refine ⟨Statistic.natural_foldl hnatural, fun r => funext fun v => ?_⟩
  have hshown : (parts.map fun t => t.count r v) = files.map (shown root markup r v) := by
    rw [Failing.mapM_eq_ok] at hparts
    clear h hnatural
    induction hparts with
    | nil => rfl
    | cons hp _ ih => rw [List.map_cons, List.map_cons, ← (analyzeFile_counts hp r).2, ih]; rfl
  rw [Statistic.count_foldl hnatural, hshown, observed]

/-! ### Settings -/

/-- Settings for exactly the four style rules, in their order, each the right one. -/
def RightRules (threshold : Double) (observed : Rule → Candidate → Int)
    (rules : Entries Setting) : Prop :=
  ∃ setting : Rule → Setting,
    rules = [("indent", setting .indent), ("quotes", setting .quotes),
      ("linebreak-style", setting .linebreak), ("semi", setting .semi)] ∧
    ∀ r, Justified threshold (observed r) (setting r)

/-- A statistic of observations always has a configuration, and its rules are right. -/
theorem resolve_right {s : Statistic} {threshold : Double} {observed : Rule → Candidate → Int}
    (hthreshold : Settings.isThreshold threshold = true) (hrep : threshold.Representable)
    (hnatural : s.Natural) (hcounts : ∀ r, (fun v => s.count r v) = observed r) :
    ∃ f, s.resolve threshold = .ok f ∧ RightRules threshold observed f.rules := by
  obtain ⟨m, e, rfl, hhalf⟩ := Style.threshold_finite hthreshold
  have hsetting : ∀ r, ∃ v, Style.settingFor (.finite false m e) (s.counts.of r) = .ok v ∧
      Justified (.finite false m e) (observed r) v := by
    intro r
    rw [← hcounts r]
    exact Style.settingFor_justified (hnatural r) hrep hhalf
  choose setting hset hjust using hsetting
  exact ⟨_, Style.resolve_eq_ok hset, setting, rfl, hjust⟩

/-- Whatever the platform is, the rules are those of the sources. -/
theorem rules_merge_environment (f : Fragment) (r : Record) :
    (f.merge r.environmentFragment).rules = f.rules := rfl

theorem synthesize_eq_inferred {root : Tree} {o : Scan.Options} {r : Record}
    (hvalid : r.validate = .ok ()) (hsource : r.source.text? = some "auto")
    (hguide : r.styleGuide.isTruthy = false) :
    Synthesis.synthesize root o r = Synthesis.inferred root o r := by
  unfold Synthesis.synthesize
  simp [hvalid, hsource, hguide, Except.mapError, bind, Except.bind]

variable {root : Tree} {o : Scan.Options} {r : Record}

/-- Checked answers that leave the style to the sources get rules that say what the majority of
observations say, exactly if the patterns can be expanded and none of the files brings the scan to
a halt. -/
theorem synthesize_right_iff (hvalid : r.validate = .ok ())
    (hsource : r.source.text? = some "auto") (hguide : r.styleGuide.isTruthy = false)
    (hthreshold : Settings.isThreshold o.threshold = true) (hrep : o.threshold.Representable) :
    (∃ files out, Scan.filesOf root o r.patterns = .ok files ∧ files.Nodup ∧
      Synthesis.synthesize root o r = .ok out ∧
      RightRules o.threshold (observed root r.jsx.isTruthy files) out.fragment.rules) ↔
    ∃ files, Scan.filesOf root o r.patterns = .ok files ∧
      ∀ p ∈ files, ¬ Stops root r.jsx.isTruthy p := by
  rw [synthesize_eq_inferred hvalid hsource hguide]
  constructor
  · rintro ⟨files, out, hfiles, -, hout, -⟩
    refine ⟨files, hfiles, fun p hp => analyzeFile_ok_iff.mp ?_⟩
    obtain ⟨found, hfound, hout⟩ := Failing.bind_eq_ok.mp hout
    rw [Failing.mapError_eq_ok, hfiles] at hfound
    cases hfound
    obtain ⟨s, hs, -⟩ := Failing.bind_eq_ok.mp hout
    rw [Failing.mapError_eq_ok] at hs
    obtain ⟨parts, hparts, -⟩ := Failing.bind_eq_ok.mp hs
    exact Failing.forall_of_mapM_ok hparts hp
  · rintro ⟨files, hfiles, hgo⟩
    obtain ⟨parts, hparts⟩ := Failing.mapM_ok_of_forall fun p hp =>
      analyzeFile_ok_iff.mpr (hgo p hp)
    have hs : Scan.scanFiles root r.jsx.isTruthy files = .ok (parts.foldl Statistic.merge {}) :=
      Failing.bind_eq_ok.mpr ⟨parts, hparts, rfl⟩
    obtain ⟨hnatural, hcounts⟩ := scanFiles_counts hs
    obtain ⟨f, hf, hright⟩ := resolve_right hthreshold hrep hnatural hcounts
    refine ⟨files, ⟨f.merge r.environmentFragment, files.length,
      (parts.foldl Statistic.merge {}).warnings⟩, hfiles,
      Files.nodup_expand (Failing.mapError_eq_ok.mp hfiles), ?_, ?_⟩
    · simp [Synthesis.inferred, hfiles, hs, hf, Except.mapError, bind, Except.bind, pure,
        Except.pure]
    · rw [rules_merge_environment]
      exact hright

/-- A project of one source file. -/
def projectOf (text : String) : Tree := .folder [("a.js", .file (Text.Utf8.encode text))]

/-- Answers that leave the style of the whole project to its sources. -/
def fromSources : Record := { source := .text "auto", jsx := .bool true, patterns := ["."] }

theorem synthesize_right_call :
    fromSources.validate = .ok () ∧ fromSources.source.text? = some "auto" ∧
    fromSources.styleGuide.isTruthy = false ∧
    Settings.isThreshold ({} : Scan.Options).threshold = true ∧
    ({} : Scan.Options).threshold.Representable ∧
    ∃ files out, Scan.filesOf (projectOf "f('a');\n") {} fromSources.patterns = .ok files ∧
      files.Nodup ∧ Synthesis.synthesize (projectOf "f('a');\n") {} fromSources = .ok out ∧
      RightRules Style.defaultThreshold (observed (projectOf "f('a');\n") true files)
        out.fragment.rules := by
  have hvalid : fromSources.validate = .ok () := rfl
  have hthreshold : Settings.isThreshold ({} : Scan.Options).threshold = true := by decide +kernel
  have hrep : ({} : Scan.Options).threshold.Representable := by
    rw [show ({} : Scan.Options).threshold = .finite false (2 ^ 52) (-53) from Double.half_eq]
    simp [Double.Representable, Double.precision, Double.leastExponent, Double.greatestExponent]
  refine ⟨hvalid, rfl, rfl, hthreshold, hrep,
    (synthesize_right_iff hvalid rfl rfl hthreshold hrep).mpr ⟨[⟨"", ["a.js"]⟩], ?_, ?_⟩⟩
  · decide +kernel
  · intro p hp
    rw [List.mem_singleton.mp hp]
    exact analyzeFile_ok_iff.mp (Failing.exists_ok_of_isSome (by decide +kernel))

/-- A character reference beyond the last character is no syntax error, and halts the scan. -/
theorem synthesize_halted :
    fromSources.validate = .ok () ∧ fromSources.source.text? = some "auto" ∧
    fromSources.styleGuide.isTruthy = false ∧
    Settings.isThreshold ({} : Scan.Options).threshold = true ∧
    ∀ out, Synthesis.synthesize (projectOf "y = <a b=\"&#x110000;\"/>") {} fromSources ≠ .ok out := by
  refine ⟨rfl, rfl, rfl, by decide +kernel, Failing.not_ok_of_isNone ?_⟩
  decide +kernel

end LintConfig.Inference
