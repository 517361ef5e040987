import LintConfig.Proofs.Contract

/-! # Two ways to the same configuration

The style comes from the answers or from the sources; all else comes from the answers. So the two
configurations differ in their settings alone: what one way does not ask for has no part in what it
comes to. There is a second configuration to compare as long as there is something to infer. -/
namespace LintConfig.Synthesis
open Answers (Record)
open Files (Tree)
open Style (Rule)

/-- The record with its style left to the answers. -/
def prompted (r : Record) : Record := { r with source := .text "prompt" }

/-- The record with its style left to the sources. -/
def inferring (r : Record) : Record := { r with source := .text "auto" }

/-- Two configurations that differ in the settings of their rules alone. -/
structure Alike (f g : Fragment) : Prop where
  env : f.env = g.env
  ecmaFeatures : f.ecmaFeatures = g.ecmaFeatures
  plugins : f.plugins = g.plugins
  base : f.base = g.base
  rules : f.rules.names = g.rules.names

/-- The two ways agree, and neither looks at what belongs to the other. -/
structure Agreement (root : Tree) (o : Scan.Options) (r : Record) : Prop where
  alike : ∃ asked found, synthesize root o (prompted r) = .ok asked ∧
    synthesize root o (inferring r) = .ok found ∧ Alike asked.fragment found.fragment
  /-- What the sources show is not mixed with answers about style. -/
  sources : ∀ indent quotes linebreak semi format,
    { inferring r with indent, quotes, linebreak, semi, format }.validate = .ok () →
    synthesize root o { inferring r with indent, quotes, linebreak, semi, format } =
      synthesize root o (inferring r)
  /-- What the answers ask for has nothing to do with files. -/
  answers : ∀ patterns format root' o', { prompted r with patterns, format }.validate = .ok () →
    synthesize root' o' { prompted r with patterns, format } = synthesize root o (prompted r)

variable {root : Tree} {o : Scan.Options} {r : Record}

theorem validate_prompted (h : r.validate = .ok ()) : (prompted r).validate = .ok () := by
  have hr := Answers.validate_eq_ok.mp h
  exact Answers.validate_eq_ok.mpr { hr with source := ⟨"prompt", by decide, rfl⟩ }

theorem validate_inferring (h : r.validate = .ok ()) : (inferring r).validate = .ok () := by
  have hr := Answers.validate_eq_ok.mp h
  exact Answers.validate_eq_ok.mpr { hr with source := ⟨"auto", by decide, rfl⟩ }

/-- On one platform configurations differ by their rules alone. -/
theorem alike_onPlatform {rules rules' : Entries Setting} (h : rules.names = rules'.names) :
    Alike (onPlatform r rules) (onPlatform r rules') := ⟨rfl, rfl, rfl, rfl, h⟩

/-- Where the sources are asked, only the patterns and the platform of a record count. -/
theorem inferred_congr {r' : Record} (hpatterns : r'.patterns = r.patterns) (hjsx : r'.jsx = r.jsx)
    (hplatform : r'.environmentFragment = r.environmentFragment) :
    inferred root o r' = inferred root o r := by
  rw [inferred, inferred, hpatterns, hjsx, hplatform]

/-- For checked answers without a style guide the two ways agree, exactly if the patterns can be
expanded and none of the files halts the scan. -/
theorem agreement_iff (hvalid : r.validate = .ok ()) (hguide : r.styleGuide.isTruthy = false) :
    Agreement root o r ↔ ∃ files, Scan.filesOf root o r.patterns = .ok files ∧
      ∀ p ∈ files, ¬ Inference.Stops root r.jsx.isTruthy p := by
  have hprompt := synthesize_prompt (validate_prompted hvalid) hguide rfl
  have hauto : synthesize root o (inferring r) = inferred root o (inferring r) :=
    Inference.synthesize_eq_inferred (validate_inferring hvalid) rfl hguide
  constructor
  · intro h
    obtain ⟨asked, found, -, hfound, -⟩ := h.alike
    rw [hauto] at hfound
    exact inferred_ok_iff.mp ⟨found, hfound⟩
  · rintro ⟨files, hfiles, hgo⟩
    refine ⟨?_, fun indent quotes linebreak semi format hother => ?_,
      fun patterns format root' o' hother => ?_⟩
    · obtain ⟨s, hs⟩ := Inference.scanFiles_ok_iff.mpr hgo
      obtain ⟨dominant, -, hinferred⟩ := inferred_eq (r := inferring r) hfiles hs
      refine ⟨_, _, hprompt root o, hauto.trans hinferred, ?_⟩
      rw [fragment_eq]
      exact alike_onPlatform rfl
    · rw [hauto, Inference.synthesize_eq_inferred hother rfl hguide]
      exact inferred_congr rfl rfl rfl
    · rw [hprompt root o, synthesize_prompt hother hguide rfl]
      rfl

/-- Answers with a platform and a style of their own, for one source file. -/
def mixed : Record where
  source := .text "auto"
  indent := .text "tab"
  es6 := .bool true
  env := ["node", "es6", "mocha"]
  jsx := .bool true
  react := .bool true
  commonjs := .bool true
  patterns := ["."]

theorem agreement_mixed :
    mixed.validate = .ok () ∧ mixed.styleGuide.isTruthy = false ∧
    Agreement (Inference.projectOf "f('a');\n") {} mixed := by
  refine ⟨rfl, rfl, (agreement_iff rfl rfl).mpr ⟨[⟨"", ["a.js"]⟩], by decide +kernel, ?_⟩⟩
  intro p hp
  rw [List.mem_singleton.mp hp]
  exact Inference.analyzeFile_ok_iff.mp (Failing.exists_ok_of_isSome (by decide +kernel))

/-- Over a template with an empty substitution there is nothing to agree with. -/
theorem not_agreement_substitution :
    Inference.fromSources.validate = .ok () ∧ Inference.fromSources.styleGuide.isTruthy = false ∧
    ¬ Agreement (Inference.projectOf "`$\x7b\x7d`") {} Inference.fromSources := by
  refine ⟨rfl, rfl, fun h => ?_⟩
  obtain ⟨asked, found, -, hfound, -⟩ := h.alike
  exact Failing.not_ok_of_isNone (by decide +kernel) found hfound

end LintConfig.Synthesis
