import LintConfig.Proofs.Acceptance
import LintConfig.Proofs.Candidates
import LintConfig.Proofs.Layering

/-! # What a record of answers comes to

There are three ways to a configuration: a style guide, the answers themselves, or the sources. All of
them start with the same check, and the last two end alike: with settings for the four style rules in
their order, each of them off or an option that its rule has, and with what the answers say about the
platform. What can come in between are an integer that is too long for the text of a refusal, patterns
that cannot be expanded, and a file that halts the parser. -/
namespace LintConfig.Synthesis
open Answers (Record Refusal)
open Files (Tree)
open Style (Candidate Rule)

/-- The options that the setting of a rule can have. -/
def Admits : Rule → Value → Prop
  | .indent, v => (∃ n : Int, 0 < n ∧ v = .integer n) ∨ v = .text "tab"
  | .quotes, v => ∃ word ∈ ["single", "double"], v.text? = some word
  | .linebreak, v => ∃ word ∈ ["unix", "windows"], v.text? = some word
  | .semi, v => ∃ word ∈ ["always", "never"], v = .text word

/-- A setting is an error with an option that the rule has; if sources decide it can be off. -/
def Settles (r : Record) (rule : Rule) (s : Setting) : Prop :=
  (s = Setting.off ∧ r.source.text? = some "auto") ∨ ∃ v, s = Setting.error v ∧ Admits rule v

/-- Each flag that is asked for stands once and holds true, and there are no others. -/
structure Exactly (flags : Entries Bool) (asked : String → Prop) : Prop where
  nodup : flags.names.Nodup
  mem : ∀ name value, (name, value) ∈ flags ↔ value = true ∧ asked name

/-- What a configuration without a style guide looks like. -/
structure WellFormed (r : Record) (f : Fragment) : Prop where
  base : f.base = some "eslint:recommended"
  rules : ∃ setting : Rule → Setting,
    f.rules = [("indent", setting .indent), ("quotes", setting .quotes),
      ("linebreak-style", setting .linebreak), ("semi", setting .semi)] ∧
    ∀ rule, Settles r rule (setting rule)
  env : Exactly f.env fun name =>
    name ∈ r.env ∨ name = "es6" ∧ r.es6 = .bool true ∨ name = "commonjs" ∧ r.commonjs = .bool true
  ecmaFeatures : Exactly f.ecmaFeatures fun name =>
    name = "jsx" ∧ r.jsx = .bool true ∨
      name = "experimentalObjectRestSpread" ∧ r.jsx = .bool true ∧ r.react = .bool true
  plugins : f.plugins.Nodup ∧
    ∀ name, name ∈ f.plugins ↔ name = "react" ∧ r.jsx = .bool true ∧ r.react = .bool true

/-- What answers are to come to, in a tree and with the options of a scan. -/
structure Contract (root : Tree) (o : Scan.Options) (r : Record) : Prop where
  /-- Answers that do not pass the check are refused, whatever files there are. -/
  refused : ∀ e, r.validate = .error e →
    ∀ root' o', synthesize root' o' r = .error (.refused e)
  unsupported : r.validate = .ok () → r.styleGuide.isTruthy = true →
    (∀ g : StyleGuide, r.styleGuide.text? ≠ some g.name) →
    ∀ root' o', synthesize root' o' r = .error (.unsupportedGuide ⟨r.styleGuide⟩)
  /-- A style guide settles everything, and no file is looked at. -/
  guide : r.validate = .ok () → ∀ g : StyleGuide, r.styleGuide.text? = some g.name →
    ∀ root' o', synthesize root' o' r =
      .ok { fragment := { base := some g.name, plugins := g.plugins }, examined := 0, skipped := [] }
  free : r.validate = .ok () → r.styleGuide.isTruthy = false →
    ∃ out, synthesize root o r = .ok out ∧ WellFormed r out.fragment

/-- Nothing gets in between: what is refused can be put into words, and if the sources are asked, the
patterns can be expanded and no file halts the scan. -/
structure Unhindered (root : Tree) (o : Scan.Options) (r : Record) : Prop where
  refusal : ∀ e, r.validate = .error e → e.isLong = false
  guide : r.validate = .ok () → r.styleGuide.isTruthy = true →
    (∀ g : StyleGuide, r.styleGuide.text? ≠ some g.name) → r.styleGuide.isLong = false
  sources : r.validate = .ok () → r.styleGuide.isTruthy = false → r.source.text? = some "auto" →
    ∃ files, Scan.filesOf root o r.patterns = .ok files ∧
      ∀ p ∈ files, ¬ Inference.Stops root r.jsx.isTruthy p

/-! ### The platform -/

/-- A configuration with settings for rules, and with what answers say about the platform. -/
def onPlatform (r : Record) (rules : Entries Setting) : Fragment :=
  { r.environmentFragment with rules, base := some recommended }

theorem env_eq (r : Record) :
    r.environmentFragment.env = Entries.switchedOn r.environments.eraseDups :=
  Entries.ofList_switchedOn r.environments

theorem keyed_environmentFragment (r : Record) : r.environmentFragment.Keyed where
  rules := List.nodup_nil
  env := by
    rw [env_eq, Entries.names_switchedOn]
    exact nodup_eraseDups _
  ecmaFeatures := by
    simp only [Record.environmentFragment]
    cases r.jsx.isTruthy <;> cases r.usesReact <;> decide

theorem nodup_plugins (r : Record) : r.environmentFragment.plugins.Nodup := by
  simp only [Record.environmentFragment]
  cases r.usesReact <;> decide

/-- Settings made from sources are put on the platform. -/
theorem merge_environment (r : Record) (rules : Entries Setting) :
    ({ rules, base := some recommended } : Fragment).merge r.environmentFragment =
      onPlatform r rules := by
  have hkeyed := keyed_environmentFragment r
  refine Fragment.eq_of_parts rfl (Entries.nil_merge hkeyed.env)
    (Entries.nil_merge hkeyed.ecmaFeatures) ?_ rfl
  rw [Fragment.plugins_merge]
  exact eraseDups_of_nodup (nodup_plugins r)

/-- Settings that answers ask for are put there too, although they come last. -/
theorem fragment_eq (r : Record) : r.fragment = onPlatform r r.styleFragment.rules := by
  have hbase := merge_environment r []
  have hnames : r.styleFragment.rules.names = Rule.all.map Rule.name := rfl
  rw [Record.fragment, hbase]
  refine Fragment.eq_of_parts ?_ rfl rfl ?_ rfl
  · exact Entries.nil_merge (by rw [hnames]; decide)
  · rw [Fragment.plugins_merge, Record.styleFragment, List.append_nil]
    exact eraseDups_of_nodup (nodup_plugins r)

variable {r : Record}

theorem isTruthy_iff {v : Value} (h : ∃ b, v = .bool b) : v.isTruthy = true ↔ v = .bool true := by
  obtain ⟨b, rfl⟩ := h
  cases b <;> simp [Value.isTruthy]

theorem exactly_env (h : r.Valid) : Exactly r.environmentFragment.env fun name =>
    name ∈ r.env ∨ name = "es6" ∧ r.es6 = .bool true ∨
      name = "commonjs" ∧ r.commonjs = .bool true where
  nodup := (keyed_environmentFragment r).env
  mem name value := by
    rw [env_eq, Entries.mem_switchedOn, List.mem_eraseDups, ← isTruthy_iff h.es6,
      ← isTruthy_iff h.commonjs, Record.environments]
    cases r.es6.isTruthy <;> cases r.commonjs.isTruthy <;> simp <;> tauto

theorem usesReact_iff (h : r.Valid) :
    r.usesReact = true ↔ r.jsx = .bool true ∧ r.react = .bool true := by
  rw [Record.usesReact, Bool.and_eq_true, isTruthy_iff h.jsx, isTruthy_iff h.react]

theorem exactly_ecmaFeatures (h : r.Valid) : Exactly r.environmentFragment.ecmaFeatures fun name =>
    name = "jsx" ∧ r.jsx = .bool true ∨
      name = "experimentalObjectRestSpread" ∧ r.jsx = .bool true ∧ r.react = .bool true where
  nodup := (keyed_environmentFragment r).ecmaFeatures
  mem name value := by
    rw [← usesReact_iff h, ← isTruthy_iff h.jsx, Record.environmentFragment]
    cases r.jsx.isTruthy <;> cases r.usesReact <;> simp <;> tauto

theorem mem_plugins (h : r.Valid) (name : String) :
    name ∈ r.environmentFragment.plugins ↔
      name = "react" ∧ r.jsx = .bool true ∧ r.react = .bool true := by
  rw [← usesReact_iff h, Record.environmentFragment]
  cases r.usesReact <;> simp

/-- Together with the right settings this is the configuration that was asked for. -/
theorem wellFormed_onPlatform (h : r.Valid) {setting : Rule → Setting}
    (hsetting : ∀ rule, Settles r rule (setting rule)) :
    WellFormed r (onPlatform r (Rule.all.map fun rule => (rule.name, setting rule))) where
  base := rfl
  rules := ⟨setting, rfl, hsetting⟩
  env := exactly_env h
  ecmaFeatures := exactly_ecmaFeatures h
  plugins := ⟨nodup_plugins r, mem_plugins h⟩

/-! ### The settings -/

theorem admits_candidate {rule : Rule} {v : Candidate} (h : v ∈ rule.candidates) :
    Admits rule v.value := by
  cases rule with
  | indent =>
    rcases List.mem_cons.mp h with rfl | h
    · exact .inr rfl
    · obtain ⟨n, -, rfl⟩ := List.mem_map.mp h
      exact .inl ⟨_, by omega, rfl⟩
  | quotes | linebreak =>
    rcases List.mem_pair.mp h with rfl | rfl <;> exact ⟨_, by simp, rfl⟩
  | semi => rcases List.mem_pair.mp h with rfl | rfl <;> exact ⟨_, by simp, rfl⟩

theorem admits_styleOption (h : r.Valid) (rule : Rule) : Admits rule (r.styleOption rule) := by
  cases rule with
  | indent => exact h.indent
  | quotes => exact h.quotes
  | linebreak => exact h.linebreak
  | semi =>
    refine ⟨_, ?_, rfl⟩
    cases r.semi.isTruthy <;> simp

/-- What the answers alone ask for is well formed, and no rule is off. -/
theorem wellFormed_fragment (h : r.Valid) : WellFormed r r.fragment := by
  rw [fragment_eq]
  exact wellFormed_onPlatform h fun rule => .inr ⟨_, rfl, admits_styleOption h rule⟩

/-! ### The sources -/

section Sources
variable {root : Tree} {o : Scan.Options}

/-- What a scan comes to once its files are found, and what is inferred from it. -/
theorem inferred_eq {files : List Files.Path} {s : Style.Statistic}
    (hfiles : Scan.filesOf root o r.patterns = .ok files)
    (hs : Scan.scanFiles root r.jsx.isTruthy files = .ok s) :
    ∃ dominant : Rule → Option Candidate, (∀ rule v, dominant rule = some v → v ∈ rule.candidates) ∧
      inferred root o r = .ok {
        fragment := onPlatform r
          (Rule.all.map fun rule => (rule.name, Style.settingOf (dominant rule)))
        examined := files.length
        skipped := s.warnings } := by
  obtain ⟨dominant, hresolve, hcandidates⟩ := Inference.resolve_candidates hs o.threshold
  refine ⟨dominant, hcandidates, ?_⟩
  rw [← merge_environment]
  simp [inferred, hfiles, hs, hresolve, Except.mapError, bind, Except.bind, pure, Except.pure]

/-- What is inferred comes from a scan of the files that were found. -/
theorem scan_of_inferred {out : Outcome} (h : inferred root o r = .ok out) :
    ∃ files s, Scan.filesOf root o r.patterns = .ok files ∧
      Scan.scanFiles root r.jsx.isTruthy files = .ok s := by
  obtain ⟨files, hfiles, hrest⟩ := Failing.bind_eq_ok.mp h
  obtain ⟨s, hs, -⟩ := Failing.bind_eq_ok.mp hrest
  exact ⟨files, s, Failing.mapError_eq_ok.mp hfiles, Failing.mapError_eq_ok.mp hs⟩

/-- There is always something to infer from files that can be found and do not halt the scan. -/
theorem inferred_ok_iff : (∃ out, inferred root o r = .ok out) ↔
    ∃ files, Scan.filesOf root o r.patterns = .ok files ∧
      ∀ p ∈ files, ¬ Inference.Stops root r.jsx.isTruthy p := by
  constructor
  · rintro ⟨out, hout⟩
    obtain ⟨files, s, hfiles, hs⟩ := scan_of_inferred hout
    exact ⟨files, hfiles, Inference.scanFiles_ok_iff.mp ⟨s, hs⟩⟩
  · rintro ⟨files, hfiles, hgo⟩
    obtain ⟨s, hs⟩ := Inference.scanFiles_ok_iff.mpr hgo
    obtain ⟨dominant, -, hinferred⟩ := inferred_eq hfiles hs
    exact ⟨_, hinferred⟩

/-- What is inferred is well formed. -/
theorem wellFormed_inferred (h : r.Valid) (hauto : r.source.text? = some "auto") {out : Outcome}
    (hout : inferred root o r = .ok out) : WellFormed r out.fragment := by
  obtain ⟨files, s, hfiles, hs⟩ := scan_of_inferred hout
  obtain ⟨dominant, hcandidates, hinferred⟩ := inferred_eq hfiles hs
  rw [hinferred] at hout
  cases hout
  refine wellFormed_onPlatform h fun rule => ?_
  cases hdominant : dominant rule with
  | none => exact .inl ⟨rfl, hauto⟩
  | some v => exact .inr ⟨v.value, rfl, admits_candidate (hcandidates rule v hdominant)⟩

/-! ### The three ways -/

theorem synthesize_refused {e : Refusal} (h : r.validate = .error e) (root : Tree)
    (o : Scan.Options) : synthesize root o r = .error (Failure.ofRefusal e) := by
  rw [synthesize, h]
  rfl

theorem synthesize_guide (h : r.validate = .ok ()) (hguide : r.styleGuide.isTruthy = true)
    (root : Tree) (o : Scan.Options) : synthesize root o r =
      match StyleGuide.resolve r.styleGuide with
      | .ok f => .ok { fragment := f }
      | .error e => .error (Failure.ofUnsupported e) := by
  simp only [synthesize, h, hguide, if_true, Except.mapError, bind, Except.bind]
  cases StyleGuide.resolve r.styleGuide <;> rfl

theorem synthesize_prompt (h : r.validate = .ok ()) (hguide : r.styleGuide.isTruthy = false)
    (hprompt : r.source.text? = some "prompt") (root : Tree) (o : Scan.Options) :
    synthesize root o r = .ok { fragment := r.fragment } := by
  simp [synthesize, h, hguide, hprompt, Except.mapError, bind, Except.bind, pure, Except.pure]

theorem resolve_name (g : StyleGuide) {v : Value} (h : v.text? = some g.name) :
    StyleGuide.resolve v = .ok g.fragment := by
  rw [StyleGuide.resolve, h]
  cases g <;> rfl

theorem resolve_unnamed {v : Value} (h : ∀ g : StyleGuide, v.text? ≠ some g.name) :
    StyleGuide.resolve v = .error ⟨v⟩ := by
  have hnone : v.text?.bind StyleGuide.ofName? = none := by
    cases hv : v.text? with
    | none => rfl
    | some name =>
      rw [Option.bind_some, StyleGuide.ofName?, List.find?_eq_none]
      intro g _ hg
      rw [beq_iff_eq] at hg
      exact h g (by rw [hv, hg])
  rw [StyleGuide.resolve, hnone]

theorem isTruthy_of_name {v : Value} {g : StyleGuide} (h : v.text? = some g.name) :
    v.isTruthy = true := by
  cases v <;> simp [Value.text?] at h
  · rw [h]
    cases g <;> rfl
  · rfl

/-- Answers come to what they are to come to, exactly if nothing gets in between. -/
theorem contract_iff (root : Tree) (o : Scan.Options) (r : Record) :
    Contract root o r ↔ Unhindered root o r := by
  constructor
  · intro h
    refine ⟨fun e he => ?_, fun hvalid htruthy hunknown => ?_, fun hvalid hguide hauto => ?_⟩
    · have hrefused := h.refused e he root o
      rw [synthesize_refused he, Failure.ofRefusal] at hrefused
      cases hlong : e.isLong with
      | true => simp [hlong] at hrefused
      | false => rfl
    · have hunsupported := h.unsupported hvalid htruthy hunknown root o
      rw [synthesize_guide hvalid htruthy, resolve_unnamed hunknown] at hunsupported
      cases hlong : r.styleGuide.isLong with
      | true => simp [Failure.ofUnsupported, hlong] at hunsupported
      | false => rfl
    · obtain ⟨out, hout, -⟩ := h.free hvalid hguide
      rw [Inference.synthesize_eq_inferred hvalid hauto hguide] at hout
      exact inferred_ok_iff.mp ⟨out, hout⟩
  · intro h
    refine ⟨fun e he root' o' => ?_, fun hvalid htruthy hunknown root' o' => ?_,
      fun hvalid g hname root' o' => ?_, fun hvalid hguide => ?_⟩
    · rw [synthesize_refused he, Failure.ofRefusal, h.refusal e he]
      rfl
    · rw [synthesize_guide hvalid htruthy, resolve_unnamed hunknown]
      simp [Failure.ofUnsupported, h.guide hvalid htruthy hunknown]
    · rw [synthesize_guide hvalid (isTruthy_of_name hname), resolve_name g hname]
      rfl
    · have hchecked := Answers.validate_eq_ok.mp hvalid
      rcases hchecked.prompt_or_auto with hprompt | hauto
      · exact ⟨_, synthesize_prompt hvalid hguide hprompt root o, wellFormed_fragment hchecked⟩
      · obtain ⟨out, hout⟩ := inferred_ok_iff.mpr (h.sources hvalid hguide hauto)
        refine ⟨out, ?_, wellFormed_inferred hchecked hauto hout⟩
        rw [Inference.synthesize_eq_inferred hvalid hauto hguide, hout]

/-- What is synthesized comes from a style guide, from the answers alone, or from sources. -/
theorem way_of_synthesize {out : Outcome} (h : synthesize root o r = .ok out) :
    (∃ g : StyleGuide, out.fragment = g.fragment) ∨ r.Valid ∧
      (out.fragment = r.fragment ∨ r.source.text? = some "auto" ∧ inferred root o r = .ok out) := by
  cases hvalid : r.validate with
  | error e =>
    rw [synthesize_refused hvalid] at h
    cases h
  | ok u =>
    have hchecked := Answers.validate_eq_ok.mp hvalid
    cases hguide : r.styleGuide.isTruthy with
    | true =>
      rw [synthesize_guide hvalid hguide, StyleGuide.resolve] at h
      cases hname : r.styleGuide.text?.bind StyleGuide.ofName? with
      | none => simp [hname] at h
      | some g =>
        simp only [hname, Except.ok.injEq] at h
        exact .inl ⟨g, h ▸ rfl⟩
    | false =>
      refine .inr ⟨hchecked, ?_⟩
      rcases hchecked.prompt_or_auto with hprompt | hauto
      · rw [synthesize_prompt hvalid hguide hprompt] at h
        cases h
        exact .inl rfl
      · rw [Inference.synthesize_eq_inferred hvalid hauto hguide] at h
        exact .inr ⟨hauto, h⟩

/-- There are no other configurations than those of style guides and those that are well formed. -/
theorem shape_of_synthesize {out : Outcome} (h : synthesize root o r = .ok out) :
    (∃ g : StyleGuide, out.fragment = g.fragment) ∨ WellFormed r out.fragment := by
  obtain hguide | ⟨hvalid, hfragment | ⟨hauto, hinferred⟩⟩ := way_of_synthesize h
  · exact .inl hguide
  · exact .inr (hfragment ▸ wellFormed_fragment hvalid)
  · exact .inr (wellFormed_inferred hvalid hauto hinferred)

end Sources

/-- The parser comes to a halt over a template with an empty substitution, where a syntax error would
leave a warning. -/
theorem not_contract_substitution :
    ¬ Contract (Inference.projectOf "`$\x7b\x7d`") {} Inference.fromSources := by
  intro h
  obtain ⟨out, hout, -⟩ := h.free rfl rfl
  exact Failing.not_ok_of_isNone (by decide +kernel) out hout

end LintConfig.Synthesis
