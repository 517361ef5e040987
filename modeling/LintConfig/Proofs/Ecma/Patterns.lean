import LintConfig.Proofs.Ecma.Composition

/-! # Names, keys, templates and patterns

Each of them is read to an end that is no semicolon, if the parts of the grammar that it refers to
are. -/
namespace LintConfig.Ecma

/-- The nodes of a parameter list are its parameters. -/
instance : Holds Parser.Parameters := ⟨(·.nodes)⟩

namespace Parser
variable {text : List Char} {g : Grammar} {start : Nat}

theorem not_semicolon_of_lexeme {t : Token} {l : Lexeme} (h : t.lexeme = l)
    (hl : l ≠ .punctuator .semicolon) : t.isPunctuator .semicolon = false :=
  beq_eq_false_iff_ne.mpr (h ▸ hl)

/-! ### Names and keys -/

theorem parseName_ends : Ends text parseName :=
  mark_looks.bind fun _ _ => advance_leads.bind fun t _ => .ite
    (fun h => .of_behind (not_semicolon_of_name h) identifier_leads)
    fun _ => (unexpected_fails t).leads

theorem not_semicolon_of_value {t : Token} (h : t.value ≠ ";") :
    t.isPunctuator .semicolon = false := by
  by_contra hne
  have hl : t.lexeme = .punctuator .semicolon :=
    beq_iff_eq.mp (Bool.not_eq_false _ ▸ hne)
  exact h (by rw [Token.value, hl]; rfl)

theorem parseBindingName_ends (kind : BindingKind) : Ends text (parseBindingName kind) := by
  unfold parseBindingName
  refine mark_looks.bind fun start _ => advance_leads.bind fun t _ => context_looks.bind fun c _ => ?_
  extract_lets named
  have hnamed : ∀ u, Leads text .ended (named u) fun _ => .ended := fun _ => identifier_leads
  split
  · rename_i hlexeme
    exact .of_behind (not_semicolon_of_lexeme hlexeme nofun) (.unless (failAt_fails _ _) fun _ =>
      .unless (unexpected_fails _) fun _ => hnamed ())
  · rename_i hlexeme
    exact .of_behind (not_semicolon_of_lexeme hlexeme nofun) (.unless (failAt_fails _ _) fun _ =>
      .unless (unexpected_fails _) fun _ => hnamed ())
  · rename_i hlexeme
    exact .of_behind (not_semicolon_of_lexeme hlexeme nofun)
      (.unless (unexpected_fails _) fun _ => hnamed ())
  · refine .unless (unexpected_fails _) fun hlet => .of_behind (not_semicolon_of_value ?_) (hnamed ())
    intro hvalue
    simp [hvalue] at hlet

theorem parsePropertyKey_ends (hg : Sound text g) : Ends text (parsePropertyKey g) := by
  unfold parsePropertyKey
  refine mark_looks.bind fun start _ => advance_leads.bind fun t _ => ?_
  have hliteral : ∀ {l}, t.lexeme = l → l ≠ .punctuator .semicolon →
      Leads text (.behind t) (literal start t) fun _ => .ended := by
    intro l hl hne s n s' hs hn
    obtain ⟨hgood, hs'⟩ := literal_leads hs hn
    exact ⟨hgood, hs'.ended_of_behind (not_semicolon_of_lexeme hl hne)⟩
  split
  · rename_i hlexeme
    exact context_looks.bind fun _ _ => .unless (failAt_fails _ _) fun _ => hliteral hlexeme nofun
  · rename_i hlexeme
    exact context_looks.bind fun _ _ => .unless (failAt_fails _ _) fun _ => hliteral hlexeme nofun
  · refine (isolated_leads hg.assignment).bind fun key hkey => ?_
    exact (expect_ends .rightBracket nofun).bind fun _ _ => .pure hkey
  · exact .ite (fun h => .of_behind (not_semicolon_of_name h) identifier_leads)
      fun _ => (unexpected_fails t).leads

/-! ### Templates -/

theorem parseTemplateElement_ends : Ends text parseTemplateElement := by
  refine mark_looks.bind fun start _ => advance_leads.bind fun t _ => ?_
  split
  · rename_i hlexeme
    refine .of_behind (not_semicolon_of_lexeme hlexeme nofun) ?_
    exact (finish_plain (by simp) rfl).andThen fun n hn => .pure (by simp [hn])
  · exact (unexpected_fails t).leads

theorem parseTemplateRest_leads (hg : Sound text g) (fuel : Nat) (closed : Bool) :
    Leads text .ended (parseTemplateRest g fuel closed) fun _ => .ended := by
  induction fuel generalizing closed with
  | zero =>
    cases closed with
    | true => exact .pure (by simp)
    | false => exact tooDeep_fails.leads
  | succ fuel ih =>
    cases closed with
    | true => exact .pure (by simp)
    | false =>
      refine hg.expression.bind fun e he => lookahead_looks.bind fun _ _ => .ite (fun _ => ?_) ?_
      · refine parseTemplateElement_ends.bind fun (q, tail) hq => ?_
        refine (ih tail).bind fun (qs, es) hrest => .pure ?_
        simp_all
      · exact fun _ => (fail_fails _).leads

theorem parseTemplate_ends (hg : Sound text g) : Ends text (parseTemplate g) := by
  refine mark_looks.bind fun start _ => parseTemplateElement_ends.bind fun (q, tail) hq => ?_
  refine tokensLeft_looks.bind fun fuel _ => ?_
  refine (parseTemplateRest_leads hg fuel tail).bind fun (qs, es) hrest => finish_plain ?_ rfl
  simp_all

/-! ### Patterns -/

theorem parsePatternWithDefault_ends (hg : Sound text g) (kind : BindingKind) :
    Ends text (parsePatternWithDefault g kind) := by
  refine lookahead_looks.bind fun t _ => (hg.pattern kind).bind fun pattern hpattern => ?_
  refine (accept_leads .assign nofun).andThen fun b _ => .cond ?_ (.pure hpattern)
  refine context_looks.bind fun c _ => (modifyContext_looks _).bind fun _ _ => ?_
  refine (isolated_leads hg.assignment).bind fun right hright => ?_
  exact (modifyContext_looks _).bind fun _ _ => finish_plain (by simp [hpattern, hright]) rfl

theorem parseArrayPattern_elements_leads (hg : Sound text g) (kind : BindingKind) (fuel : Nat) :
    Leads text .ended (parseArrayPattern.elements g kind fuel) fun _ => .ended := by
  induction fuel with
  | zero => exact tooDeep_fails.leads
  | succ fuel ih =>
    unfold parseArrayPattern.elements
    refine (sees_looks _).bind fun _ _ => .ite (fun _ => .pure (by simp)) fun _ => ?_
    refine (accept_leads .comma nofun).andThen fun b _ => .cond ?_ ?_
    · exact ih.bind fun items hitems => .pure (by simp [hitems])
    refine (sees_looks _).bind fun _ _ => .ite (fun _ => ?_) fun _ => ?_
    · refine mark_looks.bind fun start _ => (expect_ends .ellipsis nofun).bind fun _ _ => ?_
      refine (hg.pattern kind).bind fun arg harg => ?_
      exact (finish_plain (by simp [harg]) rfl).andThen fun n hn => .pure (by simp [hn])
    · refine (parsePatternWithDefault_ends hg kind).bind fun e he => .separated ?_ nofun
      exact ih.bind fun items hitems => .pure (by simp [he, hitems])

theorem parseArrayPattern_ends (hg : Sound text g) (kind : BindingKind) :
    Ends text (parseArrayPattern g kind) := by
  refine mark_looks.bind fun start _ => (expect_ends .leftBracket nofun).bind fun _ _ => ?_
  refine tokensLeft_looks.bind fun fuel _ => ?_
  refine (parseArrayPattern_elements_leads hg kind fuel).bind fun items hitems => ?_
  exact (expect_ends .rightBracket nofun).bind fun _ _ => finish_plain (by simp [hitems]) rfl

theorem propertyFields_good {kind : String} {key value : Node} (computed method shorthand : Bool)
    (hkey : Good text key) (hvalue : Good text value) :
    Good text (propertyFields kind key value computed method shorthand) := by
  simp [propertyFields, hkey, hvalue]

theorem parsePropertyPattern_ends (hg : Sound text g) (kind : BindingKind) :
    Ends text (parsePropertyPattern g kind) := by
  refine mark_looks.bind fun start _ => lookahead_looks.bind fun t _ => .ite (fun _ => ?_) fun _ => ?_
  · refine (parseBindingName_ends .parameter).bind fun key hkey => ?_
    refine identifier_leads.andThen fun init hinit => (sees_looks _).bind fun _ _ => ?_
    refine .ite (fun _ => ?_) fun _ => ?_
    · refine (bind_looks t).bind fun _ _ => advance_leads.bind fun _ _ => ?_
      refine hg.assignment.bind fun e he => ?_
      refine (finish_plain (by simp [hinit, he]) rfl).andThen fun value hvalue => ?_
      exact finish_plain (propertyFields_good _ _ _ hkey hvalue) rfl
    · refine (accept_leads .colon nofun).andThen fun b _ => .cond ?_ ?_
      · refine (parsePatternWithDefault_ends hg kind).bind fun value hvalue => ?_
        exact finish_plain (propertyFields_good _ _ _ hkey hvalue) rfl
      · exact (bind_looks t).bind fun _ _ => finish_plain (propertyFields_good _ _ _ hkey hinit) rfl
  · refine (sees_looks _).bind fun computed _ => (parsePropertyKey_ends hg).bind fun key hkey => ?_
    refine (expect_ends .colon nofun).bind fun _ _ => ?_
    refine (parsePatternWithDefault_ends hg kind).bind fun value hvalue => ?_
    exact finish_plain (propertyFields_good _ _ _ hkey hvalue) rfl

/-- A rest element, which has to be the last of its list. -/
theorem rest_ends {kind : BindingKind} {close : Punctuator} {cause : Cause} (hg : Sound text g) :
    Ends text (do
      let start ← mark
      expect .ellipsis
      let arg ← g (.pattern kind)
      if ← sees .assign then fail .defaultOfRest
      unless ← sees close do fail cause
      finish start .restElement [field "argument" arg]) := by
  refine mark_looks.bind fun start _ => (expect_ends .ellipsis nofun).bind fun _ _ => ?_
  refine (hg.pattern kind).bind fun arg harg => (sees_looks _).bind fun _ _ => ?_
  refine .unless (fail_fails _) fun _ => (sees_looks _).bind fun _ _ => ?_
  exact .when (fail_fails _) fun _ => finish_plain (by simp [harg]) rfl

theorem parseRestProperty_ends (hg : Sound text g) : Ends text (parseRestProperty g) := rest_ends hg

theorem parseObjectPattern_ends (hg : Sound text g) (kind : BindingKind) :
    Ends text (parseObjectPattern g kind) := by
  refine mark_looks.bind fun start _ => (expect_ends .leftBrace nofun).bind fun _ _ => ?_
  extract_lets separated property
  have hseparated : ∀ n, Good text n → Leads text .ended (separated n) fun _ => .ended :=
    fun n hn => .separated (.pure hn) nofun
  have hproperty : Ends text property := (sees_looks _).bind fun _ _ => .ite
    (fun _ => (parseRestProperty_ends hg).bind hseparated)
    fun _ => (parsePropertyPattern_ends hg kind).bind hseparated
  refine tokensLeft_looks.bind fun fuel _ => ?_
  refine (untilDone_ends (sees_looks _) hproperty fuel).bind fun ps hps => ?_
  exact (expect_ends .rightBrace nofun).bind fun _ _ => finish_plain (by simp [hps]) rfl

theorem parsePattern_ends (hg : Sound text g) (kind : BindingKind) :
    Ends text (parsePattern g kind) := by
  refine (sees_looks _).bind fun _ _ => .ite (fun _ => parseArrayPattern_ends hg kind) fun _ => ?_
  refine (sees_looks _).bind fun _ _ => .ite (fun _ => parseObjectPattern_ends hg kind) fun _ => ?_
  refine lookahead_looks.bind fun t _ => .unless (failAt_fails _ _) fun _ => ?_
  exact (bind_looks t).bind fun _ _ => parseBindingName_ends kind

/-! ### Parameters -/

theorem add_nodes (ps : Parameters) (strict : Bool) (line : Option Nat) (name : String) :
    (ps.add strict line name).nodes = ps.nodes := by
  unfold Parameters.add
  dsimp only
  split
  · split <;> split <;> rfl
  · split
    · split
      · rfl
      · split
        · rfl
        · split <;> rfl
    · rfl

theorem foldl_add_nodes (bound : List Token) (ps : Parameters) (strict : Bool) :
    (bound.foldl (fun ps t => ps.add strict (some t.line) t.value) ps).nodes = ps.nodes := by
  induction bound generalizing ps with
  | nil => rfl
  | cons t bound ih => rw [List.foldl_cons, ih, add_nodes]

theorem parameters_good {ps : Parameters} : Good text ps ↔ Good text ps.nodes := by
  simp [Good, Holds.nodes]

theorem parseRestParameter_ends (hg : Sound text g) : Ends text (parseRestParameter g) := rest_ends hg

theorem parseParameter_ends (hg : Sound text g) {ps : Parameters} (hps : Good text ps) :
    Ends text (parseParameter g ps) := by
  unfold parseParameter
  extract_lets one
  have hone : Ends text one := (sees_looks _).bind fun _ _ =>
    .ite (fun _ => parseRestParameter_ends hg) fun _ => parsePatternWithDefault_ends hg _
  refine (collecting_leads hone).bind fun (param, bound) hparam => context_looks.bind fun c _ => ?_
  refine .pure (parameters_good.mpr ?_)
  rw [parameters_good] at hps
  simpa [foldl_add_nodes, hps] using (Good.of_pair.mp hparam).1

theorem parseParameters_list_leads (hg : Sound text g) (fuel : Nat) {ps : Parameters}
    (hps : Good text ps) :
    Leads text .ended (parseParameters.list g fuel ps) fun _ => .ended := by
  induction fuel generalizing ps with
  | zero => exact tooDeep_fails.leads
  | succ fuel ih =>
    unfold parseParameters.list
    refine lookahead_looks.bind fun t _ => .ite (fun _ => .pure hps) fun _ => ?_
    refine (parseParameter_ends hg hps).bind fun ps hps => (sees_looks _).bind fun _ _ => ?_
    refine .ite (fun _ => .pure hps) fun _ => (expect_ends .comma nofun).bind fun _ _ => ?_
    exact (sees_looks _).bind fun _ _ => .ite (fun _ => .pure hps) fun _ => ih hps

theorem parseParameters_ends (hg : Sound text g) (name : Option (Option Nat)) :
    Ends text (parseParameters g name) := by
  refine (expect_ends .leftParen nofun).bind fun _ _ => ?_
  extract_lets empty rest
  have hempty : Good text empty := parameters_good.mpr (by simp [empty])
  have hrest : ∀ ps, Good text ps → Leads text .ended (rest ps) fun _ => .ended :=
    fun ps hps => (expect_ends .rightParen nofun).bind fun _ _ => .pure hps
  refine (sees_looks _).bind fun _ _ => .ite (fun _ => ?_) fun _ => ?_
  · exact (Leads.pure hempty).andThen hrest
  · exact tokensLeft_looks.bind fun fuel _ => (parseParameters_list_leads hg fuel hempty).bind hrest

end Parser

end LintConfig.Ecma
