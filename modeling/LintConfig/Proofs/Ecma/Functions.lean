import LintConfig.Proofs.Ecma.Patterns

/-! # Functions and classes

They end with the brace that closes their bodies. Statements stand only within, and a directive is a
statement. -/
namespace LintConfig.Ecma

/-- The node of an element's beginning is its key. -/
instance : Holds Parser.ElementHead := ⟨fun head => head.key.toList⟩

namespace Parser
variable {text : List Char} {g : Grammar}

/-! ### Bodies -/

theorem parseDirective_goes (hg : Sound text g) : Goes text (parseDirective g) := by
  unfold parseDirective
  refine lookahead_looks.bind fun t _ => mark_looks.bind fun start _ => ?_
  refine hg.expression.bind fun e he => ?_
  extract_lets content directive
  clear_value directive
  refine endStatement_leads.bind fun _ _ => ?_
  split
  · exact (finish_statement (by simp [he]) (by decide)).andThen fun n hn => .pure (by simp [hn])
  · exact (finish_statement (by simp [he]) (by decide)).andThen fun n hn => .pure (by simp [hn])

theorem parseDirectives_leads (hg : Sound text g) (fuel : Nat) (octal : Option Token) :
    Leads text .reading (parseDirectives g fuel octal) fun _ => .reading := by
  induction fuel generalizing octal with
  | zero => exact tooDeep_fails.leads
  | succ fuel ih =>
    unfold parseDirectives
    refine lookahead_looks.bind fun t _ => .ite (fun _ => .pure (by simp)) fun _ => ?_
    refine (parseDirective_goes hg).bind fun (statement, directive) h => ?_
    obtain ⟨hstatement, -⟩ := Good.of_pair.mp h
    have hmore : ∀ o, Leads text .begun
        (do return statement :: (← parseDirectives g fuel o)) fun _ => .reading :=
      fun o => (ih o).bind fun rest hrest => .pure (by simp [hstatement, hrest])
    cases directive with
    | none => exact .pure (by simp [hstatement])
    | some d =>
      refine .ite (fun _ => (modifyContext_looks _).bind fun _ _ => ?_) fun _ => hmore _
      have hallowed : Leads text .begun (do
          unless (← context).allowStrictDirective do failAt t .illegalStrictDirective
          return statement :: (← parseDirectives g fuel octal)) fun _ => .reading :=
        context_looks.bind fun c _ => .when (failAt_fails _ _) fun _ => hmore _
      cases octal with
      | none => exact hallowed
      | some o => exact (failAt_fails _ _).bind.leads

theorem parseFunctionBody_ends (hg : Sound text g) : Ends text (parseFunctionBody g) := by
  refine mark_looks.bind fun start _ => (expect_ends .leftBrace nofun).bind fun _ _ => ?_
  refine tokensLeft_looks.bind fun fuel _ => ?_
  refine (parseDirectives_leads hg fuel none).bind fun directives hdirectives => ?_
  refine context_looks.bind fun before _ => (modifyContext_looks _).bind fun _ _ => ?_
  have hdone : Looks text (do return (← lookahead).isEnd || (← sees .rightBrace) : Parse Bool) :=
    lookahead_looks.andThen fun _ _ => (sees_looks _).andThen fun _ _ => .pure (by simp)
  refine tokensLeft_looks.bind fun fuel _ => ?_
  refine (untilDone_goes hdone hg.statementItem fuel).bind fun statements hs => ?_
  refine (expect_ends .rightBrace nofun).bind fun _ _ => (modifyContext_looks _).bind fun _ _ => ?_
  exact finish_plain (by simp [hdirectives, hs]) rfl

/-! ### Declarations and expressions -/

theorem nameObjection_looks (t : Token) : Looks text (nameObjection t) := by
  refine context_looks.andThen fun c _ => .ite ?_ ?_
  · refine .ite (failAt_fails _ _).bind.looks (.pure (by simp))
  · exact .ite (.pure (by simp)) (.ite (.pure (by simp)) (.pure (by simp)))

/-- The objections to the parameters of a function that turns out to be strict. -/
theorem objections_lead {σ : Stage} {α : Type} [Holds α] {ps : Parameters} {cause : Cause}
    {k : Unit → Parse α} {τ : α → Stage} (hk : Leads text σ (k ()) τ) :
    Leads text σ (do
      if (← context).strict then
        if let some line := ps.laterObjection then object line cause
        if let some line := ps.objection then object line cause
      k ()) τ := by
  refine context_looks.bind fun c _ => .ite (fun _ => ?_) fun _ => hk
  cases ps.laterObjection with
  | some line => exact (object_fails _ _).bind.leads
  | none =>
    cases ps.objection with
    | some line => exact (object_fails _ _).bind.leads
    | none => exact hk

theorem functionFields_good {id : Option Node} {params : List Node} {body : Node}
    (generator async : Bool) (hid : Good text id) (hparams : Good text params)
    (hbody : Good text body) : Good text (functionFields id params body generator async) := by
  simp [functionFields, hid, hparams, hbody]

theorem parseFunctionRest_ends (hg : Sound text g) (objection : Option (Option Nat))
    (cause : Option Cause) : Ends text (parseFunctionRest g objection cause) := by
  refine (parseParameters_ends hg objection).bind fun ps hps => ?_
  refine (modifyContext_looks _).bind fun _ _ => hg.functionBody.bind fun body hbody => ?_
  exact objections_lead (k := fun _ => pure (ps.nodes, body))
    (.pure (by simp [parameters_good.mp hps, hbody]))

theorem parseFunctionHead_ends : Ends text parseFunctionHead := by
  refine (acceptWord_leads "async").andThen fun async _ => ?_
  have hrest : Ends text (do
      expectKeyword .function
      if async then return (true, false) else return (false, ← accept .times)) := by
    refine (expectKeyword_ends _).bind fun _ _ => .ite (fun _ => .pure (by simp)) fun _ => ?_
    exact (accept_leads .times nofun).either.bind fun _ _ => .pure (by simp)
  exact hrest.mono

theorem parseFunctionDeclaration_ends (hg : Sound text g) (nameIsOptional : Bool) :
    Ends text (parseFunctionDeclaration g nameIsOptional) := by
  refine mark_looks.bind fun start _ => parseFunctionHead_ends.bind ?_
  rintro ⟨async, generator⟩ -
  refine (sees_looks _).bind fun _ _ => ?_
  extract_lets rest
  have hrest : ∀ x, Good text x → Leads text .ended (rest x) fun _ => .ended := by
    rintro ⟨id, objection, cause⟩ h
    refine (withFunctionContext_leads ((modifyContext_looks _).bind fun _ _ =>
      parseFunctionRest_ends hg objection cause)).bind ?_
    rintro ⟨params, body⟩ hbody
    simp only [Good.of_pair] at h hbody
    exact finish_plain (functionFields_good _ _ h.1 hbody.1 hbody.2) rfl
  refine .ite (fun _ => ?_) fun _ => ?_
  · exact (Leads.pure (by simp)).andThen hrest
  · refine lookahead_looks.bind fun t _ => (parseBindingName_ends _).bind fun id hid => ?_
    refine (nameObjection_looks t).bind ?_
    rintro ⟨objection, cause⟩ -
    exact (Leads.pure (by simp [hid])).andThen hrest

theorem parseFunctionExpression_ends (hg : Sound text g) :
    Ends text (parseFunctionExpression g) := by
  refine mark_looks.bind fun start _ => parseFunctionHead_ends.bind ?_
  rintro ⟨async, generator⟩ -
  refine (withFunctionContext_leads (σ := .ended) (τ := fun _ => .ended) ?_).bind ?_
  · refine (modifyContext_looks _).bind fun _ _ => (sees_looks _).bind fun _ _ => ?_
    extract_lets rest
    have hrest : ∀ x, Good text x → Leads text .ended (rest x) fun _ => .ended := by
      rintro ⟨id, objection, cause⟩ h
      refine (parseFunctionRest_ends hg objection cause).bind ?_
      rintro ⟨params, body⟩ hbody
      simp only [Good.of_pair] at h hbody
      exact .pure (by simp [h.1, hbody])
    refine .ite (fun _ => (Leads.pure (by simp)).andThen hrest) fun _ => ?_
    refine lookahead_looks.bind fun t _ => context_looks.bind fun c _ => ?_
    extract_lets named
    have hnamed : ∀ id, Good text id → Leads text .ended (named id) fun _ => .ended := by
      intro id hid
      refine (nameObjection_looks t).bind ?_
      rintro ⟨objection, cause⟩ -
      exact (Leads.pure (by simp [hid])).andThen hrest
    exact .ite (fun _ => parseName_ends.bind hnamed) fun _ => (parseBindingName_ends _).bind hnamed
  · rintro ⟨id, params, body⟩ h
    simp only [Good.of_pair] at h
    exact finish_plain (functionFields_good _ _ h.1 h.2.1 h.2.2) rfl

/-! ### Methods -/

theorem parseMethodBody_ends (hg : Sound text g) (ps : Parameters) :
    Ends text (parseMethodBody g ps) := by
  refine onlyValue_looks.bind fun _ _ => context_looks.bind fun before _ => ?_
  refine (modifyContext_looks _).bind fun _ _ => ?_
  refine (isolated_leads hg.functionBody).bind fun body hbody => ?_
  exact objections_lead (k := fun _ => do
    modifyContext fun c => { c with
      strict := before.strict, allowStrictDirective := before.allowStrictDirective }
    return body) ((modifyContext_looks _).bind fun _ _ => .pure hbody)

theorem parseMethod_ends (hg : Sound text g) (kind : MethodKind) :
    Ends text (parseMethod g kind) := by
  refine mark_looks.bind fun start _ => context_looks.bind fun before _ => ?_
  refine (modifyContext_looks _).bind fun _ _ => (parseParameters_ends hg none).bind fun ps hps => ?_
  extract_lets rest
  have hrest : ∀ u, Leads text .ended (rest u) fun _ => .ended := by
    intro _
    refine (parseMethodBody_ends hg ps).bind fun body hbody => ?_
    refine (modifyContext_looks _).bind fun _ _ => finish_plain ?_ rfl
    exact functionFields_good _ _ (by simp) (parameters_good.mp hps) hbody
  split
  · exact .when (failHere_fails _) fun _ => hrest ()
  · split
    · exact .unless (failHere_fails _) fun _ => hrest ()
    · exact (failHere_fails _).bind.leads
  · exact (modifyContext_looks _).bind fun _ _ => hrest ()
  · exact hrest ()

/-! ### Classes -/

theorem elementHead_good {head : ElementHead} : Good text head ↔ Good text head.key := by
  cases h : head.key <;> simp [Good, Holds.nodes, h]

theorem parseElementHead_ends (hg : Sound text g) : Ends text (parseElementHead g) := by
  refine lookahead_looks.bind fun t _ => (accept_leads .times nofun).andThen fun b _ => .cond ?_ ?_
  · exact .pure (elementHead_good.mpr (by simp))
  refine (sees_looks _).bind fun computed _ => (parsePropertyKey_ends hg).bind fun key hkey => ?_
  refine lookahead_looks.bind fun la _ => ?_
  extract_lets rest
  have hrest : ∀ head, Good text head → Leads text .ended (rest head) fun _ => .ended := by
    intro head hhead
    refine get_looks.bind fun s _ => .ite (fun _ => ?_) fun _ => .pure hhead
    refine lookahead_looks.bind fun next _ => .ite (fun _ => ?_) fun _ => .pure hhead
    refine lookahead_looks.bind fun t _ => (parsePropertyKey_ends hg).bind fun key hkey => ?_
    exact .unless (failAt_fails _ _) fun _ => .pure (elementHead_good.mpr (by simp [hkey]))
  refine .ite (fun _ => ?_) fun _ => ?_
  · refine (sees_looks _).bind fun computed _ => (accept_leads .times nofun).andThen fun b _ => .cond ?_ ?_
    · exact (Leads.pure (elementHead_good.mpr (by simp [hkey]))).andThen hrest
    · refine (parsePropertyKey_ends hg).bind fun key hkey => ?_
      exact (Leads.pure (elementHead_good.mpr (by simp [hkey]))).andThen hrest
  · exact (Leads.pure (elementHead_good.mpr (by simp [hkey]))).andThen hrest

theorem parseClassElement_ends (hg : Sound text g) (hasConstructor : Bool) :
    Ends text (parseClassElement g hasConstructor) := by
  refine mark_looks.bind fun start _ => (parseElementHead_ends hg).bind fun head hhead => ?_
  refine lookahead_looks.bind fun t _ => ?_
  extract_lets hasKey special rest ordinary
  have hrest : ∀ x, Good text x → Leads text .ended (rest x) fun _ => .ended := by
    intro (kind, key, computed, value) h
    simp only [Good.of_pair] at h
    dsimp -zeta only [rest]
    extract_lets isConstructor name named single checked
    have hnamed : ∀ u, Leads text .ended (named u) fun _ => .ended := fun _ =>
      (finish_plain (by simp [h]) rfl).andThen fun n hn => .pure (by simp [hn])
    have hsingle : ∀ u, Leads text .ended (single u) fun _ => .ended := fun _ =>
      .unless (failAt_fails _ _) fun _ => hnamed ()
    have hchecked : ∀ u, Leads text .ended (checked u) fun _ => .ended := fun _ =>
      .ite (fun _ => .when (failAt_fails _ _) fun _ => hsingle ()) fun _ => hnamed ()
    exact .unless (failAt_fails _ _) fun _ => hchecked ()
  clear_value special
  split
  · rename_i kind
    refine (sees_looks _).bind fun computed _ => (parsePropertyKey_ends hg).bind fun key hkey => ?_
    extract_lets valued
    have hvalued : ∀ u, Leads text .ended (valued u) fun _ => .ended := fun _ =>
      (parseMethod_ends hg kind).bind fun value hvalue =>
        (Leads.pure (by simp [hkey, hvalue])).andThen hrest
    exact .ite (fun _ => (modifyContext_looks _).bind fun _ _ => hvalued ()) fun _ => hvalued ()
  · split
    · rename_i key hkey
      refine (sees_looks _).bind fun _ _ => .ite (fun _ => ?_) fun _ => ?_
      · refine (parseMethod_ends hg _).bind fun value hvalue => ?_
        have hkey := Good.of_some.mp (hkey ▸ elementHead_good.mp hhead)
        exact (Leads.pure (by simp [hkey, hvalue])).andThen hrest
      · exact .unexpected
    · exact .unexpected

theorem parseClassElements_leads (hg : Sound text g) (fuel : Nat) (hasConstructor : Bool) :
    Leads text .reading (parseClassElements g fuel hasConstructor) fun _ => .reading := by
  induction fuel generalizing hasConstructor with
  | zero => exact tooDeep_fails.leads
  | succ fuel ih =>
    unfold parseClassElements
    refine (sees_looks _).bind fun _ _ => .ite (fun _ => .pure (by simp)) fun _ => ?_
    refine (accept_goes .semicolon).andThen fun b _ => .cond ((ih _).mono) ?_
    refine (parseClassElement_ends hg hasConstructor).bind fun (e, hasConstructor) he => ?_
    exact (ih hasConstructor).bind fun es hes => .pure (by simp_all)

theorem parseClassBody_ends (hg : Sound text g) : Ends text (parseClassBody g) := by
  refine mark_looks.bind fun start _ => (expect_ends .leftBrace nofun).bind fun _ _ => ?_
  refine tokensLeft_looks.bind fun fuel _ => ?_
  refine (parseClassElements_leads hg fuel false).bind fun elements helements => ?_
  exact (expect_ends .rightBrace nofun).bind fun _ _ => finish_plain (by simp [helements]) rfl

theorem parseClass_ends (hg : Sound text g) {kind : Kind} (hkind : kind.isPlain = true)
    (nameIsOptional : Bool) : Ends text (parseClass g kind nameIsOptional) := by
  refine mark_looks.bind fun start _ => context_looks.bind fun c _ => ?_
  refine (modifyContext_looks _).bind fun _ _ => (expectKeyword_ends .class_).bind fun _ _ => ?_
  refine lookahead_looks.bind fun t _ => ?_
  extract_lets named
  have hnamed : ∀ id, Good text id → Leads text .ended (named id) fun _ => .ended := by
    intro id hid
    refine (acceptKeyword_leads .extends_).andThen fun b _ => ?_
    extract_lets rest
    have hrest : ∀ superClass, Good text superClass →
        Leads text .ended (rest superClass) fun _ => .ended := by
      intro superClass hsuper
      refine (parseClassBody_ends hg).bind fun body hbody => (modifyContext_looks _).bind fun _ _ => ?_
      exact finish_plain (by simp [hid, hsuper, hbody]) hkind
    refine .cond ?_ ((Leads.pure (by simp)).andThen hrest)
    refine (isolated_leads hg.call).bind fun superClass hsuper => ?_
    exact (Leads.pure (by simp [hsuper])).andThen hrest
  refine .ite (fun _ => (Leads.pure (by simp)).andThen hnamed) fun _ => ?_
  refine (parseBindingName_ends _).bind fun id hid => ?_
  exact (Leads.pure (by simp [hid])).andThen hnamed

theorem parseClassDeclaration_ends (hg : Sound text g) (nameIsOptional : Bool) :
    Ends text (parseClassDeclaration g nameIsOptional) :=
  parseClass_ends hg rfl nameIsOptional

theorem parseClassExpression_ends (hg : Sound text g) : Ends text (parseClassExpression g) :=
  parseClass_ends hg rfl true

end Parser

end LintConfig.Ecma
