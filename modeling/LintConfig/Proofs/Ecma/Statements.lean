import LintConfig.Proofs.Ecma.Expressions

/-! # Statements

A statement that can end with a semicolon ends right behind its last token or, where the semicolon
is missing, before the token that follows; either way the end tells which token was the last. -/
namespace LintConfig.Ecma

/-- The nodes of a loop's head. -/
instance : Holds Parser.LoopHead := ⟨fun
  | .counted init => init.toList
  | .keys left right | .items left right => [left, right]⟩

namespace Parser
variable {text : List Char} {g : Grammar}

theorem parseBlock_ends (hg : Sound text g) : Ends text (parseBlock g) := by
  refine mark_looks.bind fun start _ => (expect_ends .leftBrace nofun).bind fun _ _ => ?_
  refine tokensLeft_looks.bind fun fuel _ => ?_
  refine (untilDone_goes (sees_looks _) hg.statementItem fuel).bind fun body hbody => ?_
  exact (expect_ends .rightBrace nofun).bind fun _ _ => finish_plain (by simp [hbody]) rfl

theorem parseExpressionStatement_goes (hg : Sound text g) :
    Goes text (parseExpressionStatement g) := by
  refine mark_looks.bind fun start _ => hg.expression.bind fun e he => ?_
  exact endStatement_leads.bind fun _ _ => finish_statement (by simp [he]) (by decide)

theorem parseHead_ends (hg : Sound text g) : Ends text (parseHead g) :=
  (expect_ends .leftParen nofun).bind fun _ _ => hg.expression.bind fun _ he =>
    (expect_ends .rightParen nofun).bind fun _ _ => .pure he

/-! ### Variables -/

theorem declaratorFields_good {id : Node} {init : Option Node} (hid : Good text id)
    (hinit : Good text init) : Good text (declaratorFields id init) := by
  simp [declaratorFields, hid, hinit]

theorem parseDeclared_ends (hg : Sound text g) (kind : BindingKind) :
    Ends text (parseDeclared g kind) :=
  (discarding_leads (hg.pattern kind)).bind fun _ hid => context_looks.bind fun _ _ =>
    .unless (failHere_fails _) fun _ => .pure hid

theorem parseInitializer_ends (hg : Sound text g) : Ends text (parseInitializer g) :=
  (expect_ends .assign nofun).bind fun _ _ => (isolated_leads hg.assignment).mono

theorem parseVariableDeclarator_ends (hg : Sound text g) (inFor : Bool) :
    Ends text (parseVariableDeclarator g inFor) := by
  refine mark_looks.bind fun start _ => (parseDeclared_ends hg _).bind fun id hid => ?_
  refine (sees_looks _).bind fun _ _ => ?_
  extract_lets rest
  have hrest : ∀ init, Good text init → Leads text .ended (rest init) fun _ => .ended :=
    fun init hinit => finish_plain (declaratorFields_good hid hinit) rfl
  refine .ite (fun _ => ?_) fun _ => (Leads.pure (by simp)).andThen hrest
  exact (parseInitializer_ends hg).bind fun init hinit => (Leads.pure (by simp [hinit])).andThen hrest

theorem parseLexicalDeclarator_ends (hg : Sound text g) (isConst inFor : Bool) :
    Ends text (parseLexicalDeclarator g isConst inFor) := by
  refine mark_looks.bind fun start _ => (parseDeclared_ends hg _).bind fun id hid => ?_
  refine (sees_looks _).bind fun _ _ => ?_
  extract_lets rest
  have hrest : ∀ init, Good text init → Leads text .ended (rest init) fun _ => .ended :=
    fun init hinit => finish_plain (declaratorFields_good hid hinit) rfl
  have hvalue : Leads text .ended (do
      let init ← parseInitializer g
      let init ← pure (some init)
      rest init) fun _ => .ended :=
    (parseInitializer_ends hg).bind fun init hinit => (Leads.pure (by simp [hinit])).andThen hrest
  refine .ite (fun _ => ?_) fun _ => ?_
  · refine (seesKeyword_looks _).bind fun _ _ => (seesWord_looks _).bind fun _ _ => ?_
    refine .ite (fun _ => (Leads.pure (by simp)).andThen hrest) fun _ => ?_
    exact (sees_looks _).bind fun _ _ => .ite (fun _ => hvalue) fun _ => (fail_fails _).bind.leads
  · exact .ite (fun _ => hvalue) fun _ => (Leads.pure (by simp)).andThen hrest

theorem parseList_ends {item : Parse Node} (hitem : Ends text item) : Ends text (parseList item) := by
  refine hitem.bind fun first hfirst => ?_
  have hdone : Looks text (do return !(← sees .comma) : Parse Bool) :=
    (sees_looks _).andThen fun _ _ => .pure (by simp)
  have hnext : Ends text (do
      expect .comma
      item) :=
    (expect_ends .comma nofun).bind fun _ _ => hitem.mono
  exact tokensLeft_looks.bind fun fuel _ => (untilDone_ends hdone hnext fuel).bind fun rest hrest =>
    .pure (by simp [hfirst, hrest])

theorem declarationFields_good {ds : List Node} (kind : String) (hds : Good text ds) :
    Good text (declarationFields ds kind) := by
  simp [declarationFields, hds]

theorem parseVariableStatement_goes (hg : Sound text g) : Goes text (parseVariableStatement g) := by
  refine mark_looks.bind fun start _ => (expectKeyword_ends _).bind fun _ _ => ?_
  refine (parseList_ends (parseVariableDeclarator_ends hg false)).bind fun ds hds => ?_
  exact endStatement_leads.bind fun _ _ => finish_statement (declarationFields_good _ hds) (by decide)

theorem parseLexicalDeclaration_goes (hg : Sound text g) :
    Goes text (parseLexicalDeclaration g) := by
  refine mark_looks.bind fun start _ => advance_leads.bind fun word _ => ?_
  refine (parseList_ends (parseLexicalDeclarator_ends hg _ false)).bind fun ds hds => ?_
  exact endStatement_leads.bind fun _ _ => finish_statement (declarationFields_good _ hds) (by decide)

/-! ### Branches -/

theorem parseIfClause_goes (hg : Sound text g) : Goes text (parseIfClause g) :=
  context_looks.bind fun _ _ => (seesKeyword_looks _).bind fun _ _ =>
    .unless (failHere_fails _) fun _ => hg.statement

theorem parseIf_goes (hg : Sound text g) : Goes text (parseIf g) := by
  refine mark_looks.bind fun start _ => (expectKeyword_ends _).bind fun _ _ => ?_
  refine (parseHead_ends hg).bind fun test htest => ?_
  refine (parseIfClause_goes hg).bind fun consequent hconsequent => ?_
  refine (acceptKeyword_leads .else_).andThen fun b _ => ?_
  extract_lets rest
  have hrest : ∀ alternate, Good text alternate →
      Leads text .begun (rest alternate) fun _ => .begun := fun alternate halternate =>
    finish_plain (by simp [htest, hconsequent, halternate]) rfl
  refine .cond ?_ ((Leads.pure (by simp)).andThen hrest)
  exact (parseIfClause_goes hg).bind fun alternate halternate =>
    (Leads.pure (by simp [halternate])).andThen hrest

theorem parseSwitchCase_leads (hg : Sound text g) :
    Leads text .reading (parseSwitchCase g) fun _ => .reading := by
  refine mark_looks.bind fun start _ => (acceptKeyword_leads .default).andThen fun b _ => ?_
  extract_lets done rest
  have hdone : Looks text done :=
    (sees_looks _).andThen fun _ _ => (seesKeyword_looks _).andThen fun _ _ =>
      (seesKeyword_looks _).andThen fun _ _ => .pure (by simp)
  have hrest : ∀ test, Good text test → Leads text .ended (rest test) fun _ => .reading := by
    intro test htest
    refine (expect_ends .colon nofun).bind fun _ _ => tokensLeft_looks.bind fun fuel _ => ?_
    refine (untilDone_goes hdone hg.statementItem fuel).bind fun consequent hconsequent => ?_
    exact finish_plain (by simp [htest, hconsequent]) rfl
  refine .cond ((Leads.pure (by simp)).andThen hrest) ?_
  refine (expectKeyword_ends _).bind fun _ _ => hg.expression.bind fun test htest => ?_
  exact (Leads.pure (by simp [htest])).andThen hrest

theorem parseSwitchCases_leads (hg : Sound text g) (fuel : Nat) (hasDefault : Bool) :
    Leads text .reading (parseSwitchCases g fuel hasDefault) fun _ => .reading := by
  induction fuel generalizing hasDefault with
  | zero => exact tooDeep_fails.leads
  | succ fuel ih =>
    unfold parseSwitchCases
    refine (sees_looks _).bind fun _ _ => .ite (fun _ => .pure (by simp)) fun _ => ?_
    refine (parseSwitchCase_leads hg).bind fun clause hclause => ?_
    refine .unless (fail_fails _) fun _ => (ih _).bind fun clauses hclauses => ?_
    exact .pure (by simp [hclause, hclauses])

theorem parseSwitch_ends (hg : Sound text g) : Ends text (parseSwitch g) := by
  refine mark_looks.bind fun start _ => (expectKeyword_ends _).bind fun _ _ => ?_
  refine (parseHead_ends hg).bind fun discriminant hdiscriminant => context_looks.bind fun c _ => ?_
  refine (modifyContext_looks _).bind fun _ _ => (expect_ends .leftBrace nofun).bind fun _ _ => ?_
  refine tokensLeft_looks.bind fun fuel _ => ?_
  refine (parseSwitchCases_leads hg fuel false).bind fun cases hcases => ?_
  refine (expect_ends .rightBrace nofun).bind fun _ _ => (modifyContext_looks _).bind fun _ _ => ?_
  exact finish_plain (by simp [hdiscriminant, hcases]) rfl

/-! ### Loops -/

theorem parseDoWhile_goes (hg : Sound text g) : Goes text (parseDoWhile g) := by
  refine mark_looks.bind fun start _ => (expectKeyword_ends _).bind fun _ _ => ?_
  refine (insideLoop_leads hg.statement).bind fun body hbody => ?_
  refine (expectKeyword_ends _).bind fun _ _ => (parseHead_ends hg).bind fun test htest => ?_
  have hfields : Good text [field "body" body, field "test" test] := by simp [hbody, htest]
  exact (accept_goes .semicolon).andThen fun b _ =>
    (finish_statement (σ := bif b then .begun else .ended) hfields (by decide)).mono

theorem parseWhile_goes (hg : Sound text g) : Goes text (parseWhile g) := by
  refine mark_looks.bind fun start _ => (expectKeyword_ends _).bind fun _ _ => ?_
  refine (parseHead_ends hg).bind fun test htest => ?_
  exact (insideLoop_leads hg.statement).bind fun body hbody => finish_plain (by simp [htest, hbody]) rfl

theorem counted_good {init : Option Node} : Good text (LoopHead.counted init) ↔ Good text init := by
  cases init <;> simp [Good, Holds.nodes]

theorem keys_good {left right : Node} :
    Good text (LoopHead.keys left right) ↔ Good text left ∧ Good text right := by
  simp [Good, Holds.nodes]

theorem items_good {left right : Node} :
    Good text (LoopHead.items left right) ↔ Good text left ∧ Good text right := by
  simp [Good, Holds.nodes]

theorem parseKeysHead_ends (hg : Sound text g) {left : Node} (hleft : Good text left) :
    Ends text (parseKeysHead g left) :=
  (expectKeyword_ends _).bind fun _ _ => hg.expression.bind fun _ hright =>
    .pure (keys_good.mpr ⟨hleft, hright⟩)

theorem parseItemsHead_ends (hg : Sound text g) {left : Node} (hleft : Good text left) :
    Ends text (parseItemsHead g left) :=
  advance_leads.bind fun _ _ => hg.assignment.bind fun _ hright =>
    .pure (items_good.mpr ⟨hleft, hright⟩)

theorem parseVarHead_goes (hg : Sound text g) : Goes text (parseVarHead g) := by
  refine mark_looks.bind fun start _ => (expectKeyword_ends _).bind fun _ _ => ?_
  refine (withoutIn_leads (parseList_ends (parseVariableDeclarator_ends hg true))).bind
    fun ds hds => (seesKeyword_looks _).bind fun _ _ => ?_
  have hdeclaration : Leads text .ended
      (finish start .variableDeclaration (declarationFields ds "var")) fun _ => .ended :=
    finish_statement (declarationFields_good _ hds) (by decide)
  refine .ite (fun _ => ?_) fun _ => ?_
  · refine context_looks.bind fun c _ => .unless (failHere_fails _) fun _ => ?_
    exact hdeclaration.andThen fun n hn => (parseKeysHead_ends hg hn).mono
  · refine (seesWord_looks _).bind fun _ _ => .ite (fun _ => ?_) fun _ => ?_
    · exact hdeclaration.andThen fun n hn => (parseItemsHead_ends hg hn).mono
    · refine hdeclaration.andThen fun init hinit => (expect_goes .semicolon).bind fun _ _ => ?_
      exact .pure (counted_good.mpr (by simp [hinit]))

theorem parseLexicalHead_goes (hg : Sound text g) : Goes text (parseLexicalHead g) := by
  refine mark_looks.bind fun start _ => advance_leads.bind fun word _ => ?_
  refine context_looks.bind fun c _ => lookahead_looks.bind fun t _ => .ite (fun _ => ?_) fun _ => ?_
  · refine identifier_leads.andThen fun name hname => advance_leads.bind fun _ _ => ?_
    exact hg.expression.bind fun e he => .pure (keys_good.mpr ⟨hname, he⟩)
  refine (withoutIn_leads (parseList_ends (parseLexicalDeclarator_ends hg _ true))).bind
    fun ds hds => (seesKeyword_looks _).bind fun _ _ => ?_
  have hfields := declarationFields_good word.value hds
  have hdeclaration : Leads text .ended
      (finish start .variableDeclaration (declarationFields ds word.value)) fun _ => .ended :=
    finish_statement hfields (by decide)
  refine .ite (fun _ => ?_) fun _ => ?_
  · exact hdeclaration.andThen fun n hn => (parseKeysHead_ends hg hn).mono
  · refine (seesWord_looks _).bind fun _ _ => .ite (fun _ => ?_) fun _ => ?_
    · exact hdeclaration.andThen fun n hn => (parseItemsHead_ends hg hn).mono
    · refine endStatement_leads.bind fun _ _ => (finish_statement hfields (by decide)).andThen fun n hn => ?_
      exact .pure (counted_good.mpr (by simp [hn]))

theorem parseExpressionHead_goes (hg : Sound text g) : Goes text (parseExpressionHead g) := by
  refine lookahead_looks.bind fun t _ => ?_
  refine (withoutIn_leads (inherited_leads hg.assignment)).bind fun init hinit => ?_
  refine context_looks.bind fun c _ => (seesKeyword_looks _).bind fun _ _ => ?_
  have hpattern := Good.asPattern init hinit
  refine .ite (fun _ => ?_) fun _ => ?_
  · exact .when (failHere_fails _) fun _ => (parseKeysHead_ends hg hpattern).mono
  refine (seesWord_looks _).bind fun _ _ => .ite (fun _ => ?_) fun _ => ?_
  · exact .when (failHere_fails _) fun _ => (parseItemsHead_ends hg hpattern).mono
  refine (sees_looks _).bind fun _ _ => ?_
  extract_lets rest next done
  have hrest : ∀ init, Good text init → Leads text .ended (rest init) fun _ => .begun :=
    fun init hinit => (expect_goes .semicolon).bind fun _ _ =>
      .pure (counted_good.mpr (by simp [hinit]))
  have hdone : Looks text done := (sees_looks _).andThen fun _ _ => .pure (by simp)
  have hnext : Ends text next :=
    (expect_ends .comma nofun).bind fun _ _ => (isolated_leads hg.assignment).mono
  refine .ite (fun _ => ?_) fun _ => (Leads.pure hinit).andThen hrest
  refine tokensLeft_looks.bind fun fuel _ => ?_
  refine (untilDone_ends hdone hnext fuel).bind fun more hmore => ?_
  exact (finish_plain (by simp [hinit, hmore]) rfl).andThen hrest

theorem parseLoopHead_goes (hg : Sound text g) : Goes text (parseLoopHead g) := by
  refine (accept_goes .semicolon).andThen fun b _ => .cond ?_ ?_
  · exact .pure (counted_good.mpr (by simp))
  refine (seesKeyword_looks _).bind fun _ _ => .ite (fun _ => parseVarHead_goes hg) fun _ => ?_
  refine (seesKeyword_looks _).bind fun _ _ => (seesKeyword_looks _).bind fun _ _ => ?_
  exact .ite (fun _ => parseLexicalHead_goes hg) fun _ => parseExpressionHead_goes hg

theorem parseFor_goes (hg : Sound text g) : Goes text (parseFor g) := by
  refine mark_looks.bind fun start _ => (expectKeyword_ends _).bind fun _ _ => ?_
  refine (expect_ends .leftParen nofun).bind fun _ _ => (parseLoopHead_goes hg).bind fun head hhead => ?_
  extract_lets rest
  have hrest : ∀ kind fields, kind.isPlain = true → Good text fields →
      Goes text (rest (kind, fields)) := by
    intro kind fields hkind hfields
    refine (expect_ends .rightParen nofun).bind fun _ _ => ?_
    refine (insideLoop_leads (isolated_leads hg.statement)).bind fun body hbody => ?_
    exact finish_plain (by simp [hfields, hbody]) hkind
  split
  · rename_i init
    refine (sees_looks _).bind fun _ _ => ?_
    extract_lets tested
    have htested : ∀ test, Good text test → Goes text (tested test) := by
      intro test htest
      refine (expect_goes .semicolon).bind fun _ _ => (sees_looks _).bind fun _ _ => ?_
      extract_lets updated
      have hupdated : ∀ update, Good text update → Goes text (updated update) := by
        intro update hupdate
        refine .returning (hrest _ _ rfl ?_)
        simp [counted_good.mp hhead, htest, hupdate]
      refine .ite (fun _ => Leads.returning (hupdated none (by simp)).mono) fun _ => ?_
      exact hg.expression.bind fun e he => .returning (hupdated (some e) (by simp [he])).mono
    refine .ite (fun _ => Leads.returning (htested none (by simp)).mono) fun _ => ?_
    exact hg.expression.bind fun e he => .returning (htested (some e) (by simp [he])).mono
  · refine .returning (hrest _ _ rfl ?_).mono
    simp [keys_good.mp hhead]
  · refine .returning (hrest _ _ rfl ?_).mono
    simp [items_good.mp hhead]

/-! ### Jumps -/

theorem parseJumpLabel_leads : Leads text .ended parseJumpLabel fun _ => .ended := by
  refine get_looks.bind fun s _ => .ite (fun _ => ?_) fun _ => .pure (by simp)
  refine (parseBindingName_ends _).bind fun id hid => context_looks.bind fun c _ => ?_
  exact .when (fail_fails _) fun _ => .pure (by simp [hid])

theorem parseContinue_goes : Goes text parseContinue := by
  refine mark_looks.bind fun start _ => (expectKeyword_ends _).bind fun _ _ => ?_
  refine parseJumpLabel_leads.bind fun label hlabel => endStatement_leads.bind fun _ _ => ?_
  refine context_looks.bind fun c _ => .unless (fail_fails _) fun _ => ?_
  exact finish_statement (by simp [hlabel]) (by decide)

theorem parseBreak_goes : Goes text parseBreak := by
  refine mark_looks.bind fun start _ => (expectKeyword_ends _).bind fun _ _ => ?_
  refine parseJumpLabel_leads.bind fun label hlabel => endStatement_leads.bind fun _ _ => ?_
  refine context_looks.bind fun c _ => .unless (fail_fails _) fun _ => ?_
  exact finish_statement (by simp [hlabel]) (by decide)

theorem parseReturn_goes (hg : Sound text g) : Goes text (parseReturn g) := by
  refine context_looks.bind fun c _ => .when (failHere_fails _) fun _ => ?_
  refine mark_looks.bind fun start _ => (expectKeyword_ends _).bind fun _ _ => ?_
  refine get_looks.bind fun s _ => ?_
  extract_lets t ends rest
  have hrest : ∀ argument, Good text argument → Leads text .ended (rest argument) fun _ => .begun :=
    fun argument hargument => endStatement_leads.bind fun _ _ =>
      finish_statement (by simp [hargument]) (by decide)
  refine .ite (fun _ => ?_) fun _ => (Leads.pure (by simp)).andThen hrest
  exact hg.expression.bind fun e he => (Leads.pure (by simp [he])).andThen hrest

theorem parseThrow_goes (hg : Sound text g) : Goes text (parseThrow g) := by
  refine mark_looks.bind fun start _ => (expectKeyword_ends _).bind fun _ _ => ?_
  refine get_looks.bind fun s _ => .unless (fail_fails _) fun _ => ?_
  refine hg.expression.bind fun argument hargument => endStatement_leads.bind fun _ _ => ?_
  exact finish_statement (by simp [hargument]) (by decide)

theorem parseDebugger_goes : Goes text parseDebugger :=
  mark_looks.bind fun _ _ => (expectKeyword_ends _).bind fun _ _ =>
    endStatement_leads.bind fun _ _ => finish_statement (by simp) (by decide)

/-! ### Other statements -/

theorem parseEmptyStatement_goes : Goes text parseEmptyStatement :=
  mark_looks.bind fun _ _ => (expect_goes _).bind fun _ _ => finish_plain (by simp) rfl

theorem parseWith_goes (hg : Sound text g) : Goes text (parseWith g) := by
  refine context_looks.bind fun c _ => .unless (failHere_fails _) fun _ => ?_
  refine mark_looks.bind fun start _ => (expectKeyword_ends _).bind fun _ _ => ?_
  refine (parseHead_ends hg).bind fun object hobject => hg.statement.bind fun body hbody => ?_
  exact finish_plain (by simp [hobject, hbody]) rfl

theorem parseCatch_ends (hg : Sound text g) : Ends text (parseCatch g) := by
  refine mark_looks.bind fun start _ => (expectKeyword_ends _).bind fun _ _ => ?_
  refine (expect_ends .leftParen nofun).bind fun _ _ => (sees_looks _).bind fun _ _ => ?_
  refine .ite (fun _ => .unexpected) fun _ => ?_
  refine (collecting_leads (hg.pattern _)).bind fun (param, bound) hparam => ?_
  obtain ⟨hparam, -⟩ := Good.of_pair.mp hparam
  dsimp only
  split
  · exact (failHere_fails _).bind.leads
  · refine context_looks.bind fun c _ => .unless (failHere_fails _) fun _ => ?_
    refine (expect_ends .rightParen nofun).bind fun _ _ => (parseBlock_ends hg).bind fun body hbody => ?_
    exact finish_plain (by simp [hparam, hbody]) rfl

theorem parseTry_ends (hg : Sound text g) : Ends text (parseTry g) := by
  refine mark_looks.bind fun start _ => (expectKeyword_ends _).bind fun _ _ => ?_
  refine (parseBlock_ends hg).bind fun block hblock => (seesKeyword_looks _).bind fun _ _ => ?_
  extract_lets handled
  have hhandled : ∀ handler, Good text handler →
      Leads text .ended (handled handler) fun _ => .ended := by
    intro handler hhandler
    refine (acceptKeyword_leads .finally_).andThen fun b _ => ?_
    extract_lets rest
    have hrest : ∀ finalizer, Good text finalizer →
        Leads text .ended (rest finalizer) fun _ => .ended := fun finalizer hfinalizer =>
      .unless (fail_fails _) fun _ => finish_plain (by simp [hblock, hhandler, hfinalizer]) rfl
    refine .cond ?_ ((Leads.pure (by simp)).andThen hrest)
    exact (parseBlock_ends hg).bind fun b hb => (Leads.pure (by simp [hb])).andThen hrest
  refine .ite (fun _ => ?_) fun _ => (Leads.pure (by simp)).andThen hhandled
  exact (parseCatch_ends hg).bind fun c hc => (Leads.pure (by simp [hc])).andThen hhandled

theorem parseLabelled_goes (hg : Sound text g) : Goes text (parseLabelled g) := by
  refine lookahead_looks.bind fun t _ => .ite (fun _ => (unexpected_fails t).leads) fun _ => ?_
  refine .ite (fun _ => ?_) fun _ => hg.statement
  refine (parseFunctionDeclaration_ends hg false).bind fun declaration hdeclaration => ?_
  refine context_looks.bind fun c _ => .unless (failAt_fails _ _) fun _ => ?_
  exact .unless (failAt_fails _ _) fun _ => .pure hdeclaration

theorem parseNamedStatement_goes (hg : Sound text g) : Goes text (parseNamedStatement g) := by
  refine mark_looks.bind fun start _ => hg.expression.bind fun e he => ?_
  refine (sees_looks _).bind fun _ _ => ?_
  split
  · refine (expect_ends .colon nofun).bind fun _ _ => context_looks.bind fun c _ => ?_
    refine .unless (fail_fails _) fun _ => (modifyContext_looks _).bind fun _ _ => ?_
    refine (parseLabelled_goes hg).bind fun body hbody => (modifyContext_looks _).bind fun _ _ => ?_
    exact finish_plain (by simp [he, hbody]) rfl
  · exact endStatement_leads.bind fun _ _ => finish_statement (by simp [he]) (by decide)

theorem parseStatement_goes (hg : Sound text g) : Goes text (parseStatement g) := by
  refine lookahead_looks.bind fun t _ => ?_
  split
  · exact (unexpected_fails t).leads
  · exact (unexpected_fails t).leads
  · exact seesAsyncFunction_looks.bind fun _ _ => .ite
      (fun _ => (parseFunctionDeclaration_ends hg false).mono) fun _ => parseNamedStatement_goes hg
  · exact (parseBlock_ends hg).mono
  · exact parseEmptyStatement_goes
  · split
    · exact parseBreak_goes
    · exact parseContinue_goes
    · exact parseDebugger_goes
    · exact parseDoWhile_goes hg
    · exact parseFor_goes hg
    · exact (parseFunctionDeclaration_ends hg false).mono
    · exact parseIf_goes hg
    · exact parseReturn_goes hg
    · exact (parseSwitch_ends hg).mono
    · exact parseThrow_goes hg
    · exact (parseTry_ends hg).mono
    · exact parseVariableStatement_goes hg
    · exact parseWhile_goes hg
    · exact parseWith_goes hg
    · exact parseExpressionStatement_goes hg
  · exact parseExpressionStatement_goes hg

end Parser

end LintConfig.Ecma
