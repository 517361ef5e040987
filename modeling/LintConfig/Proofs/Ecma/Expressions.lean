import LintConfig.Proofs.Ecma.Covers
import LintConfig.Proofs.Ecma.Elements

/-! # Expressions

No expression ends with a semicolon. Where a single token makes up an expression, the lookahead has
been found to be another one. -/
namespace LintConfig.Ecma.Parser
variable {text : List Char} {g : Grammar} {start : Nat}

/-! ### Primary expressions -/

/-- A literal is one token, which is no semicolon. -/
theorem literal_ends {t : Token} (ht : t.isPunctuator .semicolon = false) :
    Leads text (.behind t) (literal start t) fun _ => .ended := by
  intro s n s' hs hn
  obtain ⟨hgood, hs'⟩ := literal_leads hs hn
  exact ⟨hgood, hs'.ended_of_behind ht⟩

theorem parseLiteral_leads {t : Token} (ht : t.isPunctuator .semicolon = false) :
    Leads text (.facing t) (parseLiteral start) fun _ => .ended :=
  onlyValue_looks.bind fun _ _ => .advance (literal_ends ht)

theorem parseRegularExpression_leads {t : Token}
    (ht : t.isPunctuator .divide = true ∨ t.isPunctuator .divideAssign = true) :
    Leads text (.facing t) (parseRegularExpression start) fun _ => .ended := by
  refine onlyValue_looks.bind fun _ _ => .advanceRegularExpression ht fun t hne => ?_
  intro s n s' hs hn
  obtain ⟨hgood, hs'⟩ := finish_literal hs hn
  exact ⟨hgood, hs'.ended_of_behind hne⟩

theorem parseKeywordExpression_leads (hg : Sound text g) {t : Token} {k : Keyword}
    (ht : t.lexeme = .keyword k) :
    Leads text (.facing t) (parseKeywordExpression g start k) fun _ => .ended := by
  have hne := not_semicolon_of_lexeme ht nofun
  refine context_looks.bind fun c _ => .ite (fun _ => parseName_ends.mono) fun _ => ?_
  refine .ite (fun _ => .advance (.of_behind hne identifier_leads)) fun _ => ?_
  refine onlyValue_looks.bind fun _ _ => ?_
  split
  · exact (parseFunctionExpression_ends hg).mono
  · exact .advance (.of_behind hne (finish_plain (by simp) rfl))
  · exact (parseClassExpression_ends hg).mono
  · refine seesImportCall_looks.bind fun _ _ => .ite (fun _ => ?_) fun _ => ?_
    · exact (expectKeyword_ends _).bind fun _ _ => finish_plain (by simp) rfl
    · exact advance_leads.bind fun t _ => (unexpected_fails t).leads

theorem parsePrimary_ends (hg : Sound text g) : Ends text (parsePrimary g) := by
  refine mark_looks.bind fun start _ => .facing fun t => ?_
  split
  · rename_i name hlexeme
    refine context_looks.bind fun c _ => .unless (unexpected_fails _) fun _ => ?_
    refine seesAsyncFunction_looks.bind fun _ _ => .ite (fun _ => ?_) fun _ => ?_
    · exact (parseFunctionExpression_ends hg).mono
    · exact .advance (.of_behind (not_semicolon_of_lexeme hlexeme nofun) identifier_leads)
  · rename_i hlexeme
    exact context_looks.bind fun c _ => .unless (failAt_fails _ _) fun _ =>
      parseLiteral_leads (not_semicolon_of_lexeme hlexeme nofun)
  · rename_i hlexeme
    exact context_looks.bind fun c _ => .unless (failAt_fails _ _) fun _ =>
      parseLiteral_leads (not_semicolon_of_lexeme hlexeme nofun)
  · rename_i hlexeme
    exact parseLiteral_leads (not_semicolon_of_lexeme hlexeme nofun)
  · rename_i hlexeme
    exact parseLiteral_leads (not_semicolon_of_lexeme hlexeme nofun)
  · exact .ite (fun _ => (parseTemplate_ends hg).mono) fun _ => (abort_fails _).leads
  · refine get_looks.bind fun s _ => .ite (fun _ => (parseMarkup_ends hg).mono) fun _ => ?_
    exact advance_leads.bind fun t _ => (unexpected_fails t).leads
  · exact (modifyContext_looks _).bind fun _ _ => (inherited_leads (parseGroup_ends hg)).mono
  · exact (inherited_leads (parseArray_ends hg)).mono
  · exact (inherited_leads (parseObject_ends hg)).mono
  · rename_i hlexeme
    exact parseRegularExpression_leads (Or.inl (by simp [Token.isPunctuator, hlexeme]))
  · rename_i hlexeme
    exact parseRegularExpression_leads (Or.inr (by simp [Token.isPunctuator, hlexeme]))
  · rename_i k hlexeme
    exact parseKeywordExpression_leads hg hlexeme
  · exact advance_leads.bind fun t _ => (unexpected_fails t).leads

/-! ### Members and calls -/

theorem parseArguments_ends {argument : Parse Node} (hargument : Ends text argument) :
    Ends text (parseArguments argument) := by
  refine (expect_ends .leftParen nofun).bind fun _ _ => ?_
  extract_lets one
  have hone : Ends text one := hargument.bind fun a ha => .separated (.pure ha) nofun
  refine tokensLeft_looks.bind fun fuel _ => ?_
  refine (untilDone_ends (sees_looks _) hone fuel).bind fun args hargs => ?_
  exact (expect_ends .rightParen nofun).bind fun _ _ => .pure hargs

theorem parseArgument_ends (hg : Sound text g) : Ends text (parseArgument g) :=
  (sees_looks _).bind fun _ _ => .ite (fun _ => parseSpread_ends hg)
    fun _ => isolated_leads hg.assignment

theorem parseAsyncArgument_ends (hg : Sound text g) : Ends text (parseAsyncArgument g) := by
  refine (sees_looks _).bind fun _ _ => .ite (fun _ => parseSpread_ends hg) fun _ => ?_
  exact isolated_leads (hg.assignment.andThen fun e he =>
    (modifyContext_looks _).bind fun _ _ => .pure he)

theorem parseNew_ends (hg : Sound text g) : Ends text (parseNew g) := by
  refine mark_looks.bind fun start _ => parseName_ends.bind fun word hword => ?_
  refine (accept_leads .dot nofun).andThen fun b _ => .cond ?_ ?_
  · refine lookahead_looks.bind fun t _ => context_looks.bind fun c _ => ?_
    refine .ite (fun _ => ?_) fun _ => (unexpected_fails t).leads
    exact parseName_ends.bind fun property hproperty => finish_plain (by simp [hword, hproperty]) rfl
  · refine (seesKeyword_looks _).bind fun _ _ => .ite (fun _ => ?_) fun _ => ?_
    · exact lookahead_looks.bind fun t _ => (unexpected_fails t).leads
    refine (isolated_leads hg.member).bind fun callee hcallee => (sees_looks _).bind fun _ _ => ?_
    extract_lets rest
    have hrest : ∀ args, Good text args → Leads text .ended (rest args) fun _ => .ended :=
      fun args hargs => onlyValue_looks.bind fun _ _ => finish_plain (by simp [hcallee, hargs]) rfl
    refine .ite (fun _ => ?_) fun _ => (Leads.pure (by simp)).andThen hrest
    exact (parseArguments_ends (parseArgument_ends hg)).bind hrest

theorem memberFields_good {object property : Node} (computed : Bool) (hobject : Good text object)
    (hproperty : Good text property) : Good text (memberFields object property computed) := by
  simp [memberFields, hobject, hproperty]

theorem parseAccess_leads (hg : Sound text g) (start : Nat) {e : Node} (he : Good text e) :
    Leads text .ended (parseAccess g start e) fun _ => .ended := by
  refine (sees_looks _).bind fun _ _ => .ite (fun _ => ?_) fun _ => ?_
  · refine (modifyContext_looks _).bind fun _ _ => (expect_ends .dot nofun).bind fun _ _ => ?_
    refine parseName_ends.bind fun property hproperty => ?_
    exact (finish_plain (memberFields_good _ he hproperty) rfl).andThen fun n hn => .pure (by simp [hn])
  refine (sees_looks _).bind fun _ _ => .ite (fun _ => ?_) fun _ => ?_
  · refine (modifyContext_looks _).bind fun _ _ => (expect_ends .leftBracket nofun).bind fun _ _ => ?_
    refine (isolated_leads hg.expression).bind fun property hproperty => ?_
    refine (expect_ends .rightBracket nofun).bind fun _ _ => ?_
    exact (finish_plain (memberFields_good _ he hproperty) rfl).andThen fun n hn => .pure (by simp [hn])
  · refine lookahead_looks.bind fun t _ => .ite (fun _ => ?_) fun _ => .pure (by simp)
    refine (parseTemplate_ends hg).bind fun quasi hquasi => ?_
    exact (finish_plain (by simp [he, hquasi]) rfl).andThen fun n hn => .pure (by simp [hn])

theorem parseNewOrPrimary_ends (hg : Sound text g) : Ends text (parseNewOrPrimary g) :=
  (seesKeyword_looks _).bind fun _ _ => .ite (fun _ => inherited_leads (parseNew_ends hg))
    fun _ => inherited_leads (parsePrimary_ends hg)

theorem parseSuper_leads (followers : List Punctuator) {t : Token}
    (ht : t.isPunctuator .semicolon = false) :
    Leads text (.facing t) (parseSuper followers) fun _ => .ended := by
  refine mark_looks.bind fun start _ => .advance (.of_behind ht ?_)
  refine (finish_plain (by simp) rfl).andThen fun e he => (seesAny_looks _).bind fun _ _ => ?_
  exact .ite (fun _ => .pure he) fun _ => .unexpected

/-- Where `super` is seen, it is the lookahead. -/
theorem Leads.facingSuper {x y : Parse Node} {τ : Node → Stage}
    (hx : ∀ t, t.isPunctuator .semicolon = false → Leads text (.facing t) x τ)
    (hy : Leads text .reading y τ) :
    Leads text .reading (seesSuper >>= fun b => if b = true then x else y) τ := by
  intro s a s' hs ha
  rw [read_bind (p := seesSuper)
    (f := fun s => s.lookahead.isKeyword .super && s.context.inFunctionBody) fun _ => rfl] at ha
  split at ha
  · rename_i hsuper
    have hkeyword := (Bool.and_eq_true_iff.mp hsuper).1
    exact hx _ (not_semicolon_of_keyword hkeyword) ⟨hs, rfl⟩ ha
  · exact hy hs ha

theorem parseMember_ends (hg : Sound text g) : Ends text (parseMember g) := by
  refine lookahead_looks.bind fun t _ => ?_
  extract_lets start rest
  have hrest : ∀ e, Good text e → Leads text .ended (rest e) fun _ => .ended := fun e he =>
    tokensLeft_looks.bind fun fuel _ =>
      iterate_leads (fun e he => parseAccess_leads hg start he) fuel he
  exact .facingSuper (fun t ht => (parseSuper_leads _ ht).andThen hrest)
    ((parseNewOrPrimary_ends hg).bind hrest)

theorem parseCallArguments_leads (hg : Sound text g) (startToken : Token) (maybeAsync : Bool)
    {e : Node} (he : Good text e) :
    Leads text .ended (parseCallArguments g startToken maybeAsync e) fun _ => .ended := by
  refine lookahead_looks.bind fun t _ => onlyValue_looks.bind fun _ _ => ?_
  have hargument : Ends text
      (if (maybeAsync && startToken.line == t.line) = true then parseAsyncArgument g
        else parseArgument g) :=
    .ite (fun _ => parseAsyncArgument_ends hg) fun _ => parseArgument_ends hg
  refine (parseArguments_ends hargument).bind fun args hargs => ?_
  refine .unless (failHere_fails _) fun _ => ?_
  refine (finish_plain (by simp [he, hargs]) rfl).andThen fun call hcall => (sees_looks _).bind fun _ _ => ?_
  exact .ite (fun _ => .pure (arrowParameters_good _ (map_asPattern_good hargs)))
    fun _ => .pure hcall

theorem parseCall_ends (hg : Sound text g) : Ends text (parseCall g) := by
  refine lookahead_looks.bind fun startToken _ => context_looks.bind fun c _ => ?_
  refine (modifyContext_looks _).bind fun _ _ => ?_
  extract_lets step rest
  have hstep : ∀ e, Good text e → Leads text .ended (step e) fun _ => .ended := by
    intro e he
    refine (sees_looks _).bind fun _ _ => .ite (fun _ => ?_) fun _ => parseAccess_leads hg _ he
    exact (parseCallArguments_leads hg _ _ he).andThen fun n hn => .pure (by simp [hn])
  have hrest : ∀ e, Good text e → Leads text .ended (rest e) fun _ => .ended := fun e he =>
    tokensLeft_looks.bind fun fuel _ => (iterate_leads hstep fuel he).andThen fun e he =>
      (modifyContext_looks _).bind fun _ _ => .pure he
  exact .facingSuper (fun t ht => (parseSuper_leads _ ht).andThen hrest)
    ((parseNewOrPrimary_ends hg).bind hrest)

/-! ### Operators -/

theorem updateFields_good {op : Token} {e : Node} (isPrefix : Bool) (he : Good text e) :
    Good text (updateFields op e isPrefix) := by
  simp [updateFields, he]

theorem checkUpdate_looks (e : Node) (restricted : Cause) :
    Looks text (checkUpdate e restricted) := by
  refine context_looks.andThen fun c _ => .ite (failHere_fails _).bind.looks ?_
  exact .ite (.pure (by simp)) (failHere_fails _).looks

theorem parseUpdate_ends (hg : Sound text g) : Ends text (parseUpdate g) := by
  refine lookahead_looks.bind fun startToken _ => (seesAny_looks _).bind fun _ _ => ?_
  refine .ite (fun _ => ?_) fun _ => ?_
  · refine advance_leads.bind fun op _ => (inherited_leads hg.unary).bind fun e he => ?_
    refine (checkUpdate_looks e _).bind fun _ _ => ?_
    refine (finish_plain (updateFields_good _ he) rfl).andThen fun n hn => ?_
    exact onlyValue_looks.bind fun _ _ => .pure hn
  · refine (inherited_leads hg.call).bind fun e he => get_looks.bind fun s _ => ?_
    cases s.afterNewline with
    | true => exact (seesAny_looks _).bind fun _ _ => .ite (fun h => nomatch h) fun _ => .pure he
    | false =>
      refine .facingAny (fun t ht => .ite (fun _ => ?_) fun h => absurd rfl h) ?_
      · refine (checkUpdate_looks e _).bind fun _ _ => onlyValue_looks.bind fun _ _ => ?_
        have hne : t.isPunctuator .semicolon = false := by
          obtain ⟨p, hp, hseen⟩ := List.any_eq_true.mp ht
          exact not_semicolon (by rintro rfl; simp at hp) hseen
        exact .advance (.of_behind hne (finish_plain (updateFields_good _ he) rfl))
      · exact .ite (fun h => nomatch h) fun _ => .pure he

theorem parseUnary_ends (hg : Sound text g) : Ends text (parseUnary g) := by
  refine lookahead_looks.bind fun t _ => ?_
  extract_lets start
  refine .ite (fun _ => ?_) fun _ => ?_
  · refine advance_leads.bind fun op _ => (inherited_leads hg.unary).bind fun e he => ?_
    refine (finish_plain (by simp [he]) rfl).andThen fun n hn => context_looks.bind fun c _ => ?_
    exact .unless (failHere_fails _) fun _ => onlyValue_looks.bind fun _ _ => .pure hn
  · refine context_looks.bind fun c _ => .ite (fun _ => ?_) fun _ => parseUpdate_ends hg
    exact advance_leads.bind fun _ _ => hg.unary.bind fun e he => finish_plain (by simp [he]) rfl

theorem binaryFields_good {op : String} {left right : Node} (hleft : Good text left)
    (hright : Good text right) : Good text (binaryFields op left right) := by
  simp [binaryFields, hleft, hright]

theorem parseExponentiation_ends (hg : Sound text g) : Ends text (parseExponentiation g) := by
  refine lookahead_looks.bind fun t _ => (inherited_leads hg.unary).bind fun e he => ?_
  refine (sees_looks _).bind fun _ _ => .ite (fun _ => ?_) fun _ => .pure he
  refine advance_leads.bind fun _ _ => onlyValue_looks.bind fun _ _ => ?_
  refine (isolated_leads hg.exponentiation).bind fun right hright => ?_
  exact finish_plain (binaryFields_good he hright) rfl

theorem parseBinaryRest_leads (hg : Sound text g) (fuel above start : Nat) {left : Node}
    (hleft : Good text left) :
    Leads text .ended (parseBinaryRest g fuel above start left) fun _ => .ended := by
  induction fuel generalizing above start left with
  | zero => exact tooDeep_fails.leads
  | succ fuel ih =>
    refine context_looks.bind fun c _ => lookahead_looks.bind fun t _ => ?_
    refine .ite (fun _ => .pure hleft) fun _ => advance_leads.bind fun op _ => ?_
    refine onlyValue_looks.bind fun _ _ => lookahead_looks.bind fun t' _ => ?_
    refine (isolated_leads hg.exponentiation).bind fun operand hoperand => ?_
    refine (ih _ _ hoperand).andThen fun right hright => ?_
    refine (finish_plain (binaryFields_good hleft hright) ?_).andThen fun n hn => ih _ _ hn
    split <;> rfl

theorem parseBinary_ends (hg : Sound text g) : Ends text (parseBinary g) :=
  lookahead_looks.bind fun _ _ => (inherited_leads hg.exponentiation).bind fun _ he =>
    tokensLeft_looks.bind fun fuel _ => parseBinaryRest_leads hg fuel _ _ he

theorem parseConditional_ends (hg : Sound text g) : Ends text (parseConditional g) := by
  refine lookahead_looks.bind fun t _ => (inherited_leads (parseBinary_ends hg)).bind fun test htest => ?_
  refine (accept_leads .question nofun).andThen fun b _ => .cond ?_ (.pure htest)
  refine context_looks.bind fun c _ => (modifyContext_looks _).bind fun _ _ => ?_
  refine (isolated_leads hg.assignment).bind fun consequent hconsequent => ?_
  refine (modifyContext_looks _).bind fun _ _ => (expect_ends .colon nofun).bind fun _ _ => ?_
  refine (isolated_leads hg.assignment).bind fun alternate halternate => ?_
  refine (finish_plain (by simp [htest, hconsequent, halternate]) rfl).andThen fun n hn => ?_
  exact onlyValue_looks.bind fun _ _ => .pure hn

/-! ### Arrow functions -/

theorem mapM_looks {α β : Type} [Holds α] [Holds β] {f : α → Parse β} {xs : List α}
    (hf : ∀ x, Good text x → Looks text (f x)) (hxs : Good text xs) : Looks text (xs.mapM f) := by
  induction xs with
  | nil => exact .pure (by simp)
  | cons x xs ih =>
    obtain ⟨hx, hxs⟩ := Good.cons.mp hxs
    rw [List.mapM_cons]
    exact (hf x hx).andThen fun y hy => (ih hxs).andThen fun ys hys => .pure (by simp [hy, hys])

theorem field_good {n : Node} {label : String} {f : Field} (hn : Good text n)
    (hf : n.field? label = some f) : Good text f := by
  cases n
  exact (Good.mk.mp hn).2.of_mem (List.mem_of_find?_eq_some hf)

theorem list_good {n : Node} (label : String) (hn : Good text n) : Good text (n.list label) := by
  unfold Node.list Node.items
  split
  · rename_i l items hfield
    have hitems : Good text items := Good.field_children.mp (field_good hn hfield)
    refine Good.of_forall fun m hm => ?_
    obtain ⟨i, hi, hm⟩ := List.mem_filterMap.mp hm
    have := hitems.of_mem hi
    cases i with
    | plain a => contradiction
    | node n =>
      obtain rfl := Option.some.inj hm
      exact Good.item_node.mp this
  · simp

theorem yieldAsName_good {n n' : Node} (hn : Good text n) (h : yieldAsName n = some n') :
    Good text n' := by
  unfold yieldAsName at h
  split at h
  · rename_i right hkind _
    split at h
    · split at h
      · rename_i k s t fields _
        obtain rfl := Option.some.inj h
        obtain ⟨-, hfields⟩ := Good.mk.mp hn
        refine Good.mk.mpr ⟨Kind.plain_of_isPlain ?_, hfields.map fun f hf => ?_⟩
        · rw [Node.kind] at hkind
          rw [hkind]
          rfl
        · split
          · exact Good.mk.mpr ⟨Kind.plain_of_isPlain rfl, by simp⟩
          · exact hf
      · contradiction
    · obtain rfl := Option.some.inj h
      exact hn
  · obtain rfl := Option.some.inj h
    exact hn

theorem arrowParametersOf_looks {e : Node} (he : Good text e) :
    Looks text (arrowParametersOf? e) := by
  unfold arrowParametersOf?
  extract_lets async nodes?
  have hnodes : ∀ nodes, nodes? = some nodes → Good text nodes := by
    intro nodes h
    dsimp only [nodes?] at h
    split at h
    · obtain rfl := Option.some.inj h
      simp [he]
    · obtain rfl := Option.some.inj h
      exact list_good _ he
    · contradiction
  clear_value nodes?
  split
  · exact .pure (by simp)
  · rename_i nodes
    refine context_looks.andThen fun c _ => (mapM_looks ?_ (hnodes nodes rfl)).andThen
      fun params hparams => ?_
    · intro n hn
      refine .ite .unexpected ?_
      split
      · exact .pure (yieldAsName_good hn ‹_›)
      · exact lookahead_looks.andThen fun t _ => (unexpected_fails t).looks
    · refine .ite .unexpected (.ite (object_fails _ _).bind.looks (.pure ?_))
      simpa using parameters_good.mpr hparams

theorem parseArrowFunction_ends (hg : Sound text g) (start : Nat) {ps : Parameters} (async : Bool)
    (hps : Good text ps) : Ends text (parseArrowFunction g start ps async) := by
  refine get_looks.bind fun s _ => .ite (fun _ => .unexpected) fun _ => ?_
  refine (modifyContext_looks _).bind fun _ _ => withFunctionContext_leads ?_
  refine (modifyContext_looks _).bind fun _ _ => (expect_ends .arrow nofun).bind fun _ _ => ?_
  refine (sees_looks _).bind fun _ _ => ?_
  extract_lets cause rest
  have hrest : ∀ body, Good text body → Leads text .ended (rest body) fun _ => .ended := by
    intro body hbody
    refine objections_lead (k := fun _ => finish start .arrowFunctionExpression
      (functionFields none ps.nodes body false async ++
        [flag "expression" (body.kind != .blockStatement)])) (finish_plain ?_ rfl)
    have := functionFields_good false async (Good.of_none) (parameters_good.mp hps) hbody
    simp [this]
  refine .ite (fun _ => ?_) fun _ => (isolated_leads hg.assignment).bind hrest
  refine context_looks.bind fun c _ => (modifyContext_looks _).bind fun _ _ => ?_
  refine hg.functionBody.bind fun body hbody => (modifyContext_looks _).bind fun _ _ => ?_
  exact (Leads.pure hbody).andThen hrest

/-! ### Assignments -/

theorem parseYield_ends (hg : Sound text g) : Ends text (parseYield g) := by
  refine mark_looks.bind fun start _ => (expectKeyword_ends _).bind fun _ _ => ?_
  refine get_looks.bind fun s _ => ?_
  extract_lets rest
  have hrest : ∀ x, Good text x → Leads text .ended (rest x) fun _ => .ended := by
    intro (argument, delegate) h
    exact finish_plain (by simp [(Good.of_pair.mp h).1]) rfl
  refine .ite (fun _ => (Leads.pure (by simp)).andThen hrest) fun _ => ?_
  refine context_looks.bind fun c _ => (modifyContext_looks _).bind fun _ _ => ?_
  refine (accept_leads .times nofun).either.bind fun delegate _ => get_looks.bind fun s _ => ?_
  refine lookahead_looks.bind fun t _ => ?_
  extract_lets argued
  have hargued : ∀ argument, Good text argument →
      Leads text .ended (argued argument) fun _ => .ended := fun argument hargument =>
    (modifyContext_looks _).bind fun _ _ => (Leads.pure (by simp [hargument])).andThen hrest
  refine .ite (fun _ => ?_) fun _ => (Leads.pure (by simp)).andThen hargued
  exact hg.assignment.bind fun e he => (Leads.pure (by simp [he])).andThen hargued

theorem parseAssignmentRest_ends (hg : Sound text g) (startToken : Token) {e : Node}
    (he : Good text e) : Ends text (parseAssignmentRest g startToken e) := by
  refine context_looks.bind fun c _ => .when (failHere_fails _) fun _ => ?_
  extract_lets rest
  have hrest : ∀ u, Ends text (rest u) := by
    intro _
    refine (sees_looks _).bind fun plain _ => ?_
    extract_lets left assigned
    have hleft : Good text left := by
      dsimp only [left]
      split
      · exact Good.asPattern e he
      · exact he
    have hassigned : ∀ u, Ends text (assigned u) := by
      intro _
      refine advance_leads.bind fun op _ => (isolated_leads hg.assignment).bind fun right hright => ?_
      refine (finish_plain (binaryFields_good hleft hright) rfl).andThen fun n hn => ?_
      exact (modifyContext_looks _).bind fun _ _ => .pure hn
    exact .ite (fun _ => hassigned ()) fun _ => onlyValue_looks.bind fun _ _ => hassigned ()
  refine .ite (fun _ => ?_) fun _ => hrest ()
  split
  · exact .unless (failAt_fails _ _) fun _ => .unless (failAt_fails _ _) fun _ => hrest ()
  · exact hrest ()

theorem parseBareAsyncParameter_leads (hg : Sound text g) (startToken : Token) {e : Node}
    (he : Good text e) :
    Leads text .ended (parseBareAsyncParameter g startToken e) fun _ => .ended := by
  refine lookahead_looks.bind fun t _ => .ite (fun _ => ?_) fun _ => .pure he
  refine (parsePrimary_ends hg).bind fun arg harg => .pure (arrowParameters_good _ ?_)
  simpa using Good.asPattern arg harg

theorem parseAssignment_ends (hg : Sound text g) : Ends text (parseAssignment g) := by
  refine context_looks.bind fun c _ => (seesKeyword_looks _).bind fun _ _ => ?_
  refine .ite (fun _ => parseYield_ends hg) fun _ => lookahead_looks.bind fun startToken _ => ?_
  refine (parseConditional_ends hg).bind fun e he => ?_
  refine (parseBareAsyncParameter_leads hg startToken he).bind fun e he => ?_
  refine (sees_looks _).bind fun _ _ => .ite (fun _ => ?_) fun _ => ?_
  · refine onlyValue_looks.bind fun _ _ => (arrowParametersOf_looks he).bind fun x hx => ?_
    match x, hx with
    | some (ps, async), hx =>
      exact (parseArrowFunction_ends hg _ async (Good.of_pair.mp (Good.of_some.mp hx)).1).mono
    | none, _ => exact .pure he
  · refine lookahead_looks.bind fun t _ => ?_
    split
    · exact .ite (fun _ => (parseAssignmentRest_ends hg _ he).mono) fun _ => .pure he
    · exact .pure he

theorem parseExpression_ends (hg : Sound text g) : Ends text (parseExpression g) := by
  refine lookahead_looks.bind fun t _ => (isolated_leads hg.assignment).bind fun first hfirst => ?_
  refine (sees_looks _).bind fun _ _ => .ite (fun _ => ?_) fun _ => .pure hfirst
  have hdone : Looks text (do return (← lookahead).isEnd || !(← sees .comma) : Parse Bool) :=
    lookahead_looks.andThen fun _ _ => (sees_looks _).andThen fun _ _ => .pure (by simp)
  have hnext : Ends text (do
      let _ ← advance
      isolated (g .assignment)) :=
    advance_leads.bind fun _ _ => (isolated_leads hg.assignment).mono
  refine tokensLeft_looks.bind fun fuel _ => ?_
  refine (untilDone_ends hdone hnext fuel).bind fun rest hrest => ?_
  exact finish_plain (by simp [hfirst, hrest]) rfl

end LintConfig.Ecma.Parser
