import LintConfig.Proofs.Ecma.Statements

/-! # Programs

Imports, exports and what a body consists of close the grammar over itself, so every tree that a
text is read as is good: each statement's end tells its last token, and each literal is written as
its token is. -/
namespace LintConfig.Ecma
namespace Parser
variable {text : List Char} {g : Grammar}

theorem not_semicolon_of_string {t : Token} (h : t.isString = true) :
    t.isPunctuator .semicolon = false := by
  unfold Token.isPunctuator
  unfold Token.isString at h
  cases hl : t.lexeme <;> simp_all

theorem parseModuleSpecifier_ends : Ends text parseModuleSpecifier :=
  mark_looks.bind fun _ _ => .facing fun _ => .when (fail_fails _) fun ht =>
    .advance (literal_ends (not_semicolon_of_string ht))

theorem parseFrom_ends : Ends text parseFrom :=
  (acceptWord_leads "from").andThen fun _ _ =>
    .cond parseModuleSpecifier_ends.mono (fail_fails _).bind.leads

theorem parseBraced_ends {item : Parse Node} (hitem : Ends text item) :
    Ends text (parseBraced item) := by
  refine (expect_ends .leftBrace nofun).bind fun _ _ => ?_
  extract_lets separated
  have hseparated : Ends text separated := hitem.bind fun x hx => .separated (.pure hx) nofun
  refine tokensLeft_looks.bind fun fuel _ => ?_
  refine (untilDone_ends (sees_looks _) hseparated fuel).bind fun items hitems => ?_
  exact (expect_ends .rightBrace nofun).bind fun _ _ => .pure hitems

/-! ### Imports -/

theorem parseImportSpecifier_ends : Ends text parseImportSpecifier := by
  refine mark_looks.bind fun start _ => lookahead_looks.bind fun t _ => ?_
  extract_lets isBinding rest
  have hrest : ∀ imported, Good text imported →
      Leads text .ended (rest imported) fun _ => .ended := by
    intro imported himported
    refine (acceptWord_leads "as").either.bind fun renamed _ => .ite (fun _ => ?_) fun _ => ?_
    · exact advance_leads.bind fun t _ => (unexpected_fails t).bind.leads
    refine .ite (fun _ => ?_) fun _ => ?_
    · exact (parseBindingName_ends _).bind fun target htarget =>
        finish_plain (by simp [htarget, himported]) rfl
    · exact (Leads.pure himported).andThen fun target htarget =>
        finish_plain (by simp [htarget, himported]) rfl
  exact .ite (fun _ => (parseBindingName_ends _).bind hrest) fun _ => parseName_ends.bind hrest

theorem parseNamespaceImport_ends : Ends text parseNamespaceImport := by
  refine mark_looks.bind fun start _ => (expect_ends .times nofun).bind fun _ _ => ?_
  refine (acceptWord_leads "as").either.bind fun _ _ => .when (fail_fails _) fun _ => ?_
  exact parseName_ends.bind fun name hname => finish_plain (by simp [hname]) rfl

theorem parseDefaultImport_ends : Ends text parseDefaultImport :=
  mark_looks.bind fun _ _ => parseName_ends.bind fun _ hname => finish_plain (by simp [hname]) rfl

theorem parseImportClause_ends : Ends text parseImportClause := by
  have hnamed : Ends text (parseBraced parseImportSpecifier) :=
    parseBraced_ends parseImportSpecifier_ends
  refine (sees_looks _).bind fun _ _ => .ite (fun _ => hnamed) fun _ => ?_
  refine (sees_looks _).bind fun _ _ => .ite (fun _ => ?_) fun _ => ?_
  · exact parseNamespaceImport_ends.bind fun n hn => .pure (by simp [hn])
  refine lookahead_looks.bind fun t _ => (seesKeyword_looks _).bind fun _ _ => ?_
  refine .ite (fun _ => ?_) fun _ => ?_
  · refine parseDefaultImport_ends.bind fun first hfirst => ?_
    refine (accept_leads .comma nofun).either.bind fun _ _ => .ite (fun _ => ?_) fun _ => ?_
    · refine (sees_looks _).bind fun _ _ => .ite (fun _ => ?_) fun _ => ?_
      · exact parseNamespaceImport_ends.bind fun n hn => .pure (by simp [hfirst, hn])
      refine (sees_looks _).bind fun _ _ => .ite (fun _ => ?_) fun _ => ?_
      · exact hnamed.bind fun ns hns => .pure (by simp [hfirst, hns])
      · exact lookahead_looks.bind fun t _ => (unexpected_fails t).leads
    · exact .pure (by simp [hfirst])
  · exact advance_leads.bind fun t _ => (unexpected_fails t).leads

theorem parseImportDeclaration_goes : Goes text parseImportDeclaration := by
  refine context_looks.bind fun c _ => .unless (fail_fails _) fun _ => ?_
  refine mark_looks.bind fun start _ => (expectKeyword_ends _).bind fun _ _ => ?_
  refine lookahead_looks.bind fun t _ => ?_
  extract_lets rest
  have hrest : ∀ x, Good text x → Leads text .ended (rest x) fun _ => .begun := by
    intro (specifiers, source) h
    obtain ⟨hspecifiers, hsource⟩ := Good.of_pair.mp h
    exact endStatement_leads.bind fun _ _ => finish_statement (by simp [hspecifiers, hsource]) (by decide)
  refine .ite (fun _ => ?_) fun _ => ?_
  · exact parseModuleSpecifier_ends.bind fun source hsource =>
      (Leads.pure (by simp [hsource])).andThen hrest
  · refine parseImportClause_ends.bind fun specifiers hspecifiers => ?_
    exact parseFrom_ends.bind fun source hsource =>
      (Leads.pure (by simp [hspecifiers, hsource])).andThen hrest

/-! ### Exports -/

theorem parseExportSpecifier_ends : Ends text parseExportSpecifier := by
  refine mark_looks.bind fun start _ => parseName_ends.bind fun name hname => ?_
  refine (acceptWord_leads "as").either.bind fun _ _ => ?_
  extract_lets rest
  have hrest : ∀ exported, Good text exported → Leads text .ended (rest exported) fun _ => .ended :=
    fun exported hexported => finish_plain (by simp [hname, hexported]) rfl
  exact .ite (fun _ => parseName_ends.bind hrest) fun _ => (Leads.pure hname).andThen hrest

theorem parseExportDefault_goes (hg : Sound text g) (start : Nat) :
    Goes text (parseExportDefault g start) := by
  refine (expectKeyword_ends _).bind fun _ _ => (seesKeyword_looks _).bind fun _ _ => ?_
  refine seesAsyncFunction_looks.bind fun _ _ => (seesKeyword_looks _).bind fun _ _ => ?_
  refine (seesWord_looks _).bind fun _ _ => ?_
  extract_lets rest ended named
  have hrest : ∀ d, Good text d → Leads text .begun (rest d) fun _ => .begun :=
    fun d hd => finish_plain (by simp [hd]) rfl
  have hrest' : ∀ d, Good text d → Leads text .ended (rest d) fun _ => .begun :=
    fun d hd => (hrest d hd).mono
  have hended : ∀ e, Good text e → Leads text .ended (ended e) fun _ => .begun :=
    fun e he => endStatement_leads.bind fun _ _ => (Leads.pure he).andThen hrest
  refine .ite (fun _ => (parseFunctionDeclaration_ends hg true).bind hrest') fun _ => ?_
  refine .ite (fun _ => (parseClassDeclaration_ends hg true).bind hrest') fun _ => ?_
  refine .ite (fun _ => hg.assignment.bind hrest') fun _ => ?_
  refine (seesWord_looks _).bind fun _ _ => .ite (fun _ => .unexpected) fun _ => ?_
  refine (sees_looks _).bind fun _ _ => (sees_looks _).bind fun _ _ => ?_
  refine .ite (fun _ => (parseObject_ends hg).bind hended) fun _ => ?_
  exact .ite (fun _ => (parseArray_ends hg).bind hended) fun _ => hg.assignment.bind hended

theorem parseExportAll_goes (start : Nat) : Goes text (parseExportAll start) :=
  (expect_ends .times nofun).bind fun _ _ => parseFrom_ends.bind fun _ hsource =>
    endStatement_leads.bind fun _ _ => finish_plain (by simp [hsource]) rfl

theorem exportFields_good {declaration : Option Node} {specifiers : List Node}
    {source : Option Node} (hdeclaration : Good text declaration)
    (hspecifiers : Good text specifiers) (hsource : Good text source) :
    Good text (exportFields declaration specifiers source) := by
  simp [exportFields, hdeclaration, hspecifiers, hsource]

theorem parseBareExport_ends : Ends text parseBareExport :=
  mark_looks.bind fun _ _ => parseName_ends.bind fun _ hname => finish_plain (by simp [hname]) rfl

/-- A node stays good if a field without nodes is added behind its own. -/
theorem extended_good {n : Node} {l : String} {a : Atom} (hn : Good text n) :
    Good text (Node.mk n.kind n.span n.last (n.fields ++ [.plain l a])) := by
  obtain ⟨k, span, last, own⟩ := n
  obtain ⟨hplain, hown⟩ := Good.mk.mp hn
  refine Good.mk.mpr ⟨⟨hplain.statement, fun h => ?_, fun h f hf hne m hm => ?_⟩,
    Good.append.mpr ⟨hown, by simp⟩⟩
  · obtain ⟨t, ht, hraw, hquoted⟩ := hplain.literal h
    refine ⟨t, ht, ?_, hquoted⟩
    unfold Node.text? Node.field? Node.fields at hraw ⊢
    dsimp only at hraw ⊢
    cases hfind : own.find? (·.label == "raw") with
    | none => rw [hfind] at hraw; contradiction
    | some f => rw [List.find?_append, hfind]; rw [hfind] at hraw; exact hraw
  · rcases List.mem_append.mp hf with hf | hf
    · exact hplain.inAttribute h f hf hne m hm
    · rw [List.mem_singleton.mp hf] at hm
      exact absurd hm List.not_mem_nil

theorem parseExportNames_goes (start : Nat) : Goes text (parseExportNames start) := by
  unfold parseExportNames
  extract_lets listed rest
  have hlisted : Ends text listed := by
    refine (seesKeyword_looks _).bind fun isDefault _ => parseExportSpecifier_ends.bind fun s hs => ?_
    refine .pure ?_
    split
    · exact extended_good hs
    · exact hs
  have hrest : ∀ specifiers, Good text specifiers →
      Leads text .ended (rest specifiers) fun _ => .begun := by
    intro specifiers hspecifiers
    refine (seesWord_looks _).bind fun _ _ => ?_
    extract_lets sourced
    have hsourced : ∀ source, Good text source → Leads text .ended (sourced source) fun _ => .begun :=
      fun source hsource => endStatement_leads.bind fun _ _ =>
        finish_plain (exportFields_good (by simp) hspecifiers hsource) rfl
    refine .ite (fun _ => ?_) fun _ => ?_
    · exact parseFrom_ends.bind fun source hsource => (Leads.pure (by simp [hsource])).andThen hsourced
    · exact .unless (fail_fails _) fun _ => (Leads.pure (by simp)).andThen hsourced
  refine lookahead_looks.bind fun t _ => .ite (fun _ => ?_) fun _ => (parseBraced_ends hlisted).bind hrest
  refine parseBareExport_ends.bind fun first hfirst => ?_
  refine (accept_leads .comma nofun).either.bind fun _ _ => .ite (fun _ => ?_) fun _ => ?_
  · exact (parseBraced_ends hlisted).bind fun more hmore =>
      (Leads.pure (by simp [hfirst, hmore])).andThen hrest
  · exact (Leads.pure (by simp [hfirst])).andThen hrest

theorem parseExportDeclaration_goes (hg : Sound text g) :
    Goes text (parseExportDeclaration g) := by
  refine context_looks.bind fun c _ => .unless (fail_fails _) fun _ => ?_
  refine mark_looks.bind fun start _ => (expectKeyword_ends _).bind fun _ _ => ?_
  refine lookahead_looks.bind fun t _ => ?_
  extract_lets declared
  have hdeclared : ∀ {p}, Goes text p → Goes text (declared p) := fun hp =>
    hp.andThen fun d hd => finish_plain (exportFields_good (by simp [hd]) (by simp) (by simp)) rfl
  split
  · exact (parseExportDefault_goes hg start).mono
  · exact (parseExportAll_goes start).mono
  · exact (hdeclared (parseLexicalDeclaration_goes hg)).mono
  · exact (hdeclared (parseLexicalDeclaration_goes hg)).mono
  · exact (hdeclared hg.statementItem).mono
  · exact (hdeclared hg.statementItem).mono
  · exact (hdeclared hg.statementItem).mono
  · exact (unexpected_fails t).leads
  · refine seesAsyncFunction_looks.bind fun _ _ => .ite (fun _ => ?_) fun _ => ?_
    · exact (hdeclared (parseFunctionDeclaration_ends hg false).mono).mono
    · exact (parseExportNames_goes start).mono

/-! ### Items -/

theorem parseStatementItem_goes (hg : Sound text g) : Goes text (parseStatementItem g) := by
  refine (modifyContext_looks _).bind fun _ _ => lookahead_looks.bind fun t _ => ?_
  split
  · exact context_looks.bind fun c _ => .when (failAt_fails _ _) fun _ =>
      parseExportDeclaration_goes hg
  · refine seesImportCall_looks.bind fun _ _ => .ite (fun _ => ?_) fun _ => ?_
    · exact parseExpressionStatement_goes hg
    · exact context_looks.bind fun c _ => .when (failAt_fails _ _) fun _ =>
        parseImportDeclaration_goes
  · exact parseLexicalDeclaration_goes hg
  · exact (parseFunctionDeclaration_ends hg false).mono
  · exact (parseClassDeclaration_ends hg false).mono
  · exact letDeclares_looks.bind fun _ _ => .ite (fun _ => parseLexicalDeclaration_goes hg)
      fun _ => hg.statement
  · exact hg.statement

/-! ### Programs -/

/-- The grammar is sound at every level of nesting. -/
theorem grammar_sound (text : List Char) (levels : Nat) : Sound text (grammar levels) := by
  induction levels with
  | zero => exact fun _ => tooDeep_fails.leads
  | succ levels ih =>
    intro rule
    cases rule with
    | expression => exact parseExpression_ends ih
    | assignment => exact parseAssignment_ends ih
    | exponentiation => exact parseExponentiation_ends ih
    | unary => exact parseUnary_ends ih
    | call => exact parseCall_ends ih
    | member => exact parseMember_ends ih
    | pattern kind => exact parsePattern_ends ih kind
    | statement => exact parseStatement_goes ih
    | statementItem => exact parseStatementItem_goes ih
    | functionBody => exact parseFunctionBody_ends ih
    | markupElement => exact parseElement_leads ih

theorem parseProgram_good {goal : Goal} {markup : Bool} {tree : Node} {s : State}
    (h : parseProgram goal (initial text markup) = .ok (tree, s)) : Good text tree := by
  obtain ⟨u, s₁, h₁, h⟩ := bind_ok.mp h
  obtain ⟨hfresh, hlast⟩ := readLookahead_fresh (Cursor.at_start text) h₁
  obtain ⟨u', s₂, h₂, h⟩ := bind_ok.mp h
  have hs : Stage.reading.Holds text s₂.place := by
    obtain rfl := modify_ok.mp h₂
    refine ⟨hfresh.start, hfresh.lexes, fun t ht => ?_, fun hsemicolon => ?_⟩
    · exact absurd (hlast.symm.trans ht) nofun
    · refine Or.inl ((hfresh.gap hsemicolon).resolve_right fun hzero => ?_)
      have hpos : 0 < s₁.place.start.index := hsemicolon.1
      rw [hzero] at hpos
      exact Nat.lt_irrefl 0 hpos
  refine ((?_ : Leads text .reading _ fun _ => .reading) hs h).1
  -- the rest is the same for a script and a module
  refine .ite (fun _ => (modifyContext_looks _).bind fun _ _ => ?_) fun _ => ?_
  all_goals
    refine get_looks.bind fun s _ => mark_looks.bind fun start _ => tokensLeft_looks.bind fun fuel _ => ?_
    have hg := grammar_sound text (16 * (s.length + 4))
    refine (parseDirectives_leads hg fuel none).bind fun directives hdirectives => ?_
    extract_lets done kind
    have hdone : Looks text done := lookahead_looks.andThen fun _ _ => .pure (by simp)
    refine tokensLeft_looks.bind fun fuel _ => ?_
    refine (untilDone_goes hdone hg.statementItem fuel).bind fun items hitems => ?_
    refine finish_plain (by simp [hdirectives, hitems]) ?_
    dsimp only [kind]
    cases goal <;> rfl

end Parser

theorem parseAs_good {text : List Char} {goal : Parser.Goal} {markup : Bool} {p : Program}
    (h : parseAs goal markup text = .ok p) : p.tree.Good text := by
  obtain ⟨⟨tree, s⟩, htree, rfl⟩ := Failing.map_eq_ok.mp h
  exact Parser.parseProgram_good htree tree (List.mem_singleton.mpr rfl)

/-- Every tree that a text is read as is good. -/
theorem parse_good {text : List Char} {markup : Bool} {p : Program}
    (h : parse markup text = .ok p) : p.tree.Good text := by
  unfold parse at h
  split at h
  · cases h
    exact parseAs_good ‹_›
  · contradiction
  · split at h
    · cases h
      exact parseAs_good ‹_›
    · contradiction
    · contradiction

end LintConfig.Ecma
