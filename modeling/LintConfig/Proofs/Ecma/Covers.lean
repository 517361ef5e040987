import LintConfig.Proofs.Ecma.Functions

/-! # Expressions that may be patterns

An expression stays good when it is read as the pattern it spells, because only the kinds of its
nodes change and none of them becomes a statement or a literal. -/
namespace LintConfig.Ecma

theorem Kind.isPlain_of_asPattern {k k' : Kind} {label : String}
    (h : k.asPattern? = some (k', label)) : k'.isPlain = true := by
  cases k <;> simp only [Kind.asPattern?, reduceCtorEq, Option.some.injEq, Prod.mk.injEq] at h
  all_goals obtain ⟨rfl, -⟩ := h; rfl

mutual

theorem Good.asPattern {text : List Char} : ∀ n : Node, Good text n → Good text n.asPattern
  | .mk kind span last fields, h => by
    rw [Node.asPattern]
    split
    · rename_i k label hk
      exact Good.mk.mpr ⟨Kind.plain_of_isPlain (Kind.isPlain_of_asPattern hk),
        fieldsAsPatterns label fields (Good.mk.mp h).2⟩
    · exact h

theorem Good.fieldsAsPatterns {text : List Char} (label : String) :
    ∀ fields : List Field, Good text fields → Good text (fieldsAsPatterns label fields)
  | [], h => h
  | .plain l a :: rest, h => by
    rw [Ecma.fieldsAsPatterns]
    have hrest := fieldsAsPatterns label rest (Good.cons.mp h).2
    split
    · exact hrest
    · simp [hrest]
  | .child l n :: rest, h => by
    rw [Ecma.fieldsAsPatterns]
    obtain ⟨hn, hrest⟩ := Good.cons.mp h
    refine Good.cons.mpr ⟨?_, fieldsAsPatterns label rest hrest⟩
    split
    · exact asPattern n hn
    · exact hn
  | .children l items :: rest, h => by
    rw [Ecma.fieldsAsPatterns]
    obtain ⟨hitems, hrest⟩ := Good.cons.mp h
    refine Good.cons.mpr ⟨?_, fieldsAsPatterns label rest hrest⟩
    split
    · exact Good.field_children.mpr (itemsAsPatterns items (Good.field_children.mp hitems))
    · exact hitems

theorem Good.itemsAsPatterns {text : List Char} :
    ∀ items : List Item, Good text items → Good text (itemsAsPatterns items)
  | [], h => h
  | .plain a :: rest, h => by
    rw [Ecma.itemsAsPatterns]
    simp [itemsAsPatterns rest (Good.cons.mp h).2]
  | .node n :: rest, h => by
    rw [Ecma.itemsAsPatterns]
    obtain ⟨hn, hrest⟩ := Good.cons.mp h
    simp [asPattern n (Good.item_node.mp hn), itemsAsPatterns rest hrest]

end

/-- The node of a property's beginning is its key. -/
instance : Holds Parser.PropertyHead := ⟨fun head => head.key.toList⟩

namespace Parser
variable {text : List Char} {g : Grammar}

theorem map_asPattern_good {es : List Node} (h : Good text es) : Good text (es.map Node.asPattern) :=
  h.map Good.asPattern

theorem parseSpread_ends (hg : Sound text g) : Ends text (parseSpread g) := by
  refine mark_looks.bind fun start _ => (expect_ends .ellipsis nofun).bind fun _ _ => ?_
  exact (inherited_leads hg.assignment).bind fun arg harg => finish_plain (by simp [harg]) rfl

/-! ### Arrays -/

theorem parseArray_ends (hg : Sound text g) : Ends text (parseArray g) := by
  refine mark_looks.bind fun start _ => (expect_ends .leftBracket nofun).bind fun _ _ => ?_
  extract_lets element
  have helement : Ends text element := by
    refine (accept_leads .comma nofun).andThen fun b _ => .cond (.pure (by simp)) ?_
    refine (sees_looks _).bind fun _ _ => .ite (fun _ => ?_) fun _ => ?_
    · refine (parseSpread_ends hg).bind fun e he => (sees_looks _).bind fun _ _ => ?_
      refine .ite (fun _ => .pure (by simp [he])) fun _ => onlyValue_looks.bind fun _ _ => ?_
      exact (expect_ends .comma nofun).bind fun _ _ => .pure (by simp [he])
    · exact (inherited_leads hg.assignment).bind fun e he => .separated (.pure (by simp [he])) nofun
  refine tokensLeft_looks.bind fun fuel _ => ?_
  refine (untilDone_ends (sees_looks _) helement fuel).bind fun items hitems => ?_
  exact (expect_ends .rightBracket nofun).bind fun _ _ => finish_plain (by simp [hitems]) rfl

/-! ### Objects -/

theorem propertyHead_good {head : PropertyHead} : Good text head ↔ Good text head.key := by
  cases h : head.key <;> simp [Good, Holds.nodes, h]

theorem parsePropertyHead_ends (hg : Sound text g) : Ends text (parsePropertyHead g) := by
  refine mark_looks.bind fun start _ => .facing fun t => ?_
  split
  · rename_i name hname
    refine .advance (.of_behind (not_semicolon_of_lexeme hname nofun) ?_)
    refine (sees_looks _).bind fun _ _ => get_looks.bind fun s _ => (seesAny_looks _).bind fun _ _ => ?_
    extract_lets isAsync rest
    have hrest : ∀ key, Good text key → Leads text .ended (rest key) fun _ => .ended :=
      fun key hkey => .pure (propertyHead_good.mpr (by simp [hkey]))
    exact .ite (fun _ => (parsePropertyKey_ends hg).bind hrest) fun _ => identifier_leads.andThen hrest
  · refine (accept_leads .times nofun).andThen fun b _ => .cond ?_ ?_
    · exact .pure (propertyHead_good.mpr (by simp))
    · refine (sees_looks _).bind fun _ _ => (parsePropertyKey_ends hg).bind fun key hkey => ?_
      exact .pure (propertyHead_good.mpr (by simp [hkey]))

theorem parsePropertyValue_ends (hg : Sound text g) (start : Nat) (head : PropertyHead) (key : Node)
    (hasPrototype : Bool) : 
    Leads text .ended (parsePropertyValue g start head key hasPrototype) fun _ => .ended := by
  refine (sees_looks _).bind fun _ _ => .ite (fun _ => ?_) fun _ => ?_
  · refine .unless (failHere_fails _) fun _ => advance_leads.bind fun _ _ => ?_
    exact (inherited_leads hg.assignment).bind fun value hvalue => .pure (by simp [hvalue])
  refine (sees_looks _).bind fun _ _ => .ite (fun _ => ?_) fun _ => ?_
  · exact (parseMethod_ends hg _).bind fun value hvalue => .pure (by simp [hvalue])
  split
  · refine identifier_leads.andThen fun id hid => (sees_looks _).bind fun _ _ => ?_
    refine .ite (fun _ => ?_) fun _ => .pure (by simp [hid])
    refine lookahead_looks.bind fun t _ => (modifyContext_looks _).bind fun _ _ => ?_
    refine advance_leads.bind fun _ _ => ?_
    refine (isolated_leads hg.assignment).bind fun init hinit => ?_
    exact (finish_plain (by simp [hid, hinit]) rfl).andThen fun value hvalue => .pure (by simp [hvalue])
  · exact advance_leads.bind fun t _ => (unexpected_fails t).leads

theorem parseProperty_ends (hg : Sound text g) (hasPrototype : Bool) :
    Ends text (parseProperty g hasPrototype) := by
  refine mark_looks.bind fun start _ => (parsePropertyHead_ends hg).bind fun head hhead => ?_
  refine lookahead_looks.bind fun t _ => ?_
  extract_lets hasKey special
  clear_value special
  split
  · rename_i kind name
    refine (sees_looks _).bind fun computed _ => (parsePropertyKey_ends hg).bind fun key hkey => ?_
    extract_lets valued
    have hvalued : ∀ u, Leads text .ended (valued u) fun _ => .ended := fun _ =>
      (parseMethod_ends hg kind).bind fun value hvalue =>
        (finish_plain (propertyFields_good _ _ _ hkey hvalue) rfl).andThen fun n hn =>
          .pure (by simp [hn])
    exact .ite (fun _ => (modifyContext_looks _).bind fun _ _ => hvalued ()) fun _ => hvalued ()
  · split
    · exact lookahead_looks.bind fun t _ => (unexpected_fails t).leads
    · rename_i key hkey
      have hkey := Good.of_some.mp (hkey ▸ propertyHead_good.mp hhead)
      refine (parsePropertyValue_ends hg start head key hasPrototype).bind fun x hvalue => ?_
      obtain ⟨value, method, shorthand, isPrototype⟩ := x
      refine (finish_plain (propertyFields_good _ _ _ hkey (Good.of_pair.mp hvalue).1) rfl).andThen
        fun n hn => .pure (by simp [hn])

theorem parseProperties_leads (hg : Sound text g) (fuel : Nat) (hasPrototype : Bool) :
    Leads text .ended (parseProperties g fuel hasPrototype) fun _ => .ended := by
  induction fuel generalizing hasPrototype with
  | zero => exact tooDeep_fails.leads
  | succ fuel ih =>
    unfold parseProperties
    refine (sees_looks _).bind fun _ _ => .ite (fun _ => .pure (by simp)) fun _ => ?_
    refine (sees_looks _).bind fun _ _ => ?_
    extract_lets rest
    have hrest : ∀ x, Good text x → Leads text .ended (rest x) fun _ => .ended := by
      intro (p, hasPrototype) hp
      refine .separated ((ih hasPrototype).bind fun ps hps => .pure ?_) nofun
      simp_all
    refine .ite (fun _ => ?_) fun _ => (parseProperty_ends hg hasPrototype).bind hrest
    refine (parseSpread_ends hg).bind fun p hp => (Leads.pure (by simp [hp])).andThen hrest

theorem parseObject_ends (hg : Sound text g) : Ends text (parseObject g) := by
  refine mark_looks.bind fun start _ => (expect_ends .leftBrace nofun).bind fun _ _ => ?_
  refine tokensLeft_looks.bind fun fuel _ => ?_
  refine (parseProperties_leads hg fuel false).bind fun ps hps => ?_
  exact (expect_ends .rightBrace nofun).bind fun _ _ => finish_plain (by simp [hps]) rfl

/-! ### Parentheses -/

theorem arrowParameters_good {params : List Node} (async : Bool) (h : Good text params) :
    Good text (arrowParameters params async) :=
  Good.mk.mpr ⟨Kind.plain_of_isPlain rfl, by simp [h]⟩

theorem requireArrow_leads : Leads text .ended requireArrow fun _ => .ended :=
  (sees_looks _).bind fun _ _ => .ite (fun _ => .pure (by simp)) fun _ => (expect_ends .arrow nofun).mono

theorem parseGroupRest_leads (hg : Sound text g) (fuel : Nat) {es : List Node}
    (hes : Good text es) : Leads text .ended (parseGroupRest g fuel es) fun _ => .ended := by
  induction fuel generalizing es with
  | zero => exact tooDeep_fails.leads
  | succ fuel ih =>
    unfold parseGroupRest
    refine lookahead_looks.bind fun _ _ => (sees_looks _).bind fun _ _ => ?_
    refine .ite (fun _ => .pure (by simp [hes])) fun _ => advance_leads.bind fun _ _ => ?_
    refine (accept_leads .rightParen nofun).andThen fun b _ => .cond ?_ ?_
    · exact .pure (by simp [map_asPattern_good hes])
    refine (sees_looks _).bind fun _ _ => .ite (fun _ => ?_) fun _ => ?_
    · refine context_looks.bind fun c _ => .ite (fun _ => ?_) fun _ => .unexpected
      refine (discarding_leads (parseRestParameter_ends hg)).bind fun e he => ?_
      refine (expect_ends .rightParen nofun).bind fun _ _ => requireArrow_leads.bind fun _ _ => ?_
      have hall : Good text (es ++ [e]) := by simp [hes, he]
      exact (modifyContext_looks _).bind fun _ _ => .pure (by simpa using map_asPattern_good hall)
    · exact (inherited_leads hg.assignment).bind fun e he => ih (by simp [hes, he])

theorem parseGroup_ends (hg : Sound text g) : Ends text (parseGroup g) := by
  refine (expect_ends .leftParen nofun).bind fun _ _ => ?_
  refine (accept_leads .rightParen nofun).andThen fun b _ => .cond ?_ ?_
  · exact requireArrow_leads.bind fun _ _ => .pure (arrowParameters_good _ (by simp))
  refine (sees_looks _).bind fun _ _ => .ite (fun _ => ?_) fun _ => ?_
  · refine (discarding_leads (parseRestParameter_ends hg)).bind fun e he => ?_
    refine (expect_ends .rightParen nofun).bind fun _ _ => requireArrow_leads.bind fun _ _ => ?_
    exact .pure (arrowParameters_good _ (by simp [he]))
  refine lookahead_looks.bind fun t _ => (modifyContext_looks _).bind fun _ _ => ?_
  refine (inherited_leads hg.assignment).bind fun first hfirst => (sees_looks _).bind fun isList _ => ?_
  extract_lets result rest
  have hresult : ∀ e, Good text e → Leads text .ended (result e) fun _ => .ended :=
    fun e he => (modifyContext_looks _).bind fun _ _ => .pure he
  have hrest : ∀ x, Good text x → Leads text .ended (rest x) fun _ => .ended := by
    intro (es, closed) hes
    simp only [Good.of_pair] at hes
    refine .ite (fun _ => .pure (arrowParameters_good _ hes.1)) fun _ => ?_
    extract_lets listed closing
    have hlisted : ∀ u, Leads text .ended (listed u) fun _ => .ended := fun _ =>
      (Leads.pure (arrowParameters_good _ (map_asPattern_good hes.1))).andThen hresult
    have hclosing : ∀ e, Good text e → Leads text .ended (closing e) fun _ => .ended := by
      intro e he
      refine (expect_ends .rightParen nofun).bind fun _ _ => (sees_looks _).bind fun _ _ => ?_
      refine .ite (fun _ => ?_) fun _ => (Leads.pure he).andThen hresult
      refine .ite (fun _ => ?_) fun _ => ?_
      · exact (Leads.pure (arrowParameters_good _ (by simp [he]))).andThen hresult
      · exact context_looks.bind fun c _ => .ite (fun _ => hlisted ()) fun _ => .unexpected
    refine .ite (fun _ => ?_) fun _ => (Leads.pure hfirst).andThen hclosing
    exact (finish_plain (by simp [hes]) rfl).andThen hclosing
  refine .ite (fun _ => ?_) fun _ => (Leads.pure (by simp [hfirst])).andThen hrest
  refine (modifyContext_looks _).bind fun _ _ => tokensLeft_looks.bind fun fuel _ => ?_
  exact (parseGroupRest_leads hg fuel (by simp [hfirst])).bind hrest

end Parser

end LintConfig.Ecma
