import LintConfig.Proofs.Ecma.Composition

/-! # Elements of markup

Inside of tags there is no lookahead, so the end of the last token is where the cursor stands; text
between tags may end with a semicolon, but a tag or a brace always follows it. An element ends with
its closing bracket or at the end of the text. -/
namespace LintConfig.Ecma

/-- The nodes of an open element are its opening tag and its children. -/
instance : Holds Parser.OpenElement := ⟨fun el => el.opening :: el.children⟩

namespace Parser
open Character Cursor
open Lexer (Lexes Quoted)

variable {text : List Char} {g : Grammar} {c d : Cursor}

/-! ### Tokens -/

theorem reference_reaches {quote : Char} (h : reference quote c = .ok d) : c.Reaches d := by
  unfold reference at h
  extract_lets body upToEnd number name at h
  have hbody : body.length ≤ c.rest.length := (List.takeWhile_prefix _).length_le
  have hnumber : ∀ {hex : Bool} {mark : Nat} {digits after : List Char},
      mark + digits.length + after.length ≤ c.rest.length →
      number hex mark digits after = .ok d → c.Reaches d := by
    intro hex mark digits after hle h
    dsimp -zeta only [number] at h
    split at h
    · extract_lets code at h
      split at h
      · contradiction
      · split at h
        · contradiction
        · cases h
          exact reaches_move (by simp only [List.length_cons] at hle; omega)
    · cases h
      exact reaches_move (by simp only [List.length_nil] at hle; omega)
    · cases h
      exact reaches_move (by simp only [List.length_cons] at hle; omega)
  have hdigits : ∀ (p : Char → Bool) (rest : List Char),
      (upToEnd p rest).length + (rest.drop (upToEnd p rest).length).length = rest.length := by
    intro p rest
    have : (upToEnd p rest).length ≤ rest.length := (List.takeWhile_prefix p).length_le
    rw [List.length_drop]
    omega
  have hname : name.length ≤ body.length := (List.takeWhile_prefix _).length_le
  clear_value name body number
  split at h
  · rename_i rest
    refine hnumber ?_ h
    have := hdigits isHexDigit rest
    rw [List.length_cons, List.length_cons] at hbody
    omega
  · rename_i d' rest _
    rw [List.length_cons, List.length_cons] at hbody
    split at h
    · refine hnumber ?_ h
      have := hdigits isDecimalDigit rest
      simp only [List.length_cons, List.drop_succ_cons]
      omega
    · cases h
      exact reaches_move (by omega)
  · cases h
    refine reaches_move ?_
    split <;> omega

/-- The closing quote of an attribute is passed over, unless the text ends before it. -/
theorem attributeEnd_closes {quote : Char} (hquote : quote ≠ ';') {fuel : Nat}
    (h : attributeEnd quote fuel c = .ok d) : c.Reaches d ∧ (d.rest = [] ∨ c.Closes d) := by
  induction fuel generalizing c with
  | zero => simp [attributeEnd, Cursor.fail] at h
  | succ fuel ih =>
    unfold attributeEnd at h
    split at h
    · rename_i hrest
      cases h
      exact ⟨.refl _, Or.inl hrest⟩
    · rename_i ch rest hrest
      have hone : c.Reaches (c.move 1) := reaches_move (by simp [hrest])
      have step : ∀ {b : Cursor}, c.Reaches b → attributeEnd quote fuel b = .ok d →
          c.Reaches d ∧ (d.rest = [] ∨ c.Closes d) := fun hb h => by
        obtain ⟨hreaches, hends⟩ := ih h
        exact ⟨hb.trans hreaches, hends.imp_right hb.closes⟩
      split at h
      · rename_i hch
        cases h
        exact ⟨hone, Or.inr (closes_move_one hrest (beq_iff_eq.mp hch ▸ hquote))⟩
      · split at h
        · obtain ⟨b, hb, h⟩ := Failing.bind_eq_ok.mp h
          exact step (hone.trans (reference_reaches hb)) h
        · exact step hone h

theorem tagPunctuator_prefix {rest : List Char} {p : Punctuator}
    (h : tagPunctuator? rest = some p) : p.text.toList <+: rest := by
  unfold tagPunctuator? at h
  split at h <;> cases h <;> simp [Punctuator.text]

theorem tagPunctuator_passes {p : Punctuator} (h : tagPunctuator? c.rest = some p) :
    c.Passes p.text.toList (c.move p.text.length) := by
  obtain ⟨rest, hrest⟩ := tagPunctuator_prefix h
  exact passes_move_append hrest.symm String.length_toList.symm

/-- What the characters of a token in a tag tell about it. One that is not passed over stands for a
character that cannot be there. -/
structure LexesTag (c : Cursor) (t : Token) (d : Cursor) : Prop where
  reaches : c.Reaches d
  quoted : Quoted t
  told : (∀ text, At text c → Told text t d.index) ∨ d = c ∧ ∀ p, t.isPunctuator p = false

theorem lexesTag_of_lexes {t : Token} (h : Lexes c t d) : LexesTag c t d :=
  ⟨h.reaches, h.quoted, Or.inl fun _ hat => told_of_lexes hat h⟩

/-- A string as the value of an attribute. -/
theorem attributeString_lexes {quote : Char} {rest : List Char} (hrest : c.rest = quote :: rest)
    (hquote : quote = '\'' ∨ quote = '"') {fuel : Nat}
    (h : attributeEnd quote fuel (c.move 1) = .ok d) :
    LexesTag c (Lexer.token c d (.string "" false)) d := by
  have hne : quote ≠ ';' := by rcases hquote with rfl | rfl <;> decide
  have hone : c.Passes [quote] (c.move 1) := passes_move_append hrest rfl
  obtain ⟨⟨u, hu⟩, hends⟩ := attributeEnd_closes hne h
  have hpasses : c.Passes (quote :: u) d := hone.trans hu
  refine ⟨⟨_, hpasses⟩, ?_, Or.inl fun text hat => ⟨nofun, fun _ => ?_⟩⟩
  · simpa [Quoted, Lexer.token, Token.isString, Lexer.toList_upTo hpasses] using hquote
  · rcases hends with hrest | hcloses
    · exact Or.inr ((hat.reaches ⟨_, hpasses⟩).index_eq_length hrest)
    · exact Or.inl (hat.closes (Reaches.closes ⟨_, hone⟩ hcloses))

/-- A name in a tag. Its first character is accepted as it is. -/
theorem markupName_lexes {ch : Char} {rest : List Char} (hrest : c.rest = ch :: rest)
    (hquote : ch ≠ '\'' ∧ ch ≠ '"') :
    LexesTag c (Lexer.token c (c.moveWhile isTagNamePart).2
      (.markupName (String.ofList (c.moveWhile isTagNamePart).1))) (c.moveWhile isTagNamePart).2 := by
  have hpasses := passes_moveWhile c isTagNamePart
  by_cases hpart : isTagNamePart ch = true
  · refine lexesTag_of_lexes (Lexer.lexes_of_closes ⟨_, hpasses, ?_,
      getLast_takeWhile (by decide) _⟩ (by simp) (by simp) ?_)
    · simp [hrest, hpart]
    · simp [Lexer.token, Token.isString, hrest, hquote]
  · have hnone : c.rest.takeWhile isTagNamePart = [] := by simp [hrest, hpart]
    refine ⟨⟨_, hpasses⟩, ?_, Or.inr ⟨?_, fun p => by simp [Token.isPunctuator, Lexer.token]⟩⟩
    · simp [Quoted, Lexer.token, Token.isString, Lexer.toList_upTo hpasses, hnone]
    · simp [moveWhile, hnone, move]

theorem lexTag_lexes {braces : List Lexer.Brace} {l : Lexer.Lexed} (h : lexTag braces c = .ok l) :
    LexesTag c l.token l.next := by
  unfold lexTag at h
  split at h
  · rename_i p hp
    cases h
    exact lexesTag_of_lexes (Lexer.punctuator_lexes (tagPunctuator_passes hp))
  · split at h
    · rename_i ch rest hrest
      split at h
      · rename_i hquote
        obtain ⟨b, hb, h⟩ := Failing.bind_eq_ok.mp h
        cases h
        simp only [Bool.or_eq_true, beq_iff_eq] at hquote
        exact attributeString_lexes hrest hquote.symm hb
      · rename_i hquote
        simp only [Bool.or_eq_true, beq_iff_eq, not_or] at hquote
        split at h
        · cases h
          refine ⟨.refl c, ?_, Or.inr ⟨rfl, fun p => by simp [Token.isPunctuator, Lexer.token]⟩⟩
          simp [Quoted, Lexer.token, Token.isString, Lexer.toList_upTo (Passes.refl c)]
        · split at h
          · cases h
            exact markupName_lexes hrest hquote.symm
          · exact lexesTag_of_lexes (Lexer.lex_lexes h)
    · exact lexesTag_of_lexes (Lexer.lex_lexes h)

/-! ### Moving in tags -/

/-- The stages inside of tags are kept while blanks and comments are skipped. -/
def Stage.inTag : Stage → Bool
  | .tag | .tagBegun | .tagEnded => true
  | _ => false

theorem skipGap_leads (σ : Stage) (hσ : σ.inTag = true) :
    Leads text σ skipGap fun _ => σ := by
  intro s u s' hs h
  obtain ⟨a, s₁, h₁, h⟩ := bind_ok.mp h
  obtain ⟨rfl, rfl⟩ := get_ok.mp h₁
  obtain ⟨k, s₂, h₂, h⟩ := bind_ok.mp h
  obtain ⟨hk, rfl⟩ := fromScan_ok.mp h₂
  obtain rfl := set_ok.mp h
  obtain ⟨hreaches, htrails⟩ := skipGap_ends hk
  refine ⟨by simp, ?_⟩
  cases σ <;> first | contradiction | skip
  case tag => exact hs.reaches hreaches
  case tagBegun => exact ⟨hs.1.reaches hreaches, hs.2⟩
  case tagEnded =>
    obtain ⟨hat, t, ht, hne, htold⟩ := hs
    refine ⟨hat.reaches hreaches, t, ht, hne, fun h => by rw [hne] at h; contradiction, fun _ => ?_⟩
    rcases htrails with hrest | htrails
    · exact Or.inr ((hat.reaches hreaches).index_eq_length hrest)
    · by_cases hsemicolon : SemicolonBefore text k.next.index
      · have heq := hat.trails htrails hsemicolon
        show _ ∨ k.next.index = _
        rw [heq] at hsemicolon ⊢
        exact Or.inr ((htold.2 hne).resolve_left fun hnot => hnot hsemicolon)
      · exact Or.inl hsemicolon

theorem tagMark_leads (σ : Stage) (hσ : σ.inTag = true) :
    Leads text σ tagMark fun _ => σ :=
  (skipGap_leads σ hσ).andThen fun _ _ => get_looks.bind fun _ _ => .pure (by simp)

/-- A token of a tag is read behind the gap before it. -/
theorem advanceTag_ok {s s' : State} {t : Token} {σ : Stage} (hσ : σ.inTag = true)
    (hs : σ.Holds text s.place) (h : advanceTag s = .ok (t, s')) :
    ∃ p : Place, σ.Holds text p ∧ LexesTag p.cursor t s'.cursor ∧ s'.last = some t := by
  obtain ⟨u, s₁, h₁, h⟩ := bind_ok.mp h
  obtain ⟨-, hs₁⟩ := skipGap_leads σ hσ hs h₁
  obtain ⟨a, s₂, h₂, h⟩ := bind_ok.mp h
  obtain ⟨rfl, rfl⟩ := get_ok.mp h₂
  obtain ⟨lexed, s₃, h₃, h⟩ := bind_ok.mp h
  obtain ⟨hlexed, rfl⟩ := fromScan_ok.mp h₃
  obtain ⟨u', s₄, h₄, h⟩ := bind_ok.mp h
  obtain rfl := set_ok.mp h₄
  obtain ⟨rfl, rfl⟩ := pure_ok.mp h
  exact ⟨s₁.place, hs₁, lexTag_lexes hlexed, rfl⟩

theorem advanceTag_leads : Leads text .tagEnded advanceTag Stage.tagBehind := by
  intro s t s' hs h
  obtain ⟨p, ⟨hat, t₀, -, hne, htold⟩, hlex, hlast⟩ := advanceTag_ok rfl hs h
  refine ⟨by simp, hat.reaches hlex.reaches, hlast, hlex.quoted, fun ht => ?_⟩
  rcases hlex.told with h | ⟨heq, -⟩
  · exact h text hat
  · refine ⟨fun h => by rw [ht] at h; contradiction, fun _ => ?_⟩
    show ¬ SemicolonBefore text s'.cursor.index ∨ s'.cursor.index = _
    rw [heq]
    exact htold.2 hne

theorem peekTag_looks : Looks text peekTag := peeking_looks lexTag

theorem seesTag_looks (p : Punctuator) : Looks text (seesTag p) :=
  peekTag_looks.andThen fun _ _ => .pure (by simp)

theorem expectTag_ends (p : Punctuator) (hp : p ≠ .semicolon) :
    Leads text .tag (expectTag p) fun _ => .tagEnded := by
  intro s u s' hs h
  obtain ⟨t, s₁, h₁, h⟩ := bind_ok.mp h
  obtain ⟨c, hat, hlex, hlast⟩ := advanceTag_ok rfl hs h₁
  split at h
  · rename_i ht
    obtain ⟨rfl, rfl⟩ := pure_ok.mp h
    have htold := hlex.told.resolve_right fun hnot => by
      rw [hnot.2 p] at ht
      contradiction
    exact ⟨by simp, hat.reaches hlex.reaches, t, hlast, not_semicolon hp ht, htold text hat⟩
  · exact absurd h (unexpected_fails _ _ _)

/-! ### Between text and expressions -/

theorem enterMarkup_leads : Leads text .reading enterMarkup fun _ => .tag := by
  intro s u s' hs h
  obtain rfl := modify_ok.mp h
  exact ⟨by simp, hs.start⟩

theorem leaveMarkup_leads : Leads text .tagEnded leaveMarkup fun _ => .ended := by
  rintro s u s' ⟨hat, t, ht, hne, htold⟩ h
  obtain ⟨hfresh, hlast⟩ := readLookahead_fresh hat h
  refine ⟨by simp, hfresh.reads fun t' ht' => ?_, t, hlast.trans ht, hne⟩
  obtain rfl : t = t' := Option.some.inj ((hlast.trans ht).symm.trans ht')
  exact htold

theorem reenterMarkup_leads : Leads text .reading reenterMarkup fun _ => .tagEnded :=
  enterMarkup_leads.bind fun _ _ => expectTag_ends .rightBrace nofun

/-! ### Tags -/

/-- A part of a tag behind a token that is no semicolon, which ends with such a token. -/
abbrev EndsTag {α : Type} [Holds α] (text : List Char) (p : Parse α) : Prop :=
  Leads text .tagEnded p fun _ => .tagEnded

theorem parseTagName_ends : EndsTag text parseTagName := by
  refine (tagMark_leads .tagEnded rfl).andThen fun start _ => advanceTag_leads.bind fun t _ => ?_
  split
  · rename_i hlexeme
    refine .of_tagBehind ?_ (finish_plain (by simp) rfl)
    simp [Token.isPunctuator, hlexeme]
  · exact (unexpected_fails t).leads

theorem parseNamespaced_ends {start : Nat} {space : Node} (hspace : Good text space) :
    EndsTag text (parseNamespaced start space) :=
  (expectTag_ends .colon nofun).bind fun _ _ => parseTagName_ends.bind fun name hname =>
    finish_plain (by simp [hspace, hname]) rfl

theorem parseElementName_ends : EndsTag text parseElementName := by
  refine (tagMark_leads .tagEnded rfl).andThen fun start _ => parseTagName_ends.bind fun first hfirst => ?_
  refine (seesTag_looks _).bind fun _ _ => .ite (fun _ => parseNamespaced_ends hfirst) fun _ => ?_
  refine tokensLeft_looks.bind fun fuel _ => iterate_leads (fun object hobject => ?_) fuel hfirst
  refine (seesTag_looks _).bind fun _ _ => .ite (fun _ => ?_) fun _ => .pure (by simp)
  refine (expectTag_ends .dot nofun).bind fun _ _ => parseTagName_ends.bind fun property hproperty => ?_
  exact (finish_plain (by simp [hobject, hproperty]) rfl).andThen fun n hn => .pure (by simp [hn])

theorem parseAttributeName_ends : EndsTag text parseAttributeName :=
  (tagMark_leads .tagEnded rfl).andThen fun _ _ => parseTagName_ends.bind fun _ hfirst =>
    (seesTag_looks _).bind fun _ _ =>
      .ite (fun _ => parseNamespaced_ends hfirst) fun _ => .pure hfirst

theorem parseTagName_gives : Gives (fun n => n.kind = .jsxIdentifier) parseTagName := by
  refine .bind fun start => .bind fun t => ?_
  split
  · exact finish_gives rfl
  · exact (unexpected_fails t).gives

/-- The name of an attribute is no literal. -/
theorem parseAttributeName_gives : Gives (fun n => n.kind ≠ .literal) parseAttributeName := by
  refine .bind fun start => parseTagName_gives.andThen fun first hfirst => .bind fun isSpaced => ?_
  split
  · exact .bind fun _ => .bind fun name => finish_gives nofun
  · exact .pure (by rw [hfirst]; nofun)

theorem parseAttributeString_ends : EndsTag text parseAttributeString := by
  refine (tagMark_leads .tagEnded rfl).andThen fun start _ => advanceTag_leads.bind fun t _ => ?_
  refine .ite (fun ht => ?_) fun _ => (unexpected_fails t).leads
  rintro s n s' ⟨hat, hlast, hquoted, htold⟩ h
  obtain ⟨rfl, rfl⟩ := finish_ok.mp h
  have hne : t.isPunctuator .semicolon = false := by
    unfold Token.isString at ht
    unfold Token.isPunctuator
    cases hl : t.lexeme <;> simp_all
  exact ⟨Good.mk.mpr ⟨⟨nofun, fun _ => ⟨t, hlast, rfl, hquoted⟩, nofun⟩, by simp⟩,
    hat, t, hlast, hne, htold hne⟩

theorem parseAttributeExpression_ends (hg : Sound text g) :
    EndsTag text (parseAttributeExpression g) := by
  refine (tagMark_leads .tagEnded rfl).andThen fun start _ => (expectTag_ends .leftBrace nofun).bind fun _ _ => ?_
  refine leaveMarkup_leads.bind fun _ _ => (sees_looks _).bind fun _ _ => ?_
  refine .unless (failHere_fails _) fun _ => hg.assignment.bind fun e he => ?_
  exact reenterMarkup_leads.bind fun _ _ => finish_plain (by simp [he]) rfl

theorem parseAttributeValue_ends (hg : Sound text g) : EndsTag text (parseAttributeValue g) := by
  refine (seesTag_looks _).bind fun _ _ => .ite (fun _ => parseAttributeExpression_ends hg) fun _ => ?_
  refine (seesTag_looks _).bind fun _ _ => .ite (fun _ => ?_) fun _ => parseAttributeString_ends
  exact hg.markupElement.mono

/-- An attribute is good if its name is no literal. -/
theorem finish_attribute {σ : Stage} {start : Nat} {name : Node} {value : Option Node}
    (hname : Good text name) (hvalue : Good text value) (hkind : name.kind ≠ .literal) :
    Leads text σ (finish start .jsxAttribute [field "name" name, optional "value" value])
      fun _ => σ := by
  intro s n s' hs hn
  obtain ⟨rfl, rfl⟩ := finish_ok.mp hn
  refine ⟨Good.mk.mpr ⟨⟨nofun, nofun, fun _ f hf hne m hm => ?_⟩, by simp [hname, hvalue]⟩, hs⟩
  rcases List.mem_cons.mp hf with rfl | hf
  · rw [List.mem_singleton.mp hm]
    exact hkind
  · obtain rfl := List.mem_singleton.mp hf
    exact absurd (by cases value <;> rfl) hne

theorem parseNamedAttribute_ends (hg : Sound text g) : EndsTag text (parseNamedAttribute g) := by
  refine (tagMark_leads .tagEnded rfl).andThen fun start _ => ?_
  refine parseAttributeName_ends.knowing parseAttributeName_gives fun name hname hkind => ?_
  refine (seesTag_looks _).bind fun _ _ => ?_
  extract_lets rest
  have hrest : ∀ value, Good text value → EndsTag text (rest value) := fun value hvalue =>
    finish_attribute hname hvalue hkind
  refine .ite (fun _ => ?_) fun _ => (Leads.pure (by simp)).andThen hrest
  refine (expectTag_ends .assign nofun).bind fun _ _ => (parseAttributeValue_ends hg).bind fun v hv => ?_
  exact (Leads.pure (by simp [hv])).andThen hrest

theorem parseSpreadAttribute_ends (hg : Sound text g) : EndsTag text (parseSpreadAttribute g) := by
  refine (tagMark_leads .tagEnded rfl).andThen fun start _ => (expectTag_ends .leftBrace nofun).bind fun _ _ => ?_
  refine (expectTag_ends .ellipsis nofun).bind fun _ _ => leaveMarkup_leads.bind fun _ _ => ?_
  refine hg.assignment.bind fun arg harg => ?_
  exact reenterMarkup_leads.bind fun _ _ => finish_plain (by simp [harg]) rfl

theorem parseAttributes_ends (hg : Sound text g) : EndsTag text (parseAttributes g) := by
  have hdone : Looks text
      (do return (← seesTag .divide) || (← seesTag .greater) : Parse Bool) :=
    (seesTag_looks _).andThen fun _ _ => (seesTag_looks _).andThen fun _ _ => .pure (by simp)
  have hone : EndsTag text
      (do if ← seesTag .leftBrace then parseSpreadAttribute g else parseNamedAttribute g) :=
    (seesTag_looks _).bind fun _ _ =>
      .ite (fun _ => parseSpreadAttribute_ends hg) fun _ => parseNamedAttribute_ends hg
  exact tokensLeft_looks.bind fun fuel _ => untilDone_leads hdone hone fuel

theorem parseOpeningRest_ends (hg : Sound text g) (start : Nat) :
    EndsTag text (parseOpeningRest g start) := by
  refine parseElementName_ends.bind fun name hname => ?_
  refine (parseAttributes_ends hg).bind fun attributes hattributes => ?_
  refine (seesTag_looks _).bind fun selfClosing _ => ?_
  extract_lets rest
  have hrest : ∀ u, EndsTag text (rest u) := fun _ => (expectTag_ends .greater nofun).bind fun _ _ =>
    finish_plain (by simp [hname, hattributes]) rfl
  exact .ite (fun _ => (expectTag_ends .divide nofun).bind fun _ _ => hrest ()) fun _ => hrest ()

theorem parseTag_leads (hg : Sound text g) :
    Leads text .tag (parseTag g) fun _ => .tagEnded := by
  refine (tagMark_leads .tag rfl).andThen fun start _ => (expectTag_ends .less nofun).bind fun _ _ => ?_
  refine (seesTag_looks _).bind fun _ _ => .ite (fun _ => ?_) fun _ => parseOpeningRest_ends hg start
  refine (expectTag_ends .divide nofun).bind fun _ _ => parseElementName_ends.bind fun name hname => ?_
  exact (expectTag_ends .greater nofun).bind fun _ _ => finish_plain (by simp [hname]) rfl

/-! ### Children -/

theorem textEnd_reaches (fuel : Nat) (c : Cursor) : c.Reaches (textEnd fuel c) := by
  induction fuel generalizing c with
  | zero => exact .refl c
  | succ fuel ih =>
    unfold textEnd
    split
    · exact .refl c
    · exact .refl c
    · exact .refl c
    · rename_i ch rest _ _ hrest
      refine Reaches.trans ?_ (ih _)
      split
      · exact reaches_newline c
      · exact reaches_move (by simp [hrest])

theorem parseText_leads : Leads text .tagBegun parseText fun _ => .tagBegun := by
  intro s n s' hs h
  obtain ⟨a, s₁, h₁, h⟩ := bind_ok.mp h
  obtain ⟨rfl, rfl⟩ := get_ok.mp h₁
  obtain ⟨u, s₂, h₂, h⟩ := bind_ok.mp h
  have hreaches := textEnd_reaches s.cursor.rest.length s.cursor
  have hs₂ : Stage.tagBegun.Holds text s₂.place := by
    obtain rfl := set_ok.mp h₂
    exact ⟨hs.1.reaches hreaches, hs.2⟩
  revert h
  refine (?_ : Leads text .tagBegun _ fun _ => .tagBegun) hs₂
  refine .ite (fun _ => ?_) fun _ => .pure (by simp)
  exact (finish_plain (by simp) rfl).andThen fun n hn => .pure (by simp [hn])

theorem parseContainer_leads (hg : Sound text g) :
    Leads text .tag (parseContainer g) fun _ => .tagEnded := by
  refine (tagMark_leads .tag rfl).andThen fun start _ => (expectTag_ends .leftBrace nofun).bind fun _ _ => ?_
  refine (seesTag_looks _).bind fun _ _ => ?_
  extract_lets rest
  have hrest : ∀ e, Good text e → EndsTag text (rest e) := fun e he => finish_plain (by simp [he]) rfl
  refine .ite (fun _ => ?_) fun _ => ?_
  · refine get_looks.bind fun s _ => (skipGap_leads .tagEnded rfl).andThen fun _ _ => ?_
    have hstop : EndsTag text (modify fun s : State =>
        { s with lastStop := s.cursor.index, lastLine := s.cursor.line } : Parse PUnit) := by
      intro s u s' hs h
      obtain rfl := modify_ok.mp h
      exact ⟨by simp, hs⟩
    refine hstop.bind fun _ _ => (finish_plain (by simp) rfl).andThen fun e he => ?_
    exact (expectTag_ends .rightBrace nofun).bind fun _ _ => (Leads.pure he).andThen hrest
  · refine leaveMarkup_leads.bind fun _ _ => hg.assignment.bind fun e he => ?_
    exact reenterMarkup_leads.bind fun _ _ => (Leads.pure he).andThen hrest

theorem parseChildren_leads (hg : Sound text g) (fuel : Nat) :
    Leads text .tagBegun (parseChildren g fuel) fun _ => .tagBegun := by
  induction fuel with
  | zero => exact tooDeep_fails.leads
  | succ fuel ih =>
    unfold parseChildren
    refine get_looks.bind fun s _ => .ite (fun _ => .pure (by simp)) fun _ => ?_
    refine parseText_leads.bind fun before hbefore => get_looks.bind fun s _ => ?_
    have hbefore : Good text before.toList := by cases before <;> simp_all
    refine .ite (fun _ => ?_) fun _ => .pure hbefore
    refine (parseContainer_leads hg).bind fun c hc => ih.bind fun rest hrest => .pure ?_
    simp [hbefore, hc, hrest]

theorem openElement_good {el : OpenElement} :
    Good text el ↔ Good text el.opening ∧ Good text el.children := by
  simp [Good, Holds.nodes]

theorem elementFields_good {opening : Node} {children : List Node} {closing : Option Node}
    (hopening : Good text opening) (hchildren : Good text children) (hclosing : Good text closing) :
    Good text (elementFields opening children closing) := by
  simp [elementFields, hopening, hchildren, hclosing]

/-- At the end of the text no more is needed for the end of a tag. -/
theorem Leads.atEnd {α : Type} [Holds α] {x y : Parse α} {τ : α → Stage}
    (hx : Leads text .tagEnded x τ) (hy : Leads text .tagBegun y τ) :
    Leads text .tagBegun
      (get >>= fun s => if s.cursor.rest.isEmpty = true then x else y) τ := by
  rintro s a s' ⟨hat, t, ht, hne⟩ h
  obtain ⟨b, s₁, h₁, h⟩ := bind_ok.mp h
  obtain ⟨rfl, rfl⟩ := get_ok.mp h₁
  split at h
  · rename_i hrest
    refine hx ⟨hat, t, ht, hne, fun h => by rw [hne] at h; contradiction, fun _ => ?_⟩ h
    exact Or.inr (hat.index_eq_length (List.isEmpty_iff.mp hrest))
  · exact hy ⟨hat, t, ht, hne⟩ h

theorem parseElementRest_leads (hg : Sound text g) (fuel : Nat) {outer : List OpenElement}
    {el : OpenElement} (houter : Good text outer) (hel : Good text el) :
    Leads text .tagBegun (parseElementRest g fuel outer el) fun _ => .tagEnded := by
  induction fuel generalizing outer el with
  | zero => exact tooDeep_fails.leads
  | succ fuel ih =>
    obtain ⟨hopening, hchildren⟩ := openElement_good.mp hel
    unfold parseElementRest
    refine .atEnd (.pure (by simp [hchildren])) (tokensLeft_looks.bind fun fuel' _ => ?_)
    refine (parseChildren_leads hg fuel').bind fun more hmore => get_looks.bind fun s _ => ?_
    refine (parseTag_leads hg).bind fun tag htag => ?_
    have hmore : Good text (el.children ++ more) := by simp [hchildren, hmore]
    refine .ite (fun _ => .ite (fun _ => ?_) fun _ => ?_) fun _ => ?_
    · refine (finish_plain (elementFields_good htag (by simp) (by simp)) rfl).andThen fun child hchild => ?_
      refine .mono (ih houter (openElement_good.mpr ⟨hopening, ?_⟩))
      exact Good.append.mpr ⟨hmore, by simp [hchild]⟩
    · refine .mono (ih ?_ (openElement_good.mpr (by simp [htag])))
      exact Good.cons.mpr ⟨openElement_good.mpr ⟨hopening, hmore⟩, houter⟩
    · refine .unless (failHere_fails _) fun _ => ?_
      cases outer with
      | nil => exact .pure (by simp [hchildren, htag] at hmore ⊢; exact hmore)
      | cons parent outer =>
        obtain ⟨hparent, houter⟩ := Good.cons.mp houter
        obtain ⟨hopening', hchildren'⟩ := openElement_good.mp hparent
        refine (finish_plain (elementFields_good hopening hmore (by simp [htag])) rfl).andThen
          fun child hchild => ?_
        refine .mono (ih houter (openElement_good.mpr ⟨hopening', ?_⟩))
        exact Good.append.mpr ⟨hchildren', by simp [hchild]⟩

theorem parseElement_leads (hg : Sound text g) :
    Leads text .tag (parseElement g) fun _ => .tagEnded := by
  refine (tagMark_leads .tag rfl).andThen fun start _ => (tagMark_leads .tag rfl).andThen fun openingStart _ => ?_
  refine (expectTag_ends .less nofun).bind fun _ _ => ?_
  refine (parseOpeningRest_ends hg openingStart).bind fun opening hopening => ?_
  extract_lets rest
  have hrest : ∀ x, Good text x → EndsTag text (rest x) := by
    intro (children, closing) h
    exact finish_plain (elementFields_good hopening (Good.of_pair.mp h).1 (Good.of_pair.mp h).2) rfl
  refine .ite (fun _ => (Leads.pure (by simp)).andThen hrest) fun _ => ?_
  refine tokensLeft_looks.bind fun fuel _ => ?_
  exact (parseElementRest_leads hg fuel (by simp) (openElement_good.mpr (by simp [hopening]))).bind
    hrest

theorem parseMarkup_ends (hg : Sound text g) : Ends text (parseMarkup g) :=
  enterMarkup_leads.bind fun _ _ => hg.markupElement.bind fun _ he =>
    leaveMarkup_leads.bind fun _ _ => .pure he

end Parser

end LintConfig.Ecma
