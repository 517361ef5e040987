import LintConfig.Proofs.Ecma.Stage

/-! # What the elementary steps do

Reading a token moves to the next stage; everything else that a step can do to the state stays
within one. -/
namespace LintConfig.Ecma.Parser
open Cursor (At SemicolonBefore)
open Lexer (Lexes Quoted)

variable {text : List Char} {α β : Type} [Holds α] [Holds β]
variable {σ υ : Stage} {τ : α → Stage} {τ' : β → Stage} {s s' : State}

/-! ### States -/

theorem get_ok {a : State} : (get : Parse State) s = .ok (a, s') ↔ s = a ∧ s = s' := by
  constructor
  · rintro ⟨⟩
    exact ⟨rfl, rfl⟩
  · rintro ⟨rfl, rfl⟩
    rfl

theorem set_ok {t : State} {u : PUnit} :
    (set t : Parse PUnit) s = .ok (u, s') ↔ t = s' := by
  constructor
  · rintro ⟨⟩
    rfl
  · rintro rfl
    rfl

theorem modify_ok {f : State → State} {u : PUnit} :
    (modify f : Parse PUnit) s = .ok (u, s') ↔ f s = s' := by
  constructor
  · rintro ⟨⟩
    rfl
  · rintro rfl
    rfl

theorem pure_ok {γ : Type} {a b : γ} :
    (pure a : Parse γ) s = .ok (b, s') ↔ a = b ∧ s = s' := by
  constructor
  · rintro ⟨⟩
    exact ⟨rfl, rfl⟩
  · rintro ⟨rfl, rfl⟩
    rfl

theorem fromScan_ok {γ : Type} {x : Scan γ} {a : γ} :
    fromScan x s = .ok (a, s') ↔ x = .ok a ∧ s = s' := by
  cases x with
  | error e => simp [fromScan, Except.map]
  | ok b => simp [fromScan, Except.map]

/-- What only reads something off the state goes on with it. -/
theorem read_bind {γ : Type} {p : Parse γ} {f : State → γ} (hp : ∀ s, p s = .ok (f s, s))
    (k : γ → Parse β) (s : State) : (p >>= k) s = k (f s) s := by
  change Except.bind (p s) _ = _
  rw [hp]
  rfl

/-! ### Failing -/

theorem fail_fails {γ : Type} (cause : Cause) : Fails (fail (α := γ) cause) :=
  fun _ _ h => nomatch h

theorem failHere_fails {γ : Type} (cause : Cause) : Fails (failHere (α := γ) cause) :=
  fun _ _ h => nomatch h

theorem failAt_fails {γ : Type} (t : Token) (cause : Cause) : Fails (failAt (α := γ) t cause) :=
  fun _ _ h => nomatch h

theorem abort_fails {γ : Type} (reason : Abort) : Fails (abort (α := γ) reason) :=
  fun _ _ h => nomatch h

theorem object_fails {γ : Type} (line : Option Nat) (cause : Cause) :
    Fails (object (α := γ) line cause) :=
  fun _ _ h => nomatch h

theorem tooDeep_fails {γ : Type} : Fails (tooDeep (α := γ)) := failHere_fails _

theorem unexpected_fails {γ : Type} (t : Token) : Fails (unexpected (α := γ) t) := by
  rintro s ⟨a, s'⟩ h
  obtain ⟨c, t', -, h⟩ := bind_ok.mp h
  exact failAt_fails _ _ _ _ h

/-! ### Looking -/

theorem get_looks : Looks text (get : Parse State) := by
  intro s a s' h
  obtain ⟨-, rfl⟩ := get_ok.mp h
  exact ⟨.of_bare _, rfl⟩

/-- A change of what does not belong to the place. -/
theorem modify_looks {f : State → State} (hf : ∀ s, (f s).place = s.place) :
    Looks text (modify f : Parse PUnit) := by
  intro s a s' h
  obtain rfl := modify_ok.mp h
  exact ⟨.of_bare _, hf s⟩

theorem modifyContext_looks (f : Context → Context) : Looks text (modifyContext f) :=
  modify_looks fun _ => rfl

theorem bind_looks (t : Token) : Looks text (Parser.bind t) := modify_looks fun _ => rfl

theorem onlyValue_looks : Looks text onlyValue := modifyContext_looks _

/-- Reading off a value that holds no node. -/
theorem read_looks {γ : Type} [Holds γ] (f : State → γ) (hf : ∀ s, Good text (f s)) :
    Looks text (do return f (← get) : Parse γ) :=
  get_looks.andThen fun s _ => .pure (hf s)

theorem context_looks : Looks text context :=
  read_looks _ fun _ => .of_bare _

theorem lookahead_looks : Looks text lookahead := read_looks _ fun _ => .of_bare _

theorem mark_looks : Looks text mark := read_looks _ fun _ => .of_bare _

theorem tokensLeft_looks : Looks text tokensLeft :=
  read_looks _ fun _ => .of_bare _

theorem sees_looks (p : Punctuator) : Looks text (sees p) :=
  lookahead_looks.andThen fun _ _ => .pure (.of_bare _)

theorem seesKeyword_looks (k : Keyword) : Looks text (seesKeyword k) :=
  lookahead_looks.andThen fun _ _ => .pure (.of_bare _)

theorem seesWord_looks (word : String) : Looks text (seesWord word) :=
  lookahead_looks.andThen fun _ _ => .pure (.of_bare _)

theorem seesAny_looks (ps : List Punctuator) : Looks text (seesAny ps) :=
  lookahead_looks.andThen fun _ _ => .pure (.of_bare _)

/-- Reading the token after the lookahead, without consuming it. -/
theorem peeking_looks (lex : List Lexer.Brace → Cursor → Scan Lexer.Lexed) : Looks text (do
    let s ← get
    let skipped ← fromScan (s.cursor.skipGap s.context.isModule)
    let lexed ← fromScan (lex s.braces skipped.next)
    set { s with braces := lexed.braces }
    return lexed.token : Parse Token) := by
  intro s t s' h
  obtain ⟨a, s₁, h₁, h⟩ := bind_ok.mp h
  obtain ⟨rfl, rfl⟩ := get_ok.mp h₁
  obtain ⟨skipped, s₂, h₂, h⟩ := bind_ok.mp h
  obtain ⟨-, rfl⟩ := fromScan_ok.mp h₂
  obtain ⟨lexed, s₃, h₃, h⟩ := bind_ok.mp h
  obtain ⟨-, rfl⟩ := fromScan_ok.mp h₃
  obtain ⟨u, s₄, h₄, h⟩ := bind_ok.mp h
  obtain rfl := set_ok.mp h₄
  obtain ⟨rfl, rfl⟩ := pure_ok.mp h
  exact ⟨.of_bare _, rfl⟩

theorem peek_looks : Looks text peek := peeking_looks Lexer.lex

theorem seesAsyncFunction_looks : Looks text seesAsyncFunction :=
  (seesWord_looks _).andThen fun _ _ => .ite
    (get_looks.andThen fun _ _ => peek_looks.andThen fun _ _ => .pure (.of_bare _))
    (.pure (.of_bare _))

theorem seesImportCall_looks : Looks text seesImportCall :=
  (seesKeyword_looks _).andThen fun _ _ => .ite
    (peek_looks.andThen fun _ _ => .pure (.of_bare _)) (.pure (.of_bare _))

theorem letDeclares_looks : Looks text letDeclares :=
  peek_looks.andThen fun _ _ => .pure (.of_bare _)

/-- Looking at the lookahead where it matters which token it is. -/
theorem Leads.facing [σ.Implies .reading] {k : Token → Parse β}
    (hk : ∀ t, Leads text (.facing t) (k t) τ') : Leads text σ (lookahead >>= k) τ' := by
  intro s b s' hs hb
  rw [read_bind (p := lookahead) (f := State.lookahead) fun _ => rfl] at hb
  exact hk _ ⟨hs.reads, rfl⟩ hb

/-- Looking whether the lookahead is one of some marks, where it matters which it is. -/
theorem Leads.facingAny [σ.Implies .reading] {ps : List Punctuator} {k : Bool → Parse β}
    (hyes : ∀ t, ps.any t.isPunctuator = true → Leads text (.facing t) (k true) τ')
    (hno : Leads text σ (k false) τ') : Leads text σ (seesAny ps >>= k) τ' := by
  intro s b s' hs hb
  rw [read_bind (p := seesAny ps) (f := fun s => ps.any s.lookahead.isPunctuator)
    fun _ => rfl] at hb
  cases hseen : ps.any s.lookahead.isPunctuator with
  | true =>
    rw [hseen] at hb
    exact hyes s.lookahead hseen ⟨hs.reads, rfl⟩ hb
  | false =>
    rw [hseen] at hb
    exact hno hs hb

/-- An error at the lookahead. -/
theorem Leads.unexpected {γ : Type} {k : γ → Parse α} :
    Leads text σ (lookahead >>= fun t => Parser.unexpected t >>= k) τ :=
  lookahead_looks.bind fun t _ => (unexpected_fails t).bind.leads

theorem Looks.unexpected {γ : Type} {k : γ → Parse α} :
    Looks text (lookahead >>= fun t => Parser.unexpected t >>= k) :=
  lookahead_looks.andThen fun t _ => (unexpected_fails t).bind.looks

/-! ### Reading a token -/

theorem reserve_lexes {strict : Bool} {c d : Cursor} {t : Token} (h : Lexes c t d) :
    Lexes c (reserve strict t) d := by
  unfold reserve
  split
  · rename_i name hname
    split
    · have hend : t.isEnd = false := by simp [Token.isEnd, hname]
      have hp : ∀ p, t.isPunctuator p = false := by simp [Token.isPunctuator, hname]
      refine ⟨h.reaches, fun _ _ => h.closes hend (hp _), ?_, ?_, ?_, ?_⟩
      · simp [Token.isPunctuator]
      · simp [Token.isEnd]
      · have := h.quoted
        unfold Quoted at this ⊢
        simpa [Token.isString, hname] using this
      · simp [Token.isPunctuator]
    · exact h
  · exact h

/-- The end of a token tells which one it is. -/
theorem told_of_lexes {c d : Cursor} {t : Token} (hat : At text c) (h : Lexes c t d) :
    Told text t d.index := by
  refine ⟨fun ht => ?_, fun ht => ?_⟩
  · obtain ⟨v, rfl, hindex⟩ := hat
    have hpasses := h.semicolon ht
    rw [hpasses.index, hindex, hpasses.rest, ← List.length_append, ← List.append_assoc,
      Cursor.semicolonBefore_iff]
    simp
  · cases hend : t.isEnd with
    | true =>
      obtain ⟨hrest, rfl⟩ := h.ended hend
      exact Or.inr (hat.index_eq_length hrest)
    | false => exact Or.inl (hat.closes (h.closes hend ht))

/-- A place whose lookahead has just been read, behind some cursor. -/
structure Fresh (text : List Char) (c : Cursor) (p : Place) : Prop where
  start : At text p.start
  lexes : Lexes p.start p.lookahead p.cursor
  lastStop : p.lastStop = c.index
  gap : SemicolonBefore text p.start.index → p.start.index = text.length ∨ p.start.index = c.index

theorem readLookahead_fresh {u : Unit} (hat : At text s.cursor)
    (h : readLookahead s = .ok (u, s')) : Fresh text s.cursor s'.place ∧ s'.last = s.last := by
  obtain ⟨a, s₁, h₁, h⟩ := bind_ok.mp h
  obtain ⟨rfl, rfl⟩ := get_ok.mp h₁
  obtain ⟨skipped, s₂, h₂, h⟩ := bind_ok.mp h
  obtain ⟨hskipped, rfl⟩ := fromScan_ok.mp h₂
  obtain ⟨lexed, s₃, h₃, h⟩ := bind_ok.mp h
  obtain ⟨hlexed, rfl⟩ := fromScan_ok.mp h₃
  obtain rfl := set_ok.mp h
  obtain ⟨hreaches, htrails⟩ := Cursor.skipGap_ends hskipped
  refine ⟨⟨hat.reaches hreaches, reserve_lexes (Lexer.lex_lexes hlexed), rfl, fun hs => ?_⟩, rfl⟩
  refine htrails.imp (fun hrest => ?_) fun ht => ?_
  · exact (hat.reaches hreaches).index_eq_length hrest
  · exact hat.trails ht hs

theorem Fresh.reads {c : Cursor} {p : Place} (h : Fresh text c p)
    (hlast : ∀ t, p.last = some t → Told text t c.index) : Reads text p where
  start := h.start
  lexes := h.lexes
  last := fun t ht => h.lastStop ▸ hlast t ht
  gap := h.lastStop ▸ h.gap

theorem Reads.cursor {p : Place} (h : Reads text p) : At text p.cursor :=
  h.start.reaches h.lexes.reaches

/-- Consuming the lookahead. -/
theorem advance_ok {t : Token} (hs : Reads text s.place) (h : advance s = .ok (t, s')) :
    t = s.lookahead ∧ (Stage.behind t).Holds text s'.place := by
  obtain ⟨a, s₁, h₁, h⟩ := bind_ok.mp h
  obtain ⟨rfl, rfl⟩ := get_ok.mp h₁
  obtain ⟨u, s₂, h₂, h⟩ := bind_ok.mp h
  obtain ⟨hfresh, -⟩ := readLookahead_fresh hs.cursor h₂
  obtain ⟨u', s₃, h₃, h⟩ := bind_ok.mp h
  obtain rfl := modify_ok.mp h₃
  obtain ⟨rfl, rfl⟩ := pure_ok.mp h
  have hfresh' : Fresh text s.cursor { s₂ with last := some s.lookahead }.place :=
    ⟨hfresh.start, hfresh.lexes, hfresh.lastStop, hfresh.gap⟩
  refine ⟨rfl, hfresh'.reads fun t ht => ?_, rfl, hs.lexes.quoted⟩
  obtain rfl := Option.some.inj ht
  exact told_of_lexes hs.start hs.lexes

theorem advance_leads : Leads text .reading advance Stage.behind := by
  intro s t s' hs h
  exact ⟨.of_bare _, (advance_ok hs h).2⟩

theorem advance_goes : Goes text advance := by
  intro s t s' hs h
  exact ⟨.of_bare _, (advance_ok hs h).2.mono⟩

/-- Consuming a lookahead that was looked at before. -/
theorem Leads.advance {t : Token} {k : Token → Parse β} (hk : Leads text (.behind t) (k t) τ') :
    Leads text (.facing t) (Parser.advance >>= k) τ' := by
  intro s b s' hs hb
  obtain ⟨t', s₁, h₁, hb⟩ := bind_ok.mp hb
  obtain ⟨rfl, hbehind⟩ := advance_ok hs.1 h₁
  obtain rfl := hs.2
  exact hk hbehind hb

/-- A mark other than the semicolon is none. -/
theorem not_semicolon {t : Token} {p : Punctuator} (hp : p ≠ .semicolon)
    (h : t.isPunctuator p = true) : t.isPunctuator .semicolon = false := by
  unfold Token.isPunctuator at h ⊢
  rw [beq_iff_eq.mp h]
  simpa using hp

theorem not_semicolon_of_keyword {t : Token} {k : Keyword} (h : t.isKeyword k = true) :
    t.isPunctuator .semicolon = false := by
  unfold Token.isPunctuator Token.isKeyword at *
  simp [beq_iff_eq.mp h]

theorem not_semicolon_of_word {t : Token} {word : String} (h : t.isWord word = true) :
    t.isPunctuator .semicolon = false := by
  unfold Token.isPunctuator Token.isWord at *
  simp [beq_iff_eq.mp h]

theorem not_semicolon_of_name {t : Token} (h : t.isName = true) :
    t.isPunctuator .semicolon = false := by
  unfold Token.isPunctuator
  unfold Token.isName at h
  cases hl : t.lexeme <;> simp_all

theorem expect_ends (p : Punctuator) (hp : p ≠ .semicolon) : Ends text (expect p) :=
  advance_leads.bind fun _ _ => .ite
    (fun h => .of_behind (not_semicolon hp h) (.pure (.of_bare _)))
    fun _ => (unexpected_fails _).leads

theorem expect_goes (p : Punctuator) : Goes text (expect p) :=
  advance_leads.bind fun _ _ => .ite (fun _ => .pure (.of_bare _))
    fun _ => (unexpected_fails _).leads

theorem expectKeyword_ends (k : Keyword) : Ends text (expectKeyword k) :=
  advance_leads.bind fun _ _ => .ite
    (fun h => .of_behind (not_semicolon_of_keyword h) (.pure (.of_bare _)))
    fun _ => (unexpected_fails _).leads

/-- Consuming the lookahead if it passes a test. -/
theorem accept_test [σ.Implies .reading] {test : Token → Bool}
    (htest : ∀ {t p}, test t = true → (Stage.behind t).Holds text p → υ.Holds text p) :
    Leads text σ (do
      if ← (do return test (← lookahead)) then
        let _ ← advance
        return true
      else return false) fun b => bif b then υ else σ := by
  intro s b s' hs hb
  rw [read_bind (p := do return test (← lookahead)) (f := fun s => test s.lookahead)
    fun _ => rfl] at hb
  split at hb
  · rename_i hseen
    obtain ⟨t, s₄, h₄, hb⟩ := bind_ok.mp hb
    obtain ⟨rfl, hbehind⟩ := advance_ok hs.reads h₄
    obtain ⟨rfl, rfl⟩ := pure_ok.mp hb
    exact ⟨.of_bare _, htest hseen hbehind⟩
  · obtain ⟨rfl, rfl⟩ := pure_ok.mp hb
    exact ⟨.of_bare _, hs⟩

theorem accept_leads [σ.Implies .reading] (p : Punctuator) (hp : p ≠ .semicolon) :
    Leads text σ (accept p) fun b => bif b then .ended else σ :=
  accept_test fun ht hs => hs.ended_of_behind (not_semicolon hp ht)

/-- Behind a token that is no semicolon it does not matter whether another one follows. -/
theorem Leads.either {p : Parse Bool} (hp : Leads text .ended p fun b => bif b then .ended else .ended) :
    Leads text .ended p fun _ => .ended :=
  hp.mono

theorem accept_goes [σ.Implies .reading] (p : Punctuator) :
    Leads text σ (accept p) fun b => bif b then .begun else σ :=
  accept_test fun _ hs => hs.mono

theorem acceptKeyword_leads [σ.Implies .reading] (k : Keyword) :
    Leads text σ (acceptKeyword k) fun b => bif b then .ended else σ :=
  accept_test fun ht hs => hs.ended_of_behind (not_semicolon_of_keyword ht)

theorem acceptWord_leads [σ.Implies .reading] (word : String) :
    Leads text σ (acceptWord word) fun b => bif b then .ended else σ :=
  accept_test fun ht hs => hs.ended_of_behind (not_semicolon_of_word ht)

/-! ### Ending a statement -/

/-- A missing semicolon stretches a statement up to the lookahead, which is no further than the
last token or the end of the text as far as semicolons are concerned. -/
theorem endStatement_leads : Leads text .ended endStatement fun _ => .begun := by
  refine (sees_looks _).bind fun b _ => .ite (fun _ => ?_) fun _ => ?_
  · exact advance_goes.bind fun _ _ => .pure (.of_bare _)
  · refine get_looks.bind fun s _ => .ite (fun _ => .pure (.of_bare _)) fun _ => ?_
    refine .when (unexpected_fails _) fun _ => ?_
    rintro s u s' ⟨hs, t, ht, hne⟩ h
    obtain rfl := modify_ok.mp h
    refine ⟨.of_bare _, ⟨hs.start, hs.lexes, fun t' ht' => ?_, fun _ => Or.inr rfl⟩, by
      show s.last.isSome = true
      simp [show s.last = some t from ht]⟩
    obtain rfl : t = t' := Option.some.inj (ht.symm.trans ht')
    refine ⟨fun h => by rw [hne] at h; contradiction, fun _ => ?_⟩
    -- a semicolon before the lookahead is one before the end of the last token
    by_cases hsemicolon : SemicolonBefore text s.start.index
    · refine Or.inr ((hs.gap hsemicolon).elim id fun heq => ?_)
      refine heq.trans (((hs.last t ht).2 hne).resolve_left fun hnot => hnot ?_)
      exact heq ▸ hsemicolon
    · exact Or.inl hsemicolon

/-! ### Regular expressions -/

theorem Leads.advanceRegularExpression {t : Token} {k : Token → Parse β}
    (ht : t.isPunctuator .divide = true ∨ t.isPunctuator .divideAssign = true)
    (hk : ∀ t, t.isPunctuator .semicolon = false → Leads text (.behind t) (k t) τ') :
    Leads text (.facing t) (Parser.advanceRegularExpression >>= k) τ' := by
  rintro s b s' ⟨hs, rfl⟩ h
  obtain ⟨a, s₀, h₀, h⟩ := bind_ok.mp h
  obtain ⟨c, s₁, h₁, h₀⟩ := bind_ok.mp h₀
  obtain ⟨rfl, rfl⟩ := get_ok.mp h₁
  obtain ⟨⟨t, next⟩, s₂, h₂, h₀⟩ := bind_ok.mp h₀
  obtain ⟨hlex, rfl⟩ := fromScan_ok.mp h₂
  obtain ⟨u, s₃, h₃, h₀⟩ := bind_ok.mp h₀
  obtain rfl := set_ok.mp h₃
  have hslash : s.start.rest.head? = some '/' := by
    rcases ht with ht | ht
    · exact hs.lexes.begins _ ht
    · exact hs.lexes.begins _ ht
  have hreads : Reads text { s with cursor := next, lookahead := t }.place :=
    ⟨hs.start, Lexer.lexRegularExpression_lexes hslash hlex, hs.last, hs.gap⟩
  obtain ⟨rfl, hbehind⟩ := advance_ok hreads h₀
  refine hk _ ?_ hbehind h
  simp [Token.isPunctuator, Lexer.lexRegularExpression_lexeme hlex]

end LintConfig.Ecma.Parser
