import LintConfig.Proofs.Ecma.Passage
import LintConfig.Proofs.Failing

/-! # Where tokens end

A token is passed over character by character, and the passage ends with no semicolon unless the
token is one. So the character before the end of a token tells whether it is a semicolon, and its
first character whether it is a string. -/
namespace LintConfig.Ecma.Lexer
open Character Cursor Failing

variable {c d : Cursor}

/-! ### Escapes -/

theorem bracedEscape_closes {code : Nat} (h : c.bracedEscape = .ok (code, d)) : c.Closes d := by
  unfold bracedEscape at h
  dsimp only at h
  split at h
  · rename_i rest hdigits hdrop
    split at h
    · cases h
      have hrest : c.rest = (c.rest.takeWhile isHexDigit ++ ['}']) ++ rest := by
        rw [List.append_assoc, List.singleton_append, ← hdrop]
        have := List.prefix_iff_eq_append.mp (List.takeWhile_prefix isHexDigit (l := c.rest))
        exact this.symm
      exact closes_move_append hrest (by simp) (by simp) (by simp)
    · simp [illegal, fail] at h
  · simp [illegal, fail] at h

theorem hexEscape_closes {n : Nat} {ch : Char} (hn : 0 < n)
    (h : c.hexEscape? n = some (ch, d)) : c.Closes d := by
  unfold hexEscape? at h
  dsimp only at h
  split at h
  · rename_i hlength
    obtain ⟨-, rfl⟩ := Prod.mk.inj (Option.some.inj h)
    have hle : n ≤ c.rest.length := by
      have := (List.takeWhile_prefix isHexDigit (l := c.rest.take n)).length_le
      rw [hlength, List.length_take] at this
      omega
    have hall : (c.rest.take n).takeWhile isHexDigit = c.rest.take n :=
      (List.takeWhile_prefix _).eq_of_length (by rw [hlength, List.length_take]; omega)
    refine ⟨c.rest.take n, passes_move hle, ?_, ?_⟩
    · intro hnil
      have := congrArg List.length hnil
      rw [List.length_take, List.length_nil] at this
      omega
    · rw [← hall]
      exact getLast_takeWhile (by decide) _
  · contradiction

theorem octalEscape_reaches (c : Cursor) : c.Reaches c.octalEscape.2.2 := by
  unfold octalEscape
  dsimp only
  refine reaches_move ?_
  have hle := (List.takeWhile_prefix isOctalDigit (l := c.rest.take 3)).length_le
  rw [List.length_take] at hle
  split
  · split
    · omega
    · rw [List.length_take]
      omega
  · simp

/-! ### Names -/

theorem isIdentifierPart_semicolon : isIdentifierPart ';' = false := by decide

theorem isIdentifierStart_semicolon : isIdentifierStart ';' = false := by decide

/-- The characters of a name and its escapes are no semicolons; at least one is passed over if the
first is accepted as it is. -/
theorem nameChars_passes {fuel : Nat} {first : Bool} {chars : List Char}
    (h : nameChars fuel first c = .ok (chars, d))
    (hfirst : first = true → c.rest.head? ≠ some ';') :
    c.Trails d ∧ (first = true → c.rest ≠ [] → c.Closes d) := by
  induction fuel generalizing first c d chars with
  | zero => simp [nameChars, fail] at h
  | succ fuel ih =>
    -- a first step over something other than a semicolon is all that matters
    have step : ∀ {b e : Cursor} {more : List Char}, c.Closes b →
        nameChars fuel false b = .ok (more, e) → c.Closes e := fun hb he =>
      hb.trans_trails (ih he nofun).1
    unfold nameChars at h
    split at h
    · rename_i rest hrest
      obtain ⟨⟨code, b⟩, hb, h⟩ := bind_eq_ok.mp h
      obtain ⟨⟨more, e⟩, he, h⟩ := bind_eq_ok.mp h
      cases h
      have hd := step ((reaches_move (by simp [hrest])).closes (bracedEscape_closes hb)) he
      exact ⟨hd.trails, fun _ _ => hd⟩
    · rename_i rest _ hrest
      split at h
      · rename_i ch b hb
        generalize (ch != '\\' && if first = true then isIdentifierStart ch else
          isIdentifierPart ch) = good at h
        cases good with
        | false => simp [illegal, fail] at h
        | true =>
          obtain ⟨⟨more, e⟩, he, h⟩ := bind_eq_ok.mp h
          cases h
          have hd := step ((reaches_move (by simp [hrest])).closes
            (hexEscape_closes (by decide) hb)) he
          exact ⟨hd.trails, fun _ _ => hd⟩
      · simp [illegal, fail] at h
    · simp [illegal, fail] at h
    · rename_i ch rest _ _ _ hrest
      split at h
      · rename_i hch
        obtain ⟨⟨more, e⟩, he, h⟩ := bind_eq_ok.mp h
        cases h
        have hne : ch ≠ ';' := by
          rcases Bool.or_eq_true_iff.mp hch with hf | hp
          · simpa [hrest] using hfirst hf
          · exact ne_semicolon isIdentifierPart_semicolon hp
        have hd := step (closes_move_one hrest hne) he
        exact ⟨hd.trails, fun _ _ => hd⟩
      · rename_i hch
        cases h
        refine ⟨.refl c, fun hf => ?_⟩
        simp [hf] at hch
    · rename_i hrest
      cases h
      exact ⟨.refl c, fun _ hne => absurd hrest hne⟩

/-! ### Tokens -/

/-- Strings are the tokens that begin with a quote. -/
def Quoted (t : Token) : Prop :=
  t.isString = true ↔ t.raw.toList.head? = some '\'' ∨ t.raw.toList.head? = some '"'

/-- What the characters of a token tell about it. -/
structure Lexes (c : Cursor) (t : Token) (d : Cursor) : Prop where
  reaches : c.Reaches d
  /-- A token that is neither a semicolon nor the end ends with no semicolon. -/
  closes : t.isEnd = false → t.isPunctuator .semicolon = false → c.Closes d
  semicolon : t.isPunctuator .semicolon = true → c.Passes [';'] d
  ended : t.isEnd = true → c.rest = [] ∧ d = c
  quoted : Quoted t
  begins : ∀ p, t.isPunctuator p = true → c.rest.head? = p.text.toList.head?

theorem toList_upTo {u : List Char} (h : c.Passes u d) : (c.upTo d).toList = u := by
  simp [upTo, h.rest, h.index]

/-- The first character of a token is the one at its start. -/
theorem head_raw (h : c.Closes d) (lexeme : Lexeme) :
    (token c d lexeme).raw.toList.head? = c.rest.head? := by
  obtain ⟨u, hu, hne, -⟩ := h
  rw [token, toList_upTo hu, hu.rest]
  cases u with
  | nil => contradiction
  | cons a u => rfl

/-- Tokens other than punctuators and the end need to end with no semicolon, and to begin with a
quote if they are strings. -/
theorem lexes_of_closes {lexeme : Lexeme} (h : c.Closes d)
    (hpunctuator : ∀ p, lexeme ≠ .punctuator p) (hend : lexeme ≠ .endOfInput)
    (hquote : (token c d lexeme).isString = true ↔
      c.rest.head? = some '\'' ∨ c.rest.head? = some '"') :
    Lexes c (token c d lexeme) d where
  reaches := h.reaches
  closes := fun _ _ => h
  semicolon := fun hs => absurd (beq_iff_eq.mp hs) (hpunctuator _)
  ended := fun he => absurd (beq_iff_eq.mp he) hend
  quoted := by
    unfold Quoted
    rw [hquote, head_raw h]
  begins := fun p hp => absurd (beq_iff_eq.mp hp) (hpunctuator p)

theorem wordLexeme_ne (word : String) :
    (∀ p, wordLexeme word ≠ .punctuator p) ∧ wordLexeme word ≠ .endOfInput ∧
      ∀ v o, wordLexeme word ≠ .string v o := by
  unfold wordLexeme
  split
  · simp
  · split
    · simp
    · split
      · simp
      · split
        · simp
        · split <;> simp

theorem lexName_lexes {ch : Char} {rest : List Char} {t : Token} (hrest : c.rest = ch :: rest)
    (hch : isIdentifierStart ch = true) (h : lexName c = .ok (t, d)) : Lexes c t d := by
  obtain ⟨⟨chars, e⟩, he, h⟩ := bind_eq_ok.mp h
  have hne := ne_semicolon isIdentifierStart_semicolon hch
  have hcloses : c.Closes e :=
    (nameChars_passes he (by simpa [hrest] using hne)).2 rfl (by simp [hrest])
  dsimp only at h
  split at h
  · simp [fail] at h
  · cases h
    obtain ⟨hp, hend, hstring⟩ := wordLexeme_ne (String.ofList chars)
    refine lexes_of_closes hcloses hp hend ?_
    have hq : ch ≠ '\'' ∧ ch ≠ '"' := by
      constructor <;> rintro rfl <;> revert hch <;> decide
    have hs : (token c d (wordLexeme (String.ofList chars))).isString = false := by
      unfold Token.isString token
      cases hl : wordLexeme (String.ofList chars) <;> simp
      exact hstring _ _ hl
    simp [hs, hrest, hq]

/-! ### Numbers -/

/-- A number begins with a digit or a point. -/
def startsNumber (ch : Char) : Bool := isDecimalDigit ch || ch == '.'

theorem startsNumber_ne {ch : Char} (h : startsNumber ch = true) :
    ch ≠ ';' ∧ ch ≠ '\'' ∧ ch ≠ '"' := by
  refine ⟨?_, ?_, ?_⟩ <;> rintro rfl <;> revert h <;> decide

theorem numeric_lexes {octal : Bool} (h : c.Closes d) {ch : Char} {rest : List Char}
    (hrest : c.rest = ch :: rest) (hch : startsNumber ch = true) :
    Lexes c (token c d (.numeric octal)) d := by
  refine lexes_of_closes h (by simp) (by simp) ?_
  simp [token, Token.isString, hrest, startsNumber_ne hch]

theorem exponent_trails (h : exponent c = .ok d) : c.Trails d := by
  unfold exponent at h
  split at h
  · rename_i e rest hrest
    split at h
    · rename_i he
      have hdigits : ∀ {b b' : Cursor}, c.Closes b →
          (if startsDigit b then Except.ok (b.moveWhile isDecimalDigit).2 else b.illegal) =
            .ok b' → c.Trails b' := by
        intro b b' hb hb'
        split at hb'
        · cases hb'
          exact (hb.trans_trails (trails_moveWhile (by decide) b)).trails
        · simp [illegal, fail] at hb'
      have hne : e ≠ ';' := by rintro rfl; revert he; decide
      refine hdigits ?_ h
      cases rest with
      | nil => exact closes_move_one hrest hne
      | cons s rest =>
        dsimp only
        split
        · rename_i hs
          exact closes_move_two hrest (by rintro rfl; revert hs; decide)
        · exact closes_move_one hrest hne
    · cases h
      exact .refl c
  · cases h
    exact .refl c

theorem closes_digits {ch : Char} {rest : List Char} (hrest : c.rest = ch :: rest)
    (hch : isDecimalDigit ch = true) : c.Closes (c.moveWhile isDecimalDigit).2 :=
  ⟨_, passes_moveWhile c _, by simp [hrest, hch], getLast_takeWhile (by decide) _⟩

theorem decimalNumber_lexes {ch : Char} {rest : List Char} {t : Token}
    (hrest : c.rest = ch :: rest) (hch : startsNumber ch = true)
    (h : decimalNumber c = .ok (t, d)) : Lexes c t d := by
  unfold decimalNumber at h
  obtain ⟨b, hb, h⟩ := bind_eq_ok.mp h
  split at h
  · simp [illegal, fail] at h
  · cases h
    refine numeric_lexes ?_ hrest hch
    refine Closes.trans_trails ?_ (exponent_trails hb)
    -- either there are digits before the point, or the point is there
    split
    · rename_i hpoint
      obtain ⟨r, hr⟩ := List.head?_eq_some_iff.mp (beq_iff_eq.mp hpoint)
      exact (((trails_moveWhile (by decide) c).reaches).closes
        (closes_move_one hr (by decide))).trans_trails (trails_moveWhile (by decide) _)
    · rename_i hpoint
      have hdigit : isDecimalDigit ch = true := by
        rcases Bool.or_eq_true_iff.mp hch with h | h
        · exact h
        · have hne : isDecimalDigit '.' = false := by decide
          rw [beq_iff_eq.mp h] at hrest
          simp [move, hrest, hne] at hpoint
      exact closes_digits hrest hdigit

theorem basedNumber_lexes {b : Cursor} {isDigit : Char → Bool} {flag : Bool} {ch : Char}
    {rest : List Char} {t : Token} (hrest : c.rest = ch :: rest) (hch : startsNumber ch = true)
    (hb : c.Reaches b) (hdigit : isDigit ';' = false)
    (h : basedNumber c b isDigit flag = .ok (t, d)) : Lexes c t d := by
  unfold basedNumber at h
  dsimp only at h
  split at h
  · simp [illegal, fail] at h
  · rename_i hcond
    cases h
    refine numeric_lexes (hb.closes ⟨_, passes_moveWhile b _, ?_, getLast_takeWhile hdigit _⟩)
      hrest hch
    intro hnil
    simp [moveWhile, hnil] at hcond

theorem lexNumber_lexes {ch : Char} {rest : List Char} {t : Token}
    (hrest : c.rest = ch :: rest) (hch : startsNumber ch = true)
    (h : lexNumber c = .ok (t, d)) : Lexes c t d := by
  unfold lexNumber at h
  split at h
  · rename_i b more hzero
    have hreach : c.Reaches (c.move 2) := reaches_move (by simp [hzero])
    split at h
    · exact basedNumber_lexes hrest hch hreach (by decide) h
    · split at h
      · exact basedNumber_lexes hrest hch hreach (by decide) h
      · split at h
        · exact basedNumber_lexes hrest hch hreach (by decide) h
        · split at h
          · dsimp only at h
            split at h
            · simp [illegal, fail] at h
            · cases h
              exact numeric_lexes ((closes_move_one hzero (by decide)).trans_trails
                (trails_moveWhile (by decide) _)) hrest hch
          · exact decimalNumber_lexes hrest hch h
  · exact decimalNumber_lexes hrest hch h

/-! ### Strings -/

theorem stringEscape_reaches {chars : List Char} {octal : Bool}
    (h : stringEscape c = .ok (chars, octal, d)) : c.Reaches d := by
  unfold stringEscape at h
  split at h
  · simp [illegal, fail] at h
  · rename_i ch rest hrest
    have hone : c.Reaches (c.move 1) := reaches_move (by simp [hrest])
    split at h
    · cases h
      exact reaches_newline c
    · split at h
      · split at h
        · rename_i hbrace
          obtain ⟨r, hr⟩ := List.head?_eq_some_iff.mp (beq_iff_eq.mp hbrace)
          obtain ⟨⟨code, b⟩, hb, h⟩ := bind_eq_ok.mp h
          cases h
          exact (reaches_move (by simp [hrest, hr])).trans (bracedEscape_closes hb).reaches
        · split at h
          · rename_i hb
            cases h
            exact hone.trans (hexEscape_closes (by decide) hb).reaches
          · simp [illegal, fail] at h
      · split at h
        · split at h
          · rename_i hb
            cases h
            exact hone.trans (hexEscape_closes (by decide) hb).reaches
          · simp [fail] at h
        · split at h
          · simp [illegal, fail] at h
          · split at h
            · cases h
              exact octalEscape_reaches c
            · cases h
              exact hone

theorem stringChars_closes {quote : Char} (hquote : quote ≠ ';') {fuel : Nat} {chars : List Char}
    {octal : Bool} (h : stringChars quote fuel c = .ok (chars, octal, d)) : c.Closes d := by
  induction fuel generalizing c d chars octal with
  | zero => simp [stringChars, fail] at h
  | succ fuel ih =>
    unfold stringChars at h
    split at h
    · simp [illegal, fail] at h
    · rename_i ch rest hrest
      have hone : c.Reaches (c.move 1) := reaches_move (by simp [hrest])
      split at h
      · rename_i hch
        cases h
        exact closes_move_one hrest (beq_iff_eq.mp hch ▸ hquote)
      · split at h
        · obtain ⟨⟨e, o, b⟩, hb, h⟩ := bind_eq_ok.mp h
          obtain ⟨⟨more, o', b'⟩, hb', h⟩ := bind_eq_ok.mp h
          cases h
          exact (hone.trans (stringEscape_reaches hb)).closes (ih hb')
        · split at h
          · simp [illegal, fail] at h
          · obtain ⟨⟨more, o', b'⟩, hb', h⟩ := bind_eq_ok.mp h
            cases h
            exact hone.closes (ih hb')

/-- A token between quotes. -/
theorem string_lexes {quote : Char} {rest : List Char} (hrest : c.rest = quote :: rest)
    (hquote : quote = '\'' ∨ quote = '"') (h : c.Closes d) (value : String) (octal : Bool) :
    Lexes c (token c d (.string value octal)) d := by
  refine lexes_of_closes h (by simp) (by simp) ?_
  simpa [token, Token.isString, hrest] using hquote

theorem lexString_lexes {quote : Char} {rest : List Char} {t : Token}
    (hrest : c.rest = quote :: rest) (hquote : quote = '\'' ∨ quote = '"')
    (h : lexString quote c = .ok (t, d)) : Lexes c t d := by
  obtain ⟨⟨chars, octal, b⟩, hb, h⟩ := bind_eq_ok.mp h
  cases h
  have hne : quote ≠ ';' := by rcases hquote with rfl | rfl <;> decide
  exact string_lexes hrest hquote
    ((reaches_move (by simp [hrest])).closes (stringChars_closes hne hb)) _ _

/-! ### Templates -/

theorem templateEscape_reaches (h : templateEscape c = .ok d) : c.Reaches d := by
  unfold templateEscape at h
  split at h
  · simp [illegal, fail] at h
  · rename_i ch rest hrest
    have hone : c.Reaches (c.move 1) := reaches_move (by simp [hrest])
    split at h
    · cases h
      exact reaches_newline c
    · split at h
      · split at h
        · rename_i hbrace
          obtain ⟨r, hr⟩ := List.head?_eq_some_iff.mp (beq_iff_eq.mp hbrace)
          obtain ⟨⟨code, b⟩, hb, h⟩ := bind_eq_ok.mp h
          cases h
          exact (reaches_move (by simp [hrest, hr])).trans (bracedEscape_closes hb).reaches
        · split at h
          · rename_i hb
            cases h
            exact hone.trans (hexEscape_closes (by decide) hb).reaches
          · cases h
            exact hone
      · split at h
        · split at h
          · rename_i hb
            cases h
            exact hone.trans (hexEscape_closes (by decide) hb).reaches
          · simp [fail] at h
        · split at h
          · split at h
            · simp [fail] at h
            · cases h
              exact hone
          · split at h
            · simp [fail] at h
            · cases h
              exact hone

/-- A stretch of a template leads to the mark that ends it. -/
theorem templateEnd_reaches {fuel : Nat} {tail : Bool} (h : templateEnd fuel c = .ok (tail, d)) :
    c.Reaches d ∧ d.Closes (d.move (if tail then 1 else 2)) := by
  induction fuel generalizing c with
  | zero => simp [templateEnd, fail] at h
  | succ fuel ih =>
    unfold templateEnd at h
    split at h
    · simp [illegal, fail] at h
    · rename_i rest hrest
      cases h
      exact ⟨.refl _, closes_move_one hrest (by decide)⟩
    · rename_i rest hrest
      cases h
      exact ⟨.refl _, closes_move_two hrest (by decide)⟩
    · rename_i rest hrest
      obtain ⟨b, hb, h⟩ := bind_eq_ok.mp h
      obtain ⟨hreach, hcloses⟩ := ih h
      have hone : c.Reaches (c.move 1) := reaches_move (by simp [hrest])
      exact ⟨(hone.trans (templateEscape_reaches hb)).trans hreach, hcloses⟩
    · rename_i ch rest _ _ _ hrest
      obtain ⟨hreach, hcloses⟩ := ih h
      refine ⟨Reaches.trans ?_ hreach, hcloses⟩
      split
      · exact reaches_newline c
      · exact reaches_move (by simp [hrest])

theorem lexTemplate_lexes {braces : List Brace} {ch : Char} {rest : List Char} {l : Lexed}
    (hrest : c.rest = ch :: rest) (hch : ch = '`' ∨ ch = '}')
    (h : lexTemplate braces c = .ok l) : Lexes c l.token l.next := by
  obtain ⟨⟨tail, b⟩, hb, h⟩ := bind_eq_ok.mp h
  cases h
  obtain ⟨hreach, hcloses⟩ := templateEnd_reaches hb
  have hone : c.Reaches (c.move 1) := reaches_move (by simp [hrest])
  refine lexes_of_closes ((hone.trans hreach).closes hcloses) (by simp) (by simp) ?_
  rcases hch with rfl | rfl <;> simp [token, Token.isString, hrest]

/-! ### Punctuators -/

theorem punctuator_text (p : Punctuator) :
    p.text.toList ≠ [] ∧ (p.text.toList.getLast? = some ';' ↔ p = .semicolon) ∧
      p.text.toList.head? ≠ some '\'' ∧ p.text.toList.head? ≠ some '"' := by
  cases p <;> decide

theorem punctuator_lexes {p : Punctuator} (h : c.Passes p.text.toList d) :
    Lexes c (token c d (.punctuator p)) d := by
  obtain ⟨hne, hlast, hsingle, hdouble⟩ := punctuator_text p
  have hhead : c.rest.head? = p.text.toList.head? := by
    rw [h.rest]
    cases ht : p.text.toList with
    | nil => contradiction
    | cons a u => rfl
  refine ⟨⟨_, h⟩, ?_, ?_, ?_, ?_, ?_⟩
  · intro _ hs
    refine ⟨_, h, hne, fun hl => ?_⟩
    rw [hlast.mp hl] at hs
    contradiction
  · intro hs
    have hp : p = .semicolon := by simpa [token, Token.isPunctuator] using hs
    rw [hp] at h
    exact h
  · intro he
    simp [token, Token.isEnd] at he
  · unfold Quoted
    rw [token, toList_upTo h]
    simp [Token.isString, hsingle, hdouble]
  · intro q hq
    have hp : p = q := by simpa [token, Token.isPunctuator] using hq
    rw [← hp]
    exact hhead

theorem lexPunctuator_lexes {braces : List Brace} {l : Lexed}
    (h : lexPunctuator braces c = .ok l) : Lexes c l.token l.next := by
  unfold lexPunctuator at h
  split at h
  · simp [illegal, fail] at h
  · rename_i p hp
    cases h
    have hprefix := List.find?_some hp
    obtain ⟨r, hr⟩ := List.isPrefixOf_iff_prefix.mp hprefix
    exact punctuator_lexes (passes_move_append hr.symm String.length_toList.symm)

/-! ### Regular expressions -/

theorem regularExpressionBody_reaches {fuel : Nat} {inClass : Bool}
    (h : regularExpressionBody fuel inClass c = .ok d) :
    c.Reaches d ∧ d.rest.head? = some '/' := by
  induction fuel generalizing c inClass with
  | zero => simp [regularExpressionBody, fail] at h
  | succ fuel ih =>
    have step : ∀ {n : Nat} {b : Bool}, n ≤ c.rest.length →
        regularExpressionBody fuel b (c.move n) = .ok d →
        c.Reaches d ∧ d.rest.head? = some '/' := by
      intro n b hn hb
      obtain ⟨hreach, hhead⟩ := ih hb
      exact ⟨(reaches_move hn).trans hreach, hhead⟩
    unfold regularExpressionBody at h
    split at h
    · simp [fail] at h
    · rename_i ch rest hrest
      split at h
      · simp [fail] at h
      · exact step (by simp [hrest]) h
    · rename_i ch rest _ hrest
      split at h
      · simp [fail] at h
      · split at h
        · exact step (by simp [hrest]) h
        · split at h
          · rename_i hslash
            cases h
            exact ⟨.refl _, by simpa [hrest] using hslash⟩
          · exact step (by simp [hrest]) h

theorem regularExpressionFlags_trails (h : regularExpressionFlags c = .ok d) : c.Trails d := by
  unfold regularExpressionFlags at h
  dsimp only at h
  have hflags : c.Trails (c.moveWhile fun ch => ch != '\\' && isIdentifierPart ch).2 :=
    trails_moveWhile (by decide) c
  split at h
  · simp [illegal, fail] at h
  · rename_i rest _ hrest
    cases h
    exact hflags.trans (closes_move_one hrest (by decide)).trails
  · cases h
    exact hflags

theorem lexRegularExpression_lexeme {t : Token} (h : lexRegularExpression c = .ok (t, d)) :
    t.lexeme = .regularExpression := by
  obtain ⟨b, -, h⟩ := bind_eq_ok.mp h
  obtain ⟨next, -, h⟩ := bind_eq_ok.mp h
  split at h
  · cases h
    rfl
  · contradiction

theorem lexRegularExpression_lexes {t : Token} (hslash : c.rest.head? = some '/')
    (h : lexRegularExpression c = .ok (t, d)) : Lexes c t d := by
  obtain ⟨b, hb, h⟩ := bind_eq_ok.mp h
  obtain ⟨next, hnext, h⟩ := bind_eq_ok.mp h
  split at h
  · cases h
    obtain ⟨rest, hrest⟩ := List.head?_eq_some_iff.mp hslash
    obtain ⟨hreach, hhead⟩ := regularExpressionBody_reaches hb
    obtain ⟨more, hmore⟩ := List.head?_eq_some_iff.mp hhead
    have hone : c.Reaches (c.move 1) := reaches_move (by simp [hrest])
    refine lexes_of_closes (((hone.trans hreach).closes (closes_move_one hmore
      (by decide))).trans_trails (regularExpressionFlags_trails hnext)) (by simp) (by simp) ?_
    simp [token, Token.isString, hrest]
  · simp [fail] at h

/-! ### Any token -/

theorem lex_lexes {braces : List Brace} {l : Lexed} (h : lex braces c = .ok l) :
    Lexes c l.token l.next := by
  unfold lex at h
  split at h
  · rename_i hrest
    cases h
    refine ⟨.refl c, ?_, ?_, fun _ => ⟨hrest, rfl⟩, ?_, ?_⟩
    · simp [token, Token.isEnd]
    · simp [token, Token.isPunctuator]
    · simp [Quoted, token, Token.isString, toList_upTo (Passes.refl c)]
    · simp [token, Token.isPunctuator]
  · rename_i ch rest hrest
    split at h
    · rename_i hch
      obtain ⟨⟨t, b⟩, hb, h⟩ := bind_eq_ok.mp h
      cases h
      exact lexName_lexes hrest hch hb
    · split at h
      · rename_i hquote
        obtain ⟨⟨t, b⟩, hb, h⟩ := bind_eq_ok.mp h
        cases h
        exact lexString_lexes hrest (by simpa using hquote) hb
      · split at h
        · rename_i hnumber
          obtain ⟨⟨t, b⟩, hb, h⟩ := bind_eq_ok.mp h
          cases h
          refine lexNumber_lexes hrest ?_ hb
          simp only [Bool.or_eq_true, Bool.and_eq_true] at hnumber
          simp only [startsNumber, Bool.or_eq_true]
          exact hnumber.imp_right (·.1)
        · split at h
          · rename_i hmark
            refine lexTemplate_lexes hrest ?_ h
            simp only [Bool.or_eq_true, Bool.and_eq_true, beq_iff_eq] at hmark
            exact hmark.imp_right (·.1)
          · exact lexPunctuator_lexes h

end LintConfig.Ecma.Lexer
