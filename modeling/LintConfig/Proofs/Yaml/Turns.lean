import LintConfig.Proofs.Yaml.Stepping

/-! # What each token does

A lexer that is ready reads a mark, a key with its colon, or a scalar with the end of its line, and is
then ready for what follows. -/
namespace LintConfig.Yaml.Lexer
open Cursor
open Scalar (Solid Opens)
open Writer (Style)

section Turns
variable {s t : State} {p q : Stand} {rest : List Char}

theorem inFlow_eq (hflow : t.flow = 0) : inFlow t = .ok (false, t) := by
  change Except.ok (t.flow != 0, t) = _
  rw [hflow]
  rfl

/-! ### Which token begins -/

theorem lexHere_single (hflow : t.flow = 0) (h : t.cursor.here = '\'') :
    lexHere t = lexQuoted .singleQuoted t := by
  rw [lexHere, bind_of_ok (get_eq t)]
  rw [bind_of_ok (inFlow_eq hflow)]
  simp [h, isEnd]

theorem lexHere_double (hflow : t.flow = 0) (h : t.cursor.here = '"') :
    lexHere t = lexQuoted .doubleQuoted t := by
  rw [lexHere, bind_of_ok (get_eq t)]
  rw [bind_of_ok (inFlow_eq hflow)]
  simp [h, isEnd]

theorem lexHere_entry (hflow : t.flow = 0) (h : t.cursor.rest = '-' :: ' ' :: rest) :
    lexHere t = lexBlockEntry t := by
  rw [lexHere, bind_of_ok (get_eq t)]
  rw [bind_of_ok (inFlow_eq hflow)]
  simp [here_cons h, peek_one h, isEnd, isBlankOrEnd, atSeparator, h]

theorem lexHere_key (hflow : t.flow = 0) (h : t.cursor.rest = '?' :: ' ' :: rest) :
    lexHere t = lexKey t := by
  rw [lexHere, bind_of_ok (get_eq t)]
  rw [bind_of_ok (inFlow_eq hflow)]
  simp [here_cons h, peek_one h, isEnd, isBlankOrEnd]

theorem lexHere_value {x : Char} (hx : isBlankOrEnd x = true) (hflow : t.flow = 0)
    (h : t.cursor.rest = ':' :: x :: rest) : lexHere t = lexValue t := by
  rw [lexHere, bind_of_ok (get_eq t)]
  rw [bind_of_ok (inFlow_eq hflow)]
  simp [here_cons h, peek_one h, isEnd, hx]

theorem lexHere_end (hflow : t.flow = 0) (h : t.cursor.rest = []) : lexHere t = lexStreamEnd t := by
  rw [lexHere, bind_of_ok (get_eq t)]
  rw [bind_of_ok (inFlow_eq hflow)]
  simp [here_nil h, isEnd]

/-- A mark of three characters is not put together from a text and what follows it. -/
theorem take_three_append {x y : Char} {text more : List Char} (hy : y ≠ x)
    (h : text.take 3 ≠ [x, x, x]) : (text ++ y :: more).take 3 ≠ [x, x, x] := by
  rcases text with _ | ⟨a, _ | ⟨b, _ | ⟨c, text⟩⟩⟩
  · simp [hy]
  · simp [hy]
  · simp [hy]
  · simpa using h

/-- So if a text does not begin with one, neither does its first stretch with something else behind it. -/
theorem take_three_stretch {x z : Char} {stretch behind rest : List Char} (hz : z ≠ x)
    (h : (stretch ++ behind).take 3 ≠ [x, x, x]) : (stretch ++ z :: rest).take 3 ≠ [x, x, x] := by
  refine take_three_append hz fun htake => h ?_
  have hlength : 3 ≤ stretch.length := by
    simpa using congrArg List.length htake
  rw [List.take_append_of_le_length hlength, htake]

/-- The first stretch of a text without quotes begins a plain scalar. -/
theorem lexHere_plain {stretch behind more : List Char} {y : Char}
    (htext : Scalar.Unmarked (stretch ++ behind)) (hne : stretch ≠ [])
    (hbehind : ∀ x ∈ behind.head?, x = ' ') (hy : y = ':' ∨ y = '\n' ∨ y = ' ') (hflow : t.flow = 0)
    (h : t.cursor.rest = stretch ++ y :: more) : lexHere t = lexPlain t := by
  have hseparator : t.cursor.atSeparator = false := by
    have hdash : y ≠ '-' ∧ y ≠ '.' := by rcases hy with rfl | rfl | rfl <;> decide
    rw [atSeparator, h, beq_eq_false_iff_ne.mpr (take_three_stretch hdash.1 htext.noDashes),
      beq_eq_false_iff_ne.mpr (take_three_stretch hdash.2 htext.noDots)]
    rfl
  obtain ⟨x, stretch, rfl⟩ := List.exists_cons_of_ne_nil hne
  have hx : Printable x := htext.bare.printable x List.mem_cons_self
  have hspace : x ≠ ' ' := fun hx => htext.bare.head (hx ▸ rfl)
  have hblank : isBlankOrEnd x = false := by
    rw [hx.isBlankOrEnd]
    simpa using hspace
  have hleading := htext.leading
  rw [List.cons_append, Writer.hasLeadingIndicator, Bool.or_eq_false_iff] at hleading
  obtain ⟨hmarks, halone⟩ := hleading
  have hpeek : x = '-' ∨ x = '?' ∨ x = ':' → isBlankOrEnd (t.cursor.peek 1) = false := by
    intro hmark
    have hfollows : Writer.blankFollows (stretch ++ behind) = false := by
      rcases hmark with rfl | rfl | rfl <;> exact halone
    rw [peek_one h]
    cases stretch with
    | nil =>
      cases behind with
      | nil => cases hfollows
      | cons z behind =>
        obtain rfl := hbehind z rfl
        cases hfollows
    | cons z stretch => exact hfollows
  have hhere : t.cursor.here = x := here_cons h
  have hbegins : beginsPlain false t.cursor = true := by
    rw [beginsPlain, hhere]
    by_cases hmark : x = '-' ∨ x = '?' ∨ x = ':'
    · rw [hpeek hmark]
      rcases hmark with rfl | rfl | rfl <;> rfl
    · simp only [not_or] at hmark
      simp_all
  simp at hmarks
  rw [lexHere, bind_of_ok (get_eq t)]
  rw [bind_of_ok (inFlow_eq hflow)]
  by_cases hmark : x = '-' ∨ x = '?' ∨ x = ':'
  · have hpeek' := hpeek hmark
    rcases hmark with rfl | rfl | rfl <;> simp [hhere, isEnd, hpeek', hbegins, hseparator]
  · simp only [not_or] at hmark
    simp [hhere, hx.isEnd, hmarks, hmark, hbegins, hseparator]

end Turns

/-! ### Parts of a turn -/

/-- Where the lexer stands after some lexemes. -/
def Stand.after (p : Stand) (lexemes : List Lexeme) (rest : List Char) (column : Nat)
    (keyAllowed : Bool) : Stand :=
  { p with lexemes := p.lexemes ++ lexemes, rest, column, keyAllowed }

/-- At the first entry of a mapping its block is opened. -/
def Stand.inMapping (p : Stand) : Stand :=
  if p.indent < p.column + 1 then
    { p with
      lexemes := p.lexemes ++ [.blockMappingStart]
      indent := p.column + 1
      indents := p.indent :: p.indents }
  else p

@[simp] theorem after_after (p : Stand) (before behind : List Lexeme) (rest rest' : List Char)
    (column column' : Nat) (a b : Bool) :
    (p.after before rest column a).after behind rest' column' b = p.after (before ++ behind) rest' column' b := by
  simp [Stand.after]

theorem indent_inMapping {p : Stand} (h : p.indent ≤ p.column + 1) : p.inMapping.indent = p.column + 1 := by
  rw [Stand.inMapping]
  split_ifs
  · rfl
  · exact Nat.le_antisymm h (Nat.not_lt.mp ‹_›)

/-- A part of a turn takes the lexer from one stand to another. -/
def Does (f : Lex Unit) (p q : Stand) : Prop := ∀ t, At p t → ∃ t', f t = .ok ((), t') ∧ At q t'

section Parts
variable {f g : Lex Unit} {p q r : Stand}

theorem Does.bind (h : Does f p q) (h' : Does g q r) : Does (f >>= fun _ => g) p r := by
  intro t ht
  obtain ⟨t', hf, ht'⟩ := h t ht
  obtain ⟨t'', hg, ht''⟩ := h' t' ht'
  exact ⟨t'', by rw [bind_of_ok hf, hg], ht''⟩

/-- Outside of flow collections a test for them fails. -/
theorem does_inFlow {f : Bool → Lex Unit} (h : Does (f false) p q) : Does (inFlow >>= f) p q := by
  intro t ht
  obtain ⟨t', hf, ht'⟩ := h t ht
  exact ⟨t', by rw [bind_of_ok (inFlow_eq ht.flow), hf], ht'⟩

theorem allowKey_eq (t : State) (b : Bool) : allowKey b t = .ok ((), { t with keyAllowed := b }) := rfl

theorem does_allowKey (p : Stand) (b : Bool) : Does (allowKey b) p { p with keyAllowed := b } :=
  fun _ ht => ⟨_, rfl, { ht with keyAllowed := rfl }⟩

theorem does_dropKey (p : Stand) : Does dropKey p p := by
  intro t ht
  refine ⟨t, ?_, ht⟩
  rw [dropKey, bind_of_ok (get_eq t), ht.keys]
  rfl

/-- A mark becomes a token. -/
theorem does_emitMoving {mark : Char} {rest : List Char} (hmark : Printable mark)
    (h : p.rest = mark :: rest) (lexeme : Lexeme) :
    Does (emitMoving 1 lexeme) p (p.after [lexeme] rest (p.column + 1) p.keyAllowed) := by
  intro t ht
  have hmove := next_printable (ht.rest.trans h) hmark
  refine ⟨{ t with
    cursor := t.cursor.next
    tokens := t.tokens.push ⟨lexeme, t.cursor.mark, t.cursor.next.mark⟩ }, rfl,
    { ht with lexemes := ?_, rest := ?_, column := ?_ }⟩
  · simp [Stand.after, ← ht.lexemes]
  · rw [hmove]
    rfl
  · rw [hmove, ht.column]
    rfl

theorem opensBlock_eq (t : State) (column : Nat) : opensBlock column t =
    if t.indent < column + 1 then
      .ok (true, { t with indent := column + 1, indents := t.indent :: t.indents })
    else .ok (false, t) := by
  rw [opensBlock, bind_of_ok (get_eq t)]
  split_ifs <;> rfl

theorem openBlockAt_eq {t : State} (hflow : t.flow = 0) (hkey : t.keyAllowed = true) (what : String)
    (lexeme : Lexeme) : openBlockAt what lexeme t =
      (opensBlock t.cursor.column >>= fun opened => if opened then emitHere lexeme else pure ()) t := by
  rw [openBlockAt, bind_of_ok (inFlow_eq hflow)]
  rw [if_neg Bool.false_ne_true, bind_of_ok (get_eq t), hkey]
  rfl

/-- Where a block is open already, none is opened. -/
theorem does_openBlockAt_open (what : String) (lexeme : Lexeme) (hkey : p.keyAllowed = true)
    (hopen : p.column + 1 ≤ p.indent) : Does (openBlockAt what lexeme) p p := by
  intro t ht
  have hopens := opensBlock_eq t t.cursor.column
  rw [ht.indent, ht.column, if_neg (Nat.not_lt.mpr hopen)] at hopens
  rw [openBlockAt_eq ht.flow (ht.keyAllowed.trans hkey), ht.column, bind_of_ok hopens]
  exact ⟨t, rfl, ht⟩

theorem does_openBlockAt (what : String) (hkey : p.keyAllowed = true) :
    Does (openBlockAt what .blockMappingStart) p p.inMapping := by
  intro t ht
  rw [Stand.inMapping]
  by_cases hopen : p.indent < p.column + 1
  · have hopens := opensBlock_eq t t.cursor.column
    rw [ht.indent, ht.column, if_pos hopen] at hopens
    rw [openBlockAt_eq ht.flow (ht.keyAllowed.trans hkey), ht.column, bind_of_ok hopens, if_pos hopen]
    exact ⟨_, rfl, { ht with
      lexemes := by simp [← ht.lexemes]
      indent := rfl
      indents := by rw [ht.indents] }⟩
  · rw [if_neg hopen]
    exact does_openBlockAt_open what _ hkey (Nat.not_lt.mp hopen) t ht

end Parts

/-! ### Marks -/

section Marks
variable {p q : Stand} {rest : List Char}

/-- From a stand the lexer comes to a place right behind a token. -/
def Reaches (p q : Stand) : Prop := ∀ s, Ready p s → ∃ s', Leads s s' ∧ At q s'

theorem Goes.reaches {r : Stand} (h : Goes p q) (h' : Reaches q r) : Reaches p r := by
  intro s hs
  obtain ⟨s', hleads, hs'⟩ := h s hs
  obtain ⟨s'', hleads', hs''⟩ := h' s' hs'
  exact ⟨s'', hleads.trans hleads', hs''⟩

/-- A turn that reads a token. -/
theorem reaches_of_does {f : Lex Unit} (hcolumn : p.indent ≤ p.column + 1)
    (hhere : ∀ t, At p t → lexHere t = f t) (h : Does f p q) (hless : q.rest.length < p.rest.length) :
    Reaches p q := by
  intro s hs
  obtain ⟨t, ht, hstep⟩ := hs.step_eq hcolumn
  obtain ⟨t', hf, ht'⟩ := h t ht
  refine ⟨t', leads_of_step hs.1 (by rw [hstep, hhere t ht, hf]) ?_, ht'⟩
  rw [ht'.rest]
  exact Nat.lt_of_lt_of_le hless hs.2.1

/-- Spaces behind a token are a gap, and so is the end of its line. -/
theorem Reaches.spaces {m indent : Nat} (h : Reaches p q) (hq : q.rest = List.replicate m ' ' ++ rest)
    (hrest : Starts indent rest) : Goes p { q with rest, column := q.column + m } := by
  intro s hs
  obtain ⟨s', hleads, hs'⟩ := h s hs
  have hready := ready_spaces hs'.isDone hs'.flow (hs'.rest.trans hq) hrest (by rw [hs'.keys]; nofun)
  rw [State.stand, hs'.lexemes, hs'.column, hs'.indent, hs'.indents, hs'.keyAllowed] at hready
  exact ⟨s', hleads, hready⟩

theorem Reaches.newline {m : Nat} (h : Reaches p q)
    (hq : q.rest = '\n' :: (List.replicate m ' ' ++ rest)) (hrest : Starts m rest) :
    Goes p { q with rest, column := m, keyAllowed := true } := by
  intro s hs
  obtain ⟨s', hleads, hs'⟩ := h s hs
  have hready := ready_newline hs'.isDone hs'.flow (hs'.rest.trans hq) hrest (by rw [hs'.keys]; nofun)
  rw [State.stand, hs'.lexemes, hs'.indent, hs'.indents] at hready
  exact ⟨s', hleads, hready⟩

/-- An item of a list that is no deeper than the mapping it is in. -/
theorem reaches_entry (hkey : p.keyAllowed = true) (hindent : p.indent = p.column + 1)
    (h : p.rest = '-' :: ' ' :: rest) :
    Reaches p (p.after [.blockEntry] (' ' :: rest) (p.column + 1) true) := by
  refine reaches_of_does (Nat.le_of_eq hindent) (fun t ht => lexHere_entry ht.flow (ht.rest.trans h)) ?_
    (by rw [h]; exact Nat.lt_succ_self _)
  exact (does_openBlockAt_open _ _ hkey (Nat.le_of_eq hindent.symm)).bind
    ((does_allowKey p true).bind ((does_dropKey _).bind
      (does_emitMoving (p := { p with keyAllowed := true }) (by decide) h _)))

/-- The mark of a key that stands on lines of its own. -/
theorem reaches_keyMark (hkey : p.keyAllowed = true) (hindent : p.indent ≤ p.column + 1)
    (h : p.rest = '?' :: ' ' :: rest) :
    Reaches p (p.inMapping.after [.key] (' ' :: rest) (p.column + 1) true) := by
  refine reaches_of_does hindent (fun t ht => lexHere_key ht.flow (ht.rest.trans h)) ?_
    (by rw [h]; exact Nat.lt_succ_self _)
  have hrest : p.inMapping.rest = '?' :: ' ' :: rest ∧ p.inMapping.column = p.column := by
    rw [Stand.inMapping]
    split_ifs <;> exact ⟨h, rfl⟩
  rw [← hrest.2]
  exact (does_openBlockAt _ hkey).bind (does_inFlow ((does_allowKey _ true).bind ((does_dropKey _).bind
    (does_emitMoving (p := { p.inMapping with keyAllowed := true }) (by decide) hrest.1 _))))

/-- The mark of the value of such a key. -/
theorem reaches_valueMark (hkey : p.keyAllowed = true) (hindent : p.indent = p.column + 1)
    (h : p.rest = ':' :: ' ' :: rest) :
    Reaches p (p.after [.value] (' ' :: rest) (p.column + 1) true) := by
  refine reaches_of_does (Nat.le_of_eq hindent)
    (fun t ht => lexHere_value rfl ht.flow (ht.rest.trans h)) ?_ (by rw [h]; exact Nat.lt_succ_self _)
  have hnone : Does lexValue p (p.after [.value] (' ' :: rest) (p.column + 1) true) := by
    intro t ht
    rw [lexValue, bind_of_ok (get_eq t), ht.keys]
    exact ((does_openBlockAt_open _ _ hkey (Nat.le_of_eq hindent.symm)).bind
      (does_inFlow ((does_allowKey p true).bind ((does_dropKey _).bind
        (does_emitMoving (p := { p with keyAllowed := true }) (by decide) h _))))) t ht
  exact hnone

end Marks

/-! ### Scalars -/

/-- The style of a text's token. -/
def scalarStyle : Style → ScalarStyle
  | .plain => .plain
  | .singleQuoted => .singleQuoted
  | .doubleQuoted => .doubleQuoted

/-- The token of a text in a style. -/
def scalarLexeme (style : Style) (text : List Char) : Lexeme :=
  .scalar (.text (String.ofList text)) (scalarStyle style)

/-- The place of a key that may begin at the cursor. -/
def keyAt (t : State) : PossibleKey where
  position := t.tokens.size
  required := t.indent == t.cursor.column + 1
  index := t.cursor.index
  mark := t.cursor.mark

/-- What a scalar leaves behind that ends at one cursor, where the lexer goes on at another one. -/
def State.pastScalar (t : State) (lexeme : Lexeme) (stop : Mark) (d : Cursor) (newLine : Bool) : State :=
  { t with
    cursor := d
    tokens := t.tokens.push ⟨lexeme, t.cursor.mark, stop⟩
    keyAllowed := newLine
    keys := if t.keyAllowed then [(0, keyAt t)] else [] }

section Scalars
variable {t : State} {style : Style} {text more : List Char} {y : Char} {margin : Option Nat} {column : Nat}

theorem saveKey_eq (hkeys : t.keys = []) (hflow : t.flow = 0) :
    saveKey t = .ok ((), { t with keys := if t.keyAllowed then [(0, keyAt t)] else [] }) := by
  obtain ⟨cursor, tokens, isDone, flow, indent, indents, keyAllowed, keys⟩ := t
  subst hkeys hflow
  cases keyAllowed <;> rfl

theorem lexQuoted_eq {c : ScalarStyle} {content : Text.Spelled} {d : Cursor} (hkeys : t.keys = [])
    (hflow : t.flow = 0) (hread : Scalar.quoted t.cursor = .ok (content, d)) :
    lexQuoted c t = .ok ((), t.pastScalar (.scalar content c) d.mark d false) := by
  rw [lexQuoted, bind_of_ok (saveKey_eq hkeys hflow)]
  exact (bind_of_ok (allowKey_eq _ false)).trans
    ((bind_of_ok (get_eq _)).trans (bind_of_ok (lift_of_ok hread _)))

theorem lexPlain_eq {content : List Char} {stop : Mark} {d : Cursor} {newLine : Bool}
    (hkeys : t.keys = []) (hflow : t.flow = 0)
    (hread : Scalar.plain false t.indent t.cursor = ⟨content, stop, d, newLine⟩) :
    lexPlain t = .ok ((), t.pastScalar (.scalar (.text (String.ofList content)) .plain) stop d newLine) := by
  rw [lexPlain, bind_of_ok (saveKey_eq hkeys hflow), bind_of_ok (get_eq _)]
  have hflow' : (t.flow != 0) = false := by rw [hflow]; rfl
  dsimp only
  rw [hflow', hread]
  rfl

/-- What is written for a text begins with its first stretch, and a blank or what follows the text. -/
theorem exists_first (hbare : Scalar.Bare text) (hne : text ≠ []) (margin : Option Nat) (column : Nat)
    (y : Char) (more : List Char) : ∃ stretch behind z rest, text = stretch ++ behind ∧ stretch ≠ [] ∧
      (∀ x ∈ behind.head?, x = ' ') ∧ (z = y ∨ z = '\n' ∨ z = ' ') ∧
      Scalar.styled margin column .plain text ++ y :: more = stretch ++ z :: rest := by
  obtain ⟨stretch, behind, rfl, hstretch, hspace, hbehind⟩ :=
    Scalar.exists_stretch hne hbare.head hbare.last
  obtain ⟨last, hwritten⟩ := Scalar.writePlain_stretch margin column '\x00' behind hspace hstretch
  rw [Scalar.styled, hwritten, List.append_assoc]
  obtain rfl | ⟨k, tail, rfl, -, -⟩ := hbehind
  · exact ⟨stretch, [], y, more, rfl, hstretch, by simp, .inl rfl, rfl⟩
  · obtain ⟨written, column', hgap, hmore⟩ :=
      Scalar.writePlain_gap margin k (column + stretch.length) last tail
    rw [hmore]
    obtain rfl | ⟨-, m, -, rfl⟩ := hgap
    · exact ⟨stretch, _, ' ', _, rfl, hstretch, by rintro _ ⟨⟩; rfl, .inr (.inr rfl), rfl⟩
    · exact ⟨stretch, _, '\n', _, rfl, hstretch, by rintro _ ⟨⟩; rfl, .inr (.inl rfl), rfl⟩

/-- A scalar is read, in whatever style it is written. -/
theorem lexHere_scalar {d : Cursor} {newLine : Bool} (hfits : Scalar.Fits style text)
    (hmargin : ∀ k ∈ margin, 0 < k ∧ k < Writer.width ∧ t.indent ≤ k)
    (hbreak : margin = none → '\n' ∉ text) (hy : y = ':' ∨ y = '\n')
    (hcolumn : t.indent ≤ t.cursor.column + 1) (hkeys : t.keys = []) (hflow : t.flow = 0)
    (h : t.cursor.rest = Scalar.styled margin column style text ++ y :: more)
    (hplain : style = .plain → Scalar.Ends t.indent newLine (t.cursor.upTo (y :: more)) d)
    (hquoted : style ≠ .plain → d = t.cursor.upTo (y :: more) ∧ newLine = false) :
    ∃ stop, lexHere t = .ok ((), t.pastScalar (scalarLexeme style text) stop d newLine) := by
  by_cases hstyle : style = .plain
  · subst hstyle
    obtain ⟨htext, hne⟩ := hfits.plain rfl
    have hunmarked := Scalar.unmarked_of_isPlain htext
    obtain ⟨stop, hread⟩ := Scalar.plain_eq hunmarked.bare hne
      (fun k hk => ⟨(hmargin k hk).1, (hmargin k hk).2.2⟩) hcolumn h (hplain rfl)
    obtain ⟨stretch, behind, z, rest, rfl, hstretch, hbehind, hz, hwritten⟩ :=
      exists_first hunmarked.bare hne margin column y more
    have hfollows : z = ':' ∨ z = '\n' ∨ z = ' ' := by
      rcases hz with rfl | hz
      · exact hy.imp_right .inl
      · exact .inr hz
    refine ⟨stop, ?_⟩
    rw [lexHere_plain hunmarked hstretch hbehind hfollows hflow (h.trans hwritten)]
    exact lexPlain_eq hkeys hflow hread
  · obtain ⟨rfl, rfl⟩ := hquoted hstyle
    have hcontinues : Scalar.Continues margin text := by
      cases margin with
      | none => exact .inl ⟨hbreak rfl, rfl⟩
      | some k => exact .inr ⟨k, (hmargin k rfl).1, (hmargin k rfl).2.1, rfl⟩
    have hquote : (y :: more).head? ≠ some '\'' := by
      rcases hy with rfl | rfl <;> simp
    obtain ⟨hhere, hread⟩ := Scalar.quoted_styled hstyle hfits hcontinues hquote h
    refine ⟨(t.cursor.upTo (y :: more)).mark, ?_⟩
    rcases hhere with ⟨hhere, rfl⟩ | ⟨hhere, rfl⟩
    · rw [lexHere_single hflow hhere]
      exact lexQuoted_eq hkeys hflow hread
    · rw [lexHere_double hflow hhere]
      exact lexQuoted_eq hkeys hflow hread

end Scalars

section Values
variable {p : Stand} {style : Style} {text rest : List Char} {margin : Option Nat} {column m : Nat}

theorem stand_pastScalar {t : State} {stop : Mark} {d : Cursor} {newLine : Bool} (ht : At p t)
    (lexeme : Lexeme) (rest : List Char) (column : Nat) (keyAllowed : Bool) :
    (t.pastScalar lexeme stop d newLine).stand rest column keyAllowed =
      p.after [lexeme] rest column keyAllowed := by
  simp [State.stand, State.pastScalar, Stand.after, ht.lexemes, ht.indent, ht.indents]

/-- A scalar is read along with the end of its line. -/
theorem goes_scalar (hfits : Scalar.Fits style text)
    (hmargin : ∀ k ∈ margin, 0 < k ∧ k < Writer.width ∧ p.indent ≤ k)
    (hbreak : margin = none → '\n' ∉ text) (hcolumn : p.indent ≤ p.column + 1)
    (hkey : p.keyAllowed = true → p.indent ≠ p.column + 1)
    (h : p.rest = Scalar.styled margin column style text ++ '\n' :: (List.replicate m ' ' ++ rest))
    (hrest : Starts m rest) (hm : m < p.indent) :
    Goes p (p.after [scalarLexeme style text] rest m true) := by
  intro s hs
  obtain ⟨t, ht, hstep⟩ := hs.step_eq hcolumn
  have hc : t.cursor.rest =
      Scalar.styled margin column style text ++ '\n' :: (List.replicate m ' ' ++ rest) := ht.rest.trans h
  have hline : (t.cursor.upTo ('\n' :: (List.replicate m ' ' ++ rest))).rest =
      '\n' :: (List.replicate m ' ' ++ rest) := rest_upTo hc
  have hsame : (t.cursor.upTo ('\n' :: (List.replicate m ' ' ++ rest))).upTo rest = t.cursor.upTo rest :=
    upTo_upTo hc (by simp only [List.length_cons, List.length_append]; omega)
  -- A key that may have begun with the scalar is none when the next token begins.
  have hstale : ∀ k ∈ (if t.keyAllowed then [((0 : Int), keyAt t)] else []),
      k.2.required = false ∧ isStale (t.cursor.upTo rest) k.2 = true := by
    intro k hk
    cases hallowed : t.keyAllowed with
    | false => rw [hallowed] at hk; cases hk
    | true =>
      rw [hallowed, if_pos rfl, List.mem_singleton] at hk
      subst hk
      have hnot : t.indent ≠ t.cursor.column + 1 := by
        rw [ht.indent, ht.column]
        exact hkey (ht.keyAllowed.symm.trans hallowed)
      have hlines : t.cursor.line < (t.cursor.upTo rest).line := by
        refine line_lt_move hc ?_
        rw [hc]
        simp only [List.length_cons, List.length_append]
        omega
      refine ⟨by simpa [keyAt] using hnot, ?_⟩
      have hne : ((keyAt t).mark.line != (t.cursor.upTo rest).line) = true := by
        simpa [keyAt, Cursor.mark] using Nat.ne_of_lt hlines
      rw [isStale, hne, Bool.true_or]
  have hfewer : rest.length < p.rest.length := by
    rw [h]
    simp only [List.length_cons, List.length_append]
    omega
  have hcolumn' : t.indent ≤ t.cursor.column + 1 := by rwa [ht.indent, ht.column]
  rw [← ht.indent] at hmargin hm
  have hread : ∀ {d : Cursor} {newLine : Bool},
      (style = .plain → Scalar.Ends t.indent newLine
        (t.cursor.upTo ('\n' :: (List.replicate m ' ' ++ rest))) d) →
      (style ≠ .plain → d = t.cursor.upTo ('\n' :: (List.replicate m ' ' ++ rest)) ∧ newLine = false) →
      ∃ stop, step s = .ok ((), t.pastScalar (scalarLexeme style text) stop d newLine) := by
    intro d newLine hplain hquoted
    rw [hstep]
    exact lexHere_scalar hfits hmargin hbreak (.inr rfl) hcolumn' ht.keys ht.flow hc hplain hquoted
  by_cases hstyle : style = .plain
  · have hends := Scalar.ends_newline hm hline hrest.toOpens
    rw [hsame] at hends
    obtain ⟨stop, hturn⟩ := hread (fun _ => hends) (fun hne => absurd hstyle hne)
    have hsplit : t.cursor.rest =
        (Scalar.styled margin column style text ++ '\n' :: List.replicate m ' ') ++ rest := by
      rw [hc, List.append_assoc]
      rfl
    have hbehind : (t.cursor.upTo rest).rest = rest := rest_upTo hsplit
    have hself : (t.cursor.upTo rest).upTo rest = t.cursor.upTo rest := upTo_self hbehind
    have hat : (t.cursor.upTo rest).column + 0 = m := hsame ▸ column_upTo_newline hline
    refine ⟨_, leads_of_step hs.1 hturn ?_, ?_⟩
    · exact hbehind.symm ▸ Nat.lt_of_lt_of_le hfewer hs.2.1
    · have hready := ready_spaces (s := t.pastScalar (scalarLexeme style text) stop (t.cursor.upTo rest) true)
        (m := 0) ht.isDone ht.flow hbehind hrest (hself.symm ▸ hstale)
      rwa [stand_pastScalar ht, State.pastScalar, hat] at hready
  · obtain ⟨stop, hturn⟩ := hread (fun hplain => absurd hplain hstyle) (fun _ => ⟨rfl, rfl⟩)
    refine ⟨_, leads_of_step hs.1 hturn ?_, ?_⟩
    · have hwritten := Scalar.length_styled_pos hfits margin column
      refine Nat.lt_of_lt_of_le ?_ hs.2.1
      rw [h, State.pastScalar, hline, List.length_append]
      omega
    · have hready := ready_newline (s := t.pastScalar (scalarLexeme style text) stop _ false) ht.isDone
        ht.flow hline hrest (hsame.symm ▸ hstale)
      rwa [stand_pastScalar ht] at hready

end Values

/-! ### Keys -/

section Keys
variable {s t : State} {rest : List Char}

/-- Where a token begins at once, the turn is that token's. -/
theorem step_eq_lexHere {indent : Nat} (hflow : s.flow = 0) (hrest : Starts indent s.cursor.rest)
    (hmark : s.cursor.here ≠ '\ufeff') (hkeys : ∀ k ∈ s.keys, isStale s.cursor k.2 = false)
    (hindent : s.indent ≤ s.cursor.column + 1) : step s = lexHere s := by
  have hkept : (s.keys.filter fun k => !isStale s.cursor k.2) = s.keys := by
    rw [List.filter_eq_self]
    intro k hk
    rw [hkeys k hk]
    rfl
  have hdrop : dropStaleKeys s = .ok ((), s) := by
    rw [dropStaleKeys_eq fun k hk hstale => absurd hstale (by rw [hkeys k hk]; exact Bool.false_ne_true),
      hkept]
  have hskip := skipGap_spaces (s := s) (m := 0) rfl hrest s.cursor.rest.length
  rw [upTo_self rfl] at hskip
  have hclose : closeBlocks (s.cursor.column + 1) s = .ok ((), s) := by
    rw [closeBlocks_eq hflow]
    exact close_none hindent _
  calc step s
    _ = lexToken s := bind_of_ok hdrop
    _ = _ := (bind_of_ok (skipMark_eq hmark)).trans ((bind_of_ok (get_eq s)).trans
      ((bind_of_ok hskip).trans ((bind_of_ok hdrop).trans ((bind_of_ok (get_eq s)).trans
        (bind_of_ok hclose)))))

theorem insertIdx_append {α : Type} (l m : List α) (x : α) :
    (l ++ m).insertIdx l.length x = l ++ x :: m := by
  induction l with
  | nil => rfl
  | cons y l ih => exact congrArg (y :: ·) ih

/-- A token is put in front of others. -/
theorem toList_insertIdx {tokens : Array Token} {before behind : List Token} {position : Nat}
    (h : tokens.toList = before ++ behind) (hposition : position = before.length) (x : Token) :
    (tokens.insertIdxIfInBounds position x).toList = before ++ x :: behind := by
  have hle : position ≤ tokens.size := by
    rw [← Array.length_toList, h, hposition, List.length_append]
    omega
  rw [Array.insertIdxIfInBounds, dif_pos hle, Array.toList_insertIdx, h, hposition, insertIdx_append]

theorem insertKey_eq (hflow : s.flow = 0) (k : PossibleKey) : insertKey k s = .ok ((),
    let inserted := s.tokens.insertIdxIfInBounds k.position ⟨.key, k.mark, k.mark⟩
    if s.indent < k.mark.column + 1 then
      { s with
        tokens := inserted.insertIdxIfInBounds k.position ⟨.blockMappingStart, k.mark, k.mark⟩
        indent := k.mark.column + 1
        indents := s.indent :: s.indents }
    else { s with tokens := inserted }) := by
  have hopens := opensBlock_eq
    { s with tokens := s.tokens.insertIdxIfInBounds k.position ⟨.key, k.mark, k.mark⟩ } k.mark.column
  have hin := inFlow_eq
    (t := { s with tokens := s.tokens.insertIdxIfInBounds k.position ⟨.key, k.mark, k.mark⟩ }) hflow
  dsimp only at hopens ⊢
  split_ifs at hopens ⊢ <;>
    exact (bind_of_ok rfl).trans ((bind_of_ok hin).trans ((bind_of_ok hopens).trans rfl))

/-- A scalar that may be a key becomes one. -/
theorem at_insertKey {p : Stand} (ht : At p t) (lexeme : Lexeme) (stop : Mark) (d : Cursor) :
    ∃ s', insertKey (keyAt t) { t.pastScalar lexeme stop d false with keys := [] } = .ok ((), s') ∧
      At (p.inMapping.after [.key, lexeme] d.rest d.column false) s' := by
  have hbehind : (t.tokens.push ⟨lexeme, t.cursor.mark, stop⟩).toList =
      t.tokens.toList ++ [⟨lexeme, t.cursor.mark, stop⟩] := Array.toList_push
  have hposition : (keyAt t).position = t.tokens.toList.length := rfl
  have hkey := toList_insertIdx hbehind hposition ⟨.key, (keyAt t).mark, (keyAt t).mark⟩
  have hmapping := toList_insertIdx hkey hposition
    ⟨.blockMappingStart, (keyAt t).mark, (keyAt t).mark⟩
  refine ⟨_, insertKey_eq (s := { t.pastScalar lexeme stop d false with keys := [] }) ht.flow _, ?_⟩
  have hcolumn : (keyAt t).mark.column = p.column := ht.column
  have hindent : (t.pastScalar lexeme stop d false).indent = p.indent := ht.indent
  dsimp only
  rw [hcolumn, hindent, Stand.inMapping]
  split_ifs
  · refine ⟨?_, rfl, rfl, rfl, ?_, rfl, rfl, ht.flow, ht.isDone⟩
    · rw [State.pastScalar, hmapping, List.map_append, ht.lexemes]
      simp [Stand.after]
    · rw [State.pastScalar, ht.indents]
      rfl
  · refine ⟨?_, rfl, rfl, rfl, ht.indents, rfl, rfl, ht.flow, ht.isDone⟩
    rw [State.pastScalar, hkey, List.map_append, ht.lexemes]
    simp [Stand.after]

/-- The colon behind a scalar makes it a key. -/
theorem lexValue_eq {p : Stand} (ht : At p t) (lexeme : Lexeme) (stop : Mark) {d : Cursor} {y : Char}
    (hkey : p.keyAllowed = true) (hd : d.rest = ':' :: y :: rest) :
    ∃ s', lexValue (t.pastScalar lexeme stop d false) = .ok ((), s') ∧
      At (p.inMapping.after [.key, lexeme, .value] (y :: rest) (d.column + 1) false) s' := by
  obtain ⟨s', hinsert, hs'⟩ := at_insertKey ht lexeme stop d
  obtain ⟨s'', hmark, hs''⟩ := ((does_allowKey _ false).bind
    (does_emitMoving (p := p.inMapping.after [.key, lexeme] d.rest d.column false)
      (by decide) hd .value)) s' hs'
  refine ⟨s'', ?_, ?_⟩
  · obtain ⟨cursor, tokens, isDone, flow, indent, indents, keyAllowed, keys⟩ := t
    obtain rfl : flow = 0 := ht.flow
    obtain rfl : keyAllowed = true := ht.keyAllowed.trans hkey
    rw [lexValue, bind_of_ok (get_eq _)]
    exact (bind_of_ok (set_eq _ _)).trans ((bind_of_ok hinsert).trans hmark)
  · have hsame : p.inMapping.after [.key, lexeme, .value] (y :: rest) (d.column + 1) false =
        (p.inMapping.after [.key, lexeme] d.rest d.column false).after [.value] (y :: rest) (d.column + 1)
          false := by
      simp [Stand.after]
    rw [hsame]
    exact hs''

/-- Where no place for a key is in doubt, a turn at a colon is that of the value behind it. -/
theorem step_colon {y : Char} (hflow : s.flow = 0) (hrest : s.cursor.rest = ':' :: y :: rest)
    (hy : isBlankOrEnd y = true) (hkeys : ∀ k ∈ s.keys, isStale s.cursor k.2 = false)
    (hindent : s.indent ≤ s.cursor.column + 1) : step s = lexValue s := by
  have hstarts : Starts 0 s.cursor.rest := by
    rw [hrest]
    exact ⟨⟨.inr ⟨':', _, rfl, by decide, by decide⟩, fun _ => ⟨by simp, by simp⟩⟩, by simp⟩
  have hmark : s.cursor.here ≠ '\ufeff' := by
    rw [here_cons hrest]
    decide
  rw [step_eq_lexHere hflow hstarts hmark hkeys hindent, lexHere_value hy hflow hrest]

/-- A cursor that moved on along its line. -/
def along (c : Cursor) (length : Nat) (rest : List Char) : Cursor where
  rest
  index := c.index + length
  line := c.line
  column := c.column + length

/-- On its own line only the width makes a key stale. -/
theorem isStale_along (t : State) (length : Nat) (rest : List Char) :
    isStale (along t.cursor length rest) (keyAt t) = decide (1024 < length) := by
  simp [isStale, along, keyAt, Cursor.mark]

section Written
variable {p : Stand} {style : Style} {text : List Char} {column : Nat} {y : Char}

/-- Moving on along a line does not close the block that is open there. -/
theorem At.indent_along (ht : At p t) (hindent : p.indent ≤ p.column + 1) (length : Nat)
    (rest : List Char) : t.indent ≤ (along t.cursor length rest).column + 1 := by
  rw [ht.indent]
  dsimp only [along]
  rw [ht.column]
  omega

/-- What is written on one line with a colon behind it is read in a turn up to there. -/
theorem step_name (hfits : Scalar.Fits style text) (hbreak : '\n' ∉ text) (hindent : p.indent ≤ p.column + 1)
    (hy : isBlankOrEnd y = true) (h : p.rest = Scalar.styled none column style text ++ ':' :: y :: rest)
    (hs : Ready p s) : ∃ t stop, At p t ∧ step s = .ok ((), t.pastScalar (scalarLexeme style text) stop
      (along t.cursor (Scalar.styled none column style text).length (':' :: y :: rest)) false) := by
  obtain ⟨t, ht, hstep⟩ := hs.step_eq hindent
  have hc : t.cursor.rest = Scalar.styled none column style text ++ ':' :: y :: rest := ht.rest.trans h
  have hmoved : t.cursor.upTo (':' :: y :: rest) = along t.cursor _ (':' :: y :: rest) :=
    (upTo_eq_move hc).trans (move_printable hc (Scalar.printable_styled hfits hbreak column))
  have hends : style = .plain →
      Scalar.Ends t.indent false (t.cursor.upTo (':' :: y :: rest)) (t.cursor.upTo (':' :: y :: rest)) :=
    fun _ => Scalar.ends_colon hy (rest_upTo hc)
  obtain ⟨stop, hscalar⟩ := lexHere_scalar hfits (fun k hk => by cases hk) (fun _ => hbreak) (.inl rfl)
    (by rwa [ht.indent, ht.column]) ht.keys ht.flow hc hends (fun _ => ⟨rfl, rfl⟩)
  rw [hmoved] at hscalar
  exact ⟨t, stop, ht, hstep.trans hscalar⟩

/-- A key that is written on one line and is not too wide is read with its colon, in two turns. -/
theorem reaches_key (hfits : Scalar.Fits style text) (hbreak : '\n' ∉ text)
    (hwide : (Scalar.styled none column style text).length ≤ 1024) (hkey : p.keyAllowed = true)
    (hindent : p.indent ≤ p.column + 1) (hy : isBlankOrEnd y = true)
    (h : p.rest = Scalar.styled none column style text ++ ':' :: y :: rest) :
    Reaches p (p.inMapping.after [.key, scalarLexeme style text, .value] (y :: rest)
      (p.column + (Scalar.styled none column style text).length + 1) false) := by
  intro s hs
  obtain ⟨t, stop, ht, hname⟩ := step_name hfits hbreak hindent hy h hs
  obtain ⟨between, hbetween⟩ : ∃ between, t.pastScalar (scalarLexeme style text) stop
      (along t.cursor (Scalar.styled none column style text).length (':' :: y :: rest)) false = between :=
    ⟨_, rfl⟩
  obtain ⟨s', hvalue, hs'⟩ := lexValue_eq ht (scalarLexeme style text) stop hkey
    (d := along t.cursor (Scalar.styled none column style text).length (':' :: y :: rest)) rfl
  rw [hbetween] at hname hvalue
  have hrest : between.cursor.rest = ':' :: y :: rest := by rw [← hbetween]; rfl
  -- The scalar can be a key, since it ends on the line it begins on and is not too wide.
  have hkeys : ∀ k ∈ between.keys, isStale between.cursor k.2 = false := by
    intro k hk
    rw [← hbetween, State.pastScalar, ht.keyAllowed, hkey, if_pos rfl, List.mem_singleton] at hk
    rw [hk, ← hbetween]
    exact (isStale_along ..).trans (decide_eq_false (Nat.not_lt.mpr hwide))
  have hopen : between.indent ≤ between.cursor.column + 1 := by
    rw [← hbetween]
    exact ht.indent_along hindent _ _
  have hpos := Scalar.length_styled_pos hfits none column
  have hfirst : Leads s between := by
    refine leads_of_step hs.1 hname (Nat.lt_of_lt_of_le ?_ hs.2.1)
    rw [h, hrest, List.length_append]
    omega
  have hsecond : Leads between s' := by
    refine leads_of_step (by rw [← hbetween]; exact ht.isDone) ?_ ?_
    · rw [step_colon (by rw [← hbetween]; exact ht.flow) hrest hy hkeys hopen, hvalue]
    · rw [hs'.rest, hrest]
      exact Nat.lt_succ_self _
  refine ⟨s', hfirst.trans hsecond, ?_⟩
  rw [← ht.column]
  exact hs'

end Written

end Keys

/-! ### The end of a text -/

section End
variable {s t : State} {p : Stand}

/-- At the end of a text its outermost block is closed. -/
theorem lexStreamEnd_eq (ht : At p t) (hindent : p.indent = 1) (hindents : p.indents = [0]) :
    ∃ t', lexStreamEnd t = .ok ((), t') ∧ t'.isDone = true ∧
      t'.tokens.toList.map Token.lexeme = p.lexemes ++ [.blockEnd, .streamEnd] := by
  have hflow := ht.flow
  have hclose : closeBlocks 0 t = .ok ((), t.closed) := by
    rw [closeBlocks_closed hflow (by rw [ht.indent, hindent]; exact Nat.one_pos)
      (by rw [ht.indents, hindents]; exact List.cons_ne_nil _ _), closeBlocks_eq (s := t.closed) hflow]
    exact close_none (by rw [State.closed, ht.indents, hindents]; exact Nat.le_refl 0) _
  have hdrop : dropKey t.closed = .ok ((), t.closed) := by
    rw [dropKey, bind_of_ok (get_eq _), State.closed, ht.keys]
    rfl
  refine ⟨_, (bind_of_ok hclose).trans ((bind_of_ok hdrop).trans rfl), rfl, ?_⟩
  simp [State.closed, ← ht.lexemes]

theorem lexAll_end (hs : Ready p s) (hrest : p.rest = []) (hindent : p.indent = 1)
    (hindents : p.indents = [0]) (fuel sure : Nat) :
    ∃ ts, lexAll none (fuel + 2) sure s = ⟨ts, none⟩ ∧
      ts.map Token.lexeme = p.lexemes ++ [.blockEnd, .streamEnd] := by
  obtain ⟨t, ht, hstep⟩ := hs.step_eq (by omega)
  obtain ⟨t', hend, hdone, hlexemes⟩ := lexStreamEnd_eq ht hindent hindents
  rw [lexHere_end ht.flow (ht.rest.trans hrest), hend] at hstep
  obtain ⟨sure', hturn⟩ := lexAll_of_step hs.1 hstep (fuel + 1) sure
  refine ⟨t'.tokens.toList, ?_, hlexemes⟩
  have hfuel : fuel + 2 = 1 + (fuel + 1) := by omega
  rw [hfuel, hturn, lexAll, hdone]
  rfl

end End

end LintConfig.Yaml.Lexer
