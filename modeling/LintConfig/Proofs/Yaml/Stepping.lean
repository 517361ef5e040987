import LintConfig.Proofs.Yaml.Styles
import LintConfig.Yaml.Lexer

/-! # One token after the other

A lexer that is ready for a token stands where it begins, but for a gap that it will move over and for
possible keys that the gap makes impossible. -/
namespace LintConfig.Yaml

/-! ### Computations that can fail -/

section Computations
variable {σ α β : Type} {f : StateT σ (Except Error) α} {s s' : σ} {x : α}

theorem bind_of_ok {g : α → StateT σ (Except Error) β} (h : f s = .ok (x, s')) : (f >>= g) s = g x s' := by
  change (f s >>= fun r => g r.1 r.2) = _
  rw [h]
  rfl

theorem map_of_ok (h : f s = .ok (x, s')) (g : α → β) : (g <$> f) s = .ok (g x, s') := by
  change (f s >>= fun r => Except.ok (g r.1, r.2)) = _
  rw [h]
  rfl

/-- What does not look at the state leaves it as it is. -/
theorem lift_of_ok {e : Except Error α} (h : e = .ok x) (s : σ) :
    (liftM e : StateT σ (Except Error) α) s = .ok (x, s) := by
  rw [h]
  rfl

theorem get_eq (s : σ) : (get : StateT σ (Except Error) σ) s = .ok (s, s) := rfl

end Computations

namespace Lexer
open Cursor
open Scalar (Solid Opens)

/-- One turn of the lexer. -/
def step : Lex Unit := do
  dropStaleKeys
  lexToken

theorem set_eq (s s' : State) : (set s' : Lex Unit) s = .ok ((), s') := rfl

/-! ### Before a token -/

section Gaps
variable {s : State} {rest : List Char}

/-- Keys that are not required are forgotten in silence. -/
theorem dropStaleKeys_eq (h : ∀ k ∈ s.keys, isStale s.cursor k.2 = true → k.2.required = false) :
    dropStaleKeys s = .ok ((), { s with keys := s.keys.filter fun k => !isStale s.cursor k.2 }) := by
  have hnone : ((s.keys.filter fun k => isStale s.cursor k.2).find? fun k => k.2.required) =
      (none : Option (Int × PossibleKey)) := by
    rw [List.find?_eq_none]
    intro k hk
    rw [List.mem_filter] at hk
    rw [h k hk.1 hk.2]
    exact Bool.false_ne_true
  unfold dropStaleKeys
  simp only [bind, StateT.bind, get, getThe, MonadStateOf.get, StateT.get, pure, Except.pure, Except.bind]
  rw [hnone]
  rfl

theorem skipMark_eq (h : s.cursor.here ≠ '\ufeff') : skipMark s = .ok ((), s) := by
  have hno : (s.cursor.index == 0 && s.cursor.here == '\ufeff') = false := by simp [h]
  change Except.ok ((), if (s.cursor.index == 0 && s.cursor.here == '\ufeff') = true then _ else s) = _
  rw [hno]
  rfl

/-- What a token begins with, in a line that is indented by some spaces: no comment either. -/
structure Starts (indent : Nat) (rest : List Char) : Prop extends Opens indent rest where
  noComment : rest.head? ≠ some '#'

theorem Starts.here_ne {indent : Nat} (h : Starts indent rest) {c : Cursor} (hc : c.rest = rest) :
    (c.here == '#') = false := by
  cases rest with
  | nil => rw [here_nil hc]; rfl
  | cons x rest =>
    rw [here_cons hc]
    simpa using h.noComment

/-- Spaces are moved over. -/
theorem skipGap_spaces {indent m : Nat} (h : s.cursor.rest = List.replicate m ' ' ++ rest)
    (hrest : Starts indent rest) (fuel : Nat) :
    skipGap (fuel + 1) s = .ok ((), { s with cursor := s.cursor.upTo rest }) := by
  have hspaces : s.cursor.skipSpaces = s.cursor.upTo rest := by
    have hhead : rest.head? ≠ some ' ' := by
      rcases hrest.solid with rfl | ⟨x, more, rfl, -, hx⟩
      · nofun
      · simpa using hx
    rw [skipSpaces, skipWhile, Scalar.takeWhile_onlySpaces h hhead, upTo_eq_move h, List.length_replicate]
  have hcomment : (s.cursor.upTo rest).skipComment = s.cursor.upTo rest := by
    rw [skipComment, hrest.here_ne (rest_upTo h)]
    rfl
  have hbreak : (s.cursor.upTo rest).lineBreak = (none, s.cursor.upTo rest) :=
    lineBreak_none (by rw [rest_upTo h]; exact hrest.no_break)
  unfold skipGap
  simp only [bind, StateT.bind, get, getThe, MonadStateOf.get, StateT.get, pure, Except.pure, Except.bind,
    hspaces, hcomment, hbreak]
  rfl

/-- At the end of a line a key can begin, and the next line may be indented. -/
theorem skipGap_newline {m : Nat} (hflow : s.flow = 0)
    (h : s.cursor.rest = '\n' :: (List.replicate m ' ' ++ rest)) (hrest : Starts m rest) (fuel : Nat) :
    skipGap (fuel + 2) s = .ok ((), { s with cursor := s.cursor.upTo rest, keyAllowed := true }) := by
  have hspaces : s.cursor.skipSpaces = s.cursor := by
    rw [skipSpaces, skipWhile, takeWhile_none]
    rw [h]
    rintro _ ⟨⟩
    rfl
  have hcomment : s.cursor.skipComment = s.cursor := by
    rw [skipComment, here_cons h]
    rfl
  have hnext : s.cursor.next.rest = List.replicate m ' ' ++ rest := rest_next_cons h
  have hsame : s.cursor.next.upTo rest = s.cursor.upTo rest :=
    upTo_next (by rw [h, List.length_cons, List.length_append]; omega)
  have hmore := skipGap_spaces (s := { s with cursor := s.cursor.next, keyAllowed := s.keyAllowed || s.flow == 0 })
    hnext hrest fuel
  unfold skipGap
  simp only [bind, StateT.bind, get, getThe, MonadStateOf.get, StateT.get, pure, Except.pure, Except.bind,
    hspaces, hcomment, lineBreak_newline h, modify, modifyGet, MonadStateOf.modifyGet, StateT.modifyGet]
  rw [hmore, hsame, hflow]
  simp

end Gaps

/-! ### Ready for a token -/

/-- Where a lexer stands, and what it knows, when a token begins. -/
structure Stand where
  /-- What has been read. -/
  lexemes : List Lexeme
  /-- What is still to be read. -/
  rest : List Char
  column : Nat
  indent : Nat
  indents : List Nat
  keyAllowed : Bool

/-- A lexer stands outside of flow collections, and no possible key is left open. -/
structure At (p : Stand) (s : State) : Prop where
  lexemes : s.tokens.toList.map Token.lexeme = p.lexemes
  rest : s.cursor.rest = p.rest
  column : s.cursor.column = p.column
  indent : s.indent = p.indent
  indents : s.indents = p.indents
  keyAllowed : s.keyAllowed = p.keyAllowed
  keys : s.keys = []
  flow : s.flow = 0
  isDone : s.isDone = false

/-- With its next turn a lexer comes to a stand; there it closes blocks and reads a token. -/
def Ready (p : Stand) (s : State) : Prop :=
  s.isDone = false ∧ p.rest.length ≤ s.cursor.rest.length ∧
    ∃ t, At p t ∧ step s = (closeBlocks (p.column + 1) >>= fun _ => lexHere) t

section Ready
variable {s : State} {rest : List Char} {p : Stand}

/-- A lexer becomes ready by moving over a gap, if no possible key can be one behind it. -/
theorem ready_of_skipGap {b : Bool} (hp : At p { s with keys := [], cursor := s.cursor.upTo rest, keyAllowed := b })
    (hmark : s.cursor.here ≠ '\ufeff')
    (hskip : ∀ keys, skipGap (s.cursor.rest.length + 1) { s with keys } =
      .ok ((), { s with keys, cursor := s.cursor.upTo rest, keyAllowed := b }))
    (hkeys : ∀ k ∈ s.keys, k.2.required = false ∧ isStale (s.cursor.upTo rest) k.2 = true) :
    Ready p s := by
  have hrest : p.rest.length ≤ s.cursor.rest.length := by
    rw [← hp.rest]
    dsimp only
    rw [upTo, rest_move, List.length_drop]
    omega
  refine ⟨hp.isDone, hrest, _, hp, ?_⟩
  have hnone : (s.keys.filter fun k => !isStale s.cursor k.2).filter
      (fun k => !isStale (s.cursor.upTo rest) k.2) = [] := by
    rw [List.filter_eq_nil_iff]
    intro k hk
    rw [(hkeys k (List.mem_of_mem_filter hk)).2]
    exact Bool.false_ne_true
  have hagain := dropStaleKeys_eq (s := { s with keys := s.keys.filter fun k => !isStale s.cursor k.2, cursor := s.cursor.upTo rest, keyAllowed := b })
    fun k hk _ => (hkeys k (List.mem_of_mem_filter hk)).1
  rw [hnone] at hagain
  have hcolumn : (s.cursor.upTo rest).column = p.column := hp.column
  rw [← hcolumn]
  calc step s
    _ = lexToken { s with keys := s.keys.filter fun k => !isStale s.cursor k.2 } :=
      bind_of_ok (dropStaleKeys_eq fun k hk _ => (hkeys k hk).1)
    _ = (skipGap (s.cursor.rest.length + 1) >>= fun _ => dropStaleKeys >>= fun _ => get >>= fun t =>
          closeBlocks (t.cursor.column + 1) >>= fun _ => lexHere)
          { s with keys := s.keys.filter fun k => !isStale s.cursor k.2 } :=
      bind_of_ok (skipMark_eq hmark)
    _ = (dropStaleKeys >>= fun _ => get >>= fun t =>
          closeBlocks (t.cursor.column + 1) >>= fun _ => lexHere)
          { s with keys := s.keys.filter fun k => !isStale s.cursor k.2, cursor := s.cursor.upTo rest
                   keyAllowed := b } :=
      bind_of_ok (hskip _)
    _ = _ := bind_of_ok hagain

/-- The stand at a place, for all that does not depend on the cursor. -/
def State.stand (s : State) (rest : List Char) (column : Nat) (keyAllowed : Bool) : Stand :=
  ⟨s.tokens.toList.map Token.lexeme, rest, column, s.indent, s.indents, keyAllowed⟩

theorem ready_spaces {indent m : Nat} (hdone : s.isDone = false) (hflow : s.flow = 0)
    (h : s.cursor.rest = List.replicate m ' ' ++ rest) (hrest : Starts indent rest)
    (hkeys : ∀ k ∈ s.keys, k.2.required = false ∧ isStale (s.cursor.upTo rest) k.2 = true) :
    Ready (s.stand rest (s.cursor.column + m) s.keyAllowed) s := by
  have hcolumn : (s.cursor.upTo rest).column = s.cursor.column + m := by
    rw [upTo_eq_move h, move_printable h fun x hx => by rw [(List.mem_replicate.mp hx).2]; decide]
    simp
  have hmark : s.cursor.here ≠ '\ufeff' := by
    cases m with
    | zero =>
      rw [List.replicate_zero, List.nil_append] at h
      rcases hrest.solid with rfl | ⟨x, more, rfl, hx, -⟩
      · rw [here_nil h]
        decide
      · rw [here_cons h]
        exact hx.ne (by decide)
    | succ m =>
      rw [here_cons h]
      decide
  exact ready_of_skipGap (b := s.keyAllowed) ⟨rfl, rest_upTo h, hcolumn, rfl, rfl, rfl, rfl, hflow, hdone⟩
    hmark (fun keys => skipGap_spaces (s := { s with keys }) h hrest _) hkeys

theorem ready_newline {m : Nat} (hdone : s.isDone = false) (hflow : s.flow = 0)
    (h : s.cursor.rest = '\n' :: (List.replicate m ' ' ++ rest)) (hrest : Starts m rest)
    (hkeys : ∀ k ∈ s.keys, k.2.required = false ∧ isStale (s.cursor.upTo rest) k.2 = true) :
    Ready (s.stand rest m true) s := by
  have hmark : s.cursor.here ≠ '\ufeff' := by
    rw [here_cons h]
    decide
  have hfuel : s.cursor.rest.length + 1 = (s.cursor.rest.length - 1) + 2 := by
    rw [h, List.length_cons]
    omega
  have hrest' : (s.cursor.upTo rest).rest = rest :=
    rest_upTo (show s.cursor.rest = ('\n' :: List.replicate m ' ') ++ rest from h)
  refine ready_of_skipGap (b := true)
    ⟨rfl, hrest', column_upTo_newline h, rfl, rfl, rfl, rfl, hflow, hdone⟩ hmark (fun keys => ?_) hkeys
  rw [hfuel]
  exact skipGap_newline (s := { s with keys }) hflow h hrest _

/-! ### Closing blocks -/

theorem close_none {n : Nat} (h : s.indent ≤ n) (fuel : Nat) :
    closeBlocks.close n fuel s = .ok ((), s) := by
  cases fuel with
  | zero => rfl
  | succ fuel =>
    rw [closeBlocks.close, bind_of_ok (get_eq s), if_neg (Nat.not_lt.mpr h)]
    rfl

theorem closeBlocks_eq (hflow : s.flow = 0) (n : Nat) :
    closeBlocks n s = closeBlocks.close n (s.indents.length + 1) s := by
  have hin : inFlow s = .ok (false, s) := by
    change Except.ok (s.flow != 0, s) = _
    rw [hflow]
    rfl
  rw [closeBlocks, bind_of_ok hin]
  rfl

/-- The innermost block is closed. -/
def State.closed (s : State) : State :=
  { s with
    tokens := s.tokens.push ⟨.blockEnd, s.cursor.mark, s.cursor.mark⟩
    indent := s.indents.headD 0
    indents := s.indents.tail }

theorem closeBlocks_closed {n : Nat} (hflow : s.flow = 0) (h : n < s.indent) (hopen : s.indents ≠ []) :
    closeBlocks n s = closeBlocks n s.closed := by
  obtain ⟨outer, more, hmore⟩ := List.exists_cons_of_ne_nil hopen
  have hflow' : s.closed.flow = 0 := hflow
  have hlength : s.indents.length = s.closed.indents.length + 1 := by
    rw [State.closed, hmore]
    rfl
  rw [closeBlocks_eq hflow, closeBlocks_eq hflow', hlength]
  rw [closeBlocks.close, bind_of_ok (get_eq s), if_pos h]
  rfl

theorem Ready.close {outer : Nat} {more : List Nat} (h : Ready p s) (hindents : p.indents = outer :: more)
    (hcolumn : p.column + 1 < p.indent) :
    Ready { p with lexemes := p.lexemes ++ [.blockEnd], indent := outer, indents := more } s := by
  obtain ⟨hdone, hlength, t, ht, hstep⟩ := h
  refine ⟨hdone, hlength, t.closed, ?_, ?_⟩
  · refine ⟨?_, ht.rest, ht.column, ?_, ?_, ht.keyAllowed, ht.keys, ht.flow, ht.isDone⟩
    · rw [State.closed, Array.toList_push, List.map_append, ht.lexemes]
      rfl
    · rw [State.closed, ht.indents, hindents]
      rfl
    · rw [State.closed, ht.indents, hindents]
      rfl
  · have hclosed := closeBlocks_closed ht.flow (by rwa [ht.indent])
      (by rw [ht.indents, hindents]; exact List.cons_ne_nil _ _)
    rw [hstep]
    change (closeBlocks (p.column + 1) t >>= _) = (closeBlocks (p.column + 1) t.closed >>= _)
    rw [hclosed]

/-- Where no block ends, the token is read. -/
theorem Ready.step_eq (h : Ready p s) (hcolumn : p.indent ≤ p.column + 1) :
    ∃ t, At p t ∧ step s = lexHere t := by
  obtain ⟨-, -, t, ht, hstep⟩ := h
  refine ⟨t, ht, ?_⟩
  have hclose : closeBlocks (p.column + 1) t = .ok ((), t) := by
    rw [closeBlocks_eq ht.flow]
    exact close_none (by rwa [ht.indent]) _
  rw [hstep, bind_of_ok hclose]

end Ready

/-! ### Runs -/

section Runs
variable {s s' s'' : State} {p q r : Stand}

/-- Each turn moves the cursor, and with all the turns it takes to come from one state to another the
tokens are those read from there on. -/
def Leads (s s' : State) : Prop :=
  ∃ turns, turns + s'.cursor.rest.length ≤ s.cursor.rest.length ∧
    ∀ fuel sure, ∃ sure', lexAll none (turns + fuel) sure s = lexAll none fuel sure' s'

theorem Leads.refl (s : State) : Leads s s :=
  ⟨0, by omega, fun fuel sure => ⟨sure, by rw [Nat.zero_add]⟩⟩

theorem Leads.trans (h : Leads s s') (h' : Leads s' s'') : Leads s s'' := by
  obtain ⟨m, hm, hlex⟩ := h
  obtain ⟨n, hn, hlex'⟩ := h'
  refine ⟨m + n, by omega, fun fuel sure => ?_⟩
  obtain ⟨sure', hfirst⟩ := hlex (n + fuel) sure
  obtain ⟨sure'', hsecond⟩ := hlex' fuel sure'
  exact ⟨sure'', by rw [Nat.add_assoc, hfirst, hsecond]⟩

theorem lexAll_of_step (hdone : s.isDone = false) (h : step s = .ok ((), s')) (fuel sure : Nat) :
    ∃ sure', lexAll none (1 + fuel) sure s = lexAll none fuel sure' s' := by
  cases hdrop : dropStaleKeys s with
  | error e =>
    rw [step] at h
    change (dropStaleKeys s >>= _) = _ at h
    rw [hdrop] at h
    cases h
  | ok r =>
    obtain ⟨u, t⟩ := r
    rw [step, bind_of_ok hdrop] at h
    have hdrop' : dropStaleKeys.run s = .ok (u, t) := hdrop
    have htoken : lexToken.run t = .ok ((), s') := h
    refine ⟨certain t, ?_⟩
    rw [Nat.add_comm, lexAll, hdone, hdrop']
    dsimp only
    rw [htoken]
    rfl

theorem leads_of_step (hdone : s.isDone = false) (h : step s = .ok ((), s'))
    (hless : s'.cursor.rest.length < s.cursor.rest.length) : Leads s s' :=
  ⟨1, by omega, lexAll_of_step hdone h⟩

/-- From a stand the lexer comes to another one. -/
def Goes (p q : Stand) : Prop := ∀ s, Ready p s → ∃ s', Leads s s' ∧ Ready q s'

theorem Goes.refl (p : Stand) : Goes p p := fun s h => ⟨s, .refl s, h⟩

theorem Goes.trans (h : Goes p q) (h' : Goes q r) : Goes p r := by
  intro s hs
  obtain ⟨s', hleads, hs'⟩ := h s hs
  obtain ⟨s'', hleads', hs''⟩ := h' s' hs'
  exact ⟨s'', hleads.trans hleads', hs''⟩

/-- Blocks that end before a token are closed without a turn. -/
theorem goes_close {outer : Nat} {more : List Nat} (hindents : p.indents = outer :: more)
    (hcolumn : p.column + 1 < p.indent) :
    Goes p { p with lexemes := p.lexemes ++ [.blockEnd], indent := outer, indents := more } :=
  fun s h => ⟨s, .refl s, h.close hindents hcolumn⟩

end Runs

end Lexer

end LintConfig.Yaml
