import LintConfig.Proofs.Json.Scalars
import LintConfig.Proofs.Yaml.Cursor
import LintConfig.Yaml.Scalar

/-! # What quotes hold

What stands between quotes is read piece by piece. So it is told from its end: what a text spells, up
to the quote that closes it, is known once it is known for the text behind a first piece. -/
namespace LintConfig.Yaml.Scalar
open Cursor

/-- A text goes on with code points up to the quote that closes it, and with a rest behind that. -/
structure Spells (double : Bool) (rest written : List Char) (out : List Nat) : Prop where
  closes : rest.length < written.length
  reads : ∀ start c fuel, c.rest = written → written.length ≤ fuel →
    quotedCodes double start fuel c = .ok (out, c.upTo rest)

/-- The quote of a scalar. -/
def quoteOf (double : Bool) : Char := if double then '"' else '\''

/-- What follows is neither a blank nor a line break nor the end. -/
def Solid (rest : List Char) : Prop := ∃ x more, rest = x :: more ∧ Printable x ∧ x ≠ ' '

section Pieces
variable {double : Bool} {out : List Nat} {text more rest : List Char}

/-- A piece is read in front of what is known. -/
theorem Spells.of_step {all : List Nat} (hmore : Spells double rest more out) (text : List Char)
    (htext : text ≠ [])
    (hstep : ∀ start c d fuel, c.rest = text ++ more →
      quotedCodes double start fuel (c.move text.length) = .ok (out, d) →
      quotedCodes double start (fuel + 1) c = .ok (all, d)) :
    Spells double rest (text ++ more) all where
  closes := by
    rw [List.length_append]
    exact Nat.lt_add_left _ hmore.closes
  reads := by
    intro start c fuel hc hfuel
    have hpos := List.length_pos_iff.mpr htext
    have hcloses := hmore.closes
    rw [List.length_append] at hfuel
    obtain ⟨fuel, rfl⟩ := Nat.exists_eq_add_one_of_ne_zero (Nat.ne_of_gt (show 0 < fuel by omega))
    have hread := hmore.reads start (c.move text.length) fuel (rest_move_append hc) (by omega)
    rw [upTo_move (by rw [hc, List.length_append]; omega)] at hread
    exact hstep start c _ fuel hc hread

/-- The quote that closes a scalar. -/
theorem spells_close (hrest : rest.head? ≠ some '\'') :
    Spells double rest (quoteOf double :: rest) [] where
  closes := Nat.lt_succ_self _
  reads := by
    intro start c fuel hc hfuel
    obtain ⟨fuel, rfl⟩ := Nat.exists_eq_add_one_of_ne_zero (Nat.ne_of_gt (Nat.zero_lt_of_lt hfuel))
    have hpeek : (c.peek 1 == '\'') = false := by
      rw [peek_one hc]
      cases rest with
      | nil => rfl
      | cons x rest => simpa using hrest
    rw [upTo_cons hc, quotedCodes, here_cons hc, hpeek]
    cases double <;> rfl

/-- A character that stands for itself. -/
theorem Spells.char {x : Char} (h : Spells double rest more out) (hx : Printable x) (hspace : x ≠ ' ')
    (hquote : x ≠ quoteOf double) (hbackslash : double = true → x ≠ '\\') :
    Spells double rest (x :: more) (x.toNat :: out) := by
  refine h.of_step [x] (List.cons_ne_nil _ _) fun start c d fuel hc hread => ?_
  have hblank : isBlankOrEnd x = false := by simpa [hx.isBlankOrEnd] using hspace
  have hmore : quotedCodes double start fuel c.next = .ok (out, d) := hread
  rw [quotedCodes, here_cons hc]
  cases double with
  | true =>
    have hquote : (x == '"') = false := by simpa [quoteOf] using hquote
    have hbackslash : (x == '\\') = false := by simpa using hbackslash rfl
    simp only [Bool.not_true, Bool.false_and, Bool.false_eq_true, if_false, if_true, hquote, hbackslash,
      Bool.and_false, hblank, hmore]
    rfl
  | false =>
    have hquote : (x == '\'') = false := by simpa [quoteOf] using hquote
    simp only [Bool.not_false, Bool.true_and, Bool.false_and, Bool.false_eq_true, if_false, hquote,
      hblank, hmore]
    rfl

/-- Blanks are read as what they are folded to. -/
theorem Spells.blank {x : Char} {piece : List Char} (h : Spells double rest more out)
    (hx : x = ' ' ∨ x = '\n')
    (hpiece : ∀ start c, c.rest = x :: (text ++ more) →
      quotedSpaces start c = .ok (piece, c.move (x :: text).length)) :
    Spells double rest (x :: text ++ more) (codes piece ++ out) := by
  refine h.of_step (x :: text) (List.cons_ne_nil _ _) fun start c d fuel hc hread => ?_
  have hspaces := hpiece start c hc
  generalize (x :: text).length = n at hspaces hread
  rw [quotedCodes, here_cons hc]
  rcases hx with rfl | rfl <;> cases double <;>
    simp [isBlankOrEnd, isBreakOrEnd, isBreak, hspaces, hread, bind, Except.bind, pure, Except.pure]

end Pieces

/-! ### Blanks -/

section Blanks
variable {c : Cursor} {rest : List Char}

/-- A cursor that stands at what is solid is at no line break. -/
theorem Solid.no_break (h : Solid rest) : ∀ x ∈ rest.head?, isBreak x = false := by
  obtain ⟨x, more, rfl, hx, -⟩ := h
  rintro _ ⟨⟩
  exact hx.isBreak

theorem Solid.no_blank (h : Solid rest) : ∀ x ∈ rest.head?, (x == ' ' || x == '\t') = false := by
  obtain ⟨x, more, rfl, hx, hspace⟩ := h
  rintro _ ⟨⟩
  have htab := hx.ne (show ¬ Printable '\t' by decide)
  simp [hspace, htab]

theorem takeWhile_spaces {m : Nat} (h : c.rest = List.replicate m ' ' ++ rest) (hrest : Solid rest) :
    (c.takeWhile fun x => x == ' ' || x == '\t') = (List.replicate m ' ', c.move m) := by
  have htake := takeWhile_eq (p := fun x => x == ' ' || x == '\t') h
    (fun x hx => by rw [(List.mem_replicate.mp hx).2]; rfl) hrest.no_blank
  rw [htake, List.length_replicate]

theorem takeWhile_newline {more : List Char} (h : c.rest = '\n' :: more) :
    (c.takeWhile fun x => x == ' ' || x == '\t') = ([], c) := by
  refine takeWhile_none fun x hx => ?_
  rw [h] at hx
  obtain rfl := Option.some.inj hx
  rfl

theorem quotedSpaces_spaces (start : Mark) {m : Nat} (h : c.rest = List.replicate m ' ' ++ rest)
    (hrest : Solid rest) : quotedSpaces start c = .ok (List.replicate m ' ', c.move m) := by
  have hmoved : (c.move m).rest = rest := by
    rw [rest_move, h, List.drop_left' (List.length_replicate ..)]
  have hend : isEnd (c.move m).here = false := by
    obtain ⟨x, more, rfl, hx, -⟩ := hrest
    rw [here_cons hmoved, hx.isEnd]
  rw [quotedSpaces, takeWhile_spaces h hrest]
  simp only [lineBreak_none (c := c.move m) (hmoved ▸ hrest.no_break), hend, Bool.false_eq_true,
    if_false]
  rfl

/-- Empty lines and indented ones separate no documents. -/
theorem atSeparator_lines {k m : Nat} (hm : 0 < m)
    (h : c.rest = List.replicate k '\n' ++ (List.replicate m ' ' ++ rest)) :
    c.atSeparator = false := by
  refine atSeparator_eq_false fun x hx => ?_
  obtain ⟨m, rfl⟩ := Nat.exists_eq_add_one_of_ne_zero (Nat.ne_of_gt hm)
  rw [h] at hx
  cases k <;> obtain rfl := Option.some.inj hx <;> decide

/-- Line feeds are counted up to the line that goes on, which is indented. -/
theorem quotedBreaks_lines (start : Mark) {k m fuel : Nat} (hm : 0 < m)
    (h : c.rest = List.replicate k '\n' ++ (List.replicate m ' ' ++ rest)) (hrest : Solid rest)
    (hfuel : k < fuel) :
    quotedBreaks start fuel c = .ok (List.replicate k '\n', c.move (k + m)) := by
  have hseparator := atSeparator_lines hm h
  induction k generalizing c fuel with
  | zero =>
    obtain ⟨fuel, rfl⟩ := Nat.exists_eq_add_one_of_ne_zero (Nat.ne_of_gt hfuel)
    rw [List.replicate_zero, List.nil_append] at h
    have hmoved : (c.move m).rest = rest := by
      rw [rest_move, h, List.drop_left' (List.length_replicate ..)]
    rw [quotedBreaks, hseparator, skipWhile, takeWhile_spaces h hrest]
    simp only [Bool.false_eq_true, if_false, Nat.zero_add,
      lineBreak_none (c := c.move m) (hmoved ▸ hrest.no_break)]
    rfl
  | succ k ih =>
    obtain ⟨fuel, rfl⟩ := Nat.exists_eq_add_one_of_ne_zero (Nat.ne_of_gt (Nat.zero_lt_of_lt hfuel))
    rw [List.replicate_succ, List.cons_append] at h
    have hnext : c.next.rest = List.replicate k '\n' ++ (List.replicate m ' ' ++ rest) := by
      rw [next_newline h]
    have hmore := ih hnext (Nat.lt_of_succ_lt_succ hfuel) (atSeparator_lines hm hnext)
    rw [quotedBreaks, hseparator, skipWhile, takeWhile_newline h]
    simp only [Bool.false_eq_true, if_false, lineBreak_newline h, hmore]
    rw [Nat.add_right_comm]
    rfl

theorem quotedSpaces_fold (start : Mark) {k m : Nat} (hm : 0 < m)
    (h : c.rest = '\n' :: (List.replicate k '\n' ++ (List.replicate m ' ' ++ rest)))
    (hrest : Solid rest) :
    quotedSpaces start c = .ok (fold '\n' (List.replicate k '\n'), c.move (1 + (k + m))) := by
  have hnext : c.next.rest = List.replicate k '\n' ++ (List.replicate m ' ' ++ rest) := by
    rw [next_newline h]
  have hbreaks := quotedBreaks_lines start hm hnext hrest
    (show k < c.next.rest.length + 1 by
      rw [hnext]
      simp only [List.length_append, List.length_replicate]
      omega)
  rw [quotedSpaces, takeWhile_newline h]
  simp only [lineBreak_newline h, hbreaks, bind, Except.bind]
  rw [move_add c 1]
  rfl

end Blanks

section Spaces
variable {double : Bool} {out : List Nat} {more rest : List Char}

/-- Spaces before something solid are read as they are. -/
theorem Spells.spaces (k : Nat) (h : Spells double rest more out) (hmore : Solid more) :
    Spells double rest (List.replicate k ' ' ++ more) (List.replicate k ' '.toNat ++ out) := by
  cases k with
  | zero => exact h
  | succ k =>
    have hcodes : List.replicate (k + 1) ' '.toNat = codes (' ' :: List.replicate k ' ') := by
      simp [codes, List.replicate_succ]
    rw [hcodes, List.replicate_succ]
    refine h.blank (.inl rfl) fun start c hc => ?_
    have hpiece := quotedSpaces_spaces start (m := k + 1) hc hmore
    rwa [List.length_cons, List.length_replicate]

/-- A line that is continued on the next one stands for a space, empty lines for line feeds. -/
theorem Spells.fold (k : Nat) {m : Nat} (h : Spells double rest more out) (hm : 0 < m)
    (hmore : Solid more) :
    Spells double rest ('\n' :: (List.replicate k '\n' ++ (List.replicate m ' ' ++ more)))
      (codes (fold '\n' (List.replicate k '\n')) ++ out) := by
  rw [← List.append_assoc, ← List.cons_append]
  refine h.blank (.inr rfl) fun start c hc => ?_
  rw [List.append_assoc] at hc
  rw [quotedSpaces_fold start hm hc hmore, List.length_cons, List.length_append, List.length_replicate,
    List.length_replicate, Nat.add_comm 1]

end Spaces

/-- A scalar is read if what follows its opening quote is. -/
theorem quoted_eq {double : Bool} {text rest written : List Char} {c : Cursor}
    (h : Spells double rest written (codes text)) (hc : c.rest = quoteOf double :: written) :
    quoted c = .ok (.text (String.ofList text), c.upTo rest) := by
  have hquote : (c.here == '"') = double := by
    rw [here_cons hc]
    cases double <;> rfl
  have hnext : c.next.rest = written := rest_next_cons hc
  have hread := h.reads c.mark c.next (c.rest.length + 1) hnext (by
    rw [hc, List.length_cons]
    omega)
  rw [upTo_next (by rw [hc, List.length_cons]; exact Nat.lt_succ_of_lt h.closes)] at hread
  rw [quoted, hquote, hread]
  simp only [codes, bind, Except.bind, pure, Except.pure, Json.ofCodes_toNat]

end LintConfig.Yaml.Scalar
