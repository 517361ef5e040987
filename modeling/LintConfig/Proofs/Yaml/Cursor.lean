import LintConfig.Yaml.Cursor
import Mathlib.Tactic.Common

/-! # Moving a cursor over text

Written documents have only printable ASCII characters and line feeds. A cursor that moves over them
counts columns and lines in the plain way. -/
namespace LintConfig.Yaml

/-- A character of ASCII that can be seen, or the space. -/
structure Printable (c : Char) : Prop where
  lower : 0x20 ≤ c.toNat
  upper : c.toNat ≤ 0x7E

instance (c : Char) : Decidable (Printable c) :=
  decidable_of_iff (0x20 ≤ c.toNat ∧ c.toNat ≤ 0x7E) ⟨fun h => ⟨h.1, h.2⟩, fun h => ⟨h.lower, h.upper⟩⟩

section Printable
variable {c : Char}

/-- A printable character is not one of the others. -/
theorem Printable.ne (h : Printable c) {d : Char} (hd : ¬ Printable d) : c ≠ d := by
  rintro rfl
  exact hd h

theorem Printable.isBreak (h : Printable c) : isBreak c = false := by
  simp only [Yaml.isBreak, Bool.or_eq_false_iff, beq_eq_false_iff_ne, and_assoc]
  exact ⟨h.ne (by decide), h.ne (by decide), h.ne (by decide), h.ne (by decide), h.ne (by decide)⟩

theorem Printable.isEnd (h : Printable c) : isEnd c = false := by
  simpa [Yaml.isEnd] using h.ne (show ¬ Printable '\x00' by decide)

/-- Of the printable characters only the space is a blank. -/
theorem Printable.isBlankOrEnd (h : Printable c) : isBlankOrEnd c = (c == ' ') := by
  have htab : (c == '\t') = false := by simpa using h.ne (show ¬ Printable '\t' by decide)
  rw [Yaml.isBlankOrEnd, htab, isBreakOrEnd, h.isEnd, h.isBreak]
  simp

end Printable

namespace Cursor
variable {c : Cursor}

theorem next_cons {x : Char} {rest : List Char} (h : c.rest = x :: rest) :
    c.next = if (isBreak x && x != '\r') || (x == '\r' && rest.head? != some '\n') then
      { rest, index := c.index + 1, line := c.line + 1, column := 0 }
    else { rest, index := c.index + 1, line := c.line
           column := if x == '\ufeff' then c.column else c.column + 1 } := by
  rw [next]
  split
  · rename_i hnil
    rw [hnil] at h
    cases h
  · rename_i hcons
    rw [hcons] at h
    cases h
    rfl

theorem next_printable {x : Char} {rest : List Char} (h : c.rest = x :: rest)
    (hx : Printable x) :
    c.next = { rest, index := c.index + 1, line := c.line, column := c.column + 1 } := by
  have hreturn : (x == '\r') = false := by simpa using hx.ne (show ¬ Printable '\r' by decide)
  have hmark : (x == '\ufeff') = false := by
    simpa using hx.ne (show ¬ Printable '\ufeff' by decide)
  simp [next_cons h, hx.isBreak, hreturn, hmark]

theorem next_newline {rest : List Char} (h : c.rest = '\n' :: rest) :
    c.next = { rest, index := c.index + 1, line := c.line + 1, column := 0 } := by
  simp [next_cons h, isBreak]

theorem move_add (c : Cursor) (m n : Nat) : c.move (m + n) = (c.move m).move n := by
  induction m generalizing c with
  | zero => rw [Nat.zero_add]; rfl
  | succ m ih => rw [Nat.succ_add]; exact ih c.next

theorem move_one (c : Cursor) : c.move 1 = c.next := rfl

theorem rest_next (c : Cursor) : c.next.rest = c.rest.drop 1 := by
  unfold next
  split
  · simp [*]
  · rename_i hcons
    rw [hcons]
    split <;> rfl

theorem rest_next_cons {x : Char} {rest : List Char} (h : c.rest = x :: rest) : c.next.rest = rest := by
  rw [rest_next, h, List.drop_one, List.tail_cons]

theorem rest_move (c : Cursor) (n : Nat) : (c.move n).rest = c.rest.drop n := by
  induction n generalizing c with
  | zero => rfl
  | succ n ih => rw [move, ih, rest_next, List.drop_drop, Nat.add_comm]

theorem rest_move_append {text rest : List Char} (h : c.rest = text ++ rest) :
    (c.move text.length).rest = rest := by
  rw [rest_move, h, List.drop_left]

/-- Printable text is all on one line. -/
theorem move_printable {text rest : List Char} (h : c.rest = text ++ rest)
    (htext : ∀ x ∈ text, Printable x) :
    c.move text.length = { rest, index := c.index + text.length, line := c.line
                           column := c.column + text.length } := by
  induction text generalizing c with
  | nil =>
    rw [List.nil_append] at h
    subst h
    rfl
  | cons x text ih =>
    have hnext := next_printable h (htext x List.mem_cons_self)
    rw [List.length_cons, move, ih (by rw [hnext]; rfl) fun y hy => htext y (List.mem_cons_of_mem _ hy),
      hnext]
    simp only [Cursor.mk.injEq, true_and]
    omega

theorem here_cons {x : Char} {rest : List Char} (h : c.rest = x :: rest) : c.here = x := by
  rw [here, h]

theorem here_nil (h : c.rest = []) : c.here = '\x00' := by
  rw [here, h]

theorem peek_one {x : Char} {rest : List Char} (h : c.rest = x :: rest) :
    c.peek 1 = rest.head?.getD '\x00' := by
  rw [peek, h]
  cases rest <;> rfl

/-- The cursor where only a rest of the text is left. -/
def upTo (c : Cursor) (rest : List Char) : Cursor := c.move (c.rest.length - rest.length)

theorem upTo_move {rest : List Char} {n : Nat} (h : n + rest.length ≤ c.rest.length) :
    (c.move n).upTo rest = c.upTo rest := by
  rw [upTo, upTo, ← move_add, rest_move, List.length_drop]
  congr 1
  omega

theorem upTo_next {rest : List Char} (h : rest.length < c.rest.length) :
    c.next.upTo rest = c.upTo rest :=
  upTo_move (c := c) (n := 1) (by omega)

theorem upTo_upTo {text more : List Char} (h : c.rest = text ++ more) {rest : List Char}
    (hrest : rest.length ≤ more.length) : (c.upTo more).upTo rest = c.upTo rest := by
  refine upTo_move ?_
  rw [h, List.length_append]
  omega

theorem upTo_eq_move {text rest : List Char} (h : c.rest = text ++ rest) :
    c.upTo rest = c.move text.length := by
  rw [upTo, h, List.length_append, Nat.add_sub_cancel]

theorem upTo_self {rest : List Char} (h : c.rest = rest) : c.upTo rest = c :=
  upTo_eq_move (c := c) (List.nil_append rest ▸ h)

theorem upTo_cons {x : Char} {rest : List Char} (h : c.rest = x :: rest) : c.upTo rest = c.next :=
  upTo_eq_move (c := c) (show c.rest = [x] ++ rest from h)

theorem rest_upTo {text rest : List Char} (h : c.rest = text ++ rest) : (c.upTo rest).rest = rest := by
  rw [upTo_eq_move h, rest_move_append h]

/-- Behind the end of a line the column is the indentation of the next one. -/
theorem column_upTo_newline {m : Nat} {rest : List Char}
    (h : c.rest = '\n' :: (List.replicate m ' ' ++ rest)) : (c.upTo rest).column = m := by
  have hnext : c.next.rest = List.replicate m ' ' ++ rest := rest_next_cons h
  rw [← upTo_next (by rw [h, List.length_cons, List.length_append]; omega), upTo_eq_move hnext,
    move_printable hnext fun x hx => by rw [(List.mem_replicate.mp hx).2]; decide, next_newline h]
  simp

/-! ### Lines -/

theorem line_le_next (c : Cursor) : c.line ≤ c.next.line := by
  unfold next
  split
  · exact Nat.le_refl _
  · split
    · exact Nat.le_succ _
    · exact Nat.le_refl _

theorem line_le_move (c : Cursor) (n : Nat) : c.line ≤ (c.move n).line := by
  induction n generalizing c with
  | zero => exact Nat.le_refl _
  | succ n ih => exact Nat.le_trans (line_le_next c) (ih c.next)

/-- A line feed ends the line. -/
theorem line_lt_move {text rest : List Char} (h : c.rest = text ++ '\n' :: rest) {n : Nat}
    (hn : text.length < n) : c.line < (c.move n).line := by
  obtain ⟨k, rfl⟩ := Nat.exists_eq_add_of_lt hn
  rw [Nat.add_assoc, Nat.add_comm k 1, move_add, move_add, move_one]
  have hnext : (c.move text.length).next.line = (c.move text.length).line + 1 := by
    rw [next_newline (rest_move_append h)]
  have hbefore := line_le_move c text.length
  have hbehind := line_le_move (c.move text.length).next k
  omega

/-! ### Spaces and line breaks -/

theorem takeWhile_eq {p : Char → Bool} {text rest : List Char} (h : c.rest = text ++ rest)
    (htext : ∀ x ∈ text, p x = true) (hrest : ∀ x ∈ rest.head?, p x = false) :
    c.takeWhile p = (text, c.move text.length) := by
  have htake : c.rest.takeWhile p = text := by
    rw [h, List.takeWhile_append_of_pos htext]
    cases rest with
    | nil => rw [List.takeWhile_nil, List.append_nil]
    | cons x rest => rw [List.takeWhile_cons_of_neg (by simp [hrest x rfl]), List.append_nil]
  rw [takeWhile, htake]

theorem takeWhile_none {p : Char → Bool} (h : ∀ x ∈ c.rest.head?, p x = false) :
    c.takeWhile p = ([], c) :=
  takeWhile_eq (c := c) (List.nil_append _).symm (fun _ hx => absurd hx List.not_mem_nil) h

theorem lineBreak_newline {rest : List Char} (h : c.rest = '\n' :: rest) :
    c.lineBreak = (some '\n', c.next) := by
  rw [lineBreak, h]
  rfl

theorem lineBreak_none (h : ∀ x ∈ c.rest.head?, isBreak x = false) : c.lineBreak = (none, c) := by
  have hno : ∀ x rest, c.rest = x :: rest → isBreak x = false := by
    intro x rest hcons
    exact h x (by rw [hcons]; rfl)
  unfold lineBreak
  split
  · rename_i hcons
    exact absurd (hno _ _ hcons) (by decide)
  · rename_i x rest _ hcons
    have hbreak := hno x _ hcons
    have hseparators : (x == '\u2028' || x == '\u2029') = false := by
      simp only [isBreak, Bool.or_eq_false_iff] at hbreak ⊢
      exact ⟨hbreak.1.2, hbreak.2⟩
    simp only [hseparators, hbreak, Bool.false_eq_true, if_false]
  · rfl

/-- A line that begins with a space separates no documents. -/
theorem atSeparator_eq_false (h : ∀ x ∈ c.rest.head?, x ≠ '-' ∧ x ≠ '.') : c.atSeparator = false := by
  unfold atSeparator
  cases hrest : c.rest with
  | nil => rfl
  | cons x rest =>
    obtain ⟨hdash, hdot⟩ := h x (by rw [hrest]; rfl)
    simp [hdash, hdot]

end Cursor

end LintConfig.Yaml
