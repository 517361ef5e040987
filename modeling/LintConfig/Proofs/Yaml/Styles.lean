import LintConfig.Proofs.Yaml.DoubleQuoted
import LintConfig.Proofs.Yaml.Plain
import LintConfig.Proofs.Yaml.SingleQuoted

/-! # Texts in each style

A text is written in a style that it fits: without quotes if nothing in it has a meaning of its own,
between single quotes if nothing in it has to be escaped, and else between double quotes. In each style
it is read back as it is. -/
namespace LintConfig.Yaml.Scalar
open Cursor
open Writer (Style Piece singleFrom doubleQuoted isPlain styleOf hasInnerIndicator width)

/-- A text in a style. -/
def styled (margin : Option Nat) (column : Nat) : Style → List Char → List Char
  | .plain, text => Writer.plainFrom margin column '\x00' text
  | .singleQuoted, text => '\'' :: singleFrom margin (column + 1) none text ++ ['\'']
  | .doubleQuoted, text => doubleQuoted margin column (text.map .ofChar)

theorem text_eq (margin : Option Nat) (column : Nat) (text : List Char) :
    Writer.text margin column text = styled margin column (styleOf text) text := by
  unfold Writer.text
  generalize styleOf text = style
  cases style <;> rfl

/-- Can a text be written in a style? Between double quotes all texts can. -/
structure Fits (style : Style) (text : List Char) : Prop where
  plain : style = .plain → isPlain text = true ∧ text ≠ []
  single : style = .singleQuoted → Even text

/-- The characters that are not special are line feeds and those that can be seen. -/
theorem printable_of_isSpecial {c : Char} (h : Writer.isSpecial c = false) : c = '\n' ∨ Printable c := by
  by_cases hc : c = '\n'
  · exact .inl hc
  · refine .inr ?_
    simp [Writer.isSpecial, hc, Char.le_def, UInt32.le_iff_toNat_le] at h
    exact ⟨h.1, h.2⟩

theorem fits_styleOf (text : List Char) : Fits (styleOf text) text := by
  unfold styleOf
  split_ifs with hplain hdouble
  · rw [Bool.and_eq_true, beq_iff_eq] at hplain
    refine ⟨fun _ => ⟨hplain.2, ?_⟩, nofun⟩
    rintro rfl
    exact absurd hplain.1 (by decide)
  · exact ⟨nofun, nofun⟩
  · rw [Bool.or_eq_true, not_or, Bool.not_eq_true, Bool.not_eq_true, List.any_eq_false] at hdouble
    refine ⟨nofun, fun _ => ⟨fun x hx => ?_, hdouble.2⟩⟩
    exact printable_of_isSpecial (by simpa using hdouble.1 x hx)

/-! ### Without quotes -/

section Plain
variable {text : List Char}

/-- The conditions that a text without quotes meets. -/
structure Unmarked (text : List Char) : Prop where
  bare : Bare text
  noDashes : text.take 3 ≠ ['-', '-', '-']
  noDots : text.take 3 ≠ ['.', '.', '.']
  leading : Writer.hasLeadingIndicator text = false

theorem unmarked_of_isPlain (h : isPlain text = true) : Unmarked text := by
  simp only [isPlain, Bool.and_eq_true, Bool.not_eq_true'] at h
  obtain ⟨⟨⟨⟨⟨hhead, hlast⟩, -⟩, hspecial⟩, hbreak⟩, hindicator⟩ := h
  simp only [Writer.hasIndicator, Bool.or_eq_false_iff, beq_eq_false_iff_ne] at hindicator
  obtain ⟨⟨⟨hdashes, hdots⟩, hleading⟩, hinner⟩ := hindicator
  refine ⟨⟨fun x hx => ?_, ?_, ?_, ?_⟩, hdashes, hdots, hleading⟩
  · rw [List.any_eq_false] at hspecial hbreak
    refine (printable_of_isSpecial (by simpa using hspecial x hx)).resolve_left ?_
    rintro rfl
    exact hbreak _ hx rfl
  · intro hspace
    rw [hspace] at hhead
    exact absurd hhead (by decide)
  · intro hspace
    rw [hspace] at hlast
    exact absurd hlast (by decide)
  · cases text with
    | nil => rfl
    | cons x text =>
      have hinner : hasInnerIndicator x text = false := hinner
      rw [Writer.hasLeadingIndicator, Bool.or_eq_false_iff] at hleading
      obtain ⟨hmarks, hcolon⟩ := hleading
      rw [hasInnerIndicator, hinner, Bool.or_false, Bool.or_eq_false_iff]
      constructor
      · cases hx : x == ':'
        · rfl
        · rw [hx, Bool.or_true, Bool.true_or] at hcolon
          exact hcolon
      · cases hx : x == '#'
        · rfl
        · rw [eq_of_beq hx] at hmarks
          exact absurd hmarks (by decide)

variable {c : Cursor} {follow rest : List Char} {indent column : Nat} {margin : Option Nat}

/-- A key ends at its colon. -/
theorem ends_colon {x : Char} (hx : isBlankOrEnd x = true) (h : c.rest = ':' :: x :: rest) :
    Ends indent false c c := by
  have hpeek : c.peek 1 = x := by
    rw [peek_one h]
    rfl
  have hgap : plainGap c = { spaces := [], cursor := c } := by
    have hnone : (c.takeWhile fun x => x == ' ') = ([], c) := by
      refine takeWhile_none fun y hy => ?_
      rw [h] at hy
      obtain rfl := Option.some.inj hy
      rfl
    rw [plainGap, hnone]
    simp only [lineBreak_none (c := c) (by rw [h]; rintro _ ⟨⟩; rfl)]
  refine ⟨?_, by rw [hgap], by rw [hgap], by rw [hgap]; rfl⟩
  rw [endsPlain, here_cons h, hpeek, hx]
  rfl

/-- A value ends with its line, if the next one is not indented further. -/
theorem ends_newline {m : Nat} (hm : m < indent) (h : c.rest = '\n' :: (List.replicate m ' ' ++ rest))
    (hrest : Opens m rest) : Ends indent true c (c.upTo rest) := by
  have hgap := plainGap_newline h hrest
  have hcursor : c.move (m + 1) = c.upTo rest := by
    rw [upTo_eq_move (c := c) (show c.rest = ('\n' :: List.replicate m ' ') ++ rest from h),
      List.length_cons, List.length_replicate]
  refine ⟨?_, by rw [hgap, hcursor], by rw [hgap], ?_⟩
  · rw [endsPlain, here_cons h]
    rfl
  · rw [column_upTo_newline h]
    simp [hm]

/-- Nothing of a text is left out. -/
theorem length_le_writePlain (margin : Option Nat) (column : Nat) (before : Char) (text : List Char) :
    text.length ≤ (Writer.plainFrom margin column before text).length := by
  induction text generalizing column before with
  | nil => exact Nat.le_refl 0
  | cons x text ih =>
    rw [Writer.plainFrom]
    split
    · split
      · rename_i indent _
        have hmore := ih indent x
        simp only [Writer.newline, List.length_append, List.length_cons]
        omega
      · exact Nat.succ_le_succ (ih _ _)
    · exact Nat.succ_le_succ (ih _ _)

/-- A text is read without quotes. -/
theorem plain_eq {newLine : Bool} {d : Cursor} (htext : Bare text) (hne : text ≠ [])
    (hmargin : ∀ m ∈ margin, 0 < m ∧ indent ≤ m) (hcolumn : indent ≤ c.column + 1)
    (h : c.rest = styled margin column .plain text ++ follow)
    (hends : Ends indent newLine (c.upTo follow) d) :
    ∃ stop, plain false indent c = ⟨text, stop, d, newLine⟩ := by
  have hlength := length_le_writePlain margin column '\x00' text
  refine plainFrom_eq htext hne hmargin hcolumn h hends ?_ [] c.mark false
  rw [h, styled, List.length_append]
  omega

end Plain

/-! ### Between quotes -/

section Quoted
variable {text rest : List Char} {c : Cursor} {column : Nat} {margin : Option Nat} {style : Style}

/-- Further lines are indented, or there are none. -/
def Continues (margin : Option Nat) (text : List Char) : Prop :=
  ('\n' ∉ text ∧ margin = none) ∨ ∃ m, 0 < m ∧ m < width ∧ margin = some m

/-- A text is read from between quotes. -/
theorem quoted_styled (hstyle : style ≠ .plain) (hfits : Fits style text) (hmargin : Continues margin text)
    (hrest : rest.head? ≠ some '\'') (h : c.rest = styled margin column style text ++ rest) :
    (c.here = '\'' ∧ style = .singleQuoted ∨ c.here = '"' ∧ style = .doubleQuoted) ∧
      quoted c = .ok (.text (String.ofList text), c.upTo rest) := by
  cases style with
  | plain => exact absurd rfl hstyle
  | singleQuoted =>
    have hwritten : c.rest = '\'' :: (singleFrom margin (column + 1) none text ++ '\'' :: rest) := by
      rw [h, styled]
      simp
    refine ⟨.inl ⟨here_cons hwritten, rfl⟩, ?_⟩
    have hspells : Spells false rest (singleFrom margin (column + 1) none text ++ '\'' :: rest)
        (codes text) :=
      spells_single (k := 0) (hfits.single rfl) nofun nofun (hmargin.imp_right fun ⟨m, hm⟩ => ⟨m, hm.1, hm.2.2⟩) hrest
    exact quoted_eq hspells hwritten
  | doubleQuoted =>
    have hwritten : c.rest = '"' :: (Writer.doubleFrom margin
        { column := column + 1, isFirst := true, atSeam := true } (text.map .ofChar) ++ '"' :: rest) := by
      rw [h, styled, doubleQuoted]
      simp
    refine ⟨.inr ⟨here_cons hwritten, rfl⟩, ?_⟩
    have hspells : Spells true rest (Writer.doubleFrom margin
        { column := column + 1, isFirst := true, atSeam := true } (text.map .ofChar) ++ '"' :: rest)
        (codes text) := by
      refine spells_double (k := 0) (fun m hm => ?_) hrest
      obtain ⟨-, rfl⟩ | ⟨m', hpos, hless, rfl⟩ := hmargin
      · cases hm
      · exact Option.some.inj hm ▸ ⟨hpos, hless⟩
    exact quoted_eq hspells hwritten

end Quoted

/-- A text is written with one character at least. -/
theorem length_styled_pos {style : Style} {text : List Char} (hfits : Fits style text)
    (margin : Option Nat) (column : Nat) : 0 < (styled margin column style text).length := by
  cases style with
  | plain =>
    exact Nat.lt_of_lt_of_le (List.length_pos_iff.mpr (hfits.plain rfl).2) (length_le_writePlain margin column _ text)
  | singleQuoted => exact Nat.succ_pos _
  | doubleQuoted => exact Nat.succ_pos _

/-! ### What is written -/

section Written
variable {P : Char → Prop} {margin : Option Nat}

/-- A class of characters that has all that can be seen, and line feeds if lines can be continued. -/
structure Allows (P : Char → Prop) (margin : Option Nat) : Prop where
  printable : ∀ x, Printable x → P x
  newline : margin ≠ none → P '\n'

theorem Allows.spaces (h : Allows P margin) (n : Nat) : ∀ x ∈ Writer.spaces n, P x := by
  intro x hx
  rw [(List.mem_replicate.mp hx).2]
  exact h.printable ' ' (by decide)

/-- Where a line is continued, there is a line feed and spaces. -/
theorem Allows.breaks (h : Allows P margin) {column indent : Nat}
    (hbreaks : Writer.breaksAt margin column = some indent) : ∀ x ∈ Writer.newline indent, P x := by
  have hmargin : margin ≠ none := by
    rintro rfl
    rw [Writer.breaksAt, ite_self] at hbreaks
    cases hbreaks
  exact List.forall_mem_cons.mpr ⟨h.newline hmargin, h.spaces indent⟩

theorem forall_plain (h : Allows P margin) {text : List Char} (htext : ∀ x ∈ text, P x) (column : Nat)
    (before : Char) : ∀ x ∈ Writer.plainFrom margin column before text, P x := by
  induction text generalizing column before with
  | nil => nofun
  | cons x text ih =>
    obtain ⟨hx, htext⟩ := List.forall_mem_cons.mp htext
    have hmore := ih htext
    rw [Writer.plainFrom]
    split
    · split
      · rename_i hbreaks
        exact List.forall_mem_append.mpr ⟨h.breaks hbreaks, hmore _ _⟩
      · exact List.forall_mem_cons.mpr ⟨hx, hmore _ _⟩
    · exact List.forall_mem_cons.mpr ⟨hx, hmore _ _⟩

/-- A line feed is written only for one that the text has. -/
theorem forall_single (h : Allows P margin) {text : List Char} (htext : ∀ x ∈ text, P x) (column : Nat)
    (before : Option Char) : ∀ x ∈ singleFrom margin column before text, P x := by
  induction text generalizing column before with
  | nil => nofun
  | cons x text ih =>
    obtain ⟨hx, htext⟩ := List.forall_mem_cons.mp htext
    have hmore := ih htext
    rw [singleFrom]
    split
    · exact List.forall_mem_cons.mpr ⟨hx, List.forall_mem_cons.mpr ⟨hx, hmore _ _⟩⟩
    split
    · rename_i hbreak
      rw [eq_of_beq hbreak] at hx
      have hopening : ∀ y ∈ if before == some '\n' then ['\n'] else ['\n', '\n'], P y := by
        split_ifs <;> simp [hx]
      dsimp only
      split
      · exact List.forall_mem_append.mpr ⟨hopening, hmore _ _⟩
      · exact List.forall_mem_append.mpr
          ⟨List.forall_mem_append.mpr ⟨hopening, h.spaces _⟩, hmore _ _⟩
    · split
      · split
        · rename_i hbreaks
          exact List.forall_mem_append.mpr ⟨h.breaks hbreaks, hmore _ _⟩
        · exact List.forall_mem_cons.mpr ⟨hx, hmore _ _⟩
      · exact List.forall_mem_cons.mpr ⟨hx, hmore _ _⟩

/-- The characters that a piece is written with. -/
def written : Piece → List Char
  | .literal c => [c]
  | .escaped w => w

theorem printable_ofChar (x : Char) : ∀ y ∈ written (Piece.ofChar x), Printable y := by
  obtain ⟨w, hpiece, hw, -⟩ | ⟨hpiece, hx, -⟩ := piece_escaped x
  · rw [hpiece]
    exact List.forall_mem_cons.mpr ⟨by decide, hw⟩
  · rw [hpiece]
    exact List.forall_mem_singleton.mpr hx

/-- Between double quotes nothing is needed but the pieces, and backslashes where lines are continued. -/
theorem forall_double (h : Allows P margin) {pieces : List Piece}
    (hpieces : ∀ piece ∈ pieces, ∀ y ∈ written piece, Printable y) (p : Writer.Place) :
    ∀ x ∈ Writer.doubleFrom margin p pieces, P x := by
  have hbackslash : P '\\' := h.printable _ (by decide)
  induction pieces generalizing p with
  | nil => nofun
  | cons piece pieces ih =>
    have hmark : ∀ b : Bool, ∀ y ∈ if b then ['\\'] else [], P y := by
      intro b
      cases b <;> simp [hbackslash]
    obtain ⟨hpiece, hpieces⟩ := List.forall_mem_cons.mp hpieces
    have hmore := ih hpieces
    cases piece with
    | escaped w =>
      have hescape : ∀ y ∈ w, P y := fun y hy => h.printable y (hpiece y hy)
      rw [Writer.doubleFrom]
      dsimp only
      split
      · rename_i hbreaks
        have hline := h.breaks (Option.ite_none_right_eq_some.mp hbreaks).2
        simp only [List.forall_mem_append]
        exact ⟨⟨⟨hescape, List.forall_mem_cons.mpr ⟨hbackslash, hline⟩⟩, hmark _⟩, hmore _⟩
      · exact List.forall_mem_append.mpr ⟨hescape, hmore _⟩
    | literal x =>
      have hx : P x := h.printable x (hpiece x List.mem_cons_self)
      rw [Writer.doubleFrom]
      dsimp only
      split
      · rename_i hbreaks
        have hline := h.breaks (Option.ite_none_right_eq_some.mp hbreaks).2
        simp only [List.forall_mem_append, List.forall_mem_cons]
        exact ⟨⟨⟨hbackslash, hline⟩, hmark _⟩, hx, hmore _⟩
      · exact List.forall_mem_cons.mpr ⟨hx, hmore _⟩

/-- What stands between quotes. -/
theorem forall_quoted (h : Allows P margin) {quote : Char} (hquote : Printable quote) {inside : List Char}
    (hinside : ∀ x ∈ inside, P x) : ∀ x ∈ quote :: inside ++ [quote], P x := by
  simp only [List.forall_mem_append, List.forall_mem_cons]
  exact ⟨⟨h.printable _ hquote, hinside⟩, h.printable _ hquote, nofun⟩

/-- A scalar has no other characters, if the line feeds of its text are among them. -/
theorem forall_styled (h : Allows P margin) {style : Style} {text : List Char} (hfits : Fits style text)
    (hbreak : '\n' ∈ text → P '\n') (column : Nat) : ∀ x ∈ styled margin column style text, P x := by
  cases style with
  | plain =>
    have hbare := (unmarked_of_isPlain (hfits.plain rfl).1).bare
    exact forall_plain h (fun x hx => h.printable x (hbare.printable x hx)) _ _
  | singleQuoted =>
    refine forall_quoted h (by decide) (forall_single h (fun x hx => ?_) _ _)
    rcases (hfits.single rfl).printable x hx with rfl | hprintable
    · exact hbreak hx
    · exact h.printable x hprintable
  | doubleQuoted =>
    refine forall_quoted h (by decide) (forall_double h (fun piece hpiece => ?_) _)
    obtain ⟨x, -, rfl⟩ := List.mem_map.mp hpiece
    exact printable_ofChar x

/-- What is written without a margin is all on one line. -/
theorem printable_styled {style : Style} {text : List Char} (hfits : Fits style text)
    (hbreak : '\n' ∉ text) (column : Nat) : ∀ x ∈ styled none column style text, Printable x :=
  forall_styled ⟨fun _ => id, fun h => absurd rfl h⟩ hfits (fun h => absurd h hbreak) column

/-- Without a margin no line is continued. -/
theorem writePlain_none (column : Nat) (before : Char) (text : List Char) :
    Writer.plainFrom none column before text = text := by
  induction text generalizing column before with
  | nil => rfl
  | cons x text ih =>
    have hnone : Writer.breaksAt none column = none := by
      rw [Writer.breaksAt, ite_self]
    rw [Writer.plainFrom, hnone]
    dsimp only
    rw [ih, ite_self]

end Written

end LintConfig.Yaml.Scalar
