import LintConfig.Proofs.Yaml.Quoting
import LintConfig.Yaml.Writer

/-! # Plain scalars

A plain scalar is read stretch by stretch, where a stretch has no spaces. What is written for a text has
the stretches of the text; between two of them are the spaces of the text, or where there is only one,
perhaps the end of a line. -/
namespace LintConfig.Yaml.Scalar
open Cursor
open Writer (hasInnerIndicator blankFollows newline spaces)

/-- The characters of a text that can go on without quotes, behind a blank or at its start. -/
structure Bare (text : List Char) : Prop where
  printable : ∀ x ∈ text, Printable x
  head : text.head? ≠ some ' '
  last : text.getLast? ≠ some ' '
  inner : hasInnerIndicator ' ' text = false

/-- At a cursor behind the last stretch the scalar ends; it goes on at `d`. -/
structure Ends (indent : Nat) (newLine : Bool) (c d : Cursor) : Prop where
  stretch : endsPlain false c = true
  cursor : (plainGap c).cursor = d
  newLine : (plainGap c).newLine = newLine
  gap : ((plainGap c).spaces.isEmpty || d.here == '#' || (!false && d.column < indent)) = true

/-! ### Stretches -/

section Stretches
variable {text stretch more rest : List Char} {c : Cursor}

/-- A text that begins with no space is a stretch, and spaces before further text. -/
theorem exists_stretch (hne : text ≠ []) (hhead : text.head? ≠ some ' ')
    (hlast : text.getLast? ≠ some ' ') : ∃ stretch more, text = stretch ++ more ∧ stretch ≠ [] ∧
      ' ' ∉ stretch ∧ (more = [] ∨ ∃ k tail, more = List.replicate (k + 1) ' ' ++ tail ∧
        tail ≠ [] ∧ tail.head? ≠ some ' ') := by
  have hrun : ∀ {more : List Char}, more.head? = some ' ' → more.getLast? ≠ some ' ' →
      ∃ k tail, more = List.replicate (k + 1) ' ' ++ tail ∧ tail ≠ [] ∧ tail.head? ≠ some ' ' := by
    intro more hmore hlast
    induction more with
    | nil => cases hmore
    | cons x more ih =>
      obtain rfl : x = ' ' := Option.some.inj hmore
      have hne : more ≠ [] := by
        rintro rfl
        exact hlast rfl
      by_cases hnext : more.head? = some ' '
      · obtain ⟨k, tail, rfl, htail⟩ := ih hnext (by
          rwa [List.getLast?_cons_of_ne_nil hne] at hlast)
        exact ⟨k + 1, tail, rfl, htail⟩
      · exact ⟨0, more, rfl, hne, hnext⟩
  induction text with
  | nil => exact absurd rfl hne
  | cons x text ih =>
    have hx : x ≠ ' ' := fun h => hhead (h ▸ rfl)
    by_cases hempty : text = []
    · subst hempty
      exact ⟨[x], [], rfl, List.cons_ne_nil _ _, by simpa using hx.symm, .inl rfl⟩
    · rw [List.getLast?_cons_of_ne_nil hempty] at hlast
      by_cases hnext : text.head? = some ' '
      · exact ⟨[x], text, rfl, List.cons_ne_nil _ _, by simpa using hx.symm, .inr (hrun hnext hlast)⟩
      · obtain ⟨stretch, more, rfl, -, hspace, hmore⟩ := ih hempty hnext hlast
        exact ⟨x :: stretch, more, rfl, List.cons_ne_nil _ _, by simpa [hx.symm] using hspace, hmore⟩

/-- A stretch that is not the last one ends at a space, and no colon is in front of it. -/
theorem plainStretch_eq {before : Char} (hprintable : ∀ x ∈ stretch, Printable x)
    (hspace : ' ' ∉ stretch) (hinner : hasInnerIndicator before (stretch ++ more) = false)
    (hmore : ∀ x ∈ more.head?, x = ' ') (h : c.rest = stretch ++ rest)
    (hrest : endsPlain false (c.upTo rest) = true) {fuel : Nat} (hfuel : stretch.length < fuel) :
    plainStretch false fuel c = (stretch, c.upTo rest) := by
  induction stretch generalizing c before fuel with
  | nil =>
    obtain ⟨fuel, rfl⟩ := Nat.exists_eq_add_one_of_ne_zero (Nat.ne_of_gt hfuel)
    rw [upTo_self (h.trans (List.nil_append rest))] at hrest ⊢
    rw [plainStretch, if_pos hrest]
  | cons x stretch ih =>
    obtain ⟨fuel, rfl⟩ := Nat.exists_eq_add_one_of_ne_zero (Nat.ne_of_gt (Nat.zero_lt_of_lt hfuel))
    rw [List.cons_append] at h hinner
    rw [hasInnerIndicator, Bool.or_eq_false_iff, Bool.or_eq_false_iff] at hinner
    have hx : x ≠ ' ' := fun hx => hspace (hx ▸ List.mem_cons_self)
    have hblank : isBlankOrEnd x = false := by
      rw [(hprintable x List.mem_cons_self).isBlankOrEnd]
      simpa using hx
    have hcolon : (x == ':' && isBlankOrEnd (c.peek 1)) = false := by
      have hfollows := hinner.1.1
      rw [peek_one h]
      rw [Bool.and_eq_false_iff] at hfollows ⊢
      refine hfollows.imp_right fun hfollows => ?_
      cases stretch with
      | nil =>
        rw [List.nil_append] at hfollows
        cases more with
        | nil => cases hfollows
        | cons y more =>
          obtain rfl := hmore y rfl
          cases hfollows
      | cons y stretch => exact hfollows
    have hends : endsPlain false c = false := by
      rw [endsPlain, here_cons h]
      simp [hblank, hcolon]
    have hsame : c.next.upTo rest = c.upTo rest :=
      upTo_next (by rw [h, List.length_cons, List.length_append]; omega)
    have hread := ih (c := c.next)
      (fun y hy => hprintable y (List.mem_cons_of_mem _ hy))
      (fun hy => hspace (List.mem_cons_of_mem _ hy)) hinner.2
      (rest_next_cons h) (hsame ▸ hrest)
      (Nat.lt_of_succ_lt_succ hfuel)
    rw [plainStretch, hends, hread, here_cons h, hsame]
    rfl

/-- Behind a space a text is plain on its own account. -/
theorem hasInnerIndicator_spaces {before : Char} {k : Nat} {tail : List Char}
    (h : hasInnerIndicator before (List.replicate (k + 1) ' ' ++ tail) = false) :
    hasInnerIndicator ' ' tail = false := by
  induction k generalizing before with
  | zero => exact (Bool.or_eq_false_iff.mp h).2
  | succ k ih => exact ih (Bool.or_eq_false_iff.mp h).2

theorem hasInnerIndicator_append {before : Char}
    (h : hasInnerIndicator before (stretch ++ more) = false) :
    ∃ last, hasInnerIndicator last more = false := by
  induction stretch generalizing before with
  | nil => exact ⟨before, h⟩
  | cons x stretch ih => exact ih (Bool.or_eq_false_iff.mp h).2

/-! ### What is written -/

variable {margin : Option Nat}

theorem writePlain_stretch (margin : Option Nat) (column : Nat) (before : Char) (more : List Char)
    (hspace : ' ' ∉ stretch) (hne : stretch ≠ []) :
    ∃ last, Writer.plainFrom margin column before (stretch ++ more) =
      stretch ++ Writer.plainFrom margin (column + stretch.length) last more := by
  induction stretch generalizing column before with
  | nil => exact absurd rfl hne
  | cons x stretch ih =>
    have hx : x ≠ ' ' := fun hx => hspace (hx ▸ List.mem_cons_self)
    rw [List.cons_append, Writer.plainFrom, if_neg (by simp [hx])]
    cases stretch with
    | nil => exact ⟨x, rfl⟩
    | cons y stretch =>
      obtain ⟨last, hwritten⟩ := ih (column + 1) x
        (fun hy => hspace (List.mem_cons_of_mem _ hy)) (List.cons_ne_nil _ _)
      refine ⟨last, ?_⟩
      rw [hwritten, List.length_cons, List.length_cons, Nat.add_right_comm]
      rfl

/-- Further spaces are written as they are. -/
theorem writePlain_spaces (margin : Option Nat) (k column : Nat) (tail : List Char) :
    Writer.plainFrom margin column ' ' (List.replicate k ' ' ++ tail) =
      List.replicate k ' ' ++ Writer.plainFrom margin (column + k) ' ' tail := by
  induction k generalizing column with
  | zero => rfl
  | succ k ih =>
    rw [List.replicate_succ, List.cons_append, Writer.plainFrom, if_neg (by simp), ih, Nat.add_assoc,
      Nat.add_comm 1]
    rfl

/-- What stands for spaces between two stretches: the spaces, or the end of a line for a single one. -/
def IsGap (margin : Option Nat) (count : Nat) (written : List Char) : Prop :=
  written = List.replicate count ' ' ∨
    count = 1 ∧ ∃ indent ∈ margin, written = '\n' :: List.replicate indent ' '

theorem writePlain_gap (margin : Option Nat) (k column : Nat) (last : Char) (tail : List Char) : ∃ written column',
    IsGap margin (k + 1) written ∧
    Writer.plainFrom margin column last (List.replicate (k + 1) ' ' ++ tail) =
      written ++ Writer.plainFrom margin column' ' ' tail := by
  have hsame := writePlain_spaces margin k (column + 1) tail
  rw [List.replicate_succ, List.cons_append, Writer.plainFrom]
  split
  · rename_i hsingle
    split
    · rename_i indent hbreak
      have hmargin : margin = some indent := by
        unfold Writer.breaksAt at hbreak
        split_ifs at hbreak
        exact hbreak
      cases k with
      | zero => exact ⟨newline indent, indent, .inr ⟨rfl, indent, hmargin, rfl⟩, rfl⟩
      | succ k => simp [List.replicate_succ] at hsingle
    · exact ⟨_, _, .inl rfl, by rw [hsame]; rfl⟩
  · exact ⟨_, _, .inl rfl, by rw [hsame]; rfl⟩

/-- What is written for a text begins as the text does. -/
theorem writePlain_head {x : Char} (hx : x ≠ ' ') (column : Nat) (before : Char) (tail : List Char) :
    Writer.plainFrom margin column before (x :: tail) =
      x :: Writer.plainFrom margin (column + 1) x tail := by
  rw [Writer.plainFrom, if_neg (by simp [hx])]

end Stretches

/-! ### Gaps -/

section Gaps
variable {c : Cursor} {rest : List Char}

theorem takeWhile_onlySpaces {m : Nat} (h : c.rest = List.replicate m ' ' ++ rest)
    (hrest : rest.head? ≠ some ' ') :
    (c.takeWhile fun x => x == ' ') = (List.replicate m ' ', c.move m) := by
  have htake := takeWhile_eq (p := fun x => x == ' ') h
    (fun x hx => by rw [(List.mem_replicate.mp hx).2]; rfl)
    (fun x hx => by
      rw [beq_eq_false_iff_ne]
      rintro rfl
      exact hrest hx)
  rw [htake, List.length_replicate]

/-- Spaces within a line are a gap as they are. -/
theorem plainGap_spaces {m : Nat} (h : c.rest = List.replicate m ' ' ++ rest) (hrest : Solid rest) :
    plainGap c = { spaces := List.replicate m ' ', cursor := c.move m } := by
  have hmoved : (c.move m).rest = rest := by
    rw [rest_move, h, List.drop_left' (List.length_replicate ..)]
  have hhead : rest.head? ≠ some ' ' := by
    obtain ⟨x, more, rfl, -, hx⟩ := hrest
    simpa using hx
  rw [plainGap, takeWhile_onlySpaces h hhead]
  simp only [lineBreak_none (c := c.move m) (hmoved ▸ hrest.no_break)]

/-- What a line begins with behind its indentation: the text ends there, or it goes on, and not with a
mark that separates documents. -/
structure Opens (indent : Nat) (rest : List Char) : Prop where
  solid : rest = [] ∨ Solid rest
  noSeparator : indent = 0 → rest.take 3 ≠ ['-', '-', '-'] ∧ rest.take 3 ≠ ['.', '.', '.']

theorem Opens.no_break {indent : Nat} (h : Opens indent rest) : ∀ x ∈ rest.head?, isBreak x = false := by
  rcases h.solid with rfl | hsolid
  · nofun
  · exact hsolid.no_break

theorem Opens.no_space {indent : Nat} (h : Opens indent rest) (hc : c.rest = rest) :
    (c.here == ' ') = false := by
  rcases h.solid with rfl | ⟨x, more, rfl, -, hx⟩
  · rw [here_nil hc]
    rfl
  · rw [here_cons hc]
    simpa using hx

theorem plainBreaks_spaces {indent m fuel : Nat} (h : c.rest = List.replicate m ' ' ++ rest)
    (hrest : Opens indent rest) (hfuel : m < fuel) : plainBreaks fuel c = (some [], c.move m) := by
  induction m generalizing c fuel with
  | zero =>
    obtain ⟨fuel, rfl⟩ := Nat.exists_eq_add_one_of_ne_zero (Nat.ne_of_gt hfuel)
    rw [List.replicate_zero, List.nil_append] at h
    rw [plainBreaks, hrest.no_space h]
    simp only [Bool.false_eq_true, if_false, lineBreak_none (c := c) (h ▸ hrest.no_break)]
    rfl
  | succ m ih =>
    obtain ⟨fuel, rfl⟩ := Nat.exists_eq_add_one_of_ne_zero (Nat.ne_of_gt (Nat.zero_lt_of_lt hfuel))
    rw [List.replicate_succ, List.cons_append] at h
    have hmore := ih (c := c.next) (rest_next_cons h)
      (Nat.lt_of_succ_lt_succ hfuel)
    rw [plainBreaks, here_cons h]
    exact hmore

/-- The end of a line and the indentation of the next one are folded into a space. -/
theorem plainGap_newline {m : Nat} (h : c.rest = '\n' :: (List.replicate m ' ' ++ rest))
    (hrest : Opens m rest) :
    plainGap c = { spaces := [' '], cursor := c.move (m + 1), newLine := true } := by
  have hnone : (c.takeWhile fun x => x == ' ') = ([], c) := by
    refine takeWhile_none fun x hx => ?_
    rw [h] at hx
    obtain rfl := Option.some.inj hx
    rfl
  have hnext : c.next.rest = List.replicate m ' ' ++ rest := rest_next_cons h
  have hseparator : c.next.atSeparator = false := by
    cases m with
    | zero =>
      rw [List.replicate_zero, List.nil_append] at hnext
      rw [atSeparator, hnext]
      simp [hrest.noSeparator rfl]
    | succ m => exact atSeparator_lines (k := 0) (Nat.succ_pos m) hnext
  have hbreaks := plainBreaks_spaces hnext hrest (show m < c.next.rest.length + 1 by
    rw [hnext, List.length_append, List.length_replicate]
    omega)
  rw [plainGap, hnone]
  simp only [lineBreak_newline h, hseparator, Bool.false_eq_true, if_false, hbreaks]
  rfl

/-- A gap is read as the spaces it stands for. -/
theorem plainGap_eq {margin : Option Nat} {indent k : Nat} {written : List Char}
    (hwritten : IsGap margin (k + 1) written) (hmargin : ∀ m ∈ margin, 0 < m ∧ indent ≤ m)
    (hrest : Solid rest) (h : c.rest = written ++ rest) (hcolumn : indent ≤ c.column + 1) :
    endsPlain false c = true ∧ indent ≤ (c.upTo rest).column ∧
      ∃ newLine, plainGap c = ⟨List.replicate (k + 1) ' ', c.upTo rest, newLine⟩ := by
  rw [upTo_eq_move h]
  obtain rfl | ⟨hk, m, hm, rfl⟩ := hwritten
  · have hhere : c.here = ' ' := here_cons h
    refine ⟨by rw [endsPlain, hhere]; rfl, ?_, false, ?_⟩
    · rw [move_printable h fun x hx => by rw [(List.mem_replicate.mp hx).2]; decide]
      simp only [List.length_replicate]
      omega
    · rw [plainGap_spaces h hrest, List.length_replicate]
  · obtain rfl : k = 0 := Nat.succ_injective hk
    have hhere : c.here = '\n' := here_cons h
    have hopens : Opens m rest := ⟨.inr hrest, fun hzero => absurd hzero (Nat.ne_of_gt (hmargin m hm).1)⟩
    refine ⟨by rw [endsPlain, hhere]; rfl, ?_, true, ?_⟩
    · have hnext := next_newline (c := c) h
      have hline : c.next.rest = List.replicate m ' ' ++ rest := rest_next_cons h
      rw [List.length_cons, List.length_replicate, move]
      rw [← List.length_replicate (n := m) (a := ' '),
        move_printable hline fun x hx => by rw [(List.mem_replicate.mp hx).2]; decide, hnext]
      simpa using (hmargin m hm).2
    · rw [plainGap_newline h hopens, List.length_cons, List.length_replicate]
      rfl

end Gaps

/-! ### Whole scalars -/

section Scalars
variable {text follow : List Char} {indent : Nat} {margin : Option Nat} {newLine : Bool} {c d : Cursor}

/-- A stretch is read, and then what is behind it. -/
theorem plainFrom_stretch {stretch more rest : List Char}
    (hprintable : ∀ x ∈ stretch, Printable x) (hne : stretch ≠ []) (hspace : ' ' ∉ stretch)
    (hinner : hasInnerIndicator ' ' (stretch ++ more) = false) (hmore : ∀ x ∈ more.head?, x = ' ')
    (h : c.rest = stretch ++ rest) (hrest : endsPlain false (c.upTo rest) = true)
    (fuel : Nat) (spaces : List Char) (stop : Mark) (newLine : Bool) :
    plainFrom false indent (fuel + 1) spaces stop newLine c =
      let gap := plainGap (c.upTo rest)
      if gap.spaces.isEmpty || gap.cursor.here == '#' || (!false && gap.cursor.column < indent) then
        ⟨spaces ++ stretch, (c.upTo rest).mark, gap.cursor, gap.newLine⟩
      else
        let behind := plainFrom false indent fuel gap.spaces (c.upTo rest).mark gap.newLine gap.cursor
        { behind with content := spaces ++ stretch ++ behind.content } := by
  have hread := plainStretch_eq hprintable hspace hinner hmore h hrest
    (show stretch.length < c.rest.length + 1 by rw [h, List.length_append]; omega)
  cases stretch with
  | nil => exact absurd rfl hne
  | cons x stretch =>
    have hhash : (c.here == '#') = false := by
      have hfirst := (Bool.or_eq_false_iff.mp (Bool.or_eq_false_iff.mp hinner).1).2
      rw [here_cons h]
      simpa [isBlankOrEnd] using hfirst
    rw [plainFrom, hhash, hread]
    rfl

/-- A text is read as it was written, up to what ends it. -/
theorem plainFrom_eq {column fuel : Nat} {before : Char} (htext : Bare text) (hne : text ≠ [])
    (hmargin : ∀ m ∈ margin, 0 < m ∧ indent ≤ m) (hcolumn : indent ≤ c.column + 1)
    (h : c.rest = Writer.plainFrom margin column before text ++ follow)
    (hends : Ends indent newLine (c.upTo follow) d) (hfuel : text.length < fuel)
    (spaces : List Char) (stop : Mark) (newLine' : Bool) :
    ∃ stop', plainFrom false indent fuel spaces stop newLine' c = ⟨spaces ++ text, stop', d, newLine⟩ := by
  induction hlength : text.length using Nat.strong_induction_on
    generalizing text c column before fuel spaces stop newLine' with
  | h n ih =>
    subst hlength
    obtain ⟨fuel, rfl⟩ := Nat.exists_eq_add_one_of_ne_zero (Nat.ne_of_gt (Nat.zero_lt_of_lt hfuel))
    obtain ⟨stretch, more, rfl, hstretch, hspace, hmore⟩ := exists_stretch hne htext.head htext.last
    have hprintable : ∀ x ∈ stretch, Printable x :=
      fun x hx => htext.printable x (List.mem_append_left _ hx)
    obtain ⟨last, hwritten⟩ := 
      writePlain_stretch margin column before more hspace hstretch
    rw [hwritten, List.append_assoc] at h
    rcases hmore with rfl | ⟨k, tail, rfl, htail, hhead⟩
    · -- The last stretch.
      rw [show Writer.plainFrom margin (column + stretch.length) last [] = [] from rfl,
        List.nil_append] at h
      refine ⟨(c.upTo follow).mark, ?_⟩
      rw [plainFrom_stretch hprintable hstretch hspace htext.inner nofun h hends.stretch]
      have hgap := hends.gap
      rw [← hends.cursor] at hgap
      dsimp only
      rw [if_pos hgap, hends.cursor, hends.newLine, List.append_nil]
    · -- The next stretch begins in the same line or in a further one.
      obtain ⟨written, column', hgap, hmore⟩ :=
        writePlain_gap margin k (column + stretch.length) last tail
      have hbare : Bare tail := by
        refine ⟨fun x hx => htext.printable x ?_, hhead, ?_, ?_⟩
        · exact List.mem_append_right _ (List.mem_append_right _ hx)
        · have hlast := htext.last
          rwa [List.getLast?_append_of_ne_nil _ (List.append_ne_nil_of_right_ne_nil _ htail),
            List.getLast?_append_of_ne_nil _ htail] at hlast
        · obtain ⟨_, hinner⟩ := hasInnerIndicator_append htext.inner
          exact hasInnerIndicator_spaces hinner
      obtain ⟨x, behind, rfl⟩ := List.exists_cons_of_ne_nil htail
      have hx : x ≠ ' ' := fun hx => hhead (hx ▸ rfl)
      rw [hmore, List.append_assoc] at h
      obtain ⟨line, hline⟩ : ∃ line, Writer.plainFrom margin column' ' ' (x :: behind) ++ follow = line :=
        ⟨_, rfl⟩
      rw [hline] at h
      have hcons : ∃ more, line = x :: more := ⟨_, by rw [← hline, writePlain_head hx]; rfl⟩
      obtain ⟨more, hcons⟩ := hcons
      have hsolid : Solid line := ⟨x, more, hcons, hbare.printable x List.mem_cons_self, hx⟩
      have h' : c.rest = (stretch ++ written) ++ line := by rw [h, List.append_assoc]
      have hc : (c.upTo line).rest = line := rest_upTo h'
      have hcolumn' : indent ≤ (c.upTo (written ++ line)).column + 1 := by
        rw [upTo_eq_move h, move_printable h hprintable]
        dsimp only
        omega
      obtain ⟨hends', hbehind, newLine'', hplain⟩ :=
        plainGap_eq hgap hmargin hsolid (rest_upTo h) hcolumn'
      rw [upTo_upTo h (by rw [List.length_append]; omega)] at hbehind hplain
      have hhash : ((c.upTo line).here == '#') = false := by
        have hfirst := (Bool.or_eq_false_iff.mp (Bool.or_eq_false_iff.mp hbare.inner).1).2
        rw [here_cons (hc.trans hcons)]
        simpa [isBlankOrEnd] using hfirst
      have hfuel' : (x :: behind).length < fuel := by
        simp only [List.length_append, List.length_replicate] at hfuel
        omega
      obtain ⟨stop', hread⟩ := ih (x :: behind).length
        (by simp only [List.length_append, List.length_replicate]; omega) hbare (List.cons_ne_nil _ _)
        (Nat.le_succ_of_le hbehind) (hc.trans hline.symm)
        (by rwa [upTo_upTo h' (by rw [← hline, List.length_append]; omega)]) hfuel'
        (List.replicate (k + 1) ' ') (c.upTo (written ++ line)).mark newLine'' rfl
      refine ⟨stop', ?_⟩
      rw [plainFrom_stretch hprintable hstretch hspace htext.inner (by rintro _ ⟨⟩; rfl) h hends', hplain]
      dsimp only
      rw [if_neg, hread, List.append_assoc]
      simp [List.replicate_succ, hhash, Nat.not_lt.mpr hbehind]

end Scalars

end LintConfig.Yaml.Scalar
