import LintConfig.Proofs.Yaml.Quoting
import LintConfig.Yaml.Writer

/-! # Between single quotes

Lines are continued at a space, and the breaks that a text has are written one more than they are. So
what stands between single quotes is read as the text it was written for, if no space of it is next to
a break. -/
namespace LintConfig.Yaml.Scalar
open Cursor
open Writer (singleFrom spaces newline)

section Single
variable {margin : Option Nat} {rest : List Char}

/-- The characters of a text that can stand between single quotes: none is special, and no space stands
next to a line feed. -/
structure Even (text : List Char) : Prop where
  printable : ∀ x ∈ text, x = '\n' ∨ Printable x
  unfrayed : Writer.hasFrayedLine text = false

theorem Even.tail {x : Char} {text : List Char} (h : Even (x :: text)) : Even text where
  printable y hy := h.printable y (List.mem_cons_of_mem _ hy)
  unfrayed := by
    have hfrayed := h.unfrayed
    cases text with
    | nil => rfl
    | cons y text =>
      rw [Writer.hasFrayedLine, Bool.or_eq_false_iff] at hfrayed
      exact hfrayed.2

/-- A space stands next to no line feed. -/
theorem Even.not_frayed {x y : Char} {text : List Char} (h : Even (x :: y :: text)) :
    ¬ (x = ' ' ∧ y = '\n') ∧ ¬ (x = '\n' ∧ y = ' ') := by
  have hfrayed := h.unfrayed
  rw [Writer.hasFrayedLine, Bool.or_eq_false_iff, Bool.or_eq_false_iff] at hfrayed
  constructor
  · rintro ⟨rfl, rfl⟩
    exact absurd hfrayed.1.1 (by decide)
  · rintro ⟨rfl, rfl⟩
    exact absurd hfrayed.1.2 (by decide)

theorem even_of_append {text more : List Char} (h : Even (text ++ more)) : Even more := by
  induction text with
  | nil => exact h
  | cons x text ih => exact ih h.tail

/-- A run of one character, up to another one. -/
theorem exists_run (x : Char) (text : List Char) : ∃ j more,
    x :: text = List.replicate (j + 1) x ++ more ∧ more.head? ≠ some x := by
  induction text with
  | nil => exact ⟨0, [], rfl, nofun⟩
  | cons y text ih =>
    by_cases hy : y = x
    · subst hy
      obtain ⟨j, more, hsplit, hmore⟩ := ih
      exact ⟨j + 1, more, by rw [hsplit]; rfl, hmore⟩
    · exact ⟨0, y :: text, rfl, by simpa using hy⟩

/-- Line feeds are written one more than they are, and the line behind them is indented. -/
theorem singleFrom_breaks (k column indent : Nat) (before : Option Char) {text : List Char}
    (htext : text.head? ≠ some '\n') :
    singleFrom (some indent) column before (List.replicate (k + 1) '\n' ++ text) =
      (if before = some '\n' then [] else ['\n']) ++ (List.replicate (k + 1) '\n' ++
        (List.replicate indent ' ' ++ singleFrom (some indent) indent (some '\n') text)) := by
  induction k generalizing column before with
  | zero =>
    have hlast : (text.head? == some '\n') = false := by simpa using htext
    rw [List.replicate_succ, List.replicate_zero, List.cons_append, List.nil_append, singleFrom]
    simp only [hlast, show ('\n' == '\'') = false by decide, beq_self_eq_true, Bool.false_eq_true,
      if_false, if_true, Option.getD_some, spaces, beq_iff_eq]
    by_cases hbefore : before = some '\n' <;> simp [hbefore]
  | succ k ih =>
    have hmore : ((List.replicate (k + 1) '\n' ++ text).head? == some '\n') = true := rfl
    rw [List.replicate_succ, List.cons_append, singleFrom]
    simp only [hmore, show ('\n' == '\'') = false by decide, beq_self_eq_true, Bool.false_eq_true,
      if_false, if_true, ih, beq_iff_eq]
    by_cases hbefore : before = some '\n' <;> simp [hbefore, List.replicate_succ]

/-- A character that is no quote, no space and no line feed is written as it is. -/
theorem singleFrom_char (margin : Option Nat) (column : Nat) (before : Option Char) {x : Char}
    (text : List Char) (hquote : x ≠ '\'') (hspace : x ≠ ' ') (hbreak : x ≠ '\n') :
    singleFrom margin column before (x :: text) = x :: singleFrom margin (column + 1) (some x) text := by
  rw [singleFrom, if_neg (by simpa using hquote), if_neg (by simpa using hbreak),
    if_neg (by simp [hspace])]

/-- What is written for a text that begins with no blank begins with none. -/
theorem singleFrom_solid {text : List Char} (h : Even text) (hspace : text.head? ≠ some ' ')
    (hbreak : text.head? ≠ some '\n') (column : Nat) (before : Option Char) :
    Solid (singleFrom margin column before text ++ '\'' :: rest) := by
  cases text with
  | nil => exact ⟨'\'', rest, rfl, by decide, by decide⟩
  | cons x text =>
    by_cases hquote : x = '\''
    · subst hquote
      exact ⟨'\'', _, rfl, by decide, by decide⟩
    · have hx : x ≠ ' ' ∧ x ≠ '\n' := ⟨fun h => hspace (h ▸ rfl), fun h => hbreak (h ▸ rfl)⟩
      rw [singleFrom_char _ _ _ _ hquote hx.1 hx.2]
      exact ⟨x, _, rfl, (h.printable x List.mem_cons_self).resolve_left hx.2, hx.1⟩

/-- A space gives way to a line break, or is written as it is. -/
theorem singleFrom_space (margin : Option Nat) (column : Nat) (before : Option Char)
    (text : List Char) :
    singleFrom margin column before (' ' :: text) = ' ' :: singleFrom margin (column + 1) (some ' ') text ∨
    ∃ indent, margin = some indent ∧ before ≠ some ' ' ∧ text.head? ≠ some ' ' ∧ text ≠ [] ∧
      singleFrom margin column before (' ' :: text) =
        '\n' :: (List.replicate indent ' ' ++ singleFrom margin indent (some ' ') text) := by
  rw [singleFrom, if_neg (by decide), if_neg (by decide)]
  split
  · rename_i hsingle
    rw [Bool.and_eq_true, Bool.and_eq_true] at hsingle
    obtain ⟨⟨-, hbefore⟩, hbehind⟩ := hsingle
    unfold Writer.breaksAt
    by_cases hwide : Writer.width < column
    · cases margin with
      | none => exact .inl (by simp [hwide])
      | some indent =>
        refine .inr ⟨indent, rfl, ?_, ?_, ?_, ?_⟩
        · rintro rfl
          exact absurd hbefore (by decide)
        · intro h
          rw [h] at hbehind
          exact absurd hbehind (by decide)
        · rintro rfl
          exact absurd hbehind (by decide)
        · simp [hwide, newline, spaces]
    · exact .inl (by simp [hwide])
  · exact .inl rfl

/-- A quote is written twice. -/
theorem Spells.quote {more : List Char} {out : List Nat} (h : Spells false rest more out) :
    Spells false rest ('\'' :: '\'' :: more) ('\''.toNat :: out) := by
  refine h.of_step ['\'', '\''] (List.cons_ne_nil _ _) fun start c d fuel hc hread => ?_
  rw [List.length_cons, List.length_singleton] at hread
  rw [List.cons_append, List.singleton_append] at hc
  rw [quotedCodes, here_cons hc, peek_one hc]
  simp only [Bool.not_false, Bool.true_and, beq_self_eq_true, List.head?_cons, Option.getD_some, if_true,
    hread]
  rfl

/-- A text is read from between the single quotes that it is written in. Spaces in front of it that
have been written already are read along with it. -/
theorem spells_single {text : List Char} {k column : Nat} {before : Option Char}
    (heven : Even (before.toList ++ text)) (hk : 0 < k → before = some ' ')
    (hrun : before = some '\n' → text.head? ≠ some '\n')
    (hmargin : ('\n' ∉ text ∧ margin = none) ∨ ∃ indent, 0 < indent ∧ margin = some indent)
    (hrest : rest.head? ≠ some '\'') :
    Spells false rest (List.replicate k ' ' ++ (singleFrom margin column before text ++ '\'' :: rest))
      (List.replicate k ' '.toNat ++ codes text) := by
  -- Runs of spaces and of line feeds are read at once, so the induction goes by length.
  induction hlength : text.length using Nat.strong_induction_on generalizing text k column before with
  | h n ih =>
    subst hlength
    have heven' : Even text := even_of_append heven
    have hmargin' : ∀ more : List Char, (∀ y ∈ more, y ∈ text) →
        ('\n' ∉ more ∧ margin = none) ∨ ∃ indent, 0 < indent ∧ margin = some indent :=
      fun more hmore => hmargin.imp_left fun h => ⟨fun hin => h.1 (hmore _ hin), h.2⟩
    cases text with
    | nil => exact (spells_close hrest).spaces k ⟨'\'', rest, rfl, by decide, by decide⟩
    | cons x text =>
      have htail : ∀ y ∈ text, y ∈ x :: text := fun y hy => List.mem_cons_of_mem _ hy
      by_cases hbreak : x = '\n'
      · subst hbreak
        obtain ⟨indent, hindent, rfl⟩ : ∃ indent, 0 < indent ∧ margin = some indent :=
          hmargin.resolve_left fun h => h.1 List.mem_cons_self
        have hbefore : before ≠ some '\n' := fun hb => absurd rfl (hrun hb)
        obtain rfl : k = 0 := by
          by_contra hne
          rw [hk (Nat.pos_of_ne_zero hne)] at heven
          exact heven.not_frayed.1 ⟨rfl, rfl⟩
        obtain ⟨j, more, hsplit, hmore⟩ := exists_run '\n' text
        have hevenMore : Even ('\n' :: more) := by
          rw [hsplit, List.replicate_succ', List.append_assoc] at heven'
          exact even_of_append heven'
        have hspace : more.head? ≠ some ' ' := by
          cases more with
          | nil => simp
          | cons y more => exact fun hy => hevenMore.not_frayed.2 ⟨rfl, Option.some.inj hy⟩
        have hmem : ∀ y ∈ more, y ∈ '\n' :: text :=
          fun y hy => by rw [hsplit]; exact List.mem_append_right _ hy
        have hread : Spells false rest
            (singleFrom (some indent) indent (some '\n') more ++ '\'' :: rest) (codes more) :=
          ih more.length (by rw [hsplit]; simp only [List.length_append, List.length_replicate]; omega)
            (k := 0) hevenMore (by simp) (fun _ => hmore) (hmargin' more hmem) rfl
        have hwritten := hread.fold (j + 1) hindent (singleFrom_solid hevenMore.tail hspace hmore _ _)
        rw [hsplit, singleFrom_breaks j column indent before hmore, if_neg hbefore]
        simpa [codes, fold] using hwritten
      by_cases hspace : x = ' '
      · subst hspace
        have hnext : text.head? ≠ some '\n' := by
          cases text with
          | nil => simp
          | cons y text => exact fun hy => heven'.not_frayed.1 ⟨rfl, Option.some.inj hy⟩
        rcases singleFrom_space margin column before text with
          hwritten | ⟨indent, rfl, hbefore, hsingle, -, hwritten⟩
        · have hread : Spells false rest
              (List.replicate (k + 1) ' ' ++ (singleFrom margin (column + 1) (some ' ') text ++ '\'' :: rest))
              (List.replicate (k + 1) ' '.toNat ++ codes text) :=
            ih text.length (Nat.lt_succ_self _) heven' (fun _ => rfl) (by simp) (hmargin' text htail) rfl
          rw [List.replicate_succ', List.replicate_succ', List.append_assoc, List.append_assoc] at hread
          rw [hwritten]
          exact hread
        · obtain rfl : k = 0 := by
            by_contra hne
            exact hbefore (hk (Nat.pos_of_ne_zero hne))
          have hindent : 0 < indent := by
            rcases hmargin with ⟨-, hm⟩ | ⟨m, hpos, hm⟩
            · cases hm
            · exact Option.some.inj hm ▸ hpos
          have hread : Spells false rest
              (singleFrom (some indent) indent (some ' ') text ++ '\'' :: rest) (codes text) :=
            ih text.length (Nat.lt_succ_self _) (k := 0) heven' (by simp) (by simp) (hmargin' text htail) rfl
          have hfolded := hread.fold 0 hindent (singleFrom_solid heven'.tail hsingle hnext _ _)
          rw [hwritten]
          simpa [codes, fold] using hfolded
      · refine Spells.spaces k ?_ (singleFrom_solid heven' (by simpa using hspace)
          (by simpa using hbreak) _ _)
        have hread : ∀ column', Spells false rest
            (singleFrom margin column' (some x) text ++ '\'' :: rest) (codes text) := fun column' =>
          ih text.length (Nat.lt_succ_self _) (k := 0) heven' (by simp)
            (fun hx => absurd (Option.some.inj hx) hbreak) (hmargin' text htail) rfl
        by_cases hquote : x = '\''
        · subst hquote
          exact (hread (column + 2)).quote
        · have hx := (heven'.printable x List.mem_cons_self).resolve_left hbreak
          rw [singleFrom_char margin column before text hquote hspace hbreak]
          exact (hread (column + 1)).char hx hspace hquote (by simp)

end Single

end LintConfig.Yaml.Scalar
