import LintConfig.Console.Width
import LintConfig.Proofs.Integers

/-! # The columns of texts

How many columns a character takes depends on what stands beside it: a joiner takes in what stands
around it, and a selector makes the character before it wider. So the columns of a text are not the sum
of those of its parts, wherever it is cut. Behind a blank they are, and also in front of a character that
takes a column. -/
namespace LintConfig.Console
open Text (isBlank)

theorem plain_append (xs ys : List (Char × Nat)) : plain (xs ++ ys) = plain xs ++ plain ys :=
  List.map_append

theorem plain_cells (text : List Char) : plain (cells text) = text := by
  induction text using cells.induct with
  | case1 => rfl
  | case2 c => rfl
  | case3 d rest ih => simpa [cells, plain] using ih
  | case4 c d rest hjoiner ih => simpa [cells, plain, hjoiner] using ih

theorem cells_joined (d : Char) (rest : List Char) :
    cells (joiner :: d :: rest) = (joiner, 0) :: (d, 0) :: cells rest := by
  rw [cells.eq_3, if_pos rfl]

theorem cells_cons {c : Char} (h : c ≠ joiner) (d : Char) (rest : List Char) :
    cells (c :: d :: rest) = (c, widthBefore c (d :: rest)) :: cells (d :: rest) := by
  rw [cells.eq_3, if_neg h]

/-- The columns of cells. -/
def columnsOf (cs : List (Char × Nat)) : Nat := (cs.map (·.2)).sum

theorem columnsOf_append (xs ys : List (Char × Nat)) :
    columnsOf (xs ++ ys) = columnsOf xs + columnsOf ys := by
  simp [columnsOf]

theorem width_eq (text : List Char) : width text = columnsOf (cells text) := rfl

section Characters
variable {c : Char}

theorem charWidth_le (c : Char) : charWidth c ≤ 2 := by
  unfold charWidth
  repeat' split
  all_goals decide

/-- Characters that only change what stands beside them take no columns. -/
theorem charWidth_modifier (h : c = joiner ∨ c = pictureSelector) : charWidth c = 0 := by
  rcases h with rfl | rfl <;> decide +kernel

theorem selector_not_picture : Text.Ranges.contains WidthTable.pictures pictureSelector = false := by
  decide

theorem widthBefore_selector (rest : List Char) : widthBefore pictureSelector rest = 0 := by
  rw [widthBefore, selector_not_picture, Bool.and_false, if_neg Bool.false_ne_true,
    charWidth_modifier (.inr rfl)]

/-- A blank is no picture, and it joins nothing. -/
theorem blank_not_picture (h : isBlank c = true) :
    Text.Ranges.contains WidthTable.pictures c = false := by
  have hnone : ∀ n ∈ Number.markCodes, Text.Ranges.search WidthTable.pictures n
      (WidthTable.pictures.size + 1) 0 WidthTable.pictures.size = none := by decide
  have hcode := hnone c.toNat (Number.mem_markCodes fun hsolid => by
    rw [hsolid.visible] at h
    cases h)
  rw [Text.Ranges.contains, Text.Ranges.find?, hcode]
  rfl

theorem blank_ne_joiner (h : isBlank c = true) : c ≠ joiner := by
  rintro rfl
  exact absurd h (by decide)

theorem blank_ne_selector (h : isBlank c = true) : c ≠ pictureSelector := by
  rintro rfl
  exact absurd h (by decide)

theorem widthBefore_of_ne {rest : List Char} (h : rest.head? ≠ some pictureSelector) :
    widthBefore c rest = charWidth c := by
  rw [widthBefore, if_neg]
  simp [h]

theorem widthBefore_le (c : Char) (rest : List Char) : widthBefore c rest ≤ 2 := by
  unfold widthBefore
  split
  · exact le_rfl
  · exact charWidth_le c

end Characters

theorem le_two_of_mem_cells {text : List Char} : ∀ e ∈ cells text, e.2 ≤ 2 := by
  induction text using cells.induct with
  | case1 => exact nofun
  | case2 c => simpa [cells] using charWidth_le c
  | case3 d rest ih => simpa [cells] using ih
  | case4 c d rest hjoiner ih =>
    rw [cells, if_neg hjoiner]
    exact List.forall_mem_cons.mpr ⟨widthBefore_le c _, ih⟩

/-- The first cell of a text, if the character is not joined to one before it. -/
theorem exists_cells_cons (c : Char) (rest : List Char) :
    ∃ w cs, cells (c :: rest) = (c, w) :: cs ∧ (c = pictureSelector → w = 0) := by
  cases rest with
  | nil =>
    exact ⟨charWidth c, [], rfl, fun h => charWidth_modifier (.inr h)⟩
  | cons d rest =>
    rw [cells]
    split
    · exact ⟨0, _, rfl, fun _ => rfl⟩
    · refine ⟨_, _, rfl, ?_⟩
      rintro rfl
      exact widthBefore_selector _

/-- A text has a blank at its end, if it has an end. -/
def EndsBlank (text : List Char) : Prop := ∀ c, text.getLast? = some c → isBlank c = true

theorem endsBlank_nil : EndsBlank [] := nofun

theorem EndsBlank.append {s t : List Char} (h : EndsBlank t) (hne : t ≠ []) : EndsBlank (s ++ t) := by
  intro c hc
  rw [List.getLast?_append_of_ne_nil _ hne] at hc
  exact h c hc

theorem EndsBlank.join {s t : List Char} (hs : EndsBlank s) (ht : EndsBlank t) : EndsBlank (s ++ t) := by
  cases t with
  | nil => rwa [List.append_nil]
  | cons c t => exact ht.append (List.cons_ne_nil _ _)

/-- A text is cut into its cells behind a blank. -/
theorem cells_append_blank {s : List Char} (h : EndsBlank s) (t : List Char) :
    cells (s ++ t) = cells s ++ cells t := by
  induction s using cells.induct with
  | case1 => rfl
  | case2 c =>
    have hblank := h c rfl
    cases t with
    | nil => rfl
    | cons d t =>
      have hwidth : widthBefore c (d :: t) = charWidth c := by
        rw [widthBefore, blank_not_picture hblank, Bool.and_false, if_neg Bool.false_ne_true]
      rw [List.singleton_append, cells_cons (blank_ne_joiner hblank), hwidth]
      rfl
  | case3 d rest ih =>
    have hrest := ih fun c hc => h c (by
      cases rest with
      | nil => cases hc
      | cons e rest => simpa using hc)
    simp only [List.cons_append, cells, if_true, hrest]
  | case4 c d rest hjoiner ih =>
    have hrest := ih fun e he => h e (by simpa using he)
    rw [List.cons_append] at hrest
    simp only [List.cons_append, cells, if_neg hjoiner, hrest]
    rfl

/-- A text is cut into its cells in front of a character that takes a column. -/
theorem cells_append_positive {s : List Char} {c : Char} {t : List Char} {w : Nat}
    {xs ys : List (Char × Nat)} (h : cells (s ++ c :: t) = xs ++ (c, w) :: ys) (hs : plain xs = s)
    (hw : 0 < w) : xs = cells s ∧ (c, w) :: ys = cells (c :: t) := by
  induction s using cells.induct generalizing xs with
  | case1 =>
    obtain rfl : xs = [] := List.map_eq_nil_iff.mp hs
    exact ⟨rfl, h.symm⟩
  | case2 e =>
    obtain ⟨⟨e', v⟩, rest, rfl, rfl, hrest⟩ := List.map_eq_cons_iff.mp hs
    obtain rfl := List.map_eq_nil_iff.mp hrest
    rw [List.singleton_append, cells] at h
    split at h
    · cases h
      exact absurd hw (Nat.lt_irrefl 0)
    · obtain ⟨hfirst, hrest⟩ := List.cons.inj h
      refine ⟨?_, hrest.symm⟩
      obtain ⟨w', cs, hcells, hselector⟩ := exists_cells_cons c t
      have hne : (c :: t).head? ≠ some pictureSelector := by
        intro he
        have hzero := hselector (Option.some.inj he)
        rw [hcells] at hrest
        cases hrest
        omega
      rw [widthBefore_of_ne hne] at hfirst
      rw [← hfirst]
      rfl
  | case3 d rest ih =>
    obtain ⟨⟨j, v⟩, _, rfl, rfl, hs'⟩ := List.map_eq_cons_iff.mp hs
    obtain ⟨⟨d', v'⟩, xs, rfl, rfl, hrest⟩ := List.map_eq_cons_iff.mp hs'
    rw [List.cons_append, List.cons_append, cells_joined] at h
    simp only [List.cons_append, List.cons.injEq] at h
    obtain ⟨hj, hd, h⟩ := h
    obtain ⟨hxs, hys⟩ := ih h hrest
    exact ⟨by rw [cells_joined, ← hxs, ← hj, ← hd], hys⟩
  | case4 e d rest hjoiner ih =>
    obtain ⟨⟨e', v⟩, xs, rfl, rfl, hrest⟩ := List.map_eq_cons_iff.mp hs
    rw [List.cons_append, List.cons_append, cells_cons hjoiner] at h
    obtain ⟨he, h⟩ := List.cons.inj h
    obtain ⟨hxs, hys⟩ := ih h hrest
    refine ⟨?_, hys⟩
    rw [cells_cons hjoiner, ← hxs, ← he]
    rfl

/-- The cells of a text stay as they are unless a selector follows. -/
theorem exists_cells_append {s t : List Char} (h : t.head? ≠ some pictureSelector) :
    ∃ cs, cells (s ++ t) = cells s ++ cs := by
  induction s using cells.induct with
  | case1 => exact ⟨cells t, rfl⟩
  | case2 c =>
    cases t with
    | nil => exact ⟨[], rfl⟩
    | cons d t =>
      rw [List.singleton_append]
      by_cases hjoiner : c = joiner
      · refine ⟨(d, 0) :: cells t, ?_⟩
        rw [hjoiner, cells_joined, cells, charWidth_modifier (.inl rfl)]
        rfl
      · exact ⟨cells (d :: t), by rw [cells_cons hjoiner, widthBefore_of_ne h]; rfl⟩
  | case3 d rest ih =>
    obtain ⟨cs, hcs⟩ := ih
    exact ⟨cs, by rw [List.cons_append, List.cons_append, cells_joined, hcs, cells_joined]; rfl⟩
  | case4 c d rest hjoiner ih =>
    obtain ⟨cs, hcs⟩ := ih
    refine ⟨cs, ?_⟩
    rw [List.cons_append] at hcs
    rw [List.cons_append, List.cons_append, cells_cons hjoiner, hcs, cells_cons hjoiner]
    rfl

theorem width_le_append {s t : List Char} (h : t.head? ≠ some pictureSelector) :
    width s ≤ width (s ++ t) := by
  obtain ⟨cs, hcs⟩ := exists_cells_append (s := s) h
  rw [width_eq, width_eq, hcs, columnsOf_append]
  exact Nat.le_add_right _ _

end LintConfig.Console
