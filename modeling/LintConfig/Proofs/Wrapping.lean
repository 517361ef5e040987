import LintConfig.Console.Print
import LintConfig.Proofs.Cells
import Mathlib.Data.List.DropRight

/-! # Wrapped texts

Wrapping cuts a text into lines and touches nothing but blanks: the lines are the text, one part after
the other, except for blanks at their ends, and for controls that no terminal shows. A word that fits is
never cut. -/
namespace LintConfig.Console
open Text (isBlank)

/-- What can be seen of a text. -/
def visible (text : List Char) : List Char := text.filter (!isBlank ·)

theorem visible_append (s t : List Char) : visible (s ++ t) = visible s ++ visible t :=
  List.filter_append ..

theorem visible_eq_nil {text : List Char} (h : ∀ c ∈ text, isBlank c = true) : visible text = [] :=
  List.filter_eq_nil_iff.mpr fun c hc => by simp [h c hc]

namespace Wrap

/-! ### Long words -/

/-- A part that begins with a character that takes a column. -/
def Cut (g : List (Char × Nat)) : Prop := ∃ c w cs, g = (c, w) :: cs ∧ 0 < w

/-- A word is cut into parts that fit. All but the first begin where a column is taken. -/
theorem chop_spec {columns : Nat} (room : Nat) {cs : List (Char × Nat)}
    (h : ∀ e ∈ cs, e.2 ≤ columns) :
    ∃ (first : List (Char × Nat)) (others : List (List (Char × Nat))),
      chop columns room cs = plain first :: others.map plain ∧ first ++ others.flatten = cs ∧
      columnsOf first ≤ room ∧ ∀ g ∈ others, Cut g ∧ columnsOf g ≤ columns := by
  induction cs generalizing room with
  | nil => exact ⟨[], [], rfl, rfl, Nat.zero_le _, nofun⟩
  | cons e cs ih =>
    obtain ⟨c, w⟩ := e
    obtain ⟨hwidth, hrest⟩ := List.forall_mem_cons.mp h
    rw [chop]
    split
    · rename_i hroom
      obtain ⟨first, others, hchop, hflatten, hfirst, hothers⟩ := ih (room - w) hrest
      rw [hchop]
      refine ⟨(c, w) :: first, others, rfl, by rw [List.cons_append, hflatten], ?_, hothers⟩
      simp only [columnsOf, List.map_cons, List.sum_cons] at hfirst ⊢
      omega
    · rename_i hroom
      obtain ⟨first, others, hchop, hflatten, hfirst, hothers⟩ := ih (columns - w) hrest
      rw [hchop]
      refine ⟨[], ((c, w) :: first) :: others, rfl, ?_, Nat.zero_le _, ?_⟩
      · rw [List.nil_append, List.flatten_cons, List.cons_append, hflatten]
      · refine List.forall_mem_cons.mpr ⟨⟨⟨c, w, first, rfl, by omega⟩, ?_⟩, hothers⟩
        simp only [columnsOf, List.map_cons, List.sum_cons] at hfirst hwidth ⊢
        omega

/-- A part has the cells by itself that it has within its word. -/
theorem cells_of_cut {word : List Char} {first : List (Char × Nat)}
    {others : List (List (Char × Nat))} (h : first ++ others.flatten = cells word)
    (hothers : ∀ g ∈ others, Cut g) :
    cells (plain first) = first ∧ ∀ g ∈ others, cells (plain g) = g := by
  induction others generalizing word first with
  | nil =>
    rw [List.flatten_nil, List.append_nil] at h
    exact ⟨by rw [h, plain_cells], nofun⟩
  | cons g others ih =>
    obtain ⟨⟨c, w, cs, rfl, hw⟩, hlater⟩ := List.forall_mem_cons.mp hothers
    have hword : word = plain first ++ c :: plain (cs ++ others.flatten) := by
      rw [← plain_cells word, ← h, plain_append]
      rfl
    rw [hword] at h
    obtain ⟨hfirst, hrest⟩ := cells_append_positive h.symm rfl hw
    have hpart : (c, w) :: cs ++ others.flatten = cells _ := hrest
    obtain ⟨hg, hall⟩ := ih hpart hlater
    exact ⟨hfirst.symm, List.forall_mem_cons.mpr ⟨hg, hall⟩⟩

/-! ### Blanks at the end -/

theorem trimEnd_concat_blank {text : List Char} {c : Char} (h : isBlank c = true) :
    trimEnd (text ++ [c]) = trimEnd text :=
  List.rdropWhile_concat_pos isBlank text c h

theorem trimEnd_concat {text : List Char} {c : Char} (h : ¬ isBlank c = true) :
    trimEnd (text ++ [c]) = text ++ [c] :=
  List.rdropWhile_concat_neg isBlank text c h

theorem trimEnd_trimEnd (text : List Char) : trimEnd (trimEnd text) = trimEnd text :=
  List.rdropWhile_idempotent isBlank text

theorem exists_trimEnd (text : List Char) :
    ∃ blanks, (∀ c ∈ blanks, isBlank c = true) ∧ trimEnd text ++ blanks = text :=
  ⟨text.rtakeWhile isBlank, fun _ hc => List.mem_rtakeWhile_imp hc, List.rdropWhile_append_rtakeWhile⟩

theorem trimEnd_eq_nil {text : List Char} : trimEnd text = [] ↔ ∀ c ∈ text, isBlank c = true :=
  List.rdropWhile_eq_nil_iff

theorem trimEnd_append_blank {text blanks : List Char} (h : ∀ c ∈ blanks, isBlank c = true) :
    trimEnd (text ++ blanks) = trimEnd text := by
  induction blanks using List.reverseRecOn with
  | nil => rw [List.append_nil]
  | append_singleton blanks c ih =>
    rw [← List.append_assoc, trimEnd_concat_blank (h c (by simp))]
    exact ih fun d hd => h d (by simp [hd])

theorem trimEnd_append {s t : List Char} (h : trimEnd t ≠ []) : trimEnd (s ++ t) = s ++ trimEnd t := by
  induction t using List.reverseRecOn with
  | nil => exact absurd rfl h
  | append_singleton t c ih =>
    rw [← List.append_assoc]
    by_cases hc : isBlank c = true
    · rw [trimEnd_concat_blank hc] at h ⊢
      rw [trimEnd_concat_blank hc]
      exact ih h
    · rw [trimEnd_concat hc, trimEnd_concat hc, List.append_assoc]

theorem visible_trimEnd (text : List Char) : visible (trimEnd text) = visible text := by
  obtain ⟨blanks, hblanks, htext⟩ := exists_trimEnd text
  conv_rhs => rw [← htext, visible_append, visible_eq_nil hblanks, List.append_nil]

theorem width_append_blank_le {s blanks : List Char} (h : ∀ c ∈ blanks, isBlank c = true) :
    width s ≤ width (s ++ blanks) := by
  refine width_le_append fun he => ?_
  obtain ⟨rest, rfl⟩ := List.head?_eq_some_iff.mp he
  exact blank_ne_selector (h _ List.mem_cons_self) rfl

theorem width_trimEnd_le (text : List Char) : width (trimEnd text) ≤ width text := by
  obtain ⟨blanks, hblanks, htext⟩ := exists_trimEnd text
  conv_rhs => rw [← htext]
  exact width_append_blank_le hblanks

/-! ### Words -/

theorem runs_flatten (text : List Char) : (runs text).flatten = text := by
  induction text with
  | nil => rfl
  | cons c rest ih =>
    rw [runs]
    split
    · rename_i hruns
      rw [hruns] at ih
      rw [← ih]
      rfl
    · rename_i run more hruns
      rw [hruns] at ih
      split <;> simp [← ih]

theorem words_flatten (text : List Char) : (words text).flatten = text ∨
    words text = [] ∧ ∀ c ∈ text, isBlank c = true := by
  have hflatten := runs_flatten text
  unfold words
  split
  · rename_i hruns
    rw [hruns] at hflatten
    exact .inr ⟨rfl, hflatten ▸ nofun⟩
  · rename_i first rest hruns
    rw [hruns] at hflatten
    split
    · rename_i hblank
      split
      · refine .inr ⟨rfl, ?_⟩
        rw [← hflatten]
        simpa using hblank
      · exact .inl (by simpa using hflatten)
    · exact .inl hflatten

/-! ### Lines that fit -/

theorem fitCells_append {columns : Nat} {xs : List (Char × Nat)} (ys : List (Char × Nat))
    (h : columnsOf xs ≤ columns) :
    fitCells columns (xs ++ ys) = plain xs ++ fitCells (columns - columnsOf xs) ys := by
  induction xs generalizing columns with
  | nil => rfl
  | cons e xs ih =>
    obtain ⟨c, w⟩ := e
    have hsum : columnsOf ((c, w) :: xs) = w + columnsOf xs := by simp [columnsOf]
    rw [hsum] at h ⊢
    rw [List.cons_append, fitCells, if_pos (by omega), ih (by omega), Nat.sub_sub]
    rfl

theorem isBlank_of_mem_spaces {n : Nat} {c : Char} (h : c ∈ spaces n) : isBlank c = true := by
  obtain rfl := List.eq_of_mem_replicate h
  decide

theorem isBlank_of_mem_fitCells {columns : Nat} {cs : List (Char × Nat)}
    (h : ∀ c ∈ plain cs, isBlank c = true) : ∀ c ∈ fitCells columns cs, isBlank c = true := by
  induction cs generalizing columns with
  | nil => exact fun _ => isBlank_of_mem_spaces
  | cons e cs ih =>
    obtain ⟨hc, hcs⟩ := List.forall_mem_cons.mp h
    rw [fitCells]
    split
    · exact List.forall_mem_cons.mpr ⟨hc, ih hcs⟩
    · exact fun _ => isBlank_of_mem_spaces

/-- Of a line only blanks are removed that do not fit. -/
theorem exists_truncate {columns : Nat} {line : List Char} (h : width (trimEnd line) ≤ columns) :
    ∃ blanks, (∀ c ∈ blanks, isBlank c = true) ∧
      truncate columns .fold (trimExcess columns line) = trimEnd line ++ blanks := by
  obtain ⟨blanks, hblanks, hline⟩ := exists_trimEnd line
  have hlength : line.length = (trimEnd line).length + blanks.length := by
    conv_lhs => rw [← hline, List.length_append]
  obtain ⟨kept, hkept, hexcess⟩ : ∃ kept, (∀ c ∈ kept, isBlank c = true) ∧
      trimExcess columns line = trimEnd line ++ kept := by
    refine ⟨blanks.take (blanks.length - min blanks.length (line.length - columns)),
      fun c hc => hblanks c (List.mem_of_mem_take hc), ?_⟩
    have hcut : line.length - min (line.length - (trimEnd line).length) (line.length - columns) =
        (trimEnd line).length + (blanks.length - min blanks.length (line.length - columns)) := by
      omega
    rw [trimExcess, hcut, ← List.take_length_add_append, hline]
  rw [hexcess, truncate]
  split
  · exact ⟨kept, hkept, rfl⟩
  · have hselector : kept.head? ≠ some pictureSelector := fun he => by
      obtain ⟨rest, rfl⟩ := List.head?_eq_some_iff.mp he
      exact blank_ne_selector (hkept _ List.mem_cons_self) rfl
    obtain ⟨cs, hcs⟩ := exists_cells_append (s := trimEnd line) hselector
    have hplain : plain cs = kept := by
      have hall := congrArg plain hcs
      rw [plain_append, plain_cells, plain_cells] at hall
      exact (List.append_cancel_left hall).symm
    refine ⟨fitCells (columns - columnsOf (cells (trimEnd line))) cs,
      isBlank_of_mem_fitCells (hplain ▸ hkept), ?_⟩
    rw [fit, hcs, fitCells_append cs h, plain_cells]

/-! ### Setting words -/

theorem trimEnd_ne_nil {text : List Char} {c : Char} (hmem : c ∈ text) (hc : isBlank c = false) :
    trimEnd text ≠ [] := fun he => by
  rw [trimEnd_eq_nil.mp he c hmem] at hc
  cases hc

theorem ne_nil_of_trimEnd {text : List Char} (h : trimEnd text ≠ []) : text ≠ [] := by
  rintro rfl
  exact h rfl

/-- Words as they are set: none is blank, and blanks are between them. -/
structure Spaced (ws : List (List Char)) : Prop where
  solid : ∀ w ∈ ws, trimEnd w ≠ []
  apart : ∀ w ∈ ws.dropLast, EndsBlank w

theorem Spaced.tail {w : List Char} {ws : List (List Char)} (h : Spaced (w :: ws)) : Spaced ws := by
  refine ⟨fun v hv => h.solid v (List.mem_cons_of_mem _ hv), fun v hv => h.apart v ?_⟩
  cases ws with
  | nil => cases hv
  | cons u us => exact List.mem_cons_of_mem _ hv

theorem Spaced.endsBlank {w : List Char} {ws : List (List Char)} (h : Spaced (w :: ws))
    (hne : ws ≠ []) : EndsBlank w := by
  refine h.apart w ?_
  rw [List.dropLast_cons_of_ne_nil hne]
  exact List.mem_cons_self

/-- All runs but the first are words, and blanks are between them. -/
theorem runs_spaced (text : List Char) : Spaced (runs text).tail ∧ (∀ w ∈ runs text, w ≠ []) ∧
    ∀ w ∈ (runs text).dropLast, EndsBlank w := by
  induction text with
  | nil => exact ⟨⟨nofun, nofun⟩, nofun, nofun⟩
  | cons c rest ih =>
    rw [runs]
    split
    · refine ⟨⟨nofun, nofun⟩, ?_, nofun⟩
      simp
    · rename_i run more hruns
      rw [hruns] at ih
      obtain ⟨hspaced, hne, hapart⟩ := ih
      obtain ⟨hrun, hmore⟩ := List.forall_mem_cons.mp hne
      split
      · rename_i hcut
        rw [Bool.and_eq_true, Bool.not_eq_true'] at hcut
        obtain ⟨hblank, hhead⟩ := hcut
        refine ⟨⟨List.forall_mem_cons.mpr ⟨?_, hspaced.solid⟩, hapart⟩, ?_, ?_⟩
        · obtain ⟨d, run, rfl⟩ := List.exists_cons_of_ne_nil hrun
          exact trimEnd_ne_nil List.mem_cons_self hhead
        · exact List.forall_mem_cons.mpr ⟨List.cons_ne_nil _ _, hne⟩
        · rw [List.dropLast_cons_of_ne_nil (List.cons_ne_nil _ _)]
          refine List.forall_mem_cons.mpr ⟨fun d hd => ?_, hapart⟩
          cases hd
          exact hblank
      · refine ⟨hspaced, List.forall_mem_cons.mpr ⟨List.cons_ne_nil _ _, hmore⟩, ?_⟩
        cases more with
        | nil => exact nofun
        | cons next more =>
          obtain ⟨hends, hapart⟩ := List.forall_mem_cons.mp hapart
          exact List.forall_mem_cons.mpr ⟨hends.append (s := [c]) hrun, hapart⟩

theorem words_spaced (text : List Char) : Spaced (words text) := by
  obtain ⟨hspaced, hne, hapart⟩ := runs_spaced text
  unfold words
  split
  · exact ⟨nofun, nofun⟩
  · rename_i first rest hruns
    rw [hruns] at hspaced hne hapart
    split
    · split
      · exact ⟨nofun, nofun⟩
      · rename_i word more
        obtain ⟨hword, hmore⟩ := List.forall_mem_cons.mp hspaced.solid
        refine ⟨List.forall_mem_cons.mpr ⟨?_, hmore⟩, ?_⟩
        · rw [trimEnd_append hword]
          exact List.append_ne_nil_of_right_ne_nil _ hword
        · cases more with
          | nil => exact nofun
          | cons next more =>
            obtain ⟨hends, hapart⟩ := List.forall_mem_cons.mp hspaced.apart
            exact List.forall_mem_cons.mpr ⟨hends.append (ne_nil_of_trimEnd hword), hapart⟩
    · rename_i hfirst
      refine ⟨List.forall_mem_cons.mpr ⟨fun he => hfirst ?_, hspaced.solid⟩, hapart⟩
      exact List.all_eq_true.mpr (trimEnd_eq_nil.mp he)

/-- The parts of a word fit, and the last of them has the end of the word. -/
theorem chop_fits {columns : Nat} {word : List Char} (hcolumns : 2 ≤ columns) (hword : word ≠ []) :
    ∃ parts last, chop columns columns (cells word) = parts ++ [last] ∧
      parts.flatten ++ last = word ∧ last ≠ [] ∧ ∀ part ∈ parts ++ [last], width part ≤ columns := by
  obtain ⟨first, others, hchop, hflatten, hfirst, hothers⟩ :=
    chop_spec columns fun e he =>
      (le_two_of_mem_cells e he).trans hcolumns
  obtain ⟨hcellsFirst, hcellsOthers⟩ := cells_of_cut hflatten fun g hg => (hothers g hg).1
  have hfits : ∀ part ∈ plain first :: others.map plain, width part ≤ columns := by
    refine List.forall_mem_cons.mpr ⟨by rwa [width_eq, hcellsFirst], fun part hpart => ?_⟩
    obtain ⟨g, hg, rfl⟩ := List.mem_map.mp hpart
    rw [width_eq, hcellsOthers g hg]
    exact (hothers g hg).2
  have htext : (plain first :: others.map plain).flatten = word := by
    rw [← plain_cells word, ← hflatten, plain_append, List.flatten_cons, plain, plain, List.map_flatten]
    rfl
  rcases List.eq_nil_or_concat others with rfl | ⟨others, last, rfl⟩
  · refine ⟨[], plain first, hchop, by simpa using htext, ?_, hfits⟩
    rintro hnil
    exact hword (by simpa [hnil] using htext.symm)
  · obtain ⟨c, w, cs, rfl, -⟩ := (hothers last (by simp)).1
    rw [List.concat_eq_append, List.map_append, List.map_singleton, ← List.cons_append]
      at hchop hfits htext
    exact ⟨_, _, hchop, by simpa using htext, List.cons_ne_nil _ _, hfits⟩

/-- Words are set into lines one after the other, and what can be seen of a line fits. -/
theorem setWords_spec {columns : Nat} (hcolumns : 2 ≤ columns) {line : List Char}
    {ws : List (List Char)} (hws : Spaced ws) (hends : ws ≠ [] → EndsBlank line)
    (hfits : width (trimEnd line) ≤ columns) :
    (setWords columns .fold line (width line) ws).flatten = line ++ ws.flatten ∧
      ∀ l ∈ setWords columns .fold line (width line) ws, width (trimEnd l) ≤ columns := by
  induction ws generalizing line with
  | nil => exact ⟨rfl, by simpa [setWords] using hfits⟩
  | cons word ws ih =>
    have hword := hws.solid word List.mem_cons_self
    have hline := hends (List.cons_ne_nil _ _)
    have hwidth : ∀ t, width (line ++ t) = width line + width t := fun t => by
      rw [width_eq, cells_append_blank hline, columnsOf_append]
      rfl
    rw [setWords]
    split
    · rename_i hroom
      rw [← hwidth]
      obtain ⟨hflatten, hall⟩ := ih hws.tail
        (fun hne => (hws.endsBlank hne).append (ne_nil_of_trimEnd hword))
        (by rwa [trimEnd_append hword, hwidth])
      exact ⟨by rw [hflatten, List.append_assoc, List.flatten_cons], hall⟩
    · have hfinished : (if line.isEmpty then [] else [line]).flatten = line ∧
          ∀ l ∈ (if line.isEmpty then [] else [line]), width (trimEnd l) ≤ columns := by
        cases line with
        | nil => exact ⟨rfl, nofun⟩
        | cons c line => exact ⟨by simp, by simpa using hfits⟩
      by_cases hwide : columns < width (trimEnd word)
      · obtain ⟨parts, last, hchop, hparts, hlast, hpart⟩ := chop_fits hcolumns (ne_nil_of_trimEnd hword)
        simp only [if_pos hwide, hchop, List.getLast?_concat, Option.getD_some, List.dropLast_concat]
        have hends : ws ≠ [] → EndsBlank last := fun hne c hc =>
          hws.endsBlank hne c (by rw [← hparts, List.getLast?_append_of_ne_nil _ hlast, hc])
        obtain ⟨hflatten, hall⟩ :=
          ih hws.tail hends ((width_trimEnd_le last).trans (hpart last (by simp)))
        refine ⟨?_, fun l hl => ?_⟩
        · rw [List.flatten_append, List.flatten_append, hfinished.1, hflatten, List.flatten_cons, ← hparts]
          simp only [List.append_assoc]
        · rcases List.mem_append.mp hl with hl | hl
          · rcases List.mem_append.mp hl with hl | hl
            · exact hfinished.2 l hl
            · exact (width_trimEnd_le l).trans (hpart l (List.mem_append_left _ hl))
          · exact hall l hl
      · simp only [if_neg hwide]
        obtain ⟨hflatten, hall⟩ := ih hws.tail hws.endsBlank (Nat.not_lt.mp hwide)
        refine ⟨?_, fun l hl => ?_⟩
        · rw [List.flatten_append, hfinished.1, hflatten, List.flatten_cons]
        · rcases List.mem_append.mp hl with hl | hl
          · exact hfinished.2 l hl
          · exact hall l hl

/-- The lines that a text without tabs is set into; what does not fit are blanks at their ends. -/
def setLines (columns : Nat) (text : List Char) : List (List Char) :=
  if (words text).isEmpty then [text] else setWords columns .fold [] 0 (words text)

theorem wrapLine_eq (columns : Nat) (line : List Char) : wrapLine columns .fold line =
    (setLines columns (expandTabs 0 (cells line))).map
      fun l => truncate columns .fold (trimExcess columns l) := by
  rw [wrapLine, setLines]
  cases words (expandTabs 0 (cells line)) <;> rfl

theorem setLines_spec {columns : Nat} (hcolumns : 2 ≤ columns) (text : List Char) :
    (setLines columns text).flatten = text ∧
      ∀ l ∈ setLines columns text, width (trimEnd l) ≤ columns := by
  unfold setLines
  rcases words_flatten text with hflatten | ⟨hnone, hblank⟩
  · split
    · rename_i hnone
      rw [List.isEmpty_iff.mp hnone] at hflatten
      rw [← hflatten]
      exact ⟨rfl, by simp [trimEnd, width, cells]⟩
    · obtain ⟨hall, hfits⟩ :=
        setWords_spec hcolumns (words_spaced text) (fun _ => endsBlank_nil) (Nat.zero_le _)
      exact ⟨hall.trans hflatten, hfits⟩
  · rw [hnone]
    refine ⟨List.flatten_singleton, ?_⟩
    simp [trimEnd_eq_nil.mpr hblank, width, cells]

end Wrap

/-! ### A text and its lines -/

/-- A line of a text is set as its parts, one after the other, but for blanks at their ends. A tab is
set as spaces. -/
def SetAs (line : List Char) (lines : List (List Char)) : Prop :=
  ∃ parts : List (List Char), parts.flatten = Wrap.expandTabs 0 (cells line) ∧
    lines.map Wrap.trimEnd = parts.map Wrap.trimEnd

/-- Controls that only move the cursor. -/
def isReturn (c : Char) : Bool := c == '\x0b' || c == '\x0c' || c == '\r'

/-- Controls that a terminal answers to, and that are no blanks. -/
def isSilent (c : Char) : Bool := c == '\x07' || c == '\x08'

/-- Lines show a text character for character: each line of the text is set as some of them. -/
def Shows (lines : List (List Char)) (text : List Char) : Prop :=
  ∃ groups, groups.flatten = lines ∧
    List.Forall₂ SetAs (Wrap.lineParts (text.filter (!isReturn ·))) groups

theorem wrapLine_setAs {columns : Nat} (h : 2 ≤ columns) (line : List Char) :
    SetAs line (Wrap.wrapLine columns .fold line) := by
  obtain ⟨hflatten, hfits⟩ := Wrap.setLines_spec h (Wrap.expandTabs 0 (cells line))
  refine ⟨_, hflatten, ?_⟩
  rw [Wrap.wrapLine_eq, List.map_map]
  refine List.map_congr_left fun l hl => ?_
  obtain ⟨blanks, hblanks, hprinted⟩ := Wrap.exists_truncate (hfits l hl)
  rw [Function.comp_apply, hprinted, Wrap.trimEnd_append_blank hblanks, Wrap.trimEnd_trimEnd]

theorem isDropped_eq (c : Char) : Wrap.isDropped c = (isSilent c || isReturn c) := by
  simp only [Wrap.isDropped, isSilent, isReturn, Bool.or_assoc]

theorem filter_isDropped (text : List Char) : text.filter (!Wrap.isDropped ·) =
    (text.filter (!isSilent ·)).filter (!isReturn ·) := by
  rw [List.filter_filter]
  refine List.filter_congr fun c _ => ?_
  rw [isDropped_eq, Bool.not_or, Bool.and_comm]

/-- Wrapping leaves out what no terminal shows, and shows all else. -/
theorem wrap_shows {columns : Nat} (h : 2 ≤ columns) (text : List Char) :
    Shows (wrap columns .fold text) (text.filter (!isSilent ·)) := by
  refine ⟨(Wrap.lineParts (text.filter (!Wrap.isDropped ·))).map (Wrap.wrapLine columns .fold), ?_, ?_⟩
  · rw [wrap, List.flatMap_def]
  · rw [← filter_isDropped, List.forall₂_map_right_iff]
    exact List.forall₂_same.mpr fun line _ => wrapLine_setAs h line

theorem visible_expandTabs (column : Nat) (cs : List (Char × Nat)) :
    visible (Wrap.expandTabs column cs) = visible (plain cs) := by
  induction cs generalizing column with
  | nil => rfl
  | cons e cs ih =>
    obtain ⟨c, w⟩ := e
    rw [Wrap.expandTabs]
    split
    · rename_i htab
      rw [visible_append, visible_eq_nil fun _ => Wrap.isBlank_of_mem_spaces, List.nil_append, ih, htab]
      rfl
    · simp only [plain, List.map_cons, visible, List.filter_cons] at ih ⊢
      rw [ih]

theorem visible_lineParts (text : List Char) :
    visible (Wrap.lineParts text).flatten = visible text := by
  induction text using Wrap.lineParts.induct with
  | case1 => rfl
  | case2 rest ih =>
    rw [Wrap.lineParts, List.flatten_cons, List.nil_append, ih]
    exact (List.filter_cons_of_neg (by decide)).symm
  | case3 c rest hbreak hparts ih =>
    rw [Wrap.lineParts.eq_3 _ _ hbreak, hparts]
    rw [hparts] at ih
    calc visible [[c]].flatten = visible [c] ++ visible [].flatten := (List.append_nil _).symm
      _ = visible [c] ++ visible rest := by rw [ih]
      _ = visible (c :: rest) := (visible_append [c] rest).symm
  | case4 c rest hbreak part more hparts ih =>
    rw [Wrap.lineParts.eq_3 _ _ hbreak, hparts]
    rw [hparts] at ih
    calc visible ((c :: part) :: more).flatten = visible [c] ++ visible (part :: more).flatten :=
          visible_append [c] _
      _ = visible [c] ++ visible rest := by rw [ih]
      _ = visible (c :: rest) := (visible_append [c] rest).symm

theorem visible_flatten (parts : List (List Char)) :
    visible parts.flatten = (parts.map visible).flatten :=
  List.filter_flatten ..

theorem SetAs.visible {line : List Char} {lines : List (List Char)} (h : SetAs line lines) :
    visible lines.flatten = Console.visible line := by
  obtain ⟨parts, hparts, htrim⟩ := h
  have hsame : ∀ ls : List (List Char), Console.visible ls.flatten =
      ((ls.map Wrap.trimEnd).map Console.visible).flatten := fun ls => by
    rw [visible_flatten, List.map_map]
    simp only [Function.comp_def, Wrap.visible_trimEnd]
  rw [hsame, htrim, ← hsame, hparts, visible_expandTabs, plain_cells]

/-- Lines that show a text have the same to be seen. -/
theorem Shows.visible {lines : List (List Char)} {text : List Char} (h : Shows lines text) :
    visible lines.flatten = Console.visible text := by
  obtain ⟨groups, rfl, hgroups⟩ := h
  have hreturn : Console.visible (text.filter (!isReturn ·)) = Console.visible text := by
    rw [Console.visible, List.filter_filter]
    refine List.filter_congr fun c _ => ?_
    cases hc : isReturn c with
    | false => simp
    | true =>
      simp only [isReturn, Bool.or_eq_true, beq_iff_eq] at hc
      rcases hc with (rfl | rfl) | rfl <;> decide
  rw [← hreturn, ← visible_lineParts (text.filter _)]
  generalize Wrap.lineParts (text.filter (!isReturn ·)) = lines at hgroups
  induction hgroups with
  | nil => rfl
  | cons hset _ ih =>
    rw [List.flatten_cons, List.flatten_append, visible_append, List.flatten_cons, visible_append,
      hset.visible, ih]

/-! ### What is not broken -/

theorem infix_ended {line : List Char} {lines : List (List Char)} (h : line ∈ lines) :
    line <:+: (ended lines).toList := by
  obtain ⟨before, behind, rfl⟩ := List.append_of_mem h
  rw [ended, String.toList_ofList, List.flatMap_append, List.flatMap_cons, List.append_assoc line]
  exact List.infix_append' _ _ _

namespace Wrap

theorem infix_trimEnd {u text : List Char} (h : u <:+: text) : trimEnd u <:+: trimEnd text := by
  obtain ⟨before, behind, rfl⟩ := h
  by_cases hu : trimEnd u = []
  · rw [hu]
    exact List.nil_infix
  by_cases hbehind : trimEnd behind = []
  · rw [trimEnd_append_blank (trimEnd_eq_nil.mp hbehind), trimEnd_append hu]
    exact (List.suffix_append _ _).isInfix
  · rw [trimEnd_append hbehind]
    exact (List.rdropWhile_prefix isBlank u).isInfix.trans ⟨before, trimEnd behind, rfl⟩

/-- The line that is being set is kept, and so is every word that fits. -/
theorem setWords_keeps (columns : Nat) (line : List Char) (used : Nat) (ws : List (List Char)) :
    (∃ l ∈ setWords columns .fold line used ws, line <+: l) ∧
      ∀ w ∈ ws, width (trimEnd w) ≤ columns → ∃ l ∈ setWords columns .fold line used ws, w <:+: l := by
  induction ws generalizing line used with
  | nil => exact ⟨⟨line, List.mem_singleton_self _, List.prefix_rfl⟩, nofun⟩
  | cons word ws ih =>
    rw [setWords]
    split
    · obtain ⟨⟨l, hl, hline⟩, hws⟩ := ih (line ++ word) (used + width word)
      refine ⟨⟨l, hl, (List.prefix_append _ _).trans hline⟩, List.forall_mem_cons.mpr ⟨fun _ => ?_, hws⟩⟩
      exact ⟨l, hl, (List.suffix_append _ _).isInfix.trans hline.isInfix⟩
    · have hfinished : ∀ lines : List (List Char), lines ≠ [] →
          ∃ l ∈ (if line.isEmpty then [] else [line]) ++ lines, line <+: l := by
        intro lines hne
        cases line with
        | nil =>
          obtain ⟨l, lines, rfl⟩ := List.exists_cons_of_ne_nil hne
          exact ⟨l, by simp, List.nil_prefix⟩
        | cons c line => exact ⟨c :: line, by simp, List.prefix_rfl⟩
      by_cases hwide : columns < width (trimEnd word)
      · simp only [if_pos hwide]
        obtain ⟨⟨l, hl, -⟩, hws⟩ := ih ((chop columns columns (cells word)).getLast?.getD [])
          (width ((chop columns columns (cells word)).getLast?.getD []))
        refine ⟨?_, List.forall_mem_cons.mpr ⟨fun hfits => absurd hwide hfits.not_gt, fun w hw hfits => ?_⟩⟩
        · rw [List.append_assoc]
          exact hfinished _ (List.append_ne_nil_of_right_ne_nil _ (List.ne_nil_of_mem hl))
        · obtain ⟨l, hl, hin⟩ := hws w hw hfits
          exact ⟨l, List.mem_append_right _ hl, hin⟩
      · simp only [if_neg hwide]
        obtain ⟨⟨l, hl, hline⟩, hws⟩ := ih word (width word)
        refine ⟨hfinished _ (List.ne_nil_of_mem hl), List.forall_mem_cons.mpr ⟨fun _ => ?_, fun w hw hfits => ?_⟩⟩
        · exact ⟨l, List.mem_append_right _ hl, hline.isInfix⟩
        · obtain ⟨l, hl, hin⟩ := hws w hw hfits
          exact ⟨l, List.mem_append_right _ hl, hin⟩

/-- Words that all fit are one line. -/
theorem setWords_one {columns : Nat} {line : List Char} {ws : List (List Char)} (hws : Spaced ws)
    (hends : ws ≠ [] → EndsBlank line) (hfits : width (line ++ ws.flatten) ≤ columns) :
    setWords columns .fold line (width line) ws = [line ++ ws.flatten] := by
  induction ws generalizing line with
  | nil => rw [setWords, List.flatten_nil, List.append_nil]
  | cons word ws ih =>
    have hword := ne_nil_of_trimEnd (hws.solid word List.mem_cons_self)
    have hline := hends (List.cons_ne_nil _ _)
    have hwidth : ∀ t, width (line ++ t) = width line + width t := fun t => by
      rw [width_eq, cells_append_blank hline, columnsOf_append]
      rfl
    have hmore : width word ≤ width (word ++ ws.flatten) := by
      cases ws with
      | nil => rw [List.flatten_nil, List.append_nil]
      | cons next ws =>
        rw [width_eq, width_eq, cells_append_blank (hws.endsBlank (List.cons_ne_nil _ _)),
          columnsOf_append]
        exact Nat.le_add_right _ _
    have hneeded := width_trimEnd_le word
    rw [List.flatten_cons, hwidth] at hfits
    rw [setWords, if_pos (by omega), ← hwidth, ih hws.tail
      (fun hne => (hws.endsBlank hne).append hword) (by rwa [List.append_assoc, hwidth]),
      List.append_assoc, List.flatten_cons]

/-! ### A word among the words -/

theorem exists_runs_cons (c : Char) (rest : List Char) :
    ∃ run more, runs (c :: rest) = (c :: run) :: more := by
  rw [runs]
  split
  · exact ⟨_, _, rfl⟩
  · split <;> exact ⟨_, _, rfl⟩

/-- The runs of a text are cut between a blank and what is none. -/
theorem runs_append {s : List Char} (hends : EndsBlank s) {c : Char} (hc : isBlank c = false)
    (rest : List Char) : runs (s ++ c :: rest) = runs s ++ runs (c :: rest) := by
  induction s with
  | nil => rfl
  | cons d s ih =>
    cases s with
    | nil =>
      obtain ⟨run, more, hruns⟩ := exists_runs_cons c rest
      rw [List.singleton_append, runs, hruns]
      simp [hends d rfl, hc, runs]
    | cons e s =>
      obtain ⟨run, more, hruns⟩ := exists_runs_cons e s
      have hrest := ih fun f hf => hends f (by simpa using hf)
      generalize runs (c :: rest) = others at hrest ⊢
      rw [hruns] at hrest
      rw [List.cons_append, runs, hrest, runs, hruns]
      dsimp only [List.cons_append]
      split <;> rfl

/-- A run that begins with a blank has blanks only. -/
theorem runs_blank {c : Char} (hc : isBlank c = true) (rest : List Char) :
    ∃ run more, runs (c :: rest) = run :: more ∧ ∀ d ∈ run, isBlank d = true := by
  induction rest generalizing c with
  | nil => exact ⟨[c], [], rfl, by simpa using hc⟩
  | cons d rest ih =>
    obtain ⟨run, more, hruns⟩ := exists_runs_cons d rest
    rw [runs, hruns]
    cases hd : isBlank d with
    | false => exact ⟨[c], (d :: run) :: more, by simp [hc, hd], by simpa using hc⟩
    | true =>
      obtain ⟨run', more', hruns', hblank⟩ := ih hd
      obtain ⟨rfl, rfl⟩ := List.cons.inj (hruns.symm.trans hruns')
      exact ⟨c :: d :: run, more, by simp [hd], List.forall_mem_cons.mpr ⟨hc, hblank⟩⟩

/-- A text without blanks is a run, with the blanks that follow. -/
theorem runs_word {u s : List Char} (hne : u ≠ []) (hu : ∀ c ∈ u, isBlank c = false)
    (hs : ∀ c, s.head? = some c → isBlank c = true) :
    ∃ blanks more, runs (u ++ s) = (u ++ blanks) :: more ∧ ∀ c ∈ blanks, isBlank c = true := by
  induction u with
  | nil => exact absurd rfl hne
  | cons c u ih =>
    obtain ⟨hc, hu⟩ := List.forall_mem_cons.mp hu
    cases u with
    | nil =>
      cases s with
      | nil => exact ⟨[], [], rfl, nofun⟩
      | cons d s =>
        obtain ⟨run, more, hruns, hblank⟩ := runs_blank (hs d rfl) s
        exact ⟨run, more, by rw [List.singleton_append, runs, hruns]; simp [hc], hblank⟩
    | cons d u =>
      obtain ⟨blanks, more, hruns, hblank⟩ := ih (List.cons_ne_nil _ _) hu
      exact ⟨blanks, more, by rw [List.cons_append, runs, hruns]; simp [hc], hblank⟩

/-- A text begins with what is no blank. -/
def BeginsSolid (text : List Char) : Prop := ∃ c rest, text = c :: rest ∧ isBlank c = false

theorem words_eq_runs {text : List Char} (h : BeginsSolid text) : words text = runs text := by
  obtain ⟨c, rest, rfl, hc⟩ := h
  obtain ⟨run, more, hruns⟩ := exists_runs_cons c rest
  rw [words, hruns]
  simp [hc]

/-- A part of a text stands alone if it has no blanks in it, and blanks or nothing around it. -/
structure StandsAlone (u text : List Char) : Prop where
  solid : ∀ c ∈ u, isBlank c = false
  within : ∃ before behind, text = before ++ u ++ behind ∧ EndsBlank before ∧
    ∀ c, behind.head? = some c → isBlank c = true

theorem mem_words {u text : List Char} (h : StandsAlone u text) (hne : u ≠ []) (htext : BeginsSolid text) :
    ∃ w ∈ words text, trimEnd w = u := by
  obtain ⟨before, behind, rfl, hbefore, hbehind⟩ := h.within
  obtain ⟨blanks, more, hruns, hblanks⟩ := runs_word hne h.solid hbehind
  obtain ⟨c, rest, rfl⟩ := List.exists_cons_of_ne_nil hne
  refine ⟨c :: rest ++ blanks, ?_, ?_⟩
  · rw [words_eq_runs htext, List.append_assoc, List.cons_append,
      runs_append hbefore (h.solid c List.mem_cons_self), ← List.cons_append, hruns]
    exact List.mem_append_right _ List.mem_cons_self
  · rw [trimEnd_append_blank hblanks]
    refine List.rdropWhile_eq_self_iff.mpr fun hl => ?_
    rw [h.solid _ (List.getLast_mem hl)]
    exact Bool.false_ne_true

end Wrap

/-- A text that is printed as it stands if it fits: it has no tabs, no line feeds and no other controls
of the cursor. -/
def Level (text : List Char) : Prop := ∀ c ∈ text, c ≠ '\t' ∧ c ≠ '\n' ∧ Wrap.isDropped c = false

instance (text : List Char) : Decidable (Level text) :=
  List.decidableBAll (fun c => c ≠ '\t' ∧ c ≠ '\n' ∧ Wrap.isDropped c = false) text

theorem expandTabs_of_level {column : Nat} {cs : List (Char × Nat)} (h : ∀ c ∈ plain cs, c ≠ '\t') :
    Wrap.expandTabs column cs = plain cs := by
  induction cs generalizing column with
  | nil => rfl
  | cons e cs ih =>
    obtain ⟨hc, hcs⟩ := List.forall_mem_cons.mp h
    rw [Wrap.expandTabs, if_neg hc, ih hcs]
    rfl

theorem lineParts_of_level {text : List Char} (h : ∀ c ∈ text, c ≠ '\n') :
    Wrap.lineParts text = [text] := by
  induction text with
  | nil => rfl
  | cons c rest ih =>
    obtain ⟨hc, hrest⟩ := List.forall_mem_cons.mp h
    rw [Wrap.lineParts.eq_3 _ _ hc, ih hrest]

theorem wrap_level {columns : Nat} {text : List Char} (h : Level text) :
    wrap columns .fold text = (Wrap.setLines columns text).map
      fun l => Wrap.truncate columns .fold (Wrap.trimExcess columns l) := by
  have hkept : text.filter (!Wrap.isDropped ·) = text :=
    List.filter_eq_self.mpr fun c hc => by simp [(h c hc).2.2]
  have htabs : Wrap.expandTabs 0 (cells text) = text := by
    rw [expandTabs_of_level fun c hc => (h c (plain_cells text ▸ hc)).1, plain_cells]
  rw [wrap, hkept, lineParts_of_level fun c hc => (h c hc).2.1, List.flatMap_singleton,
    Wrap.wrapLine_eq, htabs]

/-- A word that stands alone is printed as it stands, if it fits. -/
theorem wrap_keeps_word {columns : Nat} (hcolumns : 2 ≤ columns) {u text : List Char} (h : Level text)
    (htext : Wrap.BeginsSolid text) (hu : Wrap.StandsAlone u text) (hne : u ≠ [])
    (hfits : width u ≤ columns) : ∃ line ∈ wrap columns .fold text, u <:+: line := by
  obtain ⟨w, hw, rfl⟩ := Wrap.mem_words hu hne htext
  obtain ⟨l, hl, hin⟩ : ∃ l ∈ Wrap.setLines columns text, w <:+: l := by
    rw [Wrap.setLines, if_neg (by simpa using List.ne_nil_of_mem hw)]
    exact (Wrap.setWords_keeps columns [] 0 (Wrap.words text)).2 w hw hfits
  obtain ⟨blanks, -, hprinted⟩ := Wrap.exists_truncate ((Wrap.setLines_spec hcolumns text).2 l hl)
  rw [wrap_level h]
  refine ⟨_, List.mem_map_of_mem hl, ?_⟩
  rw [hprinted]
  exact (Wrap.infix_trimEnd hin).trans (List.prefix_append _ _).isInfix

/-- A text that fits is one line. -/
theorem wrap_eq_singleton {columns : Nat} {text : List Char} (h : Level text)
    (hfits : width text ≤ columns) (hlength : text.length ≤ columns) :
    wrap columns .fold text = [text] := by
  have hlines : Wrap.setLines columns text = [text] := by
    unfold Wrap.setLines
    split
    · rfl
    · rename_i hsome
      rcases Wrap.words_flatten text with hflatten | ⟨hnone, -⟩
      · have hall : width ([] ++ (Wrap.words text).flatten) ≤ columns := by
          rwa [List.nil_append, hflatten]
        have hone := Wrap.setWords_one (Wrap.words_spaced text) (fun _ => endsBlank_nil) hall
        rwa [List.nil_append, hflatten] at hone
      · exact absurd (List.isEmpty_iff.mpr hnone) hsome
  rw [wrap_level h, hlines, List.map_singleton, Wrap.trimExcess, Nat.sub_eq_zero_of_le hlength,
    Nat.min_zero, Nat.sub_zero, List.take_length, Wrap.truncate, if_pos hfits]

end LintConfig.Console
