import LintConfig.Proofs.Lossless
import LintConfig.Proofs.Rerun
import LintConfig.Proofs.Wrapping
import LintConfig.Proofs.Writes

/-! # A dry run shows what a real run writes

A dry run prints the text that a real run saves, as a listing: every line made to take the columns of
the terminal. A line that is narrower is followed by spaces; from a wider one characters are left out,
and a space takes one column, so that spaces cannot make up for them. Hence the lines that are printed
are those of the text, up to spaces at their ends, exactly if none of them is too wide. The text has
printable characters of ASCII only, whatever the names in it are made of, so its lines are as wide as
they are long: what matters about a name is how long the line is that it is written into.

What follows the last line feed of a text is counted as a line: an empty one, which is printed too. -/
namespace LintConfig.Console
open Wrap (lineParts)
open Yaml (Printable)

/-- The lines that were printed, each of them ended. -/
def printedLines (shown : String) : List (List Char) := (lineParts shown.toList).dropLast

/-- What was printed are the lines of a text, all of them and in their order, but for spaces that fill
them up. -/
def ShowsLines (text shown : String) : Prop :=
  List.Forall₂ (fun line printed => ∃ n, printed = line ++ spaces n)
    (lineParts text.toList) (printedLines shown)

/-! ### Lines -/

section Lines
variable {line text : List Char}

theorem newline_not_mem_lineParts (text : List Char) : ∀ part ∈ lineParts text, '\n' ∉ part := by
  fun_induction lineParts text with
  | case1 => decide
  | case2 rest ih => exact List.forall_mem_cons.mpr ⟨List.not_mem_nil, ih⟩
  | case3 c rest hc hnil ih =>
    refine List.forall_mem_singleton.mpr ?_
    rw [List.mem_singleton]
    exact fun h => hc h.symm
  | case4 c rest hc part more hparts ih =>
    obtain ⟨hpart, hmore⟩ := List.forall_mem_cons.mp (hparts ▸ ih)
    refine List.forall_mem_cons.mpr ⟨?_, hmore⟩
    rw [List.mem_cons]
    exact not_or.mpr ⟨fun h => hc h.symm, hpart⟩

theorem subset_of_mem_lineParts (text : List Char) : ∀ part ∈ lineParts text, part ⊆ text := by
  fun_induction lineParts text with
  | case1 => exact List.forall_mem_singleton.mpr (List.Subset.refl _)
  | case2 rest ih =>
    refine List.forall_mem_cons.mpr ⟨List.nil_subset _, fun part hpart => ?_⟩
    exact List.Subset.trans (ih part hpart) (List.subset_cons_self _ _)
  | case3 c rest hc hnil ih =>
    exact List.forall_mem_singleton.mpr (List.cons_subset_cons _ (List.nil_subset _))
  | case4 c rest hc part more hparts ih =>
    obtain ⟨hpart, hmore⟩ := List.forall_mem_cons.mp (hparts ▸ ih)
    refine List.forall_mem_cons.mpr ⟨List.cons_subset_cons c hpart, fun p hp => ?_⟩
    exact List.Subset.trans (hmore p hp) (List.subset_cons_self _ _)

theorem lineParts_append (h : '\n' ∉ line) (rest : List Char) :
    lineParts (line ++ '\n' :: rest) = line :: lineParts rest := by
  induction line with
  | nil => rfl
  | cons c line ih =>
    obtain ⟨hc, hline⟩ := not_or.mp (mt List.mem_cons.mpr h)
    rw [List.cons_append, Wrap.lineParts.eq_3 _ _ (Ne.symm hc), ih hline]

/-- Lines that are ended are found again. -/
theorem printedLines_ended {lines : List (List Char)} (h : ∀ line ∈ lines, '\n' ∉ line) :
    printedLines (ended lines) = lines := by
  have hparts : lineParts (lines.flatMap fun line => line ++ ['\n']) = lines ++ [[]] := by
    induction lines with
    | nil => rfl
    | cons line lines ih =>
      obtain ⟨hline, hlines⟩ := List.forall_mem_cons.mp h
      rw [List.flatMap_cons, List.append_assoc, List.singleton_append, lineParts_append hline,
        ih hlines]
      rfl
  rw [printedLines, ended, String.toList_ofList, hparts, List.dropLast_concat]

/-! ### Fitting -/

/-- A space takes one column at most. -/
theorem space_le_one {text : List Char} : ∀ e ∈ cells text, e.1 = ' ' → e.2 ≤ 1 := by
  have hbefore : ∀ c rest, c = ' ' → widthBefore c rest ≤ 1 := by
    rintro _ rest rfl
    rw [widthBefore, blank_not_picture (by decide), Bool.and_false, if_neg Bool.false_ne_true]
    decide
  fun_induction cells text with
  | case1 => exact List.forall_mem_nil _
  | case2 c => exact List.forall_mem_singleton.mpr fun hc => by subst hc; decide
  | case3 d rest ih =>
    exact List.forall_mem_cons.mpr ⟨fun _ => Nat.zero_le 1,
      List.forall_mem_cons.mpr ⟨fun _ => Nat.zero_le 1, ih⟩⟩
  | case4 c d rest hjoiner ih => exact List.forall_mem_cons.mpr ⟨hbefore c _, ih⟩

theorem columnsOf_le_of_fitCells {cs : List (Char × Nat)} (hspace : ∀ e ∈ cs, e.1 = ' ' → e.2 ≤ 1)
    {n k : Nat} (h : fitCells n cs = plain cs ++ spaces k) : columnsOf cs ≤ n := by
  induction cs generalizing n with
  | nil => exact Nat.zero_le n
  | cons e cs ih =>
    obtain ⟨c, w⟩ := e
    obtain ⟨hc, hcs⟩ := List.forall_mem_cons.mp hspace
    have hplain : plain ((c, w) :: cs) = c :: plain cs := rfl
    have hcolumns : columnsOf ((c, w) :: cs) = w + columnsOf cs := by simp [columnsOf]
    rw [fitCells, hplain, List.cons_append] at h
    rw [hcolumns]
    split at h
    · have hrest := ih hcs (List.cons.inj h).2
      omega
    · -- the character was left out, and the space in its place is one that would have fitted
      rename_i hwide
      cases n with
      | zero => cases h
      | succ n =>
        have hone : w ≤ 1 := hc (List.cons.inj h).1.symm
        omega

/-- A line that is made to fit is the line with spaces behind it exactly if it is not too wide. -/
theorem fit_eq_append_iff {n : Nat} : (∃ k, fit n line = line ++ spaces k) ↔ width line ≤ n := by
  constructor
  · rintro ⟨k, hk⟩
    rw [fit] at hk
    exact columnsOf_le_of_fitCells space_le_one (hk.trans (by rw [plain_cells]))
  · intro h
    refine ⟨n - width line, ?_⟩
    have happend := Wrap.fitCells_append [] (show columnsOf (cells line) ≤ n from h)
    rwa [List.append_nil, plain_cells] at happend

theorem mem_fitCells {n : Nat} {cs : List (Char × Nat)} {c : Char} (h : c ∈ fitCells n cs) :
    c ∈ plain cs ∨ c = ' ' := by
  induction cs generalizing n with
  | nil => exact .inr (List.eq_of_mem_replicate h)
  | cons e cs ih =>
    rw [fitCells] at h
    split at h
    · rcases List.mem_cons.mp h with rfl | h
      · exact .inl List.mem_cons_self
      · exact (ih h).imp_left (List.mem_cons_of_mem e.1)
    · exact .inr (List.eq_of_mem_replicate h)

theorem newline_not_mem_fit {n : Nat} (h : '\n' ∉ line) : '\n' ∉ fit n line := by
  intro hmem
  rcases mem_fitCells hmem with hline | hspace
  · exact h (plain_cells line ▸ hline)
  · exact absurd hspace (by decide)

/-- A listing shows the lines of its text exactly if none of them is too wide. -/
theorem listing_showsLines_iff (text : String) :
    ShowsLines text (listing text) ↔ ∀ line ∈ lineParts text.toList, width line ≤ columns := by
  have hended : ∀ line ∈ (lineParts text.toList).map (fit columns), '\n' ∉ line := by
    intro line hline
    obtain ⟨part, hpart, rfl⟩ := List.mem_map.mp hline
    exact newline_not_mem_fit (newline_not_mem_lineParts _ part hpart)
  rw [ShowsLines, listing, printedLines_ended hended, List.forall₂_map_right_iff,
    List.forall₂_same]
  exact forall₂_congr fun _ _ => fit_eq_append_iff

theorem width_of_printable (h : ∀ c ∈ line, Printable c) : width line = line.length := by
  have hone : ∀ c, Printable c → charWidth c = 1 := by
    intro c hc
    have hshown : (' ' ≤ c && c ≤ '~') = true := by
      simpa [Char.le_def, UInt32.le_iff_toNat_le] using And.intro hc.lower hc.upper
    rw [charWidth, if_pos hshown]
  rw [width]
  fun_induction cells line with
  | case1 => rfl
  | case2 c => exact hone c (h c List.mem_cons_self)
  | case3 d rest ih => exact absurd (h joiner List.mem_cons_self) (by decide)
  | case4 c d rest hjoiner ih =>
    obtain ⟨hc, hrest⟩ := List.forall_mem_cons.mp h
    have hselector : (d :: rest).head? ≠ some pictureSelector := fun he =>
      absurd (Option.some.inj he ▸ hrest d List.mem_cons_self) (by decide)
    rw [List.map_cons, List.sum_cons, ih hrest, widthBefore_of_ne hselector, hone c hc, Nat.add_comm]
    rfl

end Lines

end LintConfig.Console

namespace LintConfig.Command
open Answers (Record)
open Console (ShowsLines columns)
open Console.Wrap (lineParts)
open Files (Path Tree)

variable {f : Fragment} {format : Format}

/-- Wherever a real run writes a configuration in a format, a dry run in its place shows the lines of
what the real run writes, and leaves all files as they are. -/
def Previewed (f : Fragment) (format : Format) : Prop :=
  ∀ (files : Tree) (folder : Path) (r : Record) (told : String) (p : Path) (after : Tree),
    Format.resolve r.format = .ok format →
    persist files false folder r f = .ok (told, some p, after) →
    ∃ shown, persist files true folder r f = .ok (shown, none, files) ∧
      after.read p = .ok (Text.Utf8.encode (f.text format)) ∧ ShowsLines (f.text format) shown

theorem persist_shown {files : Tree} {folder : Path} {r : Record}
    (hformat : Format.resolve r.format = .ok format) (hlong : f.document.isLong = false) :
    persist files true folder r f = .ok (Console.listing (f.text format), none, files) := by
  have hwrite : f.write format = .ok (f.text format) := Output.write_eq_ok.mpr ⟨hlong, rfl⟩
  simp only [persist, if_true, hformat, hwrite]

/-- Answers that ask for a format. -/
def recordIn (format : Format) : Record where
  source := .text "prompt"
  format := .text format.name

theorem resolve_recordIn (format : Format) : Format.resolve (recordIn format).format = .ok format := by
  cases format <;> rfl

/-- A configuration that has a text can be written where there are no files yet. -/
theorem persist_recordIn (hlong : f.document.isLong = false) (format : Format) :
    ∃ p after, persist .empty false {} (recordIn format) f = .ok ("", some p, after) := by
  obtain ⟨⟨p, t⟩, hsave, -⟩ := Failing.exists_ok_of_any (x := Output.save .empty {} format {})
    (f := fun _ => true) (by cases format <;> decide +kernel)
  obtain ⟨after, hafter⟩ := Output.exists_save_of_save hsave hlong
  exact ⟨p, after, persist_eq_ok.mpr ⟨format, p, after, resolve_recordIn format, hafter, rfl⟩⟩

/-- Every line of the text is printable. -/
theorem width_line (f : Fragment) (format : Format) :
    ∀ line ∈ lineParts (f.text format).toList, Console.width line = line.length := by
  intro line hline
  refine Console.width_of_printable fun c hc => ?_
  have hinked := Fragment.inked_serialize format f.document c (Console.subset_of_mem_lineParts _ line hline hc)
  rcases hinked with rfl | hprintable
  · exact absurd hc (Console.newline_not_mem_lineParts _ line hline)
  · exact hprintable

theorem showsLines_iff (f : Fragment) (format : Format) :
    ShowsLines (f.text format) (Console.listing (f.text format)) ↔
      ∀ line ∈ lineParts (f.text format).toList, line.length ≤ columns := by
  rw [Console.listing_showsLines_iff]
  exact forall₂_congr fun line hline => by rw [width_line f format line hline]

/-- A line that is too long is not previewed. -/
theorem length_le_of_previewed (h : Previewed f format) (hlong : f.document.isLong = false) :
    ∀ line ∈ lineParts (f.text format).toList, line.length ≤ columns := by
  have hformat := resolve_recordIn format
  obtain ⟨p, after, hreal⟩ := persist_recordIn hlong format
  obtain ⟨shown, hdry, -, hshows⟩ := h .empty {} (recordIn format) "" p after hformat hreal
  rw [persist_shown hformat hlong] at hdry
  obtain ⟨rfl, -⟩ := Prod.mk.inj (Except.ok.inj hdry)
  exact (showsLines_iff f format).mp hshows

/-- A dry run shows what a real run writes exactly if no line of it is longer than the terminal is wide,
whatever characters the names are made of. Where an integer has too many digits nothing is written, and
nothing can be shown. -/
theorem previewed_iff (f : Fragment) (format : Format) :
    Previewed f format ↔ f.document.isLong = true ∨
      ∀ line ∈ lineParts (f.text format).toList, line.length ≤ columns := by
  constructor
  · intro h
    cases hlong : f.document.isLong with
    | true => exact .inl rfl
    | false => exact .inr (length_le_of_previewed h hlong)
  · intro h files folder r told p after hformat hreal
    obtain ⟨format', p', after', hformat', hsave, hsaved⟩ := persist_eq_ok.mp hreal
    obtain rfl : format = format' := Except.ok.inj (hformat.symm.trans hformat')
    obtain ⟨-, hpath, rfl⟩ : told = "" ∧ some p = some p' ∧ after = after' := by simpa using hsaved
    obtain rfl := Option.some.inj hpath
    obtain ⟨rfl, q, hwritten⟩ := Output.save_spec hsave
    have hlong : f.document.isLong = false := (Output.write_eq_ok.mp hwritten.written).1
    have hlines := h.resolve_left (by rw [hlong]; exact Bool.false_ne_true)
    refine ⟨_, persist_shown hformat hlong, ?_, (showsLines_iff f format).mpr hlines⟩
    exact Tree.read_eq_ok.mpr ⟨q, hwritten.located⟩

/-- A configuration with an environment whose name has 100 characters. -/
def sprawling : Fragment where
  env := [(String.ofList (List.replicate 100 'x'), true)]

theorem not_previewed_sprawling : ¬ Previewed sprawling .json := by
  intro h
  have hlines := length_le_of_previewed h (by decide)
  have hlong : ¬ ∀ line ∈ lineParts (sprawling.text .json).toList, line.length ≤ columns := by
    decide +kernel
  exact hlong hlines

end LintConfig.Command
