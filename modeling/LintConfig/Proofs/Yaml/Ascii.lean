import LintConfig.Proofs.Ascii
import LintConfig.Proofs.Yaml.Styles

/-! # YAML text is in ASCII

A scalar is written with characters that can be seen, and with line feeds where it is continued; what
cannot be seen is escaped. Around scalars there are marks, spaces and line feeds only. -/
namespace LintConfig.Yaml
open Scalar (Allows forall_double forall_quoted forall_styled printable_ofChar written)
open Writer (Piece)

/-! ### Scalars -/

theorem allows_inked (margin : Option Nat) : Allows (fun c => c = '\n' ∨ Printable c) margin where
  printable _ hc := .inr hc
  newline _ := .inl rfl

theorem printable_ofCode (n : Nat) : ∀ y ∈ written (Piece.ofCode n), Printable y := by
  unfold Piece.ofCode
  split
  · refine List.forall_mem_cons.mpr ⟨by decide, ?_⟩
    split_ifs <;> exact List.forall_mem_cons.mpr ⟨by decide, fun y => Scalar.printable_of_mem_upperHex⟩
  · exact printable_ofChar _

theorem inked_text (margin : Option Nat) (column : Nat) (s : List Char) :
    Inked (Writer.text margin column s) := by
  rw [Scalar.text_eq]
  exact forall_styled (allows_inked margin) (Scalar.fits_styleOf s) (fun _ => .inl rfl) column

theorem inked_halves (margin : Option Nat) (column : Nat) (codes : List Nat) :
    Inked (Writer.doubleQuoted margin column (codes.map .ofCode)) := by
  refine forall_quoted (allows_inked margin) (by decide)
    (forall_double (allows_inked margin) (fun piece hpiece => ?_) _)
  obtain ⟨n, -, rfl⟩ := List.mem_map.mp hpiece
  exact printable_ofCode n

theorem inked_double (x : Number.Double) : Inked (Writer.double x) := by
  unfold Writer.double
  split
  · decide
  · split <;> decide
  · have hnumeral := Inked.double x
    have hmantissa : Inked (x.text.toList.takeWhile (· != 'e')) :=
      hnumeral.subset (List.takeWhile_subset _)
    have hexponent : Inked (x.text.toList.dropWhile (· != 'e')) :=
      hnumeral.subset (List.dropWhile_subset _)
    dsimp only
    split
    · exact hnumeral
    · simp only [Inked.append_iff]
      exact ⟨⟨hmantissa, by decide⟩, hexponent⟩

theorem inked_scalar (margin : Option Nat) (column : Nat) (v : Value) :
    Inked (Writer.scalar margin column v) := by
  unfold Writer.scalar
  split
  · decide
  · split <;> decide
  · exact Inked.integer _
  · exact inked_double _
  · exact inked_text _ _ _
  · exact inked_halves _ _ _
  · exact inked_text _ _ _

/-! ### Lists and maps -/

theorem inked_newline (indent : Nat) : Inked (Writer.newline indent) :=
  Inked.cons_iff.mpr ⟨by decide, .replicate indent (by decide)⟩

/-- A line break stands between two items, and not behind the last one. -/
theorem inked_break (isLast : Bool) (indent : Nat) :
    Inked (if isLast then [] else Writer.newline indent) := by
  cases isLast
  · exact inked_newline indent
  · exact Inked.nil

mutual

/-- Every value is written in ASCII, wherever it begins. -/
theorem inked_node (indent : Nat) : (v : Value) → Inked (Writer.node indent v)
  | .list items | .tuple items | .set items => by
    rw [Writer.node]
    split
    · decide
    · exact inked_listItems indent items
  | .map entries => by
    rw [Writer.node]
    split
    · decide
    · exact inked_mapEntries indent entries
  | .null | .bool _ | .integer _ | .double _ | .text _ | .halves _ | .bytes _ | .date _ | .moment _
  | .knot _ _ | .again _ => by
    rw [Writer.node]
    · exact inked_scalar _ _ _
    all_goals nofun

theorem inked_member (indent column : Nat) : (v : Value) → Inked (Writer.member indent column v)
  | .list items | .tuple items | .set items => by
    rw [Writer.member]
    split
    · decide
    · exact Inked.append_iff.mpr ⟨inked_newline indent, inked_listItems indent items⟩
  | .map entries => by
    rw [Writer.member]
    split
    · decide
    · exact Inked.append_iff.mpr ⟨inked_newline _, inked_mapEntries _ entries⟩
  | .null | .bool _ | .integer _ | .double _ | .text _ | .halves _ | .bytes _ | .date _ | .moment _
  | .knot _ _ | .again _ => by
    rw [Writer.member]
    · exact Inked.cons_iff.mpr ⟨by decide, inked_scalar _ _ _⟩
    all_goals nofun

theorem inked_listItems (indent : Nat) : (items : List Value) → Inked (Writer.listItems indent items)
  | [] => Inked.nil
  | v :: rest => by
    rw [Writer.listItems]
    simp only [Inked.append_iff, Inked.cons_iff]
    exact ⟨⟨⟨by decide, by decide, inked_node _ v⟩, inked_break _ indent⟩, inked_listItems indent rest⟩

theorem inked_mapEntries (indent : Nat) :
    (entries : List (Value × Value)) → Inked (Writer.mapEntries indent entries)
  | [] => Inked.nil
  | (k, v) :: rest => by
    rw [Writer.mapEntries]
    simp only [Inked.append_iff]
    refine ⟨⟨?_, inked_break _ indent⟩, inked_mapEntries indent rest⟩
    split
    · simp only [Inked.append_iff, Inked.cons_iff]
      exact ⟨inked_scalar _ _ k, by decide, inked_member _ _ v⟩
    · simp only [Inked.append_iff, Inked.cons_iff]
      exact ⟨⟨⟨by decide, by decide, inked_scalar _ _ k⟩, inked_newline indent⟩, by decide, by decide,
        inked_node _ v⟩

end

theorem inked_document (v : Value) : Inked (Writer.document v) := by
  unfold Writer.document
  split
  · exact Inked.append_iff.mpr ⟨inked_node 0 _, by decide⟩
  · exact Inked.append_iff.mpr ⟨inked_node 0 _, by decide⟩
  · exact Inked.append_iff.mpr ⟨inked_node 0 _, by decide⟩
  · exact Inked.append_iff.mpr ⟨inked_node 0 _, by decide⟩
  · have hend : ∀ b : Bool, Inked (if b then "...\n".toList else []) := by decide
    exact Inked.append_iff.mpr ⟨inked_scalar _ _ _, Inked.cons_iff.mpr ⟨by decide, hend _⟩⟩

end LintConfig.Yaml
