import LintConfig.Number.Decimal
import LintConfig.Proofs.Json.Scalars
import LintConfig.Proofs.Yaml.Cursor

/-! # Texts that can be seen

Configurations are written with printable characters of ASCII and line feeds, and with no others: each
of their characters takes one column of a terminal, and every reader accepts it. Here are such texts,
and the numerals, which all formats have in common. -/
namespace LintConfig
open Yaml (Printable)

/-- A text of printable characters and line feeds. -/
def Inked (text : List Char) : Prop := ∀ c ∈ text, c = '\n' ∨ Printable c

instance (text : List Char) : Decidable (Inked text) := List.decidableBAll _ text

namespace Inked
variable {text more : List Char} {c : Char}

@[simp] theorem nil : Inked [] := nofun

@[simp] theorem append_iff : Inked (text ++ more) ↔ Inked text ∧ Inked more :=
  List.forall_mem_append

@[simp] theorem cons_iff : Inked (c :: text) ↔ (c = '\n' ∨ Printable c) ∧ Inked text :=
  List.forall_mem_cons

theorem of_printable (h : ∀ c ∈ text, Printable c) : Inked text := fun c hc => .inr (h c hc)

/-- Part of a text. -/
theorem subset (h : Inked text) (hmore : more ⊆ text) : Inked more := fun c hc => h c (hmore hc)

theorem replicate (n : Nat) (hc : Printable c) : Inked (List.replicate n c) :=
  of_printable fun _ hd => List.eq_of_mem_replicate hd ▸ hc

theorem flatMap {α : Type} {f : α → List Char} {l : List α} (h : ∀ a ∈ l, Inked (f a)) :
    Inked (l.flatMap f) := by
  intro c hc
  obtain ⟨a, ha, hc⟩ := List.mem_flatMap.mp hc
  exact h a ha c hc

/-! ### Numerals -/

theorem toDigits (n : Nat) : Inked (Nat.toDigits 10 n) := by
  refine of_printable fun c hc => ?_
  have hdigit := Json.isDigit_of_mem_toDigits hc
  simp [Json.isDigit, Char.le_def, UInt32.le_iff_toNat_le] at hdigit
  exact ⟨hdigit.1.trans' (by decide), hdigit.2.trans (by decide)⟩

theorem natural (n : Nat) : Inked (toString n).toList := by
  rw [Nat.toString_eq_ofList_toDigits, String.toList_ofList]
  exact toDigits n

theorem integer (n : Int) : Inked (toString n).toList := by
  cases n with
  | ofNat n =>
    rw [Json.toList_natural]
    exact toDigits n
  | negSucc n =>
    rw [Json.toList_negative]
    exact cons_iff.mpr ⟨by decide, toDigits _⟩

section Doubles
open Number.Double (exponentText positional scientific significantDigits)

theorem significantDigits (m : Nat) (e : Int) : Inked (significantDigits m e).1 := by
  rw [Number.Double.significantDigits]
  dsimp only
  split
  · decide
  · refine (natural (Number.Double.shortest m e).1).subset fun c hc => ?_
    exact List.mem_reverse.mp (List.dropWhile_subset _ (List.mem_reverse.mp hc))

theorem exponentText (e : Int) : Inked (exponentText e).toList := by
  have hdigits := natural e.natAbs
  have hsign : Inked (if e < 0 then "-" else "+" : String).toList := by split <;> decide
  have hpadded : Inked (if (toString e.natAbs).length < 2 then "0" ++ toString e.natAbs
      else toString e.natAbs).toList := by
    split
    · rw [String.toList_append, append_iff]
      exact ⟨by decide, hdigits⟩
    · exact hdigits
  rw [Number.Double.exponentText, String.toList_append, String.toList_append, append_iff, append_iff]
  exact ⟨⟨by decide, hsign⟩, hpadded⟩

theorem positional {digits : List Char} (h : Inked digits) (point : Int) :
    Inked (positional digits point).toList := by
  have hzeros : ∀ n, Inked (List.replicate n '0') := fun n => replicate n (by decide)
  have hwhole : Inked (digits.take point.toNat) := h.subset (List.take_subset ..)
  have hfraction : Inked (if (digits.drop point.toNat).isEmpty then ['0'] else
      digits.drop point.toNat) := by
    split
    · decide
    · exact h.subset (List.drop_subset ..)
  unfold Number.Double.positional
  split
  · simp only [String.toList_ofList, cons_iff, append_iff]
    exact ⟨⟨by decide, by decide, hzeros _⟩, h⟩
  · simp only [String.toList_ofList, cons_iff, append_iff]
    exact ⟨⟨hwhole, hzeros _⟩, by decide, hfraction⟩

theorem scientific {digits : List Char} (h : Inked digits) (point : Int) :
    Inked (scientific digits point).toList := by
  unfold Number.Double.scientific
  rw [String.toList_append, String.toList_ofList, append_iff]
  refine ⟨?_, exponentText _⟩
  split
  · simp only [cons_iff] at h ⊢
    exact ⟨h.1, by decide, h.2⟩
  · exact h

/-- The text of a double. -/
theorem double (x : Number.Double) : Inked x.text.toList := by
  cases x with
  | nan => decide
  | infinite s => cases s <;> decide
  | finite s m e =>
    have hdigits := significantDigits m e
    rw [Number.Double.text]
    dsimp only
    split_ifs <;> simp [positional hdigits, scientific hdigits] <;> decide

end Doubles

end Inked

end LintConfig
