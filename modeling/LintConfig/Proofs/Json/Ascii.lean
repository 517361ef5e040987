import LintConfig.Proofs.Ascii
import LintConfig.Proofs.Json.RoundTrip

/-! # JSON text is in ASCII

Marks, digits and spaces are, and a string holds a character beyond the tilde only by an escape. What
JSON has no form of its own for is written as a string, so this holds of every value. -/
namespace LintConfig.Json
open Yaml (Printable)

/-- Are all characters in the first half of a byte? -/
def isAscii (cs : List Char) : Bool := cs.all fun c => c.toNat < 128

theorem isAscii_of_inked {cs : List Char} (h : Inked cs) : isAscii cs = true := by
  rw [isAscii, List.all_eq_true]
  intro c hc
  rcases h c hc with rfl | hprintable
  · decide
  · exact decide_eq_true (Nat.lt_of_le_of_lt hprintable.upper (by decide))

/-! ### Strings -/

theorem inked_hexDigits (n : Nat) : Inked (Text.hexDigits 4 n) := by
  have hdigit : ∀ d, Printable (Text.hexDigit (d % 16)) := by
    intro d
    have hd := Nat.mod_lt d (Nat.zero_lt_succ 15)
    generalize d % 16 = k at hd
    interval_cases k <;> decide
  simp [hexDigits_four, hdigit]

theorem inked_unitEscape (n : Nat) : Inked (unitEscape n) :=
  Inked.cons_iff.mpr ⟨by decide, Inked.cons_iff.mpr ⟨by decide, inked_hexDigits n⟩⟩

theorem inked_codeEscape (n : Nat) : Inked (codeEscape n) := by
  unfold codeEscape
  split
  · exact inked_unitEscape n
  · exact Inked.append_iff.mpr ⟨inked_unitEscape _, inked_unitEscape _⟩

theorem inked_stringChar (c : Char) : Inked (stringChar c) := by
  unfold stringChar
  iterate 7 refine iteInduction (fun _ => by decide) fun _ => ?_
  split
  · rename_i hshown
    simp [Char.le_def, UInt32.le_iff_toNat_le] at hshown
    exact Inked.of_printable fun d hd => List.mem_singleton.mp hd ▸ ⟨hshown.1, hshown.2⟩
  · exact inked_codeEscape _

/-- What stands between quotes. -/
theorem inked_quoted {written : List Char} (h : Inked written) :
    Inked (String.ofList ('"' :: written ++ ['"'])).toList := by
  rw [String.toList_ofList, Inked.append_iff, Inked.cons_iff]
  exact ⟨⟨by decide, h⟩, by decide⟩

theorem inked_string (s : String) : Inked (string s).toList :=
  inked_quoted (Inked.flatMap fun c _ => inked_stringChar c)

theorem inked_codeString (codes : List Nat) : Inked (codeString codes).toList := by
  refine inked_quoted (Inked.flatMap fun n _ => ?_)
  split
  · exact inked_unitEscape n
  · exact inked_stringChar _

/-! ### Values -/

theorem inked_double (x : Number.Double) : Inked (double x).toList := by
  unfold double
  split
  · decide
  · split <;> decide
  · exact Inked.double x

theorem inked_scalar (v : Value) : Inked (scalar v).toList := by
  unfold scalar
  split
  · decide
  · split <;> decide
  · exact Inked.integer _
  · exact inked_double _
  · exact inked_codeString _
  · exact inked_string _

theorem inked_key (k : Value) : Inked (key k).toList := by
  unfold key
  split
  · exact inked_string _
  · exact inked_codeString _
  all_goals exact inked_string _

theorem inked_newline (level : Nat) : Inked (newline level).toList := by
  rw [newline, String.toList_ofList, Inked.cons_iff]
  exact ⟨by decide, .replicate _ (by decide)⟩

theorem inked_joined {separator : String} (hseparator : Inked separator.toList) :
    {items : List String} → (∀ item ∈ items, Inked item.toList) →
      Inked (joined separator items).toList
  | [], _ => Inked.nil
  | [_], h => h _ List.mem_cons_self
  | a :: b :: rest, h => by
    have hrest := inked_joined hseparator fun item hitem => h item (List.mem_cons_of_mem a hitem)
    rw [joined, String.toList_append, String.toList_append, Inked.append_iff, Inked.append_iff]
    · exact ⟨⟨h a List.mem_cons_self, hseparator⟩, hrest⟩
    · exact List.cons_ne_nil b rest

theorem inked_bracketed {level : Nat} {opening closing : String} {items : List String}
    (hopening : Inked opening.toList) (hclosing : Inked closing.toList)
    (h : ∀ item ∈ items, Inked item.toList) :
    Inked (bracketed level opening closing items).toList := by
  have hseparator : Inked ("," ++ newline (level + 1)).toList := by
    rw [String.toList_append, Inked.append_iff]
    exact ⟨by decide, inked_newline _⟩
  unfold bracketed
  split
  · rw [String.toList_append, Inked.append_iff]
    exact ⟨hopening, hclosing⟩
  · simp only [String.toList_append, Inked.append_iff]
    exact ⟨⟨⟨⟨hopening, inked_newline _⟩, inked_joined hseparator h⟩, inked_newline _⟩, hclosing⟩

mutual

/-- Every value is written in ASCII, at every level. -/
theorem inked_valueAt (level : Nat) : (v : Value) → Inked (valueAt level v).toList
  | .list items | .tuple items | .set items => by
    rw [valueAt]
    exact inked_bracketed (by decide) (by decide) (inked_itemsAt (level + 1) items)
  | .map entries => by
    rw [valueAt]
    exact inked_bracketed (by decide) (by decide) (inked_entriesAt (level + 1) entries)
  | .null | .bool _ | .integer _ | .double _ | .text _ | .halves _ | .bytes _ | .date _ | .moment _
  | .knot _ _ | .again _ => by
    rw [valueAt]
    · exact inked_scalar _
    all_goals nofun

theorem inked_itemsAt (level : Nat) :
    (items : List Value) → ∀ item ∈ itemsAt level items, Inked item.toList
  | [] => nofun
  | v :: rest => List.forall_mem_cons.mpr ⟨inked_valueAt level v, inked_itemsAt level rest⟩

theorem inked_entriesAt (level : Nat) :
    (entries : List (Value × Value)) → ∀ entry ∈ entriesAt level entries, Inked entry.toList
  | [] => nofun
  | (k, v) :: rest => by
    refine List.forall_mem_cons.mpr ⟨?_, inked_entriesAt level rest⟩
    simp only [String.toList_append, Inked.append_iff]
    exact ⟨⟨inked_key k, by decide⟩, inked_valueAt level v⟩

end

theorem inked_write (v : Value) : Inked (write v).toList := inked_valueAt 0 v

end LintConfig.Json
