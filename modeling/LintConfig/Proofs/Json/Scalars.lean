import LintConfig.Json.Reader
import LintConfig.Json.Writer
import Mathlib.Data.Nat.Digits.Lemmas
import Mathlib.Tactic.IntervalCases

/-! # Strings and numbers are read back

Every character of a string is written in a form of its own that the reader takes for the same code
point: itself, a short escape, or the escape of one or two units. The digits of an integer begin with a
zero only if there is no other, and end where the next mark stands. -/
namespace LintConfig.Json

/-! ### Units -/

theorem hexValue_hexDigit {n : Nat} (h : n < 16) : hexValue? (Text.hexDigit n) = some n := by
  interval_cases n <;> rfl

theorem hexDigits_four (n : Nat) : Text.hexDigits 4 n =
    [Text.hexDigit (n / 16 / 16 / 16 % 16), Text.hexDigit (n / 16 / 16 % 16),
      Text.hexDigit (n / 16 % 16), Text.hexDigit (n % 16)] := rfl

theorem unit_hexDigits {n : Nat} (h : n < 0x10000) (rest : List Char) :
    unit? (Text.hexDigits 4 n ++ rest) = some (n, rest) := by
  have hsum : ((n / 16 / 16 / 16 % 16 * 16 + n / 16 / 16 % 16) * 16 + n / 16 % 16) * 16 + n % 16 = n := by
    omega
  rw [hexDigits_four]
  simp only [List.cons_append, List.nil_append, unit?,
    hexValue_hexDigit (Nat.mod_lt _ (Nat.zero_lt_succ 15)), bind, Option.bind, pure, hsum]

/-- A unit that is no first half of a pair is a code point, whatever follows. -/
theorem unitCode_single {n : Nat} (h : n < 0x10000) (hhalf : Text.isHalf n = false)
    (rest : List Char) : unitCode? (Text.hexDigits 4 n ++ rest) = some (n, rest) := by
  have hpair : ∀ m, Text.isPair n m = false := by
    intro m
    simp only [Text.isHalf, Text.isPair, Bool.and_eq_false_iff, decide_eq_false_iff_not] at hhalf ⊢
    omega
  rw [unitCode?, unit_hexDigits h]
  simp only [bind, Option.bind, pure]
  split
  · split
    · rw [hpair]
      rfl
    · rfl
  · rfl

theorem isPair_iff {a b : Nat} :
    Text.isPair a b = true ↔ 0xD800 ≤ a ∧ a < 0xDC00 ∧ 0xDC00 ≤ b ∧ b < 0xE000 := by
  simp only [Text.isPair, Bool.and_eq_true, decide_eq_true_eq, and_assoc]

theorem paired_eq (a b : Nat) :
    Text.paired a b = 0x10000 + (a - 0xD800) * 0x400 + (b - 0xDC00) := rfl

/-- The units of a code point beyond the first 65536. -/
theorem halvesOf_spec {n : Nat} (h : 0x10000 ≤ n) (h' : n < 0x110000) :
    (Text.halvesOf n).1 < 0x10000 ∧ (Text.halvesOf n).2 < 0x10000 ∧
      Text.isPair (Text.halvesOf n).1 (Text.halvesOf n).2 = true ∧
      Text.paired (Text.halvesOf n).1 (Text.halvesOf n).2 = n := by
  obtain ⟨k, rfl⟩ := Nat.exists_eq_add_of_le h
  have hq : k / 0x400 < 0x400 := by omega
  have hr : k % 0x400 < 0x400 := Nat.mod_lt _ (by decide)
  have hsum : 0x10000 + k / 0x400 * 0x400 + k % 0x400 = 0x10000 + k := by
    rw [Nat.add_assoc, Nat.div_add_mod']
  rw [Text.halvesOf, Nat.add_sub_cancel_left]
  dsimp only
  generalize k / 0x400 = q at *
  generalize k % 0x400 = r at *
  refine ⟨by omega, by omega, isPair_iff.mpr (by omega), ?_⟩
  rw [paired_eq, Nat.add_sub_cancel_left, Nat.add_sub_cancel_left, hsum]

/-- The units of a pair are one code point. -/
theorem unitCode_pair {a b : Nat} (ha : a < 0x10000) (hb : b < 0x10000)
    (hpair : Text.isPair a b = true) (rest : List Char) :
    unitCode? (Text.hexDigits 4 a ++ '\\' :: 'u' :: (Text.hexDigits 4 b ++ rest)) =
      some (Text.paired a b, rest) := by
  rw [unitCode?, unit_hexDigits ha]
  simp only [bind, Option.bind, pure]
  rw [unit_hexDigits hb]
  simp only [hpair, if_true]

/-! ### Strings -/

theorem isHalf_toNat (c : Char) : Text.isHalf c.toNat = false := by
  have hvalid := c.valid
  simp only [Text.isHalf, Bool.and_eq_false_iff, decide_eq_false_iff_not]
  rcases hvalid with h | ⟨h, -⟩ <;> simp only [Char.toNat] <;> omega

theorem toNat_lt (c : Char) : c.toNat < 0x110000 := by
  have hvalid := c.valid
  simp only [Char.toNat]
  rcases hvalid with h | ⟨-, h⟩ <;> omega

/-- The escape of a character by number is read as one code point. -/
theorem unitCode_codeEscape (c : Char) (rest : List Char) :
    ∃ units, codeEscape c.toNat = '\\' :: 'u' :: units ∧
      unitCode? (units ++ rest) = some (c.toNat, rest) := by
  by_cases h : c.toNat < 0x10000
  · refine ⟨Text.hexDigits 4 c.toNat, ?_, unitCode_single h (isHalf_toNat c) rest⟩
    rw [codeEscape, if_pos h]
    rfl
  · obtain ⟨hhigh, hlow, hpair, hpaired⟩ := halvesOf_spec (Nat.le_of_not_lt h) (toNat_lt c)
    refine ⟨Text.hexDigits 4 (Text.halvesOf c.toNat).1 ++
      '\\' :: 'u' :: Text.hexDigits 4 (Text.halvesOf c.toNat).2, ?_, ?_⟩
    · rw [codeEscape, if_neg h]
      rfl
    · have hread := unitCode_pair hhigh hlow hpair rest
      rw [hpaired] at hread
      rw [List.append_assoc]
      exact hread

/-- A code point, and those that follow it. -/
def withCode (n : Nat) (more : List Nat × List Char) : List Nat × List Char := (n :: more.1, more.2)

section Reading
variable {fuel : Nat} {c : Char} {rest : List Char}

theorem stringCodes_escape {e : Char} (he : simpleEscape? e = some c) (hu : e ≠ 'u') :
    stringCodes? (fuel + 1) ('\\' :: e :: rest) =
      (stringCodes? fuel rest).map (withCode c.toNat) := by
  rw [stringCodes?]
  · rw [he]
    cases stringCodes? fuel rest <;> rfl
  · exact hu

theorem stringCodes_unit {units : List Char} {n : Nat}
    (hread : unitCode? (units ++ rest) = some (n, rest)) :
    stringCodes? (fuel + 1) ('\\' :: 'u' :: (units ++ rest)) =
      (stringCodes? fuel rest).map (withCode n) := by
  rw [stringCodes?, hread, Option.bind_eq_bind, Option.bind_some]
  dsimp only
  cases stringCodes? fuel rest <;> rfl

theorem stringCodes_plain (hquote : c ≠ '"') (hbackslash : c ≠ '\\') (hcontrol : ¬ c.toNat < 0x20) :
    stringCodes? (fuel + 1) (c :: rest) = (stringCodes? fuel rest).map (withCode c.toNat) := by
  rw [stringCodes?]
  · rw [if_neg hcontrol]
    cases stringCodes? fuel rest <;> rfl
  · exact hquote
  · exact fun _ h => absurd h hbackslash
  · exact fun _ _ h => absurd h hbackslash

/-- A character stands in a string as a short escape, as itself or as an escape by number. -/
theorem stringChar_cases (c : Char) :
    (∃ e, stringChar c = ['\\', e] ∧ simpleEscape? e = some c ∧ e ≠ 'u' ∧ e.toNat < 128) ∨
    (stringChar c = [c] ∧ ' ' ≤ c ∧ c ≤ '~' ∧ c ≠ '"' ∧ c ≠ '\\') ∨
    stringChar c = codeEscape c.toNat := by
  by_cases hshort : c ∈ ['"', '\\', '\n', '\r', '\t', '\x0c', '\x08']
  · simp only [List.mem_cons, List.not_mem_nil, or_false] at hshort
    refine .inl ?_
    rcases hshort with rfl | rfl | rfl | rfl | rfl | rfl | rfl
    · exact ⟨'"', rfl, rfl, by decide, by decide⟩
    · exact ⟨'\\', rfl, rfl, by decide, by decide⟩
    · exact ⟨'n', rfl, rfl, by decide, by decide⟩
    · exact ⟨'r', rfl, rfl, by decide, by decide⟩
    · exact ⟨'t', rfl, rfl, by decide, by decide⟩
    · exact ⟨'f', rfl, rfl, by decide, by decide⟩
    · exact ⟨'b', rfl, rfl, by decide, by decide⟩
  · simp only [List.mem_cons, List.not_mem_nil, or_false, not_or] at hshort
    obtain ⟨hquote, hbackslash, hline, hreturn, htab, hfeed, hback⟩ := hshort
    refine .inr ?_
    rw [stringChar, if_neg (mt beq_iff_eq.mp hquote), if_neg (mt beq_iff_eq.mp hbackslash),
      if_neg (mt beq_iff_eq.mp hline), if_neg (mt beq_iff_eq.mp hreturn),
      if_neg (mt beq_iff_eq.mp htab), if_neg (mt beq_iff_eq.mp hfeed), if_neg (mt beq_iff_eq.mp hback)]
    by_cases hplain : (decide (' ' ≤ c) && decide (c ≤ '~')) = true
    · rw [if_pos hplain]
      rw [Bool.and_eq_true, decide_eq_true_eq, decide_eq_true_eq] at hplain
      exact .inl ⟨rfl, hplain.1, hplain.2, hquote, hbackslash⟩
    · rw [if_neg hplain]
      exact .inr rfl

/-- A character as it stands in a string is read as its code point. -/
theorem stringCodes_char (fuel : Nat) (c : Char) (rest : List Char) :
    stringCodes? (fuel + 1) (stringChar c ++ rest) =
      (stringCodes? fuel rest).map (withCode c.toNat) := by
  obtain ⟨e, hwritten, hread, hu, -⟩ | ⟨hwritten, hspace, -, hquote, hbackslash⟩ | hwritten :=
    stringChar_cases c
  · rw [hwritten]
    exact stringCodes_escape hread hu
  · rw [hwritten]
    exact stringCodes_plain hquote hbackslash (Nat.not_lt_of_le (Char.le_def.mp hspace))
  · obtain ⟨units, hunits, hread⟩ := unitCode_codeEscape c rest
    rw [hwritten, hunits, List.cons_append, List.cons_append]
    exact stringCodes_unit hread

theorem stringCodes_chars {cs : List Char} (h : cs.length < fuel) :
    stringCodes? fuel (cs.flatMap stringChar ++ '"' :: rest) = some (cs.map Char.toNat, rest) := by
  induction cs generalizing fuel with
  | nil =>
    obtain ⟨fuel, rfl⟩ := Nat.exists_eq_add_one_of_ne_zero (Nat.ne_zero_of_lt h)
    rfl
  | cons c cs ih =>
    obtain ⟨fuel, rfl⟩ := Nat.exists_eq_add_one_of_ne_zero (Nat.ne_zero_of_lt h)
    rw [List.flatMap_cons, List.append_assoc, stringCodes_char, ih (Nat.lt_of_succ_lt_succ h)]
    rfl

/-- The code points of characters are a text, and this one. -/
theorem ofCodes_toNat (cs : List Char) :
    Text.Spelled.ofCodes (cs.map Char.toNat) = .text (String.ofList cs) := by
  have hnone : (cs.map Char.toNat).any Text.isHalf = false := by
    rw [List.any_eq_false]
    intro n hn
    obtain ⟨c, -, rfl⟩ := List.mem_map.mp hn
    rw [isHalf_toNat]
    exact Bool.false_ne_true
  have hchars : (cs.map Char.toNat).map Char.ofNat = cs := by
    rw [List.map_map]
    exact List.map_id'' (fun c => Char.ofNat_toNat c) cs
  rw [Text.Spelled.ofCodes, hnone, hchars]
  rfl

theorem length_stringChar (c : Char) : 1 ≤ (stringChar c).length := by
  obtain ⟨e, hwritten, -⟩ | ⟨hwritten, -⟩ | hwritten := stringChar_cases c
  · exact hwritten ▸ Nat.le_succ 1
  · exact hwritten ▸ le_rfl
  · obtain ⟨units, hunits, -⟩ := unitCode_codeEscape c []
    rw [hwritten, hunits]
    exact Nat.succ_pos _

theorem length_le_flatMap (cs : List Char) : cs.length ≤ (cs.flatMap stringChar).length := by
  induction cs with
  | nil => exact le_rfl
  | cons c cs ih =>
    have := length_stringChar c
    rw [List.flatMap_cons, List.length_append, List.length_cons]
    omega

theorem toList_string (s : String) :
    (string s).toList = '"' :: (s.toList.flatMap stringChar ++ ['"']) := String.toList_ofList

/-- A string is read back. -/
theorem string_read (s : String) (rest : List Char) :
    string? ((string s).toList ++ rest) = some (.text s, rest) := by
  rw [toList_string, List.cons_append, List.append_assoc, List.singleton_append, string?,
    stringCodes_chars]
  · rw [Option.map_some]
    dsimp only
    rw [ofCodes_toNat, String.ofList_toList]
    rfl
  · have := length_le_flatMap s.toList
    rw [List.length_append]
    omega

end Reading

/-! ### Integers -/

/-- What follows cannot be taken for a part of the number before it. -/
def EndsNumber (rest : List Char) : Prop :=
  ∀ c ∈ rest.head?, isDigit c = false ∧ c ≠ '.' ∧ c ≠ 'e' ∧ c ≠ 'E'

theorem isDigit_of_mem_toDigits {n : Nat} {c : Char} (h : c ∈ Nat.toDigits 10 n) :
    isDigit c = true := by
  have hdigit := Nat.isDigit_of_mem_toDigits (by decide) (by decide) h
  simpa [isDigit, Char.isDigit, Char.le_def] using hdigit

theorem digits_append {ds rest : List Char} (hds : ∀ c ∈ ds, isDigit c = true)
    (hrest : EndsNumber rest) : digits (ds ++ rest) = (ds, rest) := by
  have hstop : rest.takeWhile isDigit = [] ∧ rest.dropWhile isDigit = rest := by
    cases rest with
    | nil => exact ⟨rfl, rfl⟩
    | cons c rest =>
      have hc := (hrest c rfl).1
      simp [hc]
  rw [digits, List.takeWhile_append_of_pos hds, List.dropWhile_append_of_pos hds, hstop.1, hstop.2,
    List.append_nil]

theorem natOfDigits_toDigits (n : Nat) : Number.natOfDigits (Nat.toDigits 10 n) = n := by
  have hcomm : Number.natOfDigits (Nat.toDigits 10 n) = Nat.ofDigitChars 10 (Nat.toDigits 10 n) 0 := by
    simp only [Number.natOfDigits, Nat.ofDigitChars, Nat.mul_comm]
  rw [hcomm, Nat.ofDigitChars_toDigits (by decide) le_rfl]

/-- Only zero begins with a zero. -/
theorem head_toDigits {n : Nat} (h : 0 < n) : (Nat.toDigits 10 n).head? ≠ some '0' := by
  induction n using Nat.strong_induction_on with
  | h n ih =>
    by_cases hn : n < 10
    · rw [Nat.toDigits_of_lt_base hn]
      interval_cases n <;> decide
    · have hpos : 0 < n / 10 := Nat.div_pos (Nat.le_of_not_lt hn) (by decide)
      rw [Nat.toDigits_of_base_le (by decide) (Nat.le_of_not_lt hn), List.head?_append,
        Option.or_of_isSome (by simp [Nat.toDigits_ne_nil])]
      exact ih _ (Nat.div_lt_self h (by decide)) hpos

theorem fraction_none {rest : List Char} (h : EndsNumber rest) : fraction? rest = some ([], rest) := by
  unfold fraction?
  split
  · exact absurd rfl (h '.' rfl).2.1
  · rfl

theorem exponent_none {rest : List Char} (h : EndsNumber rest) :
    exponent? rest = some (none, rest) := by
  cases rest with
  | nil => rfl
  | cons c rest =>
    obtain ⟨-, -, he, hE⟩ := h c rfl
    simp [exponent?, he, hE]

theorem whole_toDigits (n : Nat) : ((Nat.toDigits 10 n).isEmpty ||
    ((Nat.toDigits 10 n).length > 1 && (Nat.toDigits 10 n).head? == some '0')) = false := by
  rw [Bool.or_eq_false_iff, Bool.and_eq_false_iff]
  refine ⟨by simp [Nat.toDigits_ne_nil], ?_⟩
  rcases Nat.eq_zero_or_pos n with rfl | hn
  · exact .inl (by decide)
  · exact .inr (beq_eq_false_iff_ne.mpr (head_toDigits hn))

theorem toDigits_ne_minus {n : Nat} {rest more : List Char} :
    Nat.toDigits 10 n ++ rest ≠ '-' :: more := by
  obtain ⟨d, ds, hds⟩ := List.exists_cons_of_ne_nil (Nat.toDigits_ne_nil (n := n) (b := 10))
  have hd : isDigit d = true := isDigit_of_mem_toDigits (hds ▸ List.mem_cons_self)
  rw [hds, List.cons_append]
  rintro ⟨⟩
  contradiction

theorem number_natural (n : Nat) {rest : List Char} (hrest : EndsNumber rest) :
    number? (Nat.toDigits 10 n ++ rest) = some (.integer n, rest) := by
  have hdigits := digits_append (fun c hc => isDigit_of_mem_toDigits (n := n) hc) hrest
  unfold number?
  split
  rename_i negative cs hsign
  split at hsign
  · exact absurd ‹_› toDigits_ne_minus
  · cases hsign
    simp [hdigits, whole_toDigits, fraction_none hrest, exponent_none hrest, natOfDigits_toDigits]

theorem number_negative (n : Nat) {rest : List Char} (hrest : EndsNumber rest) :
    number? ('-' :: (Nat.toDigits 10 n ++ rest)) = some (.integer (-n), rest) := by
  have hdigits := digits_append (fun c hc => isDigit_of_mem_toDigits (n := n) hc) hrest
  simp [number?, hdigits, whole_toDigits, fraction_none hrest, exponent_none hrest,
    natOfDigits_toDigits]

theorem toList_natural (n : Nat) : (toString (Int.ofNat n)).toList = Nat.toDigits 10 n := by
  change (toString n).toList = _
  rw [Nat.toString_eq_ofList_toDigits, String.toList_ofList]

theorem toList_negative (n : Nat) :
    (toString (Int.negSucc n)).toList = '-' :: Nat.toDigits 10 (n + 1) := by
  change ("-" ++ toString (n + 1)).toList = _
  rw [Nat.toString_eq_ofList_toDigits, String.toList_append, String.toList_ofList,
    String.toList_ofList]
  rfl

/-- An integer is read back, if no part of a number follows. -/
theorem number_read (n : Int) {rest : List Char} (hrest : EndsNumber rest) :
    number? ((toString n).toList ++ rest) = some (.integer n, rest) := by
  cases n with
  | ofNat n =>
    rw [toList_natural]
    exact number_natural n hrest
  | negSucc n =>
    rw [toList_negative]
    exact number_negative (n + 1) hrest

end LintConfig.Json
