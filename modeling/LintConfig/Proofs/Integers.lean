import LintConfig.Number.Reading
import LintConfig.Proofs.Json.Scalars

/-! # Integers in digits

An integer that is not too long is read back from its digits. They are digits in every sense: in the
table of all scripts, and in every base above nine. -/
namespace LintConfig.Number

theorem digit_cases {c : Char} (h : isAsciiDigit c = true) : ∃ d : Fin 10, c = Char.ofNat (48 + d) := by
  have hrange : 48 ≤ c.toNat ∧ c.toNat ≤ 57 := by
    simpa [isAsciiDigit, Char.le_def, UInt32.le_iff_toNat_le] using h
  refine ⟨⟨c.toNat - 48, by omega⟩, ?_⟩
  rw [Nat.add_sub_cancel' hrange.1, Char.ofNat_toNat]

section Digit
variable {c : Char}

theorem decimalValue_asciiDigit (h : isAsciiDigit c = true) :
    Text.decimalValue? c = some (c.toNat - 48) := by
  obtain ⟨d, rfl⟩ := digit_cases h
  revert d
  decide

/-- A character that stands for nothing but itself in a number: no blank, no sign, no underscore. -/
structure Solid (c : Char) : Prop where
  visible : Text.isBlank c = false
  notMinus : c ≠ '-'
  notPlus : c ≠ '+'
  notGap : c ≠ '_'

/-- A digit is no blank, no sign and no underscore. -/
theorem asciiDigit_ne (h : isAsciiDigit c = true) :
    Text.isBlank c = false ∧ c ≠ '-' ∧ c ≠ '+' ∧ c ≠ '_' := by
  obtain ⟨d, rfl⟩ := digit_cases h
  revert d
  decide

theorem solid_asciiDigit (h : isAsciiDigit c = true) : Solid c :=
  ⟨(asciiDigit_ne h).1, (asciiDigit_ne h).2.1, (asciiDigit_ne h).2.2.1, (asciiDigit_ne h).2.2.2⟩

theorem decimalValue_lt {n : Nat} (h : Text.decimalValue? c = some n) : n < 10 := by
  obtain ⟨i, -, hi⟩ := Option.bind_eq_some_iff.mp h
  obtain ⟨range, -, rfl⟩ := Option.map_eq_some_iff.mp hi
  exact Nat.mod_lt _ (by decide)

/-- The digit of ASCII in place of a digit of any script. -/
def plainDigit (c : Char) : Char :=
  match Text.decimalValue? c with
  | some n => Char.ofNat ('0'.toNat + n)
  | none => c

theorem isAsciiDigit_ofNat {n : Nat} (h : n < 10) :
    isAsciiDigit (Char.ofNat ('0'.toNat + n)) = true ∧
      digitValue? 10 (Char.ofNat ('0'.toNat + n)) = some n := by
  have hall : ∀ d : Fin 10, isAsciiDigit (Char.ofNat ('0'.toNat + d)) = true ∧
      digitValue? 10 (Char.ofNat ('0'.toNat + d)) = some d.val := by decide
  exact hall ⟨n, h⟩

/-- Only digits of ASCII have a value in base ten. -/
theorem isAsciiDigit_of_digitValue (h : (digitValue? 10 c).isSome = true) : isAsciiDigit c = true := by
  unfold isAsciiDigit
  simp only [digitValue?] at h
  split at h
  · assumption
  · exfalso
    revert h
    repeat' split
    all_goals first | omega | simp

/-- A digit of any script has its value, and nothing else has one. -/
theorem digitValue_plainDigit (c : Char) : digitValue? 10 (plainDigit c) = Text.decimalValue? c := by
  unfold plainDigit
  cases hvalue : Text.decimalValue? c with
  | some n => exact (isAsciiDigit_ofNat (decimalValue_lt hvalue)).2
  | none =>
    refine Option.not_isSome_iff_eq_none.mp fun hsome => ?_
    rw [decimalValue_asciiDigit (isAsciiDigit_of_digitValue hsome)] at hvalue
    cases hvalue

theorem Solid.plainDigit (h : Solid c) : Solid (plainDigit c) := by
  unfold Number.plainDigit
  cases hvalue : Text.decimalValue? c with
  | some n => exact solid_asciiDigit (isAsciiDigit_ofNat (decimalValue_lt hvalue)).1
  | none => exact h

end Digit

section Digits
variable {ds : List Char}

theorem plainDigits_eq_map (ds : List Char) : plainDigits ds = ds.map plainDigit := rfl

theorem unpadded_solid (h : ∀ c ∈ ds, Solid c) : unpadded ds = ds := by
  have hnone : ∀ {cs : List Char}, (∀ c ∈ cs, Solid c) → cs.dropWhile isPadding = cs := by
    intro cs hcs
    cases cs with
    | nil => rfl
    | cons c cs =>
      rw [List.dropWhile_cons_of_neg]
      simp [isPadding, (hcs c List.mem_cons_self).visible]
  rw [unpadded, hnone h, hnone fun c hc => h c (List.mem_reverse.mp hc), List.reverse_reverse]

theorem dropGaps_solid {p : Char → Bool} {before : Bool} (h : ∀ c ∈ ds, Solid c) :
    dropGaps? p before ds = some ds := by
  induction ds generalizing before with
  | nil => rfl
  | cons c ds ih =>
    have hc := (h c List.mem_cons_self).notGap
    unfold dropGaps?
    split
    · contradiction
    · rename_i heq
      exact absurd (List.cons.inj heq).1 hc
    · rename_i heq
      exact absurd (List.cons.inj heq).1 hc
    · rename_i heq
      obtain ⟨rfl, rfl⟩ := List.cons.inj heq
      rw [ih fun d hd => h d (List.mem_cons_of_mem _ hd)]
      rfl

theorem sign_solid (h : ∀ c ∈ ds, Solid c) : sign ds = (false, ds) := by
  unfold sign
  split
  · exact absurd rfl (h _ List.mem_cons_self).notMinus
  · exact absurd rfl (h _ List.mem_cons_self).notPlus
  · rfl

theorem unmarked_ten (text : List Char) : unmarked 10 text = text := by
  unfold unmarked
  split
  · rw [if_neg (by simp [show baseMarks.lookup 10 = none from rfl])]
  · rfl

/-- The number that digits of any scripts spell. -/
def decimalNumber (ds : List Char) : Nat :=
  ds.foldl (fun n c => n * 10 + (Text.decimalValue? c).getD 0) 0

/-- Without blanks, signs and underscores an integer is spelled in decimal digits, and not too many of
them, or there is none. -/
theorem readInt_solid (hne : ds ≠ []) (h : ∀ c ∈ ds, Solid c) :
    readInt 10 (String.ofList ds) =
      if ds.all fun c => (Text.decimalValue? c).isSome then
        if digitLimit < ds.length then .error (.tooLong ds.length) else .ok (decimalNumber ds)
      else .error (.notInteger 10 (String.ofList ds)) := by
  have hsolid : ∀ c ∈ plainDigits ds, Solid c := by
    rw [plainDigits_eq_map]
    intro c hc
    obtain ⟨d, hd, rfl⟩ := List.mem_map.mp hc
    exact (h d hd).plainDigit
  have hall : (plainDigits ds).all (fun c => (digitValue? 10 c).isSome) =
      ds.all fun c => (Text.decimalValue? c).isSome := by
    rw [plainDigits_eq_map, List.all_map]
    simp only [Function.comp_def, digitValue_plainDigit]
  have hsum : (plainDigits ds).foldl (fun n c => n * 10 + (digitValue? 10 c).getD 0) 0 =
      decimalNumber ds := by
    rw [plainDigits_eq_map, List.foldl_map]
    simp only [digitValue_plainDigit]
    rfl
  have hlength : (plainDigits ds).length = ds.length := List.length_map _
  have hempty : (plainDigits ds).isEmpty = false := by
    rw [plainDigits_eq_map, List.isEmpty_map]
    simpa using hne
  unfold readInt
  rw [String.toList_ofList, unpadded_solid h, sign_solid hsolid]
  simp only [unmarked_ten, dropGaps_solid hsolid, hall, hsum, hlength, hempty, Bool.false_or,
    Bool.not_eq_true', beq_self_eq_true, Bool.and_true, decide_eq_true_eq]
  cases ds.all fun c => (Text.decimalValue? c).isSome <;> rfl

/-- Digits are read as the number they are the digits of. -/
theorem readInt_digits (hne : ds ≠ []) (h : ∀ c ∈ ds, isAsciiDigit c = true)
    (hlength : ds.length ≤ digitLimit) :
    readInt 10 (String.ofList ds) = .ok (natOfDigits ds) := by
  have hall : ds.all (fun c => (Text.decimalValue? c).isSome) = true := by
    rw [List.all_eq_true]
    intro c hc
    rw [decimalValue_asciiDigit (h c hc)]
    rfl
  have hsum : decimalNumber ds = natOfDigits ds := by
    refine List.foldl_ext _ _ _ fun n c hc => ?_
    rw [decimalValue_asciiDigit (h c hc)]
    rfl
  rw [readInt_solid hne fun c hc => solid_asciiDigit (h c hc), if_pos hall,
    if_neg (Nat.not_lt.mpr hlength), hsum]

theorem isAsciiDigit_of_mem_toDigits {n : Nat} {c : Char} (h : c ∈ Nat.toDigits 10 n) :
    isAsciiDigit c = true := Json.isDigit_of_mem_toDigits h

theorem readInt_toDigits {n : Nat} (h : (Nat.toDigits 10 n).length ≤ digitLimit) :
    readInt 10 (String.ofList (Nat.toDigits 10 n)) = .ok n := by
  rw [readInt_digits Nat.toDigits_ne_nil (fun c => isAsciiDigit_of_mem_toDigits) h,
    Json.natOfDigits_toDigits]

theorem isDigits_toDigits (n : Nat) : Text.isDigits (Nat.toDigits 10 n) = true := by
  rw [Text.isDigits, Bool.and_eq_true_iff, List.all_eq_true]
  refine ⟨by simp [Nat.toDigits_ne_nil], fun c hc => ?_⟩
  rw [Text.isDigit, decimalValue_asciiDigit (isAsciiDigit_of_mem_toDigits hc)]
  rfl

end Digits

/-! ### All that is not solid -/

/-- The codes of all blanks, and of what else can stand in an integer. -/
def markCodes : List Nat :=
  ['-', '+', '_'].map Char.toNat ++ [0x85, 0xA0, 0x1680, 0x2028, 0x2029, 0x202F, 0x205F, 0x3000] ++
    List.range' 0x09 5 ++ List.range' 0x1C 5 ++ List.range' 0x2000 11

theorem mem_markCodes {c : Char} (h : ¬ Solid c) : c.toNat ∈ markCodes := by
  by_contra hno
  simp only [markCodes, List.map_cons, List.map_nil, List.mem_append, List.mem_cons, List.not_mem_nil,
    or_false, List.mem_range'_1, not_or] at hno
  obtain ⟨⟨⟨⟨hmarks, hsingle⟩, hcontrol⟩, hseparator⟩, hspace⟩ := hno
  refine h ⟨?_, fun he => hmarks.1 (he ▸ rfl), fun he => hmarks.2.1 (he ▸ rfl),
    fun he => hmarks.2.2 (he ▸ rfl)⟩
  unfold Text.isBlank
  simp only [Bool.or_eq_false_iff, Bool.and_eq_false_iff, decide_eq_false_iff_not, beq_eq_false_iff_ne]
  omega

/-- Digits of any kind are solid. -/
theorem solid_of_isDigit {c : Char} (h : Text.isDigit c = true) : Solid c := by
  by_contra hsolid
  have hnone : ∀ n ∈ markCodes, ∀ table ∈ [Text.DigitTable.decimal, Text.DigitTable.isolated],
      Text.Ranges.search table n (table.size + 1) 0 table.size = none := by
    decide
  have hcode := hnone c.toNat (mem_markCodes hsolid)
  simp only [Text.isDigit, Text.decimalValue?, Text.Ranges.contains, Text.Ranges.find?,
    hcode _ List.mem_cons_self, hcode _ (List.mem_cons_of_mem _ List.mem_cons_self)] at h
  cases h

end LintConfig.Number
