import LintConfig.Proofs.Integers
import LintConfig.Proofs.Yaml.Turns
import LintConfig.Yaml.Construction
import LintConfig.Yaml.Parser

/-! # Values without items

Texts, truth values and numbers are written as scalars. -/
namespace LintConfig.Yaml
open Scalar (styled Fits)
open Writer (Style styleOf)

/-- A value without items that a document can hold. -/
inductive Leaf : Value → Prop
  | text (s : String) : Leaf (.text s)
  | bool (b : Bool) : Leaf (.bool b)
  | natural (n : Nat) (h : (Nat.toDigits 10 n).length ≤ Number.digitLimit) : Leaf (.integer n)

/-- The text that a leaf is written as. -/
def Writer.content : Value → List Char
  | .text s => s.toList
  | .bool b => if b then "true".toList else "false".toList
  | .integer n => (toString n).toList
  | _ => []

/-- The style that a leaf is written in. -/
def Writer.style : Value → Style
  | .text s => styleOf s.toList
  | _ => .plain

/-- The token that a leaf is read as. -/
def leafLexeme (v : Value) : Lexeme := Lexer.scalarLexeme (Writer.style v) (Writer.content v)

section Leaves
variable {v : Value}

theorem content_natural (n : Nat) : Writer.content (.integer n) = Nat.toDigits 10 n :=
  Json.toList_natural n

/-- What digits are not. -/
theorem asciiDigit_plain {c : Char} (h : Number.isAsciiDigit c = true) :
    Writer.isGap c = false ∧ Writer.isSpecial c = false ∧ Writer.isLineEnd c = false ∧
      isBlankOrEnd c = false ∧ c ≠ ':' ∧ c ≠ '#' ∧ c ≠ '-' ∧ c ≠ '.' ∧ c ≠ '?' ∧
      "#,[]\x7b\x7d&*!|>'\"%@`".toList.contains c = false := by
  obtain ⟨d, rfl⟩ := Number.digit_cases h
  revert d
  decide +kernel

theorem isPlain_digits {ds : List Char} (h : ∀ c ∈ ds, Number.isAsciiDigit c = true) :
    Writer.isPlain ds = true := by
  have hinner : ∀ before, Writer.hasInnerIndicator before ds = false := by
    induction ds with
    | nil => exact fun _ => rfl
    | cons c ds ih =>
      obtain ⟨-, -, -, -, hcolon, hhash, -⟩ := asciiDigit_plain (h c List.mem_cons_self)
      intro before
      rw [Writer.hasInnerIndicator, ih fun d hd => h d (List.mem_cons_of_mem _ hd)]
      simp [hcolon, hhash]
  have hfrayed : Writer.hasFrayedLine ds = false := by
    clear hinner
    induction ds with
    | nil => rfl
    | cons c ds ih =>
      have hgap := (asciiDigit_plain (h c List.mem_cons_self)).1
      rw [Writer.isGap, Bool.or_eq_false_iff] at hgap
      cases ds with
      | nil => rfl
      | cons d ds =>
        rw [Writer.hasFrayedLine, ih fun e he => h e (List.mem_cons_of_mem _ he)]
        simp [hgap.1, hgap.2]
  have hnone : ∀ {p : Char → Bool}, (∀ c, Number.isAsciiDigit c = true → p c = false) →
      ds.any p = false ∧ ds.head?.any p = false ∧ ds.getLast?.any p = false := by
    intro p hp
    refine ⟨List.any_eq_false.mpr fun c hc => by simp [hp c (h c hc)], ?_, ?_⟩
    · cases hd : ds.head? with
      | none => rfl
      | some c => exact hp c (h c (List.mem_of_head? hd))
    · cases hd : ds.getLast? with
      | none => rfl
      | some c => exact hp c (h c (List.mem_of_getLast? hd))
  have hgap := hnone fun c hc => (asciiDigit_plain hc).1
  have hspecial := hnone fun c hc => (asciiDigit_plain hc).2.1
  have hbreak := hnone fun c hc => (asciiDigit_plain hc).2.2.1
  have hindicator : Writer.hasIndicator ds = false := by
    cases ds with
    | nil => rfl
    | cons c ds =>
      obtain ⟨-, -, -, -, hcolon, -, hdash, hdot, hquestion, hmarks⟩ :=
        asciiDigit_plain (h c List.mem_cons_self)
      have hbehind : Writer.hasInnerIndicator c ds = false := (Bool.or_eq_false_iff.mp (hinner ' ')).2
      rw [Writer.hasIndicator, Writer.hasLeadingIndicator, hmarks]
      simp [hdash, hdot, hquestion, hcolon, hbehind]
  rw [Writer.isPlain, hgap.2.1, hgap.2.2, hfrayed, hspecial.1, hbreak.1, hindicator]
  rfl

theorem fits_leaf (h : Leaf v) : Fits (Writer.style v) (Writer.content v) := by
  cases h with
  | text s =>
    rw [Writer.style, Writer.content]
    exact Scalar.fits_styleOf s.toList
  | bool b => cases b <;> exact ⟨fun _ => ⟨by decide, by decide⟩, nofun⟩
  | natural n =>
    rw [content_natural]
    exact ⟨fun _ => ⟨isPlain_digits fun c => Number.isAsciiDigit_of_mem_toDigits, Nat.toDigits_ne_nil⟩,
      nofun⟩

/-- Nothing is put into a text without spaces. -/
theorem writePlain_solid {text : List Char} (h : ' ' ∉ text) (hne : text ≠ []) (margin : Option Nat)
    (column : Nat) : styled margin column .plain text = text := by
  obtain ⟨last, hwritten⟩ := Scalar.writePlain_stretch margin column '\x00' [] h hne
  rw [List.append_nil, Writer.plainFrom, List.append_nil] at hwritten
  exact hwritten

theorem scalar_text (margin : Option Nat) (column : Nat) (s : String) :
    Writer.scalar margin column (.text s) = Writer.text margin column s.toList := by
  unfold Writer.scalar
  rfl

theorem scalar_leaf (h : Leaf v) (margin : Option Nat) (column : Nat) :
    Writer.scalar margin column v = styled margin column (Writer.style v) (Writer.content v) := by
  cases h with
  | text s =>
    rw [scalar_text, Scalar.text_eq, Writer.style, Writer.content]
  | bool b =>
    have hsolid : ' ' ∉ Writer.content (.bool b) ∧ Writer.content (.bool b) ≠ [] := by
      cases b <;> decide
    rw [Writer.style, writePlain_solid hsolid.1 hsolid.2]
    · rfl
    · nofun
  | natural n =>
    have hspace : ' ' ∉ Nat.toDigits 10 n := fun hmem =>
      absurd (Number.isAsciiDigit_of_mem_toDigits hmem) (by decide)
    rw [Writer.style, content_natural, writePlain_solid hspace Nat.toDigits_ne_nil]
    · exact content_natural n
    · nofun

/-! ### Reading a leaf -/

/-- The tag that a leaf is read with. -/
def leafTag (v : Value) : String :=
  Parser.scalarTag none (.text (String.ofList (Writer.content v))) (Lexer.scalarStyle (Writer.style v))

/-- A text is written without quotes only if it has no other form. -/
theorem leafTag_text (s : String) : leafTag (.text s) = Tag.str := by
  have hplain : styleOf s.toList = .plain → Tag.ofPlain s = Tag.str := by
    unfold styleOf
    split_ifs with h
    · intro _
      rw [Bool.and_eq_true, beq_iff_eq, String.ofList_toList] at h
      exact h.1
    all_goals exact nofun
  rw [leafTag, Writer.style, Writer.content, Parser.scalarTag, String.ofList_toList]
  generalize styleOf s.toList = style at hplain
  cases style with
  | plain => exact hplain rfl
  | singleQuoted | doubleQuoted => rfl

theorem leafTag_bool (b : Bool) : leafTag (.bool b) = Tag.bool := by
  cases b <;> decide +kernel

/-- The first digit of a number above zero is not zero. -/
theorem head_toDigits (n : Nat) (hn : 0 < n) :
    ∃ d ds, Nat.toDigits 10 n = d :: ds ∧ Tag.isNonzeroDigit d = true := by
  induction n using Nat.strong_induction_on with
  | h n ih =>
    rw [Nat.toDigits_eq_if (by decide)]
    split_ifs with hless
    · refine ⟨_, [], rfl, ?_⟩
      have hdigits : ∀ n : Fin 10, 0 < n.val → Tag.isNonzeroDigit n.val.digitChar = true := by decide
      exact hdigits ⟨n, hless⟩ hn
    · obtain ⟨d, ds, hds, hd⟩ := ih (n / 10) (by omega) (by omega)
      exact ⟨d, ds ++ [(n % 10).digitChar], by rw [hds]; rfl, hd⟩

/-- Digits are an integer if they do not begin with a superfluous zero. -/
theorem ofPlain_digits {ds : List Char} (h : ∀ c ∈ ds, Number.isAsciiDigit c = true)
    (hfirst : ds = ['0'] ∨ ∃ d more, ds = d :: more ∧ Tag.isNonzeroDigit d = true) :
    Tag.ofPlain (String.ofList ds) = Tag.int := by
  have hends : Tag.withoutBreak ds = ds := by
    refine if_neg fun hbreak => ?_
    rw [Bool.and_eq_true, beq_iff_eq] at hbreak
    exact absurd (h _ (List.mem_of_getLast? hbreak.1)) (by decide)
  have hbool : Tag.isBoolText ds = false := by
    have hwords : ∀ word ∈ ["yes", "Yes", "YES", "no", "No", "NO", "true", "True", "TRUE", "false", "False",
        "FALSE", "on", "On", "ON", "off", "Off", "OFF"], word.toList.all Number.isAsciiDigit = false := by
      decide +kernel
    rw [Tag.isBoolText, ← Bool.not_eq_true, List.contains_iff_mem]
    intro hmem
    refine absurd (hwords _ hmem) ?_
    rw [String.toList_ofList, Bool.not_eq_false, List.all_eq_true]
    exact h
  have hunsigned : Tag.unsigned ds = ds := by
    unfold Tag.unsigned
    split
    · exact absurd (h _ List.mem_cons_self) (by decide)
    · exact absurd (h _ List.mem_cons_self) (by decide)
    · rfl
  have hfloat : Tag.isFloatText ds = false := by
    have hwhole : ds.takeWhile (· != '.') = ds := by
      rw [List.takeWhile_eq_self_iff]
      intro c hc
      simpa using (asciiDigit_plain (h c hc)).2.2.2.2.2.2.2.1
    rw [Tag.isFloatText, hunsigned, hwhole, List.drop_length]
  have hint : Tag.isIntText ds = true := by
    rw [Tag.isIntText, hunsigned]
    obtain rfl | ⟨d, more, rfl, hd⟩ := hfirst
    · rfl
    · have hzero : d ≠ '0' := by
        rintro rfl
        exact absurd hd (by decide)
      have hrun : Tag.isRun Tag.isNonzeroDigit Tag.isDigitOrGap (d :: more) = true := by
        rw [Tag.isRun, hd, Bool.true_and, List.all_eq_true]
        exact fun c hc => Bool.or_eq_true_iff.mpr (.inl (h c (List.mem_cons_of_mem _ hc)))
      rw [hrun]
      split
      · rename_i heq
        exact absurd (List.cons.inj heq).1 hzero
      · rename_i heq
        exact absurd (List.cons.inj heq).1 hzero
      · rename_i heq
        exact absurd (List.cons.inj heq).1 hzero
      · rw [Bool.or_true, Bool.true_or]
  rw [Tag.ofPlain, String.toList_ofList, hends, hbool, hfloat, hint]
  rfl

theorem toDigits_first (n : Nat) : Nat.toDigits 10 n = ['0'] ∨
    ∃ d more, Nat.toDigits 10 n = d :: more ∧ Tag.isNonzeroDigit d = true := by
  cases n with
  | zero => exact .inl rfl
  | succ n => exact .inr (head_toDigits (n + 1) (Nat.succ_pos n))

theorem leafTag_natural (n : Nat) : leafTag (.integer n) = Tag.int := by
  rw [leafTag, content_natural]
  exact ofPlain_digits (fun c => Number.isAsciiDigit_of_mem_toDigits) (toDigits_first n)

theorem integer_toDigits {n : Nat} (h : (Nat.toDigits 10 n).length ≤ Number.digitLimit) :
    ScalarValue.integer (String.ofList (Nat.toDigits 10 n)) = .ok (.integer n) := by
  have hdigits : ∀ c ∈ Nat.toDigits 10 n, Number.isAsciiDigit c = true :=
    fun c => Number.isAsciiDigit_of_mem_toDigits
  have hsigned : ScalarValue.signed (String.ofList (Nat.toDigits 10 n)) =
      .ok (false, Nat.toDigits 10 n) := by
    have hgaps : (Nat.toDigits 10 n).filter (· != '_') = Nat.toDigits 10 n := by
      rw [List.filter_eq_self]
      intro c hc
      simpa using (Number.asciiDigit_ne (hdigits c hc)).2.2.2
    rw [ScalarValue.signed, String.toList_ofList, hgaps]
    split
    · rename_i heq
      exact absurd heq Nat.toDigits_ne_nil
    · rename_i heq
      exact absurd (hdigits '-' (heq ▸ List.mem_cons_self)) (by decide)
    · rename_i heq
      exact absurd (hdigits '+' (heq ▸ List.mem_cons_self)) (by decide)
    · rfl
  have hcolon : (Nat.toDigits 10 n).contains ':' = false := by
    rw [← Bool.not_eq_true, List.contains_iff_mem]
    exact fun hmem => absurd (hdigits _ hmem) (by decide)
  have hread : ScalarValue.readInt 10 (Nat.toDigits 10 n) = .ok (n : Int) := by
    rw [ScalarValue.readInt, Number.readInt_toDigits h]
    rfl
  rw [ScalarValue.integer, hsigned]
  rcases Nat.eq_zero_or_pos n with rfl | hpos
  · rfl
  · obtain ⟨d, more, hmore, hd⟩ := head_toDigits n hpos
    have hzero : d ≠ '0' := by
      rintro rfl
      exact absurd hd (by decide)
    rw [hmore] at hcolon hread ⊢
    change (Except.ok (false, d :: more) >>= _) = _
    simp only [bind, Except.bind]
    split
    · rename_i heq
      exact absurd (List.cons.inj heq).1 hzero
    · rename_i heq
      exact absurd (List.cons.inj heq).1 hzero
    · rename_i heq
      exact absurd (List.cons.inj heq).1 hzero
    · rename_i heq
      exact absurd (List.cons.inj heq).1 hzero
    · rename_i heq
      cases heq
    · rw [hcolon, hread]
      rfl

/-- Every leaf is read back as it is, in the type of its tag. -/
theorem read_leaf (h : Leaf v) : ∃ type, Construction.types.lookup (leafTag v) = some (.scalar type) ∧
    type ≠ .float ∧ ∀ start, type.read start (.text (String.ofList (Writer.content v))) = .ok v := by
  cases h with
  | text s =>
    refine ⟨.str, ?_, nofun, fun start => ?_⟩
    · rw [leafTag_text]
      decide +kernel
    · rw [Writer.content, String.ofList_toList]
      rfl
  | bool b =>
    refine ⟨.bool, ?_, nofun, fun start => ?_⟩
    · rw [leafTag_bool]
      decide +kernel
    · cases b
      · rw [Writer.content, if_neg Bool.false_ne_true, String.ofList_toList]
        rfl
      · rw [Writer.content, if_pos rfl, String.ofList_toList]
        rfl
  | natural n hn =>
    refine ⟨.int, ?_, nofun, fun start => ?_⟩
    · rw [leafTag_natural]
      decide +kernel
    · rw [content_natural]
      exact integer_toDigits hn

end Leaves

end LintConfig.Yaml
