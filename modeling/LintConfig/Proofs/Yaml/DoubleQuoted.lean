import LintConfig.Proofs.Json.Scalars
import LintConfig.Proofs.Yaml.Quoting
import LintConfig.Yaml.Writer
import Mathlib.Data.List.TakeWhile

/-! # Between double quotes

Characters that cannot be shown are written as escapes, and a line is continued behind a backslash. A
line that would begin with a space begins with a backslash instead, so that the space is not taken for
indentation. What stands between double quotes is read as the text it was written for. -/
namespace LintConfig.Yaml.Scalar
open Cursor
open Writer (Piece Place doubleFrom upperHex newline spaces width)

/-! ### Numbers of characters -/

section Numbers
variable {n : Nat}

/-- A hexadecimal digit as it is written in an escape. -/
def upperDigit (n : Nat) : Char :=
  if 'a' ≤ Text.hexDigit n && Text.hexDigit n ≤ 'f' then Char.ofNat ((Text.hexDigit n).toNat - 32)
  else Text.hexDigit n

theorem hexValue_upperDigit (h : n < 16) : hexValue (upperDigit n) = n := by
  interval_cases n <;> decide

theorem isHexDigit_upperDigit (h : n < 16) : isHexDigit (upperDigit n) = true := by
  interval_cases n <;> decide

theorem upperHex_succ (w n : Nat) : upperHex (w + 1) n = upperHex w (n / 16) ++ [upperDigit (n % 16)] := by
  simp [upperHex, Text.hexDigits, upperDigit]

theorem length_upperHex (w n : Nat) : (upperHex w n).length = w := by
  induction w generalizing n with
  | zero => rfl
  | succ w ih => rw [upperHex_succ, List.length_append, ih, List.length_singleton]

theorem isHexDigit_of_mem_upperHex {w : Nat} {d : Char} (h : d ∈ upperHex w n) :
    isHexDigit d = true := by
  induction w generalizing n with
  | zero => cases h
  | succ w ih =>
    rw [upperHex_succ, List.mem_append, List.mem_singleton] at h
    rcases h with h | rfl
    · exact ih h
    · exact isHexDigit_upperDigit (Nat.mod_lt n (by decide))

theorem printable_of_mem_upperHex {w : Nat} {d : Char} (h : d ∈ upperHex w n) : Printable d := by
  have hdigit := isHexDigit_of_mem_upperHex h
  simp only [isHexDigit, isDigit, Bool.or_eq_true, Bool.and_eq_true, decide_eq_true_eq, Char.le_def,
    UInt32.le_iff_toNat_le] at hdigit
  have hbounds : ∀ c : Char, c.val.toNat = c.toNat := fun _ => rfl
  simp only [hbounds] at hdigit
  constructor <;> rcases hdigit with (⟨h, h'⟩ | ⟨h, h'⟩) | ⟨h, h'⟩ <;> simp at h h' <;> omega

/-- The number that hexadecimal digits stand for. -/
def hexNumber (digits : List Char) : Nat := digits.foldl (fun n d => n * 16 + hexValue d) 0

theorem hexNumber_succ (w n : Nat) :
    hexNumber (upperHex (w + 1) n) = hexNumber (upperHex w (n / 16)) * 16 + n % 16 := by
  rw [upperHex_succ, hexNumber, List.foldl_append, List.foldl_cons, List.foldl_nil,
    hexValue_upperDigit (Nat.mod_lt n (by decide)), hexNumber]

theorem hexNumber_upperHex (n : Nat) :
    (n < 0x100 → hexNumber (upperHex 2 n) = n) ∧ (n < 0x10000 → hexNumber (upperHex 4 n) = n) ∧
      (n < 0x100000000 → hexNumber (upperHex 8 n) = n) := by
  have hnone : ∀ n, hexNumber (upperHex 0 n) = 0 := fun _ => rfl
  simp only [hexNumber_succ, hnone]
  omega

end Numbers

/-! ### Escapes -/

section Escapes
variable {out : List Nat} {text more rest : List Char}

theorem Spells.escape (h : Spells true rest more out) (text : List Char) (piece : List Nat)
    (hpiece : ∀ (start : Mark) (c : Cursor), c.rest = '\\' :: (text ++ more) →
      Scalar.escape start c.next = .ok (piece, c.move ('\\' :: text).length)) :
    Spells true rest ('\\' :: text ++ more) (piece ++ out) := by
  refine h.of_step ('\\' :: text) (List.cons_ne_nil _ _) fun start c d fuel hc hread => ?_
  have hescape := hpiece start c hc
  generalize ('\\' :: text).length = n at hescape hread
  rw [quotedCodes, here_cons hc]
  simp [hescape, hread, bind, Except.bind, pure, Except.pure]

/-- An escape of one character. -/
theorem Spells.shortEscape {e x : Char} (h : Spells true rest more out) (he : simpleEscape? e = some x) :
    Spells true rest ('\\' :: e :: more) (x.toNat :: out) := by
  refine h.escape [e] [x.toNat] fun start c hc => ?_
  rw [Scalar.escape, here_cons (rest_next_cons hc), he]
  rfl

theorem numericEscape_upperHex (start : Mark) {c : Cursor} {w n : Nat}
    (h : c.rest = upperHex w n ++ rest) (hn : hexNumber (upperHex w n) = n) (hmax : n ≤ 0x10FFFF) :
    numericEscape start w c = .ok (n, c.move w) := by
  have hdigits : (c.rest.take w).takeWhile isHexDigit = upperHex w n := by
    rw [h, List.take_left' (length_upperHex w n)]
    exact List.takeWhile_eq_self_iff.mpr fun d hd => isHexDigit_of_mem_upperHex hd
  have hvalue : (upperHex w n).foldl (fun n d => n * 16 + hexValue d) 0 = n := hn
  simp only [numericEscape, hdigits, length_upperHex, Nat.lt_irrefl, if_false, hvalue, codePoint, hmax,
    if_true]
  rfl

/-- An escape by number. -/
theorem Spells.number {e : Char} {w n : Nat} (h : Spells true rest more out)
    (he : escapeLength? e = some w) (hsimple : simpleEscape? e = none)
    (hn : hexNumber (upperHex w n) = n) (hmax : n ≤ 0x10FFFF) :
    Spells true rest ('\\' :: e :: upperHex w n ++ more) (n :: out) := by
  refine h.escape (e :: upperHex w n) [n] fun start c hc => ?_
  have hnext : c.next.rest = e :: (upperHex w n ++ more) := rest_next_cons hc
  rw [Scalar.escape, here_cons hnext, he, hsimple]
  simp only [numericEscape_upperHex start (rest_next_cons hnext) hn hmax, bind, Except.bind]
  rw [List.length_cons, List.length_cons, length_upperHex]
  rfl

theorem Spells.numericEscape {x : Char} (h : Spells true rest more out) :
    Spells true rest (Writer.numericEscape x.toNat ++ more) (x.toNat :: out) := by
  have hmax := Json.toNat_lt x
  obtain ⟨hx, hu, hU⟩ := hexNumber_upperHex x.toNat
  unfold Writer.numericEscape
  split_ifs with hshort hlong
  · exact h.number (e := 'x') rfl rfl (hx hshort) (Nat.le_of_lt_succ hmax)
  · exact h.number (e := 'u') rfl rfl (hu hlong) (Nat.le_of_lt_succ hmax)
  · exact h.number (e := 'U') rfl rfl (hU (by omega)) (Nat.le_of_lt_succ hmax)

/-- A line that ends with a backslash is continued behind the indentation of the next one. -/
theorem Spells.continued {m : Nat} (h : Spells true rest more out) (hm : 0 < m) (hmore : Solid more) :
    Spells true rest ('\\' :: '\n' :: (List.replicate m ' ' ++ more)) out := by
  refine h.escape ('\n' :: List.replicate m ' ') [] fun start c hc => ?_
  have hnext : c.next.rest = '\n' :: (List.replicate m ' ' ++ more) := rest_next_cons hc
  have hline : c.next.next.rest = List.replicate 0 '\n' ++ (List.replicate m ' ' ++ more) :=
    rest_next_cons hnext
  have hbreaks := quotedBreaks_lines start hm hline hmore (Nat.succ_pos c.next.next.rest.length)
  rw [Nat.zero_add, List.replicate_zero] at hbreaks
  rw [Scalar.escape, here_cons hnext]
  simp only [show simpleEscape? '\n' = none from rfl, show escapeLength? '\n' = none from rfl,
    show isBreak '\n' = true from rfl, if_true, lineBreak_newline hnext, hbreaks, bind, Except.bind]
  rw [List.length_cons, List.length_cons, List.length_replicate]
  rfl

end Escapes

/-! ### Pieces -/

/-- A character is written as a short escape, as it is, or by its number. -/
theorem piece_cases (x : Char) :
    (∃ e, Piece.ofChar x = .escaped ['\\', e] ∧ Printable e ∧ simpleEscape? e = some x) ∨
    (Piece.ofChar x = .literal x ∧ Printable x ∧ x ≠ '"' ∧ x ≠ '\\') ∨
    Piece.ofChar x = .escaped (Writer.numericEscape x.toNat) := by
  by_cases hshort : x ∈ ['\x00', '\x07', '\x08', '\t', '\n', '\x0b', '\x0c', '\r', '\x1b', '"', '\\',
      '\x85', '\xa0', '\u2028', '\u2029']
  · refine .inl ?_
    simp only [List.mem_cons, List.not_mem_nil, or_false] at hshort
    rcases hshort with rfl | rfl | rfl | rfl | rfl | rfl | rfl | rfl | rfl | rfl | rfl | rfl | rfl |
      rfl | rfl <;> exact ⟨_, rfl, by decide, rfl⟩
  · refine .inr ?_
    have hnone : Writer.shortEscape? x = none := by
      simp only [List.mem_cons, List.not_mem_nil, or_false, not_or] at hshort
      simp only [Writer.shortEscape?, beq_iff_eq, hshort, if_false]
    unfold Piece.ofChar
    rw [hnone]
    dsimp only
    split_ifs with hshown
    · refine .inl ⟨rfl, ?_, ?_, ?_⟩
      · simp [Char.le_def, UInt32.le_iff_toNat_le] at hshown
        exact ⟨hshown.1, hshown.2⟩
      · rintro rfl
        exact hshort (by decide)
      · rintro rfl
        exact hshort (by decide)
    · exact .inr rfl

/-- A character is written as an escape, which is read back, or as it is. -/
theorem piece_escaped (x : Char) :
    (∃ w, Piece.ofChar x = .escaped ('\\' :: w) ∧ (∀ y ∈ w, Printable y) ∧ ∀ {more rest : List Char} {out : List Nat},
      Spells true rest more out → Spells true rest ('\\' :: w ++ more) (x.toNat :: out)) ∨
    (Piece.ofChar x = .literal x ∧ Printable x ∧ x ≠ '"' ∧ x ≠ '\\') := by
  obtain ⟨e, hpiece, hprintable, he⟩ | hliteral | hpiece := piece_cases x
  · exact .inl ⟨[e], hpiece, List.forall_mem_singleton.mpr hprintable, fun h => h.shortEscape he⟩
  · exact .inr hliteral
  · refine .inl ⟨_, hpiece, ?_, fun h => h.numericEscape⟩
    split_ifs <;> exact List.forall_mem_cons.mpr ⟨by decide, fun y => printable_of_mem_upperHex⟩

/-! ### Lines -/

section Double
variable {margin : Option Nat} {rest : List Char}

theorem breaksAt_eq_some {margin : Option Nat} {column indent : Nat}
    (h : Writer.breaksAt margin column = some indent) : margin = some indent ∧ width < column := by
  unfold Writer.breaksAt at h
  split_ifs at h with hwide
  exact ⟨h, hwide⟩

/-- A character that stands for itself does so in its line, or begins the next one; a space is marked
there. -/
theorem doubleFrom_literal (margin : Option Nat) (p : Place) (x : Char) (pieces : List Piece) : ∃ q,
    doubleFrom margin p (.literal x :: pieces) = x :: doubleFrom margin q pieces ∨
    ∃ indent ∈ margin, doubleFrom margin p (.literal x :: pieces) =
      '\\' :: '\n' :: (List.replicate indent ' ' ++
        ((if x = ' ' then ['\\', ' '] else [x]) ++ doubleFrom margin q pieces)) := by
  rw [doubleFrom]
  dsimp only
  split
  · rename_i indent hbreak
    have hmargin : margin = some indent := by
      split_ifs at hbreak
      exact (breaksAt_eq_some hbreak).1
    by_cases hx : x = ' '
    · subst hx
      refine ⟨{ column := indent + 2 }, .inr ⟨indent, hmargin, ?_⟩⟩
      simp [newline, spaces]
    · refine ⟨{ column := indent + 1 }, .inr ⟨indent, hmargin, ?_⟩⟩
      simp [newline, spaces, hx]
  · exact ⟨_, .inl rfl⟩

/-- The line may be continued behind an escape. A space that comes next is marked; the line is then too
short to be continued again. -/
theorem doubleFrom_escaped (p : Place) (written : List Char) (pieces : List Piece)
    (hmargin : ∀ indent ∈ margin, indent < width) : ∃ q,
    doubleFrom margin p (.escaped written :: pieces) = written ++ doubleFrom margin q pieces ∨
    ∃ indent ∈ margin,
      (pieces.head? ≠ some (.literal ' ') ∧ doubleFrom margin p (.escaped written :: pieces) =
        written ++ '\\' :: '\n' :: (List.replicate indent ' ' ++ doubleFrom margin q pieces)) ∨
      ∃ more, pieces = .literal ' ' :: more ∧ doubleFrom margin p (.escaped written :: pieces) =
        written ++ '\\' :: '\n' :: (List.replicate indent ' ' ++
          '\\' :: ' ' :: doubleFrom margin q more) := by
  rw [doubleFrom]
  dsimp only
  split
  · rename_i indent hbreak
    obtain rfl : margin = some indent := by
      split_ifs at hbreak
      exact (breaksAt_eq_some hbreak).1
    by_cases hspace : pieces.head? = some (.literal ' ')
    · obtain ⟨more, rfl⟩ := List.head?_eq_some_iff.mp hspace
      have hshort : Writer.breaksAt (some indent) (indent + 1) = none := by
        rw [Writer.breaksAt, if_neg (Nat.not_lt.mpr (hmargin indent rfl))]
      refine ⟨{ column := indent + 2 }, .inr ⟨indent, rfl, .inr ⟨more, rfl, ?_⟩⟩⟩
      simp [newline, spaces, doubleFrom, hshort]
    · refine ⟨{ column := indent, atSeam := true }, .inr ⟨indent, rfl, .inl ⟨hspace, ?_⟩⟩⟩
      simp [newline, spaces, hspace]
  · exact ⟨_, .inl rfl⟩

/-- What is written for pieces begins with a space only if they do. -/
theorem doubleFrom_solid {text : List Char} (p : Place)
    (h : (text.map Piece.ofChar).head? ≠ some (.literal ' ')) :
    Solid (doubleFrom margin p (text.map Piece.ofChar) ++ '"' :: rest) := by
  cases text with
  | nil => exact ⟨'"', rest, rfl, by decide, by decide⟩
  | cons x text =>
    rw [List.map_cons] at h ⊢
    obtain ⟨w, hpiece, -⟩ | ⟨hpiece, hx, -⟩ := piece_escaped x <;> rw [hpiece] at h ⊢
    · rw [doubleFrom]
      dsimp only
      split <;> exact ⟨'\\', _, rfl, by decide, by decide⟩
    · have hspace : x ≠ ' ' := fun hx => h (by rw [hx]; rfl)
      obtain ⟨q, hwritten | ⟨indent, -, hwritten⟩⟩ :=
        doubleFrom_literal margin p x (text.map Piece.ofChar) <;> rw [hwritten]
      · exact ⟨x, _, rfl, hx, hspace⟩
      · exact ⟨'\\', _, rfl, by decide, by decide⟩

/-- A text is read from between the double quotes that it is written in. Spaces in front of it that
have been written already are read along with it. -/
theorem spells_double {text : List Char} {k : Nat} {p : Place}
    (hmargin : ∀ indent ∈ margin, 0 < indent ∧ indent < width) (hrest : rest.head? ≠ some '\'') :
    Spells true rest
      (List.replicate k ' ' ++ (doubleFrom margin p (text.map Piece.ofChar) ++ '"' :: rest))
      (List.replicate k ' '.toNat ++ codes text) := by
  -- A space may be written along with the escape before it, so the induction goes by length.
  induction hlength : text.length using Nat.strong_induction_on generalizing text k p with
  | h n ih =>
    subst hlength
    cases text with
    | nil => exact (spells_close hrest).spaces k ⟨'"', rest, rfl, by decide, by decide⟩
    | cons x text =>
      have hnext : ∀ k p, Spells true rest
          (List.replicate k ' ' ++ (doubleFrom margin p (text.map Piece.ofChar) ++ '"' :: rest))
          (List.replicate k ' '.toNat ++ codes text) :=
        fun k p => ih text.length (Nat.lt_succ_self _) (k := k) (p := p) rfl
      have hbehind : ∀ p, Spells true rest
          (doubleFrom margin p (text.map Piece.ofChar) ++ '"' :: rest) (codes text) := hnext 0
      obtain ⟨w, hpiece, -, hescape⟩ | ⟨hpiece, hx, hquote, hbackslash⟩ := piece_escaped x
      · refine Spells.spaces k ?_ (doubleFrom_solid p (by rw [List.map_cons, hpiece]; nofun))
        rw [List.map_cons, hpiece]
        obtain ⟨q, hwritten | ⟨indent, hindent, ⟨hhead, hwritten⟩ | ⟨more, hmore, hwritten⟩⟩⟩ :=
          doubleFrom_escaped p ('\\' :: w) (text.map Piece.ofChar) fun m hm => (hmargin m hm).2
        · rw [hwritten, List.append_assoc]
          exact hescape (hbehind q)
        · have hline := (hbehind q).continued (hmargin indent hindent).1 (doubleFrom_solid q hhead)
          rw [hwritten]
          simpa only [List.cons_append, List.append_assoc, codes, List.map_cons] using hescape hline
        · -- The space that comes next is read along with the backslash before it.
          obtain ⟨y, behind, rfl, hy, rfl⟩ := List.map_eq_cons_iff.mp hmore
          obtain rfl : y = ' ' := by
            obtain ⟨_, hpiece, -⟩ | ⟨hpiece, -⟩ := piece_escaped y <;> rw [hpiece] at hy <;> cases hy
            rfl
          have hread : Spells true rest (doubleFrom margin q (behind.map Piece.ofChar) ++ '"' :: rest)
              (codes behind) :=
            ih behind.length (by simp only [List.length_cons]; omega) (k := 0) rfl
          have hline := (hread.shortEscape (e := ' ') rfl).continued (hmargin indent hindent).1
            ⟨'\\', _, rfl, by decide, by decide⟩
          rw [hwritten]
          simpa only [List.cons_append, List.append_assoc, codes, List.map_cons] using hescape hline
      · rw [List.map_cons, hpiece]
        obtain ⟨q, hwritten | ⟨indent, hindent, hwritten⟩⟩ :=
          doubleFrom_literal margin p x (text.map Piece.ofChar)
        · by_cases hspace : x = ' '
          · subst hspace
            have hread := hnext (k + 1) q
            rw [List.replicate_succ', List.replicate_succ', List.append_assoc, List.append_assoc] at hread
            rw [hwritten]
            exact hread
          · rw [hwritten]
            exact ((hbehind q).char hx hspace hquote fun _ => hbackslash).spaces k ⟨x, _, rfl, hx, hspace⟩
        · rw [hwritten]
          refine Spells.spaces k ?_ ⟨'\\', _, rfl, by decide, by decide⟩
          rw [List.cons_append, List.cons_append, List.append_assoc, List.append_assoc]
          by_cases hspace : x = ' '
          · subst hspace
            exact ((hbehind q).shortEscape (e := ' ') rfl).continued (hmargin indent hindent).1
              ⟨'\\', _, rfl, by decide, by decide⟩
          · rw [if_neg hspace]
            exact ((hbehind q).char hx hspace hquote fun _ => hbackslash).continued
              (hmargin indent hindent).1 ⟨x, _, rfl, hx, hspace⟩

end Double

end LintConfig.Yaml.Scalar
