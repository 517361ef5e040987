import LintConfig.Text.Blank
import LintConfig.Value.Text

/-! # The words of texts

Texts that are put together with spaces between them have the words of each of them, one after the
other. The letters of the words are the letters of the text. -/
namespace LintConfig.Text

theorem words_cons_blank {c : Char} (h : isBlank c = true) (rest : List Char) :
    words (c :: rest) = words rest := by
  simp [words.eq_def (c :: rest), h]

/-- What a character in front of a text does to its first word. -/
theorem words_cons_solid {c d : Char} (hc : isBlank c = false) (hd : isBlank d = false)
    (rest : List Char) :
    ∃ word later, words (d :: rest) = word :: later ∧
      words (c :: d :: rest) = (c :: word) :: later := by
  have hsome : ∃ word later, words (d :: rest) = word :: later := by
    rw [words.eq_def]
    simp only [hd, Bool.false_eq_true, if_false]
    split
    · exact ⟨_, _, rfl⟩
    · split
      · exact ⟨_, _, rfl⟩
      · split <;> exact ⟨_, _, rfl⟩
  obtain ⟨word, later, hword⟩ := hsome
  refine ⟨word, later, hword, ?_⟩
  rw [words.eq_def]
  simp only [hc, hd, Bool.false_eq_true, if_false, hword]

theorem words_append_blank {c : Char} (h : isBlank c = true) (text rest : List Char) :
    words (text ++ c :: rest) = words text ++ words rest := by
  induction text with
  | nil => simp [words_cons_blank h, words]
  | cons a text ih =>
    by_cases ha : isBlank a = true
    · rw [List.cons_append, words_cons_blank ha, words_cons_blank ha, ih]
    · rw [Bool.not_eq_true] at ha
      cases text with
      | nil => simp [words, ha, h]
      | cons b text =>
        by_cases hb : isBlank b = true
        · have hstep : ∀ more, words (a :: b :: more) = [a] :: words (b :: more) := by
            intro more
            rw [words, if_neg (by simp [ha])]
            simp only [hb, if_true]
          rw [List.cons_append, List.cons_append, hstep, hstep, ← List.cons_append, ih,
            List.cons_append]
        · rw [Bool.not_eq_true] at hb
          obtain ⟨word, later, hword, hwords⟩ := words_cons_solid ha hb text
          obtain ⟨word', later', hword', hwords'⟩ := words_cons_solid ha hb (text ++ c :: rest)
          rw [List.cons_append, List.cons_append, hwords', hwords]
          rw [List.cons_append, hword', hword, List.cons_append, List.cons.injEq] at ih
          rw [ih.1, ih.2, List.cons_append]

/-- A text without white space is one word, unless it is empty. -/
theorem words_solid {text : List Char} (h : ∀ c ∈ text, isBlank c = false) :
    words text = if text = [] then [] else [text] := by
  induction text with
  | nil => rfl
  | cons c text ih =>
    have hc := h c List.mem_cons_self
    have ih := ih fun d hd => h d (List.mem_cons_of_mem _ hd)
    rw [if_neg (by simp)]
    cases text with
    | nil => simp [words, hc]
    | cons d text =>
      obtain ⟨word, later, hword, hwords⟩ :=
        words_cons_solid hc (h d (List.mem_cons_of_mem _ List.mem_cons_self)) text
      rw [if_neg (by simp), hword, List.cons.injEq] at ih
      rw [hwords, ih.1, ih.2]

/-- The letters of the words are those of the text. -/
theorem flatten_words (text : List Char) :
    (words text).flatten = text.filter fun c => !isBlank c := by
  induction text with
  | nil => rfl
  | cons c text ih =>
    by_cases hc : isBlank c = true
    · rw [words_cons_blank hc, ih, List.filter_cons_of_neg (by simp [hc])]
    · rw [Bool.not_eq_true] at hc
      rw [List.filter_cons_of_pos (by simp [hc]), ← ih]
      cases text with
      | nil => simp [words, hc]
      | cons d text =>
        by_cases hd : isBlank d = true
        · rw [words, if_neg (by simp [hc])]
          simp only [hd, if_true]
          simp
        · rw [Bool.not_eq_true] at hd
          obtain ⟨word, later, hword, hwords⟩ := words_cons_solid hc hd text
          rw [hwords, hword]
          simp

/-- Each character of a text is a word of its own exactly if no word has more of them. -/
theorem words_eq_characters_iff (text : List Char) :
    words text = (text.filter fun c => !isBlank c).map (fun c => [c]) ↔
      ∀ word ∈ words text, word.length = 1 := by
  have hsingles : ∀ ws : List (List Char), (∀ w ∈ ws, w.length = 1) →
      ws = ws.flatten.map fun c => [c] := by
    intro ws h
    induction ws with
    | nil => rfl
    | cons w ws ih =>
      obtain ⟨c, rfl⟩ := List.length_eq_one_iff.mp (h w List.mem_cons_self)
      rw [List.flatten_cons, List.map_append, ← ih fun v hv => h v (List.mem_cons_of_mem _ hv)]
      rfl
  constructor
  · intro h word hword
    rw [h] at hword
    obtain ⟨c, -, rfl⟩ := List.mem_map.mp hword
    rfl
  · intro h
    rw [← flatten_words]
    exact hsingles _ h

theorem words_characters (text : List Char) :
    (text.flatMap fun c => words [c]) = (text.filter fun c => !isBlank c).map fun c => [c] := by
  induction text with
  | nil => rfl
  | cons c text ih =>
    rw [List.flatMap_cons, ih]
    by_cases hc : isBlank c = true <;> simp [words, hc]

/-- Texts put together with spaces between them have the words of each of them. -/
theorem words_joined (texts : List String) :
    words (joined " " texts).toList = texts.flatMap fun s => words s.toList := by
  induction texts with
  | nil => rfl
  | cons s texts ih =>
    cases texts with
    | nil => simp [joined]
    | cons t texts =>
      have hsplit : (joined " " (s :: t :: texts)).toList =
          s.toList ++ ' ' :: (joined " " (t :: texts)).toList := by
        simp [joined]
      rw [hsplit, words_append_blank (by decide), ih]
      rfl

end LintConfig.Text
