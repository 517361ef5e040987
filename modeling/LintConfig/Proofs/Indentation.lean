import LintConfig.Proofs.Failing
import LintConfig.Proofs.Tally
import LintConfig.Style.Analysis

/-! # Which lines tell something about indentation

A line that is not blank tells something unless it begins inside of a template or of a block
comment. Comments are recognised by a star at the beginning of the line instead. Given its lines,
the tally is what the steps between neighbours are; the two notions of a line agree exactly if stars
and comments go together. -/
namespace LintConfig.Style.Indentation
open Ecma (Program Span)

/-- The spaces and tabs that a line begins with. -/
def leading (line : List Char) : List Char := line.takeWhile isIndent

/-- Does a line that follows another one show a candidate? -/
def shows (previous next : List Char) : Candidate → Bool
  | .word w =>
    (leading previous).length < (leading next).length && w == "tab" && (leading next).contains '\t'
  | .number n =>
    (leading previous).length < (leading next).length &&
      !(leading next).contains '\t' && !(leading previous).contains '\t' &&
      (leading next).length - (leading previous).length ≤ 8 &&
      n == (((leading next).length - (leading previous).length : Nat) : Int)

/-- How many lines of a list show a candidate, each compared with the line before it. -/
def timesShown (v : Candidate) (previous : List Char) : List (List Char) → Nat
  | [] => 0
  | next :: rest => (if shows previous next v then 1 else 0) + timesShown v next rest

/-- Does a line tell something, given the stretches of templates and comments? -/
def isTelling (templates comments : List Span) (start : Nat) (line : List Char) : Bool :=
  !Text.isAllBlank line && !templates.any (isInside start) && !comments.any (isInside start)

/-- The lines of a text that are chosen by where they start and what they are. -/
def linesWhere (chosen : Nat → List Char → Bool) (text : List Char) : List (Nat × List Char) :=
  (numbered 0 (Text.lines text)).filter fun (start, line) => chosen start line

/-- The lines that are compared. -/
def comparedLines (p : Program) (text : List Char) : List (Nat × List Char) :=
  linesWhere (isSignificant (templateSpans p.tree.visits)) text

/-- The lines that tell something. -/
def tellingLines (p : Program) (text : List Char) : List (Nat × List Char) :=
  linesWhere (isTelling (templateSpans p.tree.visits) p.comments) text

/-- The lines that are compared are those that tell something, and each candidate is counted as often
as they show it. -/
structure Faithful (p : Program) (text : List Char) (t : Tally) : Prop where
  lines : comparedLines p text = tellingLines p text
  counts : ∀ v, t.count v = timesShown v [] ((tellingLines p text).map (·.2))

/-- Outside of templates, the lines that begin with a star are those inside of block comments. -/
def StarsMarkComments (p : Program) (text : List Char) : Prop :=
  ∀ e ∈ numbered 0 (Text.lines text), Text.isAllBlank e.2 = false →
    (templateSpans p.tree.visits).any (isInside e.1) = false →
    ((e.2.dropWhile isIndent).head? = some '*' ↔ p.comments.any (isInside e.1) = true)

instance (p : Program) (text : List Char) : Decidable (StarsMarkComments p text) :=
  inferInstanceAs (Decidable (∀ e ∈ numbered 0 (Text.lines text), Text.isAllBlank e.2 = false →
    (templateSpans p.tree.visits).any (isInside e.1) = false →
    ((e.2.dropWhile isIndent).head? = some '*' ↔ p.comments.any (isInside e.1) = true)))

/-! ### Counting steps -/

theorem step_eq_some {previous next : List Char} {v : Candidate} :
    step? (Indent.ofLine previous) (Indent.ofLine next) = some v ↔ shows previous next v = true := by
  have hleading : ∀ line, line.takeWhile isIndent = leading line := fun _ => rfl
  simp only [step?, Indent.ofLine, deepestStep, hleading]
  cases v with
  | word w =>
    simp only [shows]
    generalize (leading previous).length = m
    generalize (leading next).length = n
    cases (leading next).contains '\t' <;> by_cases hlt : m < n <;>
      simp [hlt, eq_comm (a := "tab")]
  | number k =>
    simp only [shows]
    generalize (leading previous).length = m
    generalize (leading next).length = n
    cases (leading next).contains '\t' <;> cases (leading previous).contains '\t' <;>
      by_cases hlt : m < n <;> simp [hlt, eq_comm (a := k)]

theorem count_steps (v : Candidate) (previous : List Char) (lines : List (List Char)) :
    (steps (Indent.ofLine previous) (lines.map Indent.ofLine)).count v =
      timesShown v previous lines := by
  induction lines generalizing previous with
  | nil => rfl
  | cons next rest ih =>
    rw [List.map_cons, steps, List.count_append, ih, timesShown]
    congr 1
    cases hstep : step? (Indent.ofLine previous) (Indent.ofLine next) with
    | none =>
      have : shows previous next v ≠ true := fun h => by simp [step_eq_some.mpr h] at hstep
      simp [this]
    | some w =>
      by_cases hw : w = v
      · rw [hw] at hstep ⊢
        simp [step_eq_some.mp hstep]
      · have : shows previous next v ≠ true := fun h =>
          hw (Option.some.inj (hstep.symm.trans (step_eq_some.mpr h)))
        simp [this, hw]

/-- Each candidate is counted as often as the lines that are compared show it. -/
theorem count_tally (p : Program) (text : List Char) (v : Candidate) :
    (tally (templateSpans p.tree.visits) text).count v =
      timesShown v [] ((comparedLines p text).map (·.2)) := by
  rw [tally, Tally.count_ofList, ← count_steps]
  simp only [indents, comparedLines, linesWhere, List.map_map]
  rfl

/-! ### Choosing lines -/

theorem isBlank_of_isIndent {c : Char} (h : isIndent c = true) : Text.isBlank c = true := by
  simp only [isIndent, Bool.or_eq_true, beq_iff_eq] at h
  rcases h with rfl | rfl <;> rfl

theorem isAllBlank_dropWhile (line : List Char) :
    Text.isAllBlank (line.dropWhile isIndent) = Text.isAllBlank line := by
  induction line with
  | nil => rfl
  | cons c line ih =>
    by_cases hc : isIndent c = true
    · rw [List.dropWhile_cons_of_pos hc, ih]
      simp [Text.isAllBlank, isBlank_of_isIndent hc]
    · rw [List.dropWhile_cons_of_neg hc]

/-- The two notions of a line agree on a line exactly if a star at its beginning means the same as
its place in a comment. -/
theorem isSignificant_eq_isTelling_iff {templates comments : List Span} {start : Nat}
    {line : List Char} :
    isSignificant templates start line = isTelling templates comments start line ↔
      (Text.isAllBlank line = false → templates.any (isInside start) = false →
        ((line.dropWhile isIndent).head? = some '*' ↔ comments.any (isInside start) = true)) := by
  simp only [isSignificant, isTelling, isAllBlank_dropWhile]
  cases Text.isAllBlank line
  · cases templates.any (isInside start)
    · by_cases hstar : (line.dropWhile isIndent).head? = some '*'
      · cases comments.any (isInside start) <;> simp [hstar]
      · cases comments.any (isInside start) <;> simp [hstar]
    · simp
  · simp

theorem linesWhere_eq_iff {f g : Nat → List Char → Bool} {text : List Char} :
    linesWhere f text = linesWhere g text ↔
      ∀ e ∈ numbered 0 (Text.lines text), f e.1 e.2 = g e.1 e.2 := by
  constructor
  · intro h e he
    by_contra hne
    cases hf : f e.1 e.2 with
    | true =>
      have hmem : e ∈ linesWhere f text := List.mem_filter.mpr ⟨he, hf⟩
      rw [h] at hmem
      exact hne (hf.trans (List.mem_filter.mp hmem).2.symm)
    | false =>
      have hg : g e.1 e.2 = true := by simpa [hf] using hne
      have hmem : e ∈ linesWhere g text := List.mem_filter.mpr ⟨he, hg⟩
      rw [← h] at hmem
      exact hne ((List.mem_filter.mp hmem).2.trans hg.symm)
  · exact fun h => List.filter_congr h

/-- For a text that is analysed, the lines that are compared and the counts they give are the right
ones exactly if stars mark comments. -/
theorem analyze_faithful_iff {markup : Bool} {text : String} {s : Statistic}
    (h : analyze markup text = .ok s) :
    ∃ p, Ecma.parse markup (withoutMark text.toList) = .ok p ∧
      (Faithful p (withoutMark text.toList) s.counts.indent ↔
        StarsMarkComments p (withoutMark text.toList)) := by
  obtain ⟨p, hp, hs⟩ := Failing.bind_eq_ok.mp h
  cases hs
  refine ⟨p, hp, ?_⟩
  have hlines : comparedLines p (withoutMark text.toList) =
      tellingLines p (withoutMark text.toList) ↔
      StarsMarkComments p (withoutMark text.toList) := by
    rw [comparedLines, tellingLines, linesWhere_eq_iff]
    exact forall₂_congr fun e _ => isSignificant_eq_isTelling_iff
  constructor
  · exact fun hf => hlines.mp hf.lines
  · intro hstars
    have heq := hlines.mpr hstars
    exact ⟨heq, fun v => by rw [← heq]; exact count_tally p _ v⟩

/-- A text whose comment has a star in every line. -/
def starred : String := "/*\n * a\n */\nif (b) \x7b\n    c;\n\x7d\n"

theorem analyze_faithful_starred :
    ∃ s p, analyze false starred = .ok s ∧
      Ecma.parse false starred.toList = .ok p ∧
      Faithful p starred.toList s.counts.indent := by
  obtain ⟨s, hs⟩ := Failing.exists_ok_of_isSome
    (x := analyze false starred) (by decide +kernel)
  obtain ⟨p, hp, hiff⟩ := analyze_faithful_iff hs
  obtain ⟨q, hq, hstars⟩ := Failing.exists_ok_of_any
    (x := Ecma.parse false starred.toList)
    (f := fun p => decide (StarsMarkComments p starred.toList))
    (by decide +kernel)
  obtain rfl : q = p := Except.ok.inj (hq.symm.trans hp)
  exact ⟨s, q, hs, hp, hiff.mpr (of_decide_eq_true hstars)⟩

/-- A text whose comment has lines without a star. -/
def unstarred : String := "/*\n   a\n     b\n*/\nc;\n"

/-- Lines of a comment that begin with no star are compared, though they tell nothing. -/
theorem analyze_unstarred :
    ∃ s p, analyze false unstarred = .ok s ∧
      Ecma.parse false unstarred.toList = .ok p ∧
      s.counts.indent.count (.number 3) = 1 ∧
      timesShown (.number 3) [] ((tellingLines p unstarred.toList).map (·.2)) = 0 := by
  obtain ⟨s, hs, hcount⟩ := Failing.exists_ok_of_any
    (x := analyze false unstarred)
    (f := fun s => s.counts.indent.count (.number 3) == 1) (by decide +kernel)
  obtain ⟨p, hp, htimes⟩ := Failing.exists_ok_of_any
    (x := Ecma.parse false unstarred.toList)
    (f := fun p => timesShown (.number 3) []
      ((tellingLines p unstarred.toList).map (·.2)) == 0) (by decide +kernel)
  exact ⟨s, p, hs, hp, beq_iff_eq.mp hcount, beq_iff_eq.mp htimes⟩

end LintConfig.Style.Indentation
