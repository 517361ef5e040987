import LintConfig.Proofs.Candidates
import LintConfig.Proofs.Indentation
import LintConfig.Proofs.Joining

/-! # Steady indentation is recognised

A text is indented steadily if each of its lines that tell something goes at most one unit of spaces
deeper than the one before it, or if it is indented with tabs alone. It shows this unit and no other,
once with each line that is deeper. So do many such texts, whatever share of the observations a unit
must have. -/
namespace LintConfig.Style
open Ecma (Span)
open Number (Double)

namespace Indentation

/-! ### Steady lines -/

/-- Does a line keep to a unit of indentation, after a line of some width? -/
def Fits (unit : Candidate) (previous : Nat) (line : List Char) : Prop :=
  match unit with
  | .number n => (leading line).all (· == ' ') = true ∧ n ∣ ((leading line).length : Int) ∧
      ((leading line).length : Int) ≤ previous + n
  | .word _ => (leading line).all (· == '\t') = true

/-- All lines keep to a unit, each after the one before it. -/
def Steady (unit : Candidate) (previous : Nat) : List (List Char) → Prop
  | [] => True
  | line :: rest => Fits unit previous line ∧ Steady unit (leading line).length rest

instance (unit : Candidate) (previous : Nat) (line : List Char) :
    Decidable (Fits unit previous line) :=
  match unit with
  | .number n => inferInstanceAs (Decidable ((leading line).all (· == ' ') = true ∧
      n ∣ ((leading line).length : Int) ∧ ((leading line).length : Int) ≤ previous + n))
  | .word _ => inferInstanceAs (Decidable ((leading line).all (· == '\t') = true))

instance decidableSteady (unit : Candidate) (previous : Nat) :
    (lines : List (List Char)) → Decidable (Steady unit previous lines)
  | [] => .isTrue trivial
  | line :: rest =>
    have := decidableSteady unit (leading line).length rest
    inferInstanceAs (Decidable (Fits unit previous line ∧ Steady unit (leading line).length rest))

/-- How many lines are deeper than the one before them. -/
def deeper (previous : Nat) : List (List Char) → Nat
  | [] => 0
  | line :: rest =>
    (if previous < (leading line).length then 1 else 0) + deeper (leading line).length rest

/-- The lines of a text that tell something, given the stretches that are skipped. -/
def significantLines (skipped : List Span) (text : List Char) : List (List Char) :=
  (linesWhere (isSignificant skipped) text).map (·.2)

/-- What is known of the line before when all lines up to it keep to a unit. -/
def Indent.Fitted (unit : Candidate) (i : Indent) : Prop :=
  ∀ n, unit = .number n → i.hasTab = false ∧ n ∣ (i.width : Int)

section Steps
variable {unit : Candidate} {previous : Indent} {line : List Char}

theorem mem_candidates_indent : unit ∈ Rule.indent.candidates ↔
    unit = .word "tab" ∨ ∃ n : Int, 1 ≤ n ∧ n ≤ 8 ∧ unit = .number n := by
  simp only [Rule.candidates, deepestStep, List.mem_cons, List.mem_map, List.mem_range]
  refine or_congr_right ⟨?_, ?_⟩
  · rintro ⟨k, hk, rfl⟩
    exact ⟨_, by omega, by omega, rfl⟩
  · rintro ⟨n, hpos, hle, rfl⟩
    refine ⟨(n - 1).toNat, by omega, ?_⟩
    congr 1
    omega

theorem Fits.fitted (h : Fits unit previous.width line) : (Indent.ofLine line).Fitted unit := by
  rintro n rfl
  obtain ⟨hspaces, hdvd, -⟩ := h
  refine ⟨?_, hdvd⟩
  rw [Indent.ofLine, List.contains_eq_mem, decide_eq_false_iff_not]
  intro htab
  exact absurd (List.all_eq_true.mp hspaces _ htab) (by decide)

/-- Only a line that is deeper shows something, and this is the unit. -/
theorem Fits.step_eq (h : Fits unit previous.width line) (hprevious : previous.Fitted unit)
    (hunit : unit ∈ Rule.indent.candidates) :
    step? previous (Indent.ofLine line) =
      if previous.width < (leading line).length then some unit else none := by
  have hfitted := h.fitted
  unfold step?
  change (if previous.width < (leading line).length then _ else _) = _
  split
  · rename_i hdeeper
    obtain rfl | ⟨n, hpos, hle, rfl⟩ := mem_candidates_indent.mp hunit
    · have htab : (Indent.ofLine line).hasTab = true := by
        obtain ⟨c, hc⟩ := List.exists_mem_of_length_pos (Nat.zero_lt_of_lt hdeeper)
        rw [Indent.ofLine, List.contains_eq_mem, decide_eq_true_eq]
        exact beq_iff_eq.mp (List.all_eq_true.mp h c hc) ▸ hc
      rw [htab, if_pos rfl]
    · obtain ⟨-, -, hstep⟩ := h
      obtain ⟨hnotab, hdvd⟩ := hfitted n rfl
      obtain ⟨hnotab', hdvd'⟩ := hprevious n rfl
      have hwidth : (Indent.ofLine line).width = (leading line).length := rfl
      -- the line is deeper by a multiple of the unit that is no more than the unit
      obtain ⟨k, hk⟩ := dvd_sub hdvd hdvd'
      rw [hwidth] at hk
      have hle : k ≤ 1 := le_of_mul_le_mul_left (by omega : n * k ≤ n * 1) (by omega)
      have hlt : 0 < k := lt_of_mul_lt_mul_left (by omega : n * 0 < n * k) (by omega)
      obtain rfl : k = 1 := by omega
      have hdeep : (leading line).length - previous.width ≤ deepestStep := by
        unfold deepestStep
        omega
      rw [hnotab, hnotab', hwidth, if_neg Bool.false_ne_true, if_pos (by simpa using hdeep)]
      congr 2
      omega
  · rfl

theorem steps_of_steady (hunit : unit ∈ Rule.indent.candidates) {lines : List (List Char)}
    (h : Steady unit previous.width lines) (hprevious : previous.Fitted unit) :
    steps previous (lines.map Indent.ofLine) =
      List.replicate (deeper previous.width lines) unit := by
  induction lines generalizing previous with
  | nil => rfl
  | cons line rest ih =>
    obtain ⟨hfits, hrest⟩ := h
    have hsteps := @ih (Indent.ofLine line) hrest hfits.fitted
    rw [List.map_cons, steps, hsteps, hfits.step_eq hprevious hunit, deeper, List.replicate_add]
    split <;> rfl

end Steps

end Indentation

/-! ### One candidate alone -/

namespace Tally

/-- A tally of a single candidate. -/
def alone (c : Candidate) (k : Nat) : Tally := if k = 0 then [] else [(c, k)]

theorem observe_alone (c : Candidate) (k : Nat) : (alone c k).observe c = alone c (k + 1) := by
  cases k with
  | zero => rfl
  | succ k => simp [alone, observe, set, count]

/-- Whatever is observed again and again is counted alone. -/
theorem ofList_replicate (c : Candidate) (k : Nat) : ofList (List.replicate k c) = alone c k := by
  induction k with
  | zero => rfl
  | succ k ih =>
    rw [List.replicate_succ', ofList, List.foldl_append]
    change (ofList (List.replicate k c)).observe c = _
    rw [ih, observe_alone]

theorem count_alone (c d : Candidate) (k : Nat) : (alone c k).count d = if c = d then (k : Int) else 0 := by
  cases k with
  | zero => simp [alone, count]
  | succ k => simp [alone, count]

end Tally

/-- The whole is a larger share than any threshold asks for. -/
theorem exceeds_whole {x : Double} (hx : Settings.isThreshold x = true) {n : Int} (hpos : 0 < n) :
    Exceeds x n n := by
  have hone : Exceeds x 1 1 := ⟨by decide, (Bool.and_eq_true_iff.mp hx).2⟩
  obtain ⟨m, e, rfl, -⟩ := threshold_finite hx
  exact hone.mono ⟨by decide, le_rfl⟩ ⟨hpos.le, le_rfl⟩ hpos (by rw [one_mul, mul_one])

/-- A candidate that is observed alone is demanded. -/
theorem Statistic.Natural.resolve_alone {s : Statistic} {x : Double} {r : Rule} {v : Candidate}
    (hs : s.Natural) (hx : Settings.isThreshold x = true) (hrep : x.Representable)
    (halone : ∀ w, w ≠ v → s.count r w = 0) (hpos : 0 < s.count r v) :
    ∃ f, s.resolve x = .ok f ∧ f.rules.get? r.name = some (.error v.value) := by
  obtain ⟨o, hf, hspec⟩ := hs.resolve_spec hx hrep
  refine ⟨_, hf, ?_⟩
  have htotal : (s.counts.of r).total = s.count r v := Tally.total_of_alone (hs r) halone
  have ho : o r = some v := by
    rw [hspec, htotal]
    exact exceeds_whole hx hpos
  rw [get?_rules, ho]
  rfl

namespace Indentation

/-! ### Texts and many texts -/

/-- The lines of a source text, as far as they tell something and the text can be parsed, keep to a
unit. -/
def IsSteady (unit : Candidate) (markup : Bool) (text : String) : Prop :=
  ∀ p, Ecma.parse markup (withoutMark text.toList) = .ok p →
    Steady unit 0 (significantLines (templateSpans p.tree.visits) (withoutMark text.toList))

/-- A source text has a line that is deeper than the one before it. -/
def Deepens (markup : Bool) (text : String) : Prop :=
  ∃ p, Ecma.parse markup (withoutMark text.toList) = .ok p ∧
    0 < deeper 0 (significantLines (templateSpans p.tree.visits) (withoutMark text.toList))

section Texts
variable {unit : Candidate} {markup : Bool}

/-- A steady text shows its unit with each deeper line, and nothing else. -/
theorem tally_of_steady (hunit : unit ∈ Rule.indent.candidates) {skipped : List Span}
    {text : List Char} (h : Steady unit 0 (significantLines skipped text)) :
    tally skipped text = .alone unit (deeper 0 (significantLines skipped text)) := by
  have hindents : indents skipped text = (significantLines skipped text).map Indent.ofLine := by
    rw [significantLines, List.map_map]
    rfl
  have hnone : Indent.none.Fitted unit := fun n _ => ⟨rfl, dvd_zero n⟩
  have hsteps := @steps_of_steady unit .none hunit _ h hnone
  rw [tally, hindents, hsteps, Tally.ofList_replicate]
  rfl

theorem counts_of_steady (hunit : unit ∈ Rule.indent.candidates) {text : String} {s : Statistic}
    (hs : analyze markup text = .ok s) (h : IsSteady unit markup text) :
    (∀ w, w ≠ unit → s.count .indent w = 0) ∧
      (Deepens markup text → 0 < s.count .indent unit) := by
  obtain ⟨p, hp, hcounts⟩ := Failing.bind_eq_ok.mp hs
  have hindent : s.counts.indent =
      tally (templateSpans p.tree.visits) (withoutMark text.toList) := by
    rw [← Except.ok.inj hcounts]
    rfl
  rw [tally_of_steady hunit (h p hp)] at hindent
  have hcount : ∀ w, s.count .indent w = if unit = w then (deeper 0
      (significantLines (templateSpans p.tree.visits) (withoutMark text.toList)) : Int) else 0 := by
    intro w
    rw [← Tally.count_alone, ← hindent]
    rfl
  refine ⟨fun w hw => by rw [hcount, if_neg hw.symm], ?_⟩
  rintro ⟨q, hq, hdeeper⟩
  obtain rfl : q = p := Except.ok.inj (hq.symm.trans hp)
  rw [hcount, if_pos rfl]
  exact_mod_cast hdeeper

/-- Statistics that count a unit and nothing else come to one that demands it, however they are
merged. -/
theorem resolve_units {g : Statistic.Grouping} {x : Double} (hx : Settings.isThreshold x = true)
    (hrep : x.Representable) (hnatural : ∀ s ∈ g.parts, s.Natural)
    (halone : ∀ s ∈ g.parts, ∀ w, w ≠ unit → s.count .indent w = 0)
    (hdeeper : ∃ s ∈ g.parts, 0 < s.count .indent unit) :
    ∃ f, g.merged.resolve x = .ok f ∧ f.rules.get? "indent" = some (.error unit.value) := by
  refine (Statistic.Grouping.natural_merged hnatural).resolve_alone (r := .indent) hx hrep ?_ ?_
  · intro w hw
    rw [Statistic.Grouping.count_merged hnatural]
    refine List.sum_eq_zero fun n hn => ?_
    obtain ⟨s, hs, rfl⟩ := List.mem_map.mp hn
    exact halone s hs w hw
  · rw [Statistic.Grouping.count_merged hnatural]
    obtain ⟨s, hs, hpos⟩ := hdeeper
    have hnonneg : ∀ n ∈ g.parts.map fun s => s.count .indent unit, 0 ≤ n := by
      intro n hn
      obtain ⟨s, hs, rfl⟩ := List.mem_map.mp hn
      exact (hnatural s hs .indent).count_nonneg unit
    exact hpos.trans_le (List.single_le_sum hnonneg _ (List.mem_map_of_mem hs))

/-- A file shows no other unit than that of its text. -/
theorem shown_of_steady (hunit : unit ∈ Rule.indent.candidates) {root : Files.Tree} {p : Files.Path}
    (h : ∀ text, Inference.textOf? root p = some text → IsSteady unit markup text) :
    (∀ w, w ≠ unit → Inference.shown root markup .indent w p = 0) ∧
      ∀ text, Inference.textOf? root p = some text → Deepens markup text →
        0 < Inference.shown root markup .indent unit p := by
  unfold Inference.shown
  cases htext : Inference.textOf? root p with
  | none => exact ⟨fun w _ => rfl, nofun⟩
  | some text =>
    dsimp only
    cases hs : analyze markup text with
    | error e =>
      refine ⟨fun w _ => rfl, fun text' htext' hdeepens => ?_⟩
      obtain rfl := Option.some.inj htext'
      obtain ⟨q, hq, -⟩ := hdeepens
      rw [analyze, hq] at hs
      cases hs
    | ok s =>
      obtain ⟨halone, hpos⟩ := counts_of_steady hunit hs (h text htext)
      refine ⟨halone, fun text' htext' hdeepens => ?_⟩
      obtain rfl := Option.some.inj htext'
      exact hpos hdeepens

end Texts

/-- A text with steady indentation shows its unit once with each deeper line, and no other one. Texts
that share a unit and are merged in any way, with a deeper line in one of them, are found to
demand it. So is a project of such files. -/
theorem resolve_steady {unit : Candidate} (hunit : unit ∈ Rule.indent.candidates) :
    (∀ skipped text, Steady unit 0 (significantLines skipped text) →
      tally skipped text = .alone unit (deeper 0 (significantLines skipped text))) ∧
    ∀ (markup : Bool) (x : Double), Settings.isThreshold x = true → x.Representable →
      (∀ (texts : List String) (g : Statistic.Grouping), texts.mapM (analyze markup) = .ok g.parts →
        (∀ text ∈ texts, IsSteady unit markup text) → (∃ text ∈ texts, Deepens markup text) →
        ∃ f, g.merged.resolve x = .ok f ∧ f.rules.get? "indent" = some (.error unit.value)) ∧
      ∀ (root : Files.Tree) (files : List Files.Path) (s : Statistic),
        Scan.scanFiles root markup files = .ok s →
        (∀ p ∈ files, ∀ text, Inference.textOf? root p = some text → IsSteady unit markup text) →
        (∃ p ∈ files, ∃ text, Inference.textOf? root p = some text ∧ Deepens markup text) →
        ∃ f, s.resolve x = .ok f ∧ f.rules.get? "indent" = some (.error unit.value) := by
  refine ⟨fun skipped text => tally_of_steady hunit, fun markup x hx hrep => ⟨?_, ?_⟩⟩
  · intro texts g hparts hsteady hdeepens
    have hfrom : ∀ s ∈ g.parts, ∃ text ∈ texts, analyze markup text = .ok s := fun s hs =>
      Failing.exists_of_mem_mapM hparts hs
    refine resolve_units hx hrep ?_ ?_ ?_
    · intro s hs r
      obtain ⟨text, -, h⟩ := hfrom s hs
      exact (Inference.proper_analyze h r).natural
    · intro s hs
      obtain ⟨text, htext, h⟩ := hfrom s hs
      exact (counts_of_steady hunit h (hsteady text htext)).1
    · obtain ⟨text, htext, hdeeper⟩ := hdeepens
      obtain ⟨s, h⟩ := Failing.forall_of_mapM_ok hparts htext
      exact ⟨s, Failing.mem_of_mapM hparts htext h,
        (counts_of_steady hunit h (hsteady text htext)).2 hdeeper⟩
  · intro root files s hscan hsteady hdeepens
    obtain ⟨parts, hparts, hs⟩ := Failing.bind_eq_ok.mp hscan
    cases hs
    have hfrom : ∀ s ∈ parts, ∃ p ∈ files, Scan.analyzeFile root markup p = .ok s := fun s hs =>
      Failing.exists_of_mem_mapM hparts hs
    rw [← Statistic.Grouping.merged_ofList]
    refine resolve_units hx hrep ?_ ?_ ?_
    · intro s hs r
      rw [Statistic.Grouping.parts_ofList] at hs
      obtain ⟨p, -, h⟩ := hfrom s hs
      exact (Inference.analyzeFile_counts h r).1.natural
    · intro s hs w hw
      rw [Statistic.Grouping.parts_ofList] at hs
      obtain ⟨p, hp, h⟩ := hfrom s hs
      exact ((Inference.analyzeFile_counts h .indent).2 w).trans
        ((shown_of_steady hunit (hsteady p hp)).1 w hw)
    · obtain ⟨p, hp, text, htext, hdeeper⟩ := hdeepens
      obtain ⟨s, h⟩ := Failing.forall_of_mapM_ok hparts hp
      rw [Statistic.Grouping.parts_ofList]
      refine ⟨s, Failing.mem_of_mapM hparts hp h, ?_⟩
      have hshown : s.count .indent unit = Inference.shown root markup .indent unit p :=
        (Inference.analyzeFile_counts h .indent).2 unit
      rw [hshown]
      exact (shown_of_steady hunit (hsteady p hp)).2 text htext hdeeper

/-- A block within a block, and a comment that is aligned in its own way. -/
def nested : String := "if (a) \x7b\n  /*\n   * b\n   */\n  if (c) \x7b\n    d();\n  \x7d\n\x7d\n"

theorem resolve_steady_nested :
    ∃ s f, analyze false nested = .ok s ∧ IsSteady (.number 2) false nested ∧
      Deepens false nested ∧ s.resolve defaultThreshold = .ok f ∧
      f.rules.get? "indent" = some (.error (.integer 2)) := by
  obtain ⟨s, hs⟩ := Failing.exists_ok_of_isSome (x := analyze false nested) (by decide +kernel)
  obtain ⟨p, hp, hlines⟩ := Failing.exists_ok_of_any
    (x := Ecma.parse false (withoutMark nested.toList))
    (f := fun p =>
      let lines := significantLines (templateSpans p.tree.visits) (withoutMark nested.toList)
      decide (Steady (.number 2) 0 lines ∧ 0 < deeper 0 lines))
    (by decide +kernel)
  obtain ⟨hsteady, hdeeper⟩ := of_decide_eq_true hlines
  have hall : IsSteady (.number 2) false nested := by
    intro q hq
    obtain rfl : q = p := Except.ok.inj (hq.symm.trans hp)
    exact hsteady
  have hdeepens : Deepens false nested := ⟨p, hp, hdeeper⟩
  obtain ⟨f, hf, hrule⟩ := ((@resolve_steady (.number 2) (by decide)).2 false
    defaultThreshold isThreshold_default representable_default).1 [nested] (.single s)
    (by rw [List.mapM_cons, hs]; rfl)
    (fun text htext => List.mem_singleton.mp htext ▸ hall)
    ⟨nested, List.mem_singleton_self _, hdeepens⟩
  exact ⟨s, f, hs, hall, hdeepens, hf, hrule⟩

end Indentation

end LintConfig.Style
