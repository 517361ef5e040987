import LintConfig.Proofs.Inference

/-! # What sources can be found to do

Of each rule there are few candidates. A source text shows no others, and neither do many of them
together; so a setting that is inferred demands one of the candidates of its rule, however large the
share is that a candidate must exceed. -/
namespace LintConfig.Style
open Number (Double)

/-- The candidates for the setting of a rule. -/
def Rule.candidates : Rule → List Candidate
  | .indent => .word "tab" :: (List.range Indentation.deepestStep).map fun n => .number (n + 1 : Nat)
  | .quotes => [.word "single", .word "double"]
  | .linebreak => [.word "unix", .word "windows"]
  | .semi => [.word "always", .word "never"]

/-! ### One text -/

namespace Indentation

/-- A step from one line to the next is a tab or a width of no more than the deepest step. -/
theorem step_mem_candidates {previous next : Indent} {v : Candidate}
    (h : step? previous next = some v) : v ∈ Rule.indent.candidates := by
  unfold step? at h
  split at h
  · split at h
    · cases h
      exact List.mem_cons_self
    · split at h
      · rename_i hdeep
        cases h
        rw [Bool.and_eq_true, decide_eq_true_eq] at hdeep
        refine List.mem_cons_of_mem _ (List.mem_map.mpr ⟨next.width - previous.width - 1, ?_, ?_⟩)
        · rw [List.mem_range]
          omega
        · have hstep : next.width - previous.width - 1 + 1 = next.width - previous.width := by omega
          rw [hstep]
      · cases h
  · cases h

theorem steps_mem_candidates {v : Candidate} {previous : Indent} {lines : List Indent}
    (h : v ∈ steps previous lines) : v ∈ Rule.indent.candidates := by
  induction lines generalizing previous with
  | nil => cases h
  | cons next rest ih =>
    rw [steps, List.mem_append, Option.mem_toList] at h
    rcases h with hstep | hrest
    · exact step_mem_candidates hstep
    · exact ih hrest

end Indentation

theorem quoteOf_mem_candidates {n : Ecma.Node} {parent : Option Ecma.Kind} {v : Candidate}
    (h : quoteOf? n parent = some v) : v ∈ Rule.quotes.candidates := by
  unfold quoteOf? at h
  split at h
  · split at h
    · cases h
      decide
    · cases h
      decide
    · cases h
  · cases h

theorem semicolonOf_mem_candidates {text : Array Char} {n : Ecma.Node} {parent : Option Ecma.Kind}
    {v : Candidate} (h : semicolonOf? text n parent = some v) : v ∈ Rule.semi.candidates := by
  unfold semicolonOf? at h
  split at h
  · cases h
    cases endsWithSemicolon text n.span <;> decide
  · cases h

theorem mem_of_count_ofList {cs : List Candidate} {v : Candidate}
    (h : (Tally.ofList cs).count v ≠ 0) : v ∈ cs := by
  rw [Tally.count_ofList] at h
  exact List.count_pos_iff.mp (by omega)

/-- A text shows no other candidates. -/
theorem mem_candidates_of_count {text : List Char} {tree : Ecma.Node} {r : Rule} {v : Candidate}
    (h : ((countsOf text tree).of r).count v ≠ 0) : v ∈ r.candidates := by
  cases r with
  | indent => exact Indentation.steps_mem_candidates (mem_of_count_ofList h)
  | quotes =>
    obtain ⟨o, -, ho⟩ := List.mem_filterMap.mp (mem_of_count_ofList h)
    exact quoteOf_mem_candidates ho
  | semi =>
    obtain ⟨o, -, ho⟩ := List.mem_filterMap.mp (mem_of_count_ofList h)
    exact semicolonOf_mem_candidates ho
  | linebreak =>
    have hmem := Tally.mem_of_count_ne_zero h
    simp only [Counts.of, countsOf, linebreakTally] at hmem
    split at hmem
    · cases hmem
    · obtain ⟨rfl, -⟩ := Prod.mk.inj (List.mem_singleton.mp hmem)
      by_cases hfewer : (lineEnds text).2 < (lineEnds text).1 <;> simp [hfewer, Rule.candidates]

/-! ### The setting -/

/-- Whatever share is asked for, there is a setting, and what it demands has been observed. -/
theorem settingFor_observed {t : Tally} (ht : t.Natural) (threshold : Double) :
    ∃ o, settingFor threshold t = .ok (settingOf o) ∧ ∀ v, o = some v → t.count v ≠ 0 := by
  rcases settingFor_winner ht threshold with ⟨-, hset⟩ | ⟨w, hne, hw, hset⟩
  · exact ⟨none, hset, nofun⟩
  refine ⟨_, hset, fun v hv => ?_⟩
  rw [Option.ite_none_right_eq_some, Option.some.injEq] at hv
  obtain ⟨-, rfl⟩ := hv
  obtain ⟨-, hmost⟩ := winner_spec hw
  -- the winner has the highest count, so without it there are no observations at all
  intro hnone
  refine hne (List.sum_eq_zero fun m hm => ?_)
  obtain ⟨e, he, rfl⟩ := List.mem_map.mp hm
  exact le_antisymm (hnone ▸ hmost e he) (ht.nonneg e he)

end LintConfig.Style

namespace LintConfig.Inference
open Files (Path Tree)
open Number (Double)
open Style (Candidate Rule Statistic)

theorem mem_candidates_of_shown {root : Tree} {markup : Bool} {r : Rule} {v : Candidate} {p : Path}
    (h : shown root markup r v p ≠ 0) : v ∈ r.candidates := by
  unfold shown at h
  split at h
  · exact absurd rfl h
  · split at h
    · rename_i hanalyze
      obtain ⟨program, -, hs⟩ := Failing.bind_eq_ok.mp hanalyze
      cases hs
      exact Style.mem_candidates_of_count h
    · exact absurd rfl h

/-- Many files show no candidate that none of them shows. -/
theorem mem_candidates_of_observed {root : Tree} {markup : Bool} {files : List Path} {r : Rule}
    {v : Candidate} (h : observed root markup files r v ≠ 0) : v ∈ r.candidates := by
  by_contra hv
  refine h (List.sum_eq_zero fun n hn => ?_)
  obtain ⟨p, -, rfl⟩ := List.mem_map.mp hn
  by_contra hne
  exact hv (mem_candidates_of_shown hne)

/-- A scan always has a configuration. Each of its rules is off or demands a candidate. -/
theorem resolve_candidates {root : Tree} {markup : Bool} {files : List Path} {s : Statistic}
    (h : Scan.scanFiles root markup files = .ok s) (threshold : Double) :
    ∃ o : Rule → Option Candidate,
      s.resolve threshold = .ok { rules := Rule.all.map fun r => (r.name, Style.settingOf (o r)),
                                  base := some recommended } ∧
      ∀ r v, o r = some v → v ∈ r.candidates := by
  obtain ⟨hnatural, hcounts⟩ := scanFiles_counts h
  choose o hset hseen using fun r => Style.settingFor_observed (hnatural r) threshold
  refine ⟨o, Style.resolve_eq_ok hset, fun r v hv => ?_⟩
  have hobserved : observed root markup files r v ≠ 0 := by
    rw [← hcounts r]
    exact hseen r v hv
  exact mem_candidates_of_observed hobserved

end LintConfig.Inference
