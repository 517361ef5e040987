import LintConfig.Proofs.Majority

/-! # The candidate that dominates

Which candidate can dominate a tally is settled by the counts and the texts of the candidates, and not
by the order in which they stand: it has the highest count, and of the candidates with that count the
smallest text. The threshold only decides whether it does dominate. So a higher threshold can take the
answer away, but never change it. -/
namespace LintConfig

namespace Number.Double

theorem lt_of_le_of_lt {x y z : Double} (hxy : x.le y = true) (hyz : y.lt z = true) :
    x.lt z = true := by
  cases x with
  | finite s m e =>
    cases y with
    | finite t n f =>
      cases z with
      | finite u k g =>
        rw [lt_iff_value_lt rfl rfl] at hyz ⊢
        exact ((le_iff_value_le rfl rfl).mp hxy).trans_lt hyz
      | infinite u => exact hyz
      | nan => exact hyz
    | infinite t =>
      -- nothing is above the one infinity, and no finite number below the other one
      cases t with
      | false => cases z <;> cases hyz
      | true => cases hxy
    | nan => cases hxy
  | infinite s =>
    cases s with
    | false =>
      cases y with
      | finite t n f => cases hxy
      | infinite t => cases t <;> cases z <;> simp_all [le, lt, same]
      | nan => cases hxy
    | true => cases y <;> cases z <;> simp_all [le, lt, same]
  | nan => cases hxy

end Number.Double

namespace Style
open Number (Double)

namespace Tally

/-- A candidate that comes before all others: none was observed more often, and none that was observed
as often has a smaller text. -/
structure Leads (t : Tally) (v : Candidate) : Prop where
  mem : v ∈ t.keys
  most : ∀ w, t.count w ≤ t.count v
  first : ∀ w ∈ t.keys, t.count w = t.count v → v.text ≤ w.text

theorem mem_of_mem_keys {t : Tally} (ht : t.keys.Nodup) {v : Candidate} (hv : v ∈ t.keys) :
    (v, t.count v) ∈ t := by
  obtain ⟨⟨w, n⟩, hmem, rfl⟩ := List.mem_map.mp hv
  rwa [count_of_mem ht hmem]

theorem leads_winner {t : Tally} (ht : t.Natural) {v : Candidate}
    (hw : winner? t = some (v, t.count v)) : t.Leads v := by
  obtain ⟨hmem, hbest⟩ := winner_unbeaten hw
  refine ⟨List.mem_map.mpr ⟨_, hmem, rfl⟩, fun w => ?_, fun w hw heq => ?_⟩
  · by_cases hw : w ∈ t.keys
    · exact (winner_spec ‹_›).2 _ (mem_of_mem_keys ht.nodup hw)
    · rw [count_eq_zero hw]
      exact ht.count_nonneg v
  · rcases beats_eq_false.mp (hbest _ (mem_of_mem_keys ht.nodup hw)) with hlt | ⟨-, htext⟩
    · exact absurd heq hlt.ne
    · exact htext

/-- If no two candidates have the same text, only one of them leads. -/
theorem Leads.unique {t : Tally} (htexts : (t.keys.map Candidate.text).Nodup) {v w : Candidate}
    (hv : t.Leads v) (hw : t.Leads w) : v = w := by
  have hcount : t.count v = t.count w := le_antisymm (hw.most v) (hv.most w)
  exact List.inj_on_of_nodup_map htexts hv.mem hw.mem
    (String.le_antisymm (hv.first w hw.mem hcount.symm) (hw.first v hv.mem hcount))

section Perm
variable {s t : Tally}

theorem keys_perm (h : s.Perm t) : s.keys.Perm t.keys := h.map _

theorem total_perm (h : s.Perm t) : s.total = t.total := (h.map _).sum_eq

theorem Natural.perm (hs : s.Natural) (h : s.Perm t) : t.Natural :=
  ⟨(keys_perm h).nodup_iff.mp hs.nodup, fun e he => hs.nonneg e (h.mem_iff.mpr he)⟩

theorem count_perm (hs : s.keys.Nodup) (h : s.Perm t) (c : Candidate) : s.count c = t.count c := by
  by_cases hc : c ∈ s.keys
  · have hmem := h.mem_iff.mp (mem_of_mem_keys hs hc)
    exact (count_of_mem ((keys_perm h).nodup_iff.mp hs) hmem).symm
  · rw [count_eq_zero hc, count_eq_zero (mt (keys_perm h).mem_iff.mpr hc)]

theorem Leads.perm {v : Candidate} (hs : s.keys.Nodup) (h : s.Perm t) (hv : s.Leads v) :
    t.Leads v := by
  obtain ⟨hmem, hmost, hfirst⟩ := hv
  simp only [count_perm hs h] at hmost hfirst
  exact ⟨(keys_perm h).mem_iff.mp hmem, hmost,
    fun w hw => hfirst w ((keys_perm h).mem_iff.mpr hw)⟩

end Perm

end Tally

/-- The answer for a tally of which one candidate leads. -/
theorem dominant_leader {t : Tally} (ht : t.Natural) (htexts : (t.keys.map Candidate.text).Nodup)
    {v : Candidate} (hv : t.Leads v) (hne : t.total ≠ 0) (threshold : Double) :
    dominant? threshold t = .ok
      (if threshold.lt (.ofRatio false (t.count v).toNat t.total.toNat) then some v else none) := by
  rcases dominant_winner ht threshold with ⟨hzero, -⟩ | ⟨w, -, hw, hset⟩
  · exact absurd hzero hne
  · rw [(Tally.leads_winner ht hw).unique htexts hv] at hset
    exact hset

/-- A share that exceeds a threshold of one half or more is that of a majority. -/
theorem majority_of_lt {threshold : Double} {n total : Int}
    (hhalf : defaultThreshold.le threshold = true) (hn : PartOf n total) (hpos : 0 < total)
    (hlt : threshold.lt (.ofRatio false n.toNat total.toNat) = true) : total < 2 * n := by
  have hexceeds : Exceeds defaultThreshold n total := ⟨hpos, Double.lt_of_le_of_lt hhalf hlt⟩
  have hrep := representable_default
  rw [defaultThreshold, Double.half_eq] at hexceeds hrep
  exact hexceeds.majority hn hrep Double.half_value.ge

/-- What the answer for a tally and a threshold has to be. -/
structure Chosen (t : Tally) (threshold : Double) (answer : Option Candidate) : Prop where
  /-- The order of the candidates does not matter. -/
  order : ∀ s, s.Perm t → dominant? threshold s = .ok answer
  silent : t.total = 0 → answer = none
  leads : ∀ v, answer = some v → t.Leads v
  /-- A higher threshold gives the same answer or none. -/
  higher : ∀ threshold', threshold.le threshold' = true →
    ∃ answer', dominant? threshold' t = .ok answer' ∧ (answer' = none ∨ answer' = answer)
  /-- From one half on, the candidate has more observations than all others together. -/
  majority : defaultThreshold.le threshold = true →
    ∀ v, answer = some v → t.total - t.count v < t.count v

/-- There is always an answer for counts of candidates whose texts are different, and it is the right
one. -/
theorem dominant_chosen {t : Tally} (hcounts : ∀ e ∈ t, 0 ≤ e.2)
    (htexts : (t.keys.map Candidate.text).Nodup) (threshold : Double) :
    ∃ answer, dominant? threshold t = .ok answer ∧ Chosen t threshold answer := by
  have ht : t.Natural := ⟨htexts.of_map, hcounts⟩
  by_cases hzero : t.total = 0
  · have hnone : ∀ s, s.Perm t → ∀ x, dominant? x s = .ok none := by
      intro s hs x
      rcases dominant_winner (ht.perm hs.symm) x with ⟨-, hset⟩ | ⟨v, hne, -⟩
      · exact hset
      · exact absurd ((Tally.total_perm hs).trans hzero) hne
    exact ⟨none, hnone t (.refl t) threshold, fun s hs => hnone s hs threshold, fun _ => rfl, nofun,
      fun x _ => ⟨none, hnone t (.refl t) x, .inl rfl⟩, fun _ => nofun⟩
  rcases dominant_winner ht threshold with ⟨habsurd, -⟩ | ⟨v, -, hw, hset⟩
  · exact absurd habsurd hzero
  have hleads := Tally.leads_winner ht hw
  refine ⟨_, hset, fun s hs => ?_, fun habsurd => absurd habsurd hzero, fun w hanswer => ?_,
    fun threshold' hle => ?_, fun hhalf w hanswer => ?_⟩
  · have hkeys := Tally.keys_perm hs
    rw [dominant_leader (ht.perm hs.symm) ((hkeys.map _).nodup_iff.mpr htexts)
        (hleads.perm ht.nodup hs.symm) (Tally.total_perm hs ▸ hzero),
      Tally.total_perm hs, Tally.count_perm ((ht.perm hs.symm).nodup) hs]
  · rw [Option.ite_none_right_eq_some, Option.some.injEq] at hanswer
    exact hanswer.2 ▸ hleads
  · refine ⟨_, dominant_leader ht htexts hleads hzero threshold', ?_⟩
    by_cases hlt : threshold'.lt (.ofRatio false (t.count v).toNat t.total.toNat) = true
    · rw [if_pos hlt, if_pos (Double.lt_of_le_of_lt hle hlt)]
      exact .inr rfl
    · exact .inl (if_neg hlt)
  · rw [Option.ite_none_right_eq_some, Option.some.injEq] at hanswer
    obtain ⟨hlt, rfl⟩ := hanswer
    have hpos : 0 < t.total := lt_of_le_of_ne ht.total_nonneg (Ne.symm hzero)
    have := majority_of_lt hhalf (partOf_total ht v) hpos hlt
    omega

/-- Two candidates with as many observations, and one with none. -/
def tied : Tally := [(.word "tab", 3), (.number 8, 0), (.number 2, 3)]

theorem dominant_chosen_tied :
    (∀ e ∈ tied, 0 ≤ e.2) ∧ (tied.keys.map Candidate.text).Nodup ∧
    ∃ answer, dominant? (.ofRatio false 1 4) tied = .ok answer ∧
      Chosen tied (.ofRatio false 1 4) answer ∧ answer = some (.number 2) := by
  have hcounts : ∀ e ∈ tied, 0 ≤ e.2 := by decide
  have htexts : (tied.keys.map Candidate.text).Nodup := by decide
  refine ⟨hcounts, htexts, ?_⟩
  obtain ⟨answer, hanswer, hchosen⟩ := dominant_chosen hcounts htexts (.ofRatio false 1 4)
  refine ⟨answer, hanswer, hchosen, ?_⟩
  have hfirst : dominant? (.ofRatio false 1 4) tied = .ok (some (.number 2)) := by decide +kernel
  exact Except.ok.inj (hanswer.symm.trans hfirst)

end Style

end LintConfig
