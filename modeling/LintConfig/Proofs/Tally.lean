import LintConfig.Style.Tally
import Mathlib.Algebra.BigOperators.Finprod
import Mathlib.Tactic

/-! # Tallies of observations

A tally has each candidate once, with a count that is not below zero; one that observations and
merging have made has positive counts only. Merging adds the counts of every candidate and drops
those that are zero, which are the counts of all candidates that are not there. So what a tally says
are its counts, not its entries. -/
namespace LintConfig.Style.Tally

def keys (t : Tally) : List Candidate := t.map (·.1)

/-- Each candidate stands once in the tally, and no count is below zero. -/
structure Natural (t : Tally) : Prop where
  nodup : t.keys.Nodup
  nonneg : ∀ e ∈ t, 0 ≤ e.2

instance (t : Tally) : Decidable t.Natural :=
  decidable_of_iff (t.keys.Nodup ∧ ∀ e ∈ t, 0 ≤ e.2)
    ⟨fun h => ⟨h.1, h.2⟩, fun h => ⟨h.nodup, h.nonneg⟩⟩

/-- Each candidate stands once in the tally and was observed. -/
structure Proper (t : Tally) : Prop where
  nodup : t.keys.Nodup
  positive : ∀ e ∈ t, 0 < e.2

theorem Proper.natural {t : Tally} (ht : t.Proper) : t.Natural :=
  ⟨ht.nodup, fun e he => (ht.positive e he).le⟩

/-! ### Counts -/

@[simp] theorem keys_nil : keys [] = [] := rfl

@[simp] theorem keys_cons (c : Candidate) (n : Int) (t : Tally) :
    keys ((c, n) :: t) = c :: keys t := rfl

theorem has_iff {c : Candidate} {t : Tally} : t.has c = true ↔ c ∈ t.keys := by
  simp [has, keys]

theorem count_eq_zero {c : Candidate} {t : Tally} (h : c ∉ t.keys) : t.count c = 0 := by
  induction t with
  | nil => rfl
  | cons e t ih =>
    obtain ⟨d, n⟩ := e
    simp only [keys_cons, List.mem_cons, not_or] at h
    rw [count, if_neg (Ne.symm h.1)]
    exact ih h.2

theorem mem_of_count_ne_zero {c : Candidate} {t : Tally} (h : t.count c ≠ 0) :
    (c, t.count c) ∈ t := by
  induction t with
  | nil => exact absurd rfl h
  | cons e t ih =>
    obtain ⟨d, n⟩ := e
    by_cases hd : d = c
    · simp [count, hd]
    · rw [count, if_neg hd] at h ⊢
      exact List.mem_cons_of_mem _ (ih h)

theorem count_of_mem {c : Candidate} {n : Int} {t : Tally} (hnodup : t.keys.Nodup)
    (h : (c, n) ∈ t) : t.count c = n := by
  induction t with
  | nil => simp at h
  | cons e t ih =>
    obtain ⟨d, m⟩ := e
    rw [keys_cons, List.nodup_cons] at hnodup
    rcases List.mem_cons.mp h with he | h
    · obtain ⟨rfl, rfl⟩ := Prod.mk.inj he
      simp [count]
    · have hc : c ∈ keys t := List.mem_map.mpr ⟨_, h, rfl⟩
      have hne : d ≠ c := fun he => hnodup.1 (he ▸ hc)
      rw [count, if_neg hne]
      exact ih hnodup.2 h

theorem Natural.count_nonneg {t : Tally} (ht : t.Natural) (c : Candidate) : 0 ≤ t.count c := by
  by_cases h : t.count c = 0
  · exact h.ge
  · exact ht.nonneg _ (mem_of_count_ne_zero h)

/-! ### Observing -/

theorem count_set (t : Tally) (c d : Candidate) (n : Int) :
    (t.set c n).count d = if c = d then n else t.count d := by
  induction t with
  | nil => simp [set, count]
  | cons e t ih =>
    obtain ⟨a, m⟩ := e
    by_cases hac : a = c
    · subst hac
      by_cases had : a = d <;> simp [set, count, had]
    · by_cases had : a = d
      · subst had
        simp [set, count, hac, Ne.symm hac]
      · simp [set, count, hac, had, ih]

theorem keys_set (t : Tally) (c : Candidate) (n : Int) :
    (t.set c n).keys = if c ∈ t.keys then t.keys else t.keys ++ [c] := by
  induction t with
  | nil => simp [set]
  | cons e t ih =>
    obtain ⟨a, m⟩ := e
    by_cases hac : a = c
    · simp [set, hac]
    · rw [set, if_neg hac, keys_cons, ih]
      by_cases hc : c ∈ keys t <;> simp [hc, Ne.symm hac]

theorem mem_set {t : Tally} {c : Candidate} {n : Int} {e : Candidate × Int}
    (h : e ∈ t.set c n) : e = (c, n) ∨ e ∈ t := by
  induction t with
  | nil => exact Or.inl (by simpa [set] using h)
  | cons a t ih =>
    obtain ⟨d, m⟩ := a
    by_cases hd : d = c
    · rw [set, if_pos hd] at h
      rcases List.mem_cons.mp h with h | h
      · exact Or.inl (by rw [h, hd])
      · exact Or.inr (List.mem_cons_of_mem _ h)
    · rw [set, if_neg hd] at h
      rcases List.mem_cons.mp h with h | h
      · exact Or.inr (h ▸ List.mem_cons_self)
      · exact (ih h).imp_right (List.mem_cons_of_mem _)

theorem proper_nil : Proper [] := ⟨List.nodup_nil, by simp⟩

theorem Proper.observe {t : Tally} (ht : t.Proper) (c : Candidate) : (t.observe c).Proper := by
  constructor
  · rw [Tally.observe, keys_set]
    split
    · exact ht.nodup
    · rename_i hc
      rw [List.nodup_append]
      refine ⟨ht.nodup, List.nodup_singleton c, ?_⟩
      rintro a ha b hb rfl
      exact hc (by rwa [← List.mem_singleton.mp hb])
  · intro e he
    rcases mem_set he with rfl | he
    · have := ht.natural.count_nonneg c
      dsimp only
      omega
    · exact ht.positive e he

theorem foldl_observe {t : Tally} (ht : t.Proper) (cs : List Candidate) :
    (cs.foldl Tally.observe t).Proper ∧
      ∀ d, (cs.foldl Tally.observe t).count d = t.count d + cs.count d := by
  induction cs generalizing t with
  | nil => simp [ht]
  | cons c cs ih =>
    obtain ⟨hproper, hcount⟩ := ih (ht.observe c)
    refine ⟨hproper, fun d => ?_⟩
    rw [List.foldl_cons, hcount, Tally.observe, count_set, List.count_cons]
    by_cases hd : c = d
    · subst hd
      simp
      ring
    · simp [hd]

theorem proper_ofList (cs : List Candidate) : (ofList cs).Proper :=
  (foldl_observe proper_nil cs).1

/-- A candidate is counted as often as it was observed. -/
theorem count_ofList (cs : List Candidate) (c : Candidate) : (ofList cs).count c = cs.count c := by
  rw [ofList, (foldl_observe proper_nil cs).2]
  simp [count]

/-! ### Merging -/

/-- What a merged tally holds are the sums that are positive. -/
theorem mem_merge {s t : Tally} (hs : s.keys.Nodup) (ht : t.keys.Nodup) {c : Candidate} {n : Int} :
    (c, n) ∈ s.merge t ↔ 0 < n ∧ n = s.count c + t.count c := by
  simp only [merge, List.mem_append, List.mem_filterMap, List.mem_filter, Bool.and_eq_true,
    Bool.not_eq_true', decide_eq_true_eq]
  constructor
  · rintro (⟨⟨d, a⟩, hmem, hsum⟩ | ⟨hmem, hfresh, hpos⟩)
    · rw [Option.ite_none_right_eq_some, Option.some.injEq] at hsum
      obtain ⟨hpos, heq⟩ := hsum
      obtain ⟨rfl, rfl⟩ := Prod.mk.inj heq
      exact ⟨hpos, by rw [count_of_mem hs hmem]⟩
    · have hs : c ∉ s.keys := fun hc => by rw [has_iff.mpr hc] at hfresh; contradiction
      exact ⟨hpos, by rw [count_eq_zero hs, count_of_mem ht hmem, zero_add]⟩
  · rintro ⟨hpos, rfl⟩
    by_cases hc : c ∈ s.keys
    · obtain ⟨⟨d, a⟩, hmem, rfl⟩ := List.mem_map.mp hc
      left
      refine ⟨(d, a), hmem, ?_⟩
      rw [count_of_mem hs hmem] at hpos ⊢
      rw [if_pos hpos]
    · right
      rw [count_eq_zero hc, zero_add] at hpos ⊢
      refine ⟨mem_of_count_ne_zero hpos.ne', ?_, hpos⟩
      rw [Bool.eq_false_iff, Ne, has_iff]
      exact hc

/-- A merged tally counts no candidate that neither of the two counts. -/
theorem mem_keys_merge {s t : Tally} (hs : s.keys.Nodup) (ht : t.keys.Nodup) {c : Candidate}
    (h : c ∈ (s.merge t).keys) : c ∈ s.keys ∨ c ∈ t.keys := by
  obtain ⟨⟨d, n⟩, hmem, rfl⟩ := List.mem_map.mp h
  obtain ⟨hpos, hsum⟩ := (mem_merge hs ht).mp hmem
  by_contra hnone
  obtain ⟨hleft, hright⟩ := not_or.mp hnone
  rw [count_eq_zero hleft, count_eq_zero hright, add_zero] at hsum
  exact hpos.ne' hsum

/-- Entries that are changed in their counts, or left out, keep the order of the candidates. -/
theorem keys_filterMap_sublist {change : Candidate × Int → Option (Candidate × Int)}
    (hchange : ∀ e e', change e = some e' → e'.1 = e.1) (t : Tally) :
    (keys (t.filterMap change)).Sublist t.keys := by
  induction t with
  | nil => exact .slnil
  | cons e t ih =>
    cases he : change e with
    | none =>
      rw [List.filterMap_cons_none he]
      exact ih.cons _
    | some e' =>
      rw [List.filterMap_cons_some he, keys, List.map_cons, hchange e e' he]
      exact ih.cons_cons _

theorem nodup_merge {s t : Tally} (hs : s.keys.Nodup) (ht : t.keys.Nodup) :
    (s.merge t).keys.Nodup := by
  have hsum : ∀ e e' : Candidate × Int,
      (if 0 < e.2 + t.count e.1 then some (e.1, e.2 + t.count e.1) else none) =
      some e' → e'.1 = e.1 := by
    intro e e' he
    rw [Option.ite_none_right_eq_some, Option.some.injEq] at he
    rw [← he.2]
  have hleft := keys_filterMap_sublist hsum s
  rw [merge, keys, List.map_append, List.nodup_append]
  refine ⟨hs.sublist hleft, ht.sublist (List.filter_sublist.map _), ?_⟩
  rintro c hc d hd rfl
  obtain ⟨e, he, rfl⟩ := List.mem_map.mp hd
  have hfresh := (Bool.and_eq_true_iff.mp (List.mem_filter.mp he).2).1
  rw [has_iff.mpr (hleft.subset hc)] at hfresh
  contradiction

theorem Natural.merge {s t : Tally} (hs : s.Natural) (ht : t.Natural) : (s.merge t).Proper :=
  ⟨nodup_merge hs.nodup ht.nodup, fun e he => ((mem_merge hs.nodup ht.nodup (n := e.2)).mp he).1⟩

/-- The count of a candidate in a merged tally is the sum of its counts. -/
theorem count_merge {s t : Tally} (hs : s.Natural) (ht : t.Natural) (c : Candidate) :
    (s.merge t).count c = s.count c + t.count c := by
  have hmem := @mem_merge s t hs.nodup ht.nodup c
  by_cases hpos : 0 < s.count c + t.count c
  · exact count_of_mem (nodup_merge hs.nodup ht.nodup) (hmem.mpr ⟨hpos, rfl⟩)
  · have hzero : (s.merge t).count c = 0 := by
      by_contra hne
      obtain ⟨h, heq⟩ := hmem.mp (mem_of_count_ne_zero hne)
      rw [heq] at h
      exact hpos h
    have := hs.count_nonneg c
    have := ht.count_nonneg c
    omega

/-! ### The total -/

theorem total_set (t : Tally) (c : Candidate) (n : Int) :
    (t.set c n).total = t.total - t.count c + n := by
  induction t with
  | nil => simp [set, total, count]
  | cons e t ih =>
    obtain ⟨d, m⟩ := e
    simp only [total] at ih
    by_cases hd : d = c
    · simp [set, total, count, hd]
      ring
    · simp only [set, hd, if_false, total, count, List.map_cons, List.sum_cons, ih]
      ring

/-- There are as many counts as observations. -/
theorem total_ofList (cs : List Candidate) : (ofList cs).total = cs.length := by
  suffices h : ∀ t : Tally, (cs.foldl observe t).total = t.total + cs.length by
    exact (h []).trans (zero_add _)
  induction cs with
  | nil => simp
  | cons c cs ih =>
    intro t
    rw [List.foldl_cons, ih, observe, total_set, List.length_cons]
    push_cast
    ring

theorem total_eq_sum {t : Tally} (ht : t.Natural) : t.total = ∑ c ∈ t.keys.toFinset, t.count c := by
  rw [List.sum_toFinset _ ht.nodup, total, keys, List.map_map]
  congr 1
  refine List.map_congr_left fun e he => ?_
  exact (count_of_mem ht.nodup he).symm

theorem support_subset (t : Tally) : Function.support t.count ⊆ t.keys.toFinset := by
  intro c hc
  by_contra hmem
  exact hc (count_eq_zero (by simpa using hmem))

/-- The total is the sum over all candidates there could be. -/
theorem total_eq_finsum {t : Tally} (ht : t.Natural) : t.total = ∑ᶠ c, t.count c := by
  rw [total_eq_sum ht, finsum_eq_sum_of_support_subset _ t.support_subset]

theorem finite_support (t : Tally) : (Function.support t.count).Finite :=
  t.keys.toFinset.finite_toSet.subset t.support_subset

theorem total_merge {s t : Tally} (hs : s.Natural) (ht : t.Natural) :
    (s.merge t).total = s.total + t.total := by
  rw [total_eq_finsum (hs.merge ht).natural, total_eq_finsum hs, total_eq_finsum ht,
    ← finsum_add_distrib s.finite_support t.finite_support]
  exact finsum_congr fun c => count_merge hs ht c

/-- A tally that counts a single candidate. -/
theorem total_of_alone {t : Tally} (ht : t.Natural) {v : Candidate}
    (halone : ∀ w, w ≠ v → t.count w = 0) : t.total = t.count v := by
  rw [total_eq_finsum ht]
  exact finsum_eq_single _ v halone

theorem Natural.total_nonneg {t : Tally} (ht : t.Natural) : 0 ≤ t.total := by
  rw [total_eq_sum ht]
  exact Finset.sum_nonneg fun c _ => ht.count_nonneg c

theorem count_le_total {t : Tally} (ht : t.Natural) (c : Candidate) : t.count c ≤ t.total := by
  by_cases hc : c ∈ t.keys
  · rw [total_eq_sum ht]
    exact Finset.single_le_sum (fun d _ => ht.count_nonneg d) (List.mem_toFinset.mpr hc)
  · rw [count_eq_zero hc]
    exact ht.total_nonneg

/-- Two candidates have no more counts than the total. -/
theorem count_add_count_le_total {t : Tally} (ht : t.Natural) {c d : Candidate} (h : c ≠ d) :
    t.count c + t.count d ≤ t.total := by
  by_cases hd : d ∈ t.keys
  · rw [total_eq_sum ht, ← Finset.sum_erase_add _ _ (List.mem_toFinset.mpr hd)]
    have hc : t.count c ≤ ∑ x ∈ t.keys.toFinset.erase d, t.count x := by
      by_cases hc : c ∈ t.keys
      · exact Finset.single_le_sum (f := fun x => t.count x) (fun x _ => ht.count_nonneg x)
          (Finset.mem_erase.mpr ⟨h, List.mem_toFinset.mpr hc⟩)
      · rw [count_eq_zero hc]
        exact Finset.sum_nonneg fun x _ => ht.count_nonneg x
    exact add_le_add hc le_rfl
  · rw [count_eq_zero hd, add_zero]
    exact count_le_total ht c

end LintConfig.Style.Tally
