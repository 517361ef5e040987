import LintConfig.Proofs.Rounding
import LintConfig.Proofs.Tally
import LintConfig.Settings
import LintConfig.Style.Majority

/-! # A setting says what the majority of observations say

The candidate that wins has the highest count. Its share is compared with the threshold after
rounding, but a threshold of at least one half is a double itself, so the comparison is never true
of a share that does not exceed it. For a threshold of exactly one half it is never false of a share
that does. -/
namespace LintConfig.Style
open Number (Double)
open Number.Double (Representable precision)

/-- How many observations there are of all candidates. -/
noncomputable def total (observed : Candidate → Int) : Int := ∑ᶠ c, observed c

/-- What makes a setting the right one for the number of times each candidate was observed. -/
structure Justified (threshold : Double) (observed : Candidate → Int) (s : Setting) : Prop where
  /-- A rule is off or demands a candidate whose share exceeds the threshold. -/
  exceeds : s = Setting.off ∨
    ∃ v, s = Setting.error v.value ∧ threshold.value < (observed v : ℚ) / total observed
  /-- A candidate that is demanded outnumbers all others together. -/
  outnumbers : ∀ v, s = Setting.error v.value → total observed < 2 * observed v
  silent : total observed = 0 → s = Setting.off
  /-- With one half as the threshold every majority is heard. -/
  majority : threshold.value = 1 / 2 → total observed < 2 ^ precision →
    ∀ v, total observed < 2 * observed v → s = Setting.error v.value

/-! ### The winner -/

theorem beats_eq_false {a b : Candidate × Int} :
    beats a b = false ↔ a.2 < b.2 ∨ a.2 = b.2 ∧ b.1.text ≤ a.1.text := by
  rw [← Bool.not_eq_true]
  simp only [beats, Bool.or_eq_true, Bool.and_eq_true, decide_eq_true_eq, beq_iff_eq, not_or,
    not_and, not_lt]
  constructor
  · rintro ⟨hle, htext⟩
    exact hle.lt_or_eq.imp_right fun heq => ⟨heq, htext heq⟩
  · rintro (hlt | ⟨heq, htext⟩)
    · exact ⟨hlt.le, fun heq => absurd heq hlt.ne⟩
    · exact ⟨heq.le, fun _ => htext⟩

theorem beats_trans {a b c : Candidate × Int} (hab : beats a b = false) (hbc : beats b c = false) :
    beats a c = false := by
  rw [beats_eq_false] at hab hbc ⊢
  obtain hab | ⟨hab, htext⟩ := hab
  · exact .inl (hbc.elim hab.trans fun h => h.1 ▸ hab)
  · obtain hbc | ⟨hbc, htext'⟩ := hbc
    · exact .inl (hab ▸ hbc)
    · exact .inr ⟨hab.trans hbc, String.le_trans htext' htext⟩

/-- No candidate beats the one that wins. -/
theorem winner_unbeaten {t : Tally} {e : Candidate × Int} (h : winner? t = some e) :
    e ∈ t ∧ ∀ d ∈ t, beats d e = false := by
  cases t with
  | nil => cases h
  | cons c rest =>
    simp only [winner?, Option.some.injEq] at h
    subst h
    induction rest generalizing c with
    | nil => simp [beats_eq_false]
    | cons d rest ih =>
      -- the better one of the first two stands for both
      rw [List.foldl_cons]
      cases hb : beats d c with
      | true =>
        obtain ⟨hmem, hbest⟩ := ih d
        have hcd : beats c d = false := by
          simp only [beats, Bool.or_eq_true, Bool.and_eq_true, decide_eq_true_eq, beq_iff_eq] at hb
          exact beats_eq_false.mpr (hb.imp_right fun h => ⟨h.1.symm, String.not_lt.mp (String.lt_asymm h.2)⟩)
        exact ⟨List.mem_cons_of_mem c hmem, List.forall_mem_cons.mpr
          ⟨beats_trans hcd (hbest d List.mem_cons_self), hbest⟩⟩
      | false =>
        obtain ⟨hmem, hbest⟩ := ih c
        have hc := hbest c List.mem_cons_self
        refine ⟨?_, List.forall_mem_cons.mpr ⟨hc, List.forall_mem_cons.mpr
          ⟨beats_trans hb hc, fun a ha => hbest a (List.mem_cons_of_mem c ha)⟩⟩⟩
        rcases List.mem_cons.mp hmem with heq | hmem
        · exact List.mem_cons.mpr (.inl heq)
        · exact List.mem_cons_of_mem c (List.mem_cons_of_mem d hmem)

theorem winner_spec {t : Tally} {e : Candidate × Int} (h : winner? t = some e) :
    e ∈ t ∧ ∀ d ∈ t, d.2 ≤ e.2 := by
  obtain ⟨hmem, hbest⟩ := winner_unbeaten h
  exact ⟨hmem, fun d hd => (beats_eq_false.mp (hbest d hd)).elim le_of_lt fun h => h.1.le⟩

theorem winner_of_ne_nil {t : Tally} (h : t ≠ []) : ∃ e, winner? t = some e := by
  cases t with
  | nil => exact absurd rfl h
  | cons c rest => exact ⟨_, rfl⟩

/-- A candidate with more than half of the observations wins. -/
theorem winner_of_majority {t : Tally} (ht : t.Natural) {v : Candidate}
    (hv : t.total < 2 * t.count v) : winner? t = some (v, t.count v) := by
  have hpos : t.count v ≠ 0 := by
    have := ht.total_nonneg
    omega
  have hmem := Tally.mem_of_count_ne_zero hpos
  obtain ⟨e, he⟩ := winner_of_ne_nil (List.ne_nil_of_mem hmem)
  obtain ⟨hin, hge⟩ := winner_spec he
  have hcount : t.count e.1 = e.2 := Tally.count_of_mem ht.nodup hin
  have hle := hge _ hmem
  by_cases hne : e.1 = v
  · rw [he]
    obtain ⟨c, n⟩ := e
    simp only at hne hcount
    rw [← hcount, hne]
  · have := Tally.count_add_count_le_total ht hne
    dsimp only at hle
    omega

/-! ### Its share -/

theorem share_eq {n total : Nat} (hpos : 0 < total) (hle : n ≤ total) :
    share n total = .ok (.ofRatio false n total) := by
  have hfinite := Double.ofRatio_isFinite hpos hle
  have hq : quotient n total = .ofRatio false n total := by
    have hn : ¬ (n : Int) < 0 := by omega
    have ht : ¬ (total : Int) < 0 := by omega
    simp [quotient, hn, ht]
  rw [share, hq]
  cases h : Double.ofRatio false n total with
  | finite s m e => rfl
  | infinite s => simp [h, Double.isFinite] at hfinite
  | nan => rfl

/-- The dominating candidate is the winner, if its rounded share exceeds the threshold. -/
theorem dominant_eq {t : Tally} (ht : t.Natural) (threshold : Double) (hne : t.total ≠ 0)
    {v : Candidate} {n : Int} (hw : winner? t = some (v, n)) :
    dominant? threshold t = .ok
      (if threshold.lt (.ofRatio false n.toNat t.total.toNat) then some v else none) := by
  obtain ⟨hmem, -⟩ := winner_spec hw
  have hn : 0 ≤ n := ht.nonneg _ hmem
  have hcount : t.count v = n := Tally.count_of_mem ht.nodup hmem
  have hle : n ≤ t.total := hcount ▸ Tally.count_le_total ht v
  have hshare : share n.toNat t.total.toNat = .ok (.ofRatio false n.toNat t.total.toNat) :=
    share_eq (by omega) (by omega)
  rw [Int.toNat_of_nonneg hn, Int.toNat_of_nonneg (by omega)] at hshare
  simp only [dominant?, if_neg hne, hw, hshare]
  rfl

/-- Without observations no candidate dominates. Else the winner decides, whatever the threshold
is. -/
theorem dominant_winner {t : Tally} (ht : t.Natural) (threshold : Double) :
    (t.total = 0 ∧ dominant? threshold t = .ok none) ∨
      ∃ v, t.total ≠ 0 ∧ winner? t = some (v, t.count v) ∧
        dominant? threshold t = .ok
          (if threshold.lt (.ofRatio false (t.count v).toNat t.total.toNat) then some v
            else none) := by
  by_cases hzero : t.total = 0
  · exact .inl ⟨hzero, by simp [dominant?, hzero]; rfl⟩
  have hne : t ≠ [] := by
    rintro rfl
    exact hzero rfl
  obtain ⟨⟨v, n⟩, hw⟩ := winner_of_ne_nil hne
  obtain rfl : t.count v = n := Tally.count_of_mem ht.nodup (winner_spec hw).1
  exact .inr ⟨v, hzero, hw, dominant_eq ht threshold hzero hw⟩

/-! ### Shares that exceed the threshold -/

/-- A count that is part of a total. -/
structure PartOf (n total : Int) : Prop where
  nonneg : 0 ≤ n
  le : n ≤ total

theorem partOf_total {t : Tally} (ht : t.Natural) (v : Candidate) : PartOf (t.count v) t.total :=
  ⟨ht.count_nonneg v, Tally.count_le_total ht v⟩

theorem PartOf.isFinite {n total : Int} (h : PartOf n total) (hpos : 0 < total) :
    (Double.ofRatio false n.toNat total.toNat).isFinite = true := by
  obtain ⟨hn, hle⟩ := h
  exact Double.ofRatio_isFinite (by omega) (by omega)

/-- The share that a count is of a total exceeds the threshold, also when it is rounded. -/
structure Exceeds (threshold : Double) (n total : Int) : Prop where
  pos : 0 < total
  lt : threshold.lt (.ofRatio false n.toNat total.toNat) = true

/-- A threshold that is accepted is a number from one half on. -/
theorem threshold_finite {x : Double} (h : Settings.isThreshold x = true) :
    ∃ m e, x = .finite false m e ∧ 1 / 2 ≤ x.value := by
  obtain ⟨hle, hlt⟩ := Bool.and_eq_true_iff.mp h
  cases x with
  | finite s m e =>
    have hvalue : 1 / 2 ≤ (Double.finite s m e).value := by
      rw [defaultThreshold, Double.half_eq, Double.le_iff_value_le rfl rfl,
        Double.half_value] at hle
      exact hle
    cases s with
    | false => exact ⟨m, e, rfl, hvalue⟩
    | true =>
      have : (Double.finite true m e).value ≤ 0 := by
        simp only [Double.value, if_true, neg_mul, Left.neg_nonpos_iff]
        positivity
      linarith
  | infinite s =>
    cases s
    · have : (Double.infinite false).lt (.ofInt 1) = false := by decide +kernel
      rw [this] at hlt
      contradiction
    · have : defaultThreshold.le (.infinite true) = false := by decide +kernel
      rw [this] at hle
      contradiction
  | nan =>
    have : defaultThreshold.le .nan = false := by decide +kernel
    rw [this] at hle
    contradiction

theorem isThreshold_default : Settings.isThreshold defaultThreshold = true := by decide +kernel

theorem representable_default : defaultThreshold.Representable := by
  rw [show defaultThreshold = .finite false (2 ^ 52) (-53) from Double.half_eq]
  simp [Double.Representable, precision, Double.leastExponent, Double.greatestExponent]

section Threshold
variable {m : Nat} {e : Int} {n total n' total' : Int}

theorem Exceeds.value_lt (h : Exceeds (.finite false m e) n total) (hn : PartOf n total)
    (hrep : (Double.finite false m e).Representable) :
    (Double.finite false m e).value < (n : ℚ) / total := by
  have hpos := h.pos
  have hlt := Double.lt_of_lt_ofRatio (by omega) hrep (hn.isFinite hpos) h.lt
  have hcast : ∀ k : Int, 0 ≤ k → ((k.toNat : Nat) : ℚ) = k := fun k hk => by
    exact_mod_cast congrArg (Int.cast : Int → ℚ) (Int.toNat_of_nonneg hk)
  rwa [hcast n hn.nonneg, hcast total hpos.le] at hlt

/-- A threshold of one half or more is exceeded by majorities only. -/
theorem Exceeds.majority (h : Exceeds (.finite false m e) n total) (hn : PartOf n total)
    (hrep : (Double.finite false m e).Representable)
    (hhalf : 1 / 2 ≤ (Double.finite false m e).value) : total < 2 * n := by
  have hT : (0 : ℚ) < total := by exact_mod_cast h.pos
  have hlt := (lt_div_iff₀ hT).mp (lt_of_le_of_lt hhalf (h.value_lt hn hrep))
  have : (total : ℚ) < 2 * n := by linarith
  exact_mod_cast this

/-- A threshold of one half is exceeded by every majority, as long as totals are doubles
themselves. -/
theorem exceeds_of_majority (hvalue : (Double.finite false m e).value = 1 / 2)
    (hbound : total < 2 ^ precision) (hn : PartOf n total) (h : total < 2 * n) :
    Exceeds (.finite false m e) n total := by
  obtain ⟨hnonneg, hle⟩ := hn
  have hpos : 0 < total := by omega
  refine ⟨hpos, ?_⟩
  unfold precision at hbound
  have hbelow := Double.half_lt_ofRatio (n := n.toNat) (d := total.toNat)
    (by unfold precision; omega) (by omega) (by omega)
  have hfinite := PartOf.isFinite ⟨hnonneg, hle⟩ hpos
  rw [Double.half_eq, Double.lt_iff_value_lt rfl hfinite, Double.half_value] at hbelow
  rwa [Double.lt_iff_value_lt rfl hfinite, hvalue]

/-- A share that is no smaller exceeds the threshold as well. -/
theorem Exceeds.mono (h : Exceeds (.finite false m e) n total) (hn : PartOf n total)
    (hn' : PartOf n' total') (hpos' : 0 < total') (hle : n * total' ≤ n' * total) :
    Exceeds (.finite false m e) n' total' := by
  have hpos := h.pos
  have hlt := h.lt
  have hfinite := hn.isFinite hpos
  have hfinite' := hn'.isFinite hpos'
  refine ⟨hpos', ?_⟩
  rw [Double.lt_iff_value_lt rfl hfinite] at hlt
  rw [Double.lt_iff_value_lt rfl hfinite']
  refine lt_of_lt_of_le hlt (Double.ofRatio_mono (by omega) (by omega) hfinite hfinite' ?_)
  have hcross : ((n.toNat * total'.toNat : Nat) : Int) ≤ (n'.toNat * total.toNat : Nat) := by
    rw [Nat.cast_mul, Nat.cast_mul, Int.toNat_of_nonneg hn.nonneg, Int.toNat_of_nonneg hn'.nonneg,
      Int.toNat_of_nonneg hpos.le, Int.toNat_of_nonneg hpos'.le]
    exact hle
  exact_mod_cast hcross

end Threshold

/-! ### The setting -/

theorem value_injective {v w : Candidate} (h : v.value = w.value) : v = w := by
  cases v <;> cases w <;> simp_all [Candidate.value]

theorem error_injective {v w : Candidate} (h : Setting.error v.value = Setting.error w.value) :
    v = w := by
  simp only [Setting.error, Value.list.injEq, List.cons.injEq, true_and, and_true] at h
  exact value_injective h

theorem off_ne_error (v : Value) : Setting.off ≠ Setting.error v := by
  simp [Setting.off, Setting.error]

/-- The setting for a rule of which a candidate dominates, or none. -/
def settingOf : Option Candidate → Setting
  | some v => .error v.value
  | none => .off

theorem settingOf_injective {o o' : Option Candidate} (h : settingOf o = settingOf o') : o = o' := by
  cases o with
  | none =>
    cases o' with
    | none => rfl
    | some w => exact absurd h (off_ne_error _)
  | some v =>
    cases o' with
    | none => exact absurd h.symm (off_ne_error _)
    | some w => rw [error_injective h]

/-- Without observations a rule is off. Else the winner decides, whatever the threshold is. -/
theorem settingFor_winner {t : Tally} (ht : t.Natural) (threshold : Double) :
    (t.total = 0 ∧ settingFor threshold t = .ok (settingOf none)) ∨
      ∃ v, t.total ≠ 0 ∧ winner? t = some (v, t.count v) ∧
        settingFor threshold t = .ok (settingOf
          (if threshold.lt (.ofRatio false (t.count v).toNat t.total.toNat) then some v
            else none)) := by
  rcases dominant_winner ht threshold with ⟨hzero, hnone⟩ | ⟨v, hne, hw, hset⟩
  · exact .inl ⟨hzero, by rw [settingFor, hnone]; rfl⟩
  · exact .inr ⟨v, hne, hw, by rw [settingFor, hset]; rfl⟩

section Threshold
variable {m : Nat} {e : Int} {t : Tally}

/-- There is always a setting for a rule. It demands the candidate whose share exceeds the
threshold. -/
theorem settingFor_spec (ht : t.Natural) (hrep : (Double.finite false m e).Representable)
    (hhalf : 1 / 2 ≤ (Double.finite false m e).value) :
    ∃ o, settingFor (.finite false m e) t = .ok (settingOf o) ∧
      ∀ v, o = some v ↔ Exceeds (.finite false m e) (t.count v) t.total := by
  rcases settingFor_winner ht (.finite false m e) with ⟨hzero, hset⟩ | ⟨w, hne, hw, hset⟩
  · exact ⟨none, hset, fun v => ⟨nofun, fun h => absurd hzero h.pos.ne'⟩⟩
  refine ⟨_, hset, fun v => ?_⟩
  constructor
  · intro h
    rw [Option.ite_none_right_eq_some, Option.some.injEq] at h
    obtain ⟨hlt, rfl⟩ := h
    exact ⟨lt_of_le_of_ne ht.total_nonneg (Ne.symm hne), hlt⟩
  · intro h
    have hwin := winner_of_majority ht (h.majority (partOf_total ht v) hrep hhalf)
    rw [hw] at hwin
    obtain ⟨rfl, -⟩ := Prod.mk.inj (Option.some.inj hwin)
    rw [if_pos h.lt]

/-- The setting for a rule always exists, and is the right one for the counts of its tally. -/
theorem settingFor_justified (ht : t.Natural) (hrep : (Double.finite false m e).Representable)
    (hhalf : 1 / 2 ≤ (Double.finite false m e).value) :
    ∃ s, settingFor (.finite false m e) t = .ok s ∧
      Justified (.finite false m e) t.count s := by
  have htotal : total t.count = t.total := (Tally.total_eq_finsum ht).symm
  obtain ⟨o, hset, hspec⟩ := settingFor_spec ht hrep hhalf
  refine ⟨settingOf o, hset, ?_⟩
  have hmajority : ∀ v, settingOf o = Setting.error v.value → total t.count < 2 * t.count v := by
    intro v hv
    have h := (hspec v).mp (@settingOf_injective o (some v) hv)
    rw [htotal]
    exact h.majority (partOf_total ht v) hrep hhalf
  refine ⟨?_, hmajority, fun hzero => ?_, fun hvalue hbound v hv => ?_⟩
  · cases o with
    | none => exact .inl rfl
    | some v =>
      have h := (hspec v).mp rfl
      exact .inr ⟨v, rfl, htotal ▸ h.value_lt (partOf_total ht v) hrep⟩
  · cases o with
    | none => rfl
    | some v =>
      have h := (hspec v).mp rfl
      exact absurd (htotal ▸ hzero) h.pos.ne'
  · rw [htotal] at hbound hv
    rw [(hspec v).mpr (exceeds_of_majority hvalue hbound (partOf_total ht v) hv), settingOf]

end Threshold

/-- A statistic has a configuration if each of its tallies justifies a setting. -/
theorem resolve_eq_ok {s : Statistic} {threshold : Double} {setting : Rule → Setting}
    (h : ∀ r, settingFor threshold (s.counts.of r) = .ok (setting r)) :
    s.resolve threshold =
      .ok { rules := Rule.all.map fun r => (r.name, setting r), base := some recommended } := by
  simp only [Statistic.resolve, Rule.all, List.mapM_cons, List.mapM_nil, h]
  rfl

end LintConfig.Style
