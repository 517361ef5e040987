import LintConfig.Proofs.Merging

/-! # What two bodies of sources agree on, they show together

The share of a candidate in both bodies lies between its shares in the one and in the other, and
rounding keeps the order. So it exceeds the threshold if both shares do, and does not if neither
does. A body that shows nothing for a rule has no share that could pull the other way, and one that
shows a single candidate can only add to its share. -/
namespace LintConfig.Style
open Number (Double)

/-! ### The share between two shares -/

section Threshold
variable {m : Nat} {e : Int} {a b A B : Int}

theorem PartOf.add (ha : PartOf a A) (hb : PartOf b B) : PartOf (a + b) (A + B) :=
  ⟨add_nonneg ha.nonneg hb.nonneg, add_le_add ha.le hb.le⟩

/-- A share that is no larger than another one exceeds no more than both together. -/
theorem Exceeds.add_of_le (h : Exceeds (.finite false m e) a A) (ha : PartOf a A) (hb : PartOf b B)
    (hle : a * B ≤ b * A) : Exceeds (.finite false m e) (a + b) (A + B) := by
  have hpos : 0 < A + B := add_pos_of_pos_of_nonneg h.pos (hb.nonneg.trans hb.le)
  refine h.mono ha (ha.add hb) hpos ?_
  calc a * (A + B) = a * A + a * B := mul_add ..
    _ ≤ a * A + b * A := by omega
    _ = (a + b) * A := (add_mul ..).symm

theorem Exceeds.add (h : Exceeds (.finite false m e) a A) (h' : Exceeds (.finite false m e) b B)
    (ha : PartOf a A) (hb : PartOf b B) : Exceeds (.finite false m e) (a + b) (A + B) := by
  rcases le_total (a * B) (b * A) with hle | hle
  · exact h.add_of_le ha hb hle
  · rw [add_comm a, add_comm A]
    exact h'.add_of_le hb ha hle

/-- Of two shares the larger one exceeds what both together do. -/
theorem Exceeds.of_add_of_le (h : Exceeds (.finite false m e) (a + b) (A + B)) (ha : PartOf a A)
    (hb : PartOf b B) (hpos : 0 < B) (hle : a * B ≤ b * A) : Exceeds (.finite false m e) b B := by
  refine h.mono (ha.add hb) hb hpos ?_
  calc (a + b) * B = a * B + b * B := add_mul ..
    _ ≤ b * A + b * B := by omega
    _ = b * (A + B) := (mul_add ..).symm

theorem PartOf.eq_zero (ha : PartOf a A) (h : ¬ 0 < A) : a = 0 ∧ A = 0 := by
  obtain ⟨hnonneg, hle⟩ := ha
  omega

theorem Exceeds.of_add (h : Exceeds (.finite false m e) (a + b) (A + B)) (ha : PartOf a A)
    (hb : PartOf b B) : Exceeds (.finite false m e) a A ∨ Exceeds (.finite false m e) b B := by
  by_cases hA : 0 < A
  · by_cases hB : 0 < B
    · rcases le_total (a * B) (b * A) with hle | hle
      · exact .inr (h.of_add_of_le ha hb hB hle)
      · rw [add_comm a, add_comm A] at h
        exact .inl (h.of_add_of_le hb ha hA hle)
    · obtain ⟨rfl, rfl⟩ := hb.eq_zero hB
      rw [add_zero, add_zero] at h
      exact .inl h
  · obtain ⟨rfl, rfl⟩ := ha.eq_zero hA
    rw [zero_add, zero_add] at h
    exact .inr h

end Threshold

/-! ### The setting -/

theorem get?_rules (setting : Rule → Setting) (r : Rule) :
    Entries.get? r.name (Rule.all.map fun r => (r.name, setting r)) = some (setting r) := by
  cases r <;> simp [Rule.all, Rule.name, Entries.get?]

namespace Statistic
variable {s t : Statistic} {x : Double}

/-- A setting that two statistics agree on is the setting of both together. So is the candidate that
one of them demands, if the other one counts no other candidate. -/
theorem resolve_merge (hs : s.Natural) (ht : t.Natural) (hx : Settings.isThreshold x = true)
    (hrep : x.Representable) :
    ∃ f g h, s.resolve x = .ok f ∧ t.resolve x = .ok g ∧ (s.merge t).resolve x = .ok h ∧
      ∀ r : Rule,
        (∀ y, f.rules.get? r.name = some y → g.rules.get? r.name = some y →
          h.rules.get? r.name = some y) ∧
        ∀ v : Candidate, f.rules.get? r.name = some (.error v.value) →
          (∀ w, w ≠ v → t.count r w = 0) → h.rules.get? r.name = some (.error v.value) := by
  obtain ⟨o, hf, hspec⟩ := hs.resolve_spec hx hrep
  obtain ⟨o', hg, hspec'⟩ := ht.resolve_spec hx hrep
  obtain ⟨p, hh, hboth⟩ := (hs.merge ht).resolve_spec hx hrep
  obtain ⟨m, e, rfl, -⟩ := threshold_finite hx
  refine ⟨_, _, _, hf, hg, hh, fun r => ?_⟩
  simp only [get?_rules, Option.some.injEq]
  have hpart := partOf_total (hs r)
  have hpart' := partOf_total (ht r)
  have hsum : ∀ v, p r = some v ↔ Exceeds (.finite false m e) (s.count r v + t.count r v)
      ((s.counts.of r).total + (t.counts.of r).total) := fun v => by
    rw [hboth, count_merge hs ht, total_merge hs ht]
  constructor
  · rintro y rfl hy
    have ho : o' r = o r := settingOf_injective hy
    congr 1
    refine Option.ext fun v => ?_
    rw [hsum]
    constructor
    · intro h
      rcases h.of_add (hpart v) (hpart' v) with h | h
      · exact (hspec r v).mpr h
      · rw [← ho]
        exact (hspec' r v).mpr h
    · intro h
      exact ((hspec r v).mp h).add ((hspec' r v).mp (ho.trans h)) (hpart v) (hpart' v)
  · intro v hv halone
    have ho : o r = some v := @settingOf_injective _ (some v) hv
    have htotal := Tally.total_of_alone (ht r) halone
    rw [(hsum v).mpr, settingOf]
    refine ((hspec r v).mp ho).add_of_le (hpart v) (hpart' v) ?_
    rw [htotal, mul_comm]
    exact mul_le_mul_of_nonneg_left (hpart v).le (hpart' v).nonneg

/-- Mostly single quotes, and as many statements with a semicolon as without. -/
def mostly : Statistic where
  counts := { quotes := [(.word "double", 1), (.word "single", 3)]
              semi := [(.word "always", 2), (.word "never", 2)] }
  filesScanned := 2

/-- Single quotes only, and no statements. -/
def only : Statistic where
  counts := { quotes := [(.word "single", 4), (.word "double", 0)] }
  filesScanned := 1

theorem resolve_merge_only :
    mostly.Natural ∧ only.Natural ∧ Settings.isThreshold defaultThreshold = true ∧
    defaultThreshold.Representable ∧
    ∃ h, (mostly.merge only).resolve defaultThreshold = .ok h ∧
      h.rules.get? "quotes" = some (.error (.text "single")) ∧
      h.rules.get? "semi" = some .off := by
  have hmostly : mostly.Natural := fun r => by cases r <;> decide
  have honly : only.Natural := fun r => by cases r <;> decide
  refine ⟨hmostly, honly, isThreshold_default, representable_default, ?_⟩
  obtain ⟨f, g, h, hf, hg, hh, hagree⟩ :=
    resolve_merge hmostly honly isThreshold_default representable_default
  have hone : ∃ f, mostly.resolve defaultThreshold = .ok f ∧
      f.rules.get? "quotes" = some (.error (.text "single")) ∧
      f.rules.get? "semi" = some .off := ⟨_, rfl, rfl, rfl⟩
  have hother : ∃ g, only.resolve defaultThreshold = .ok g ∧
      g.rules.get? "quotes" = some (.error (.text "single")) ∧
      g.rules.get? "semi" = some .off := ⟨_, rfl, rfl, rfl⟩
  obtain ⟨f', hf', hquotes, hsemi⟩ := hone
  obtain ⟨g', hg', -, hsemi'⟩ := hother
  obtain rfl : f' = f := Except.ok.inj (hf'.symm.trans hf)
  obtain rfl : g' = g := Except.ok.inj (hg'.symm.trans hg)
  refine ⟨h, hh, (hagree .quotes).2 (.word "single") hquotes fun w hw => ?_,
    (hagree .semi).1 _ hsemi hsemi'⟩
  by_cases hdouble : w = .word "double"
  · subst hdouble
    rfl
  · exact Tally.count_eq_zero (by simp [Tally.keys, only, Counts.of, hw, hdouble])

end Statistic

end LintConfig.Style
