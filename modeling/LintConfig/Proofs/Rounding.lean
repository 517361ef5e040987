import LintConfig.Number.Double
import Mathlib.Algebra.Order.Field.Power
import Mathlib.Data.Rat.Cast.Order
import Mathlib.Tactic

/-! # A rounded quotient against a double

A double is a rational number, and the order of doubles is the order of these. A quotient is rounded
to the grid of the doubles around it, so that the order of quotients is kept, and a double below the
rounded quotient is below the exact one. The converse fails, but not for one half and a denominator
that is itself a double: the exact quotient is then past the midpoint between one half and the double
after it. -/
namespace LintConfig.Number

theorem roundDiv_le {n d k : Nat} (hd : 0 < d) (h : n ≤ k * d) : roundDiv n d ≤ k := by
  have hq : n / d ≤ k := Nat.div_le_of_le_mul (by rwa [Nat.mul_comm])
  have hn := Nat.div_add_mod n d
  by_cases he : n / d = k
  · have hr : n % d = 0 := by rw [he, Nat.mul_comm] at hn; omega
    simp [roundDiv, hr, he, hd]
  · unfold roundDiv
    dsimp only
    split_ifs <;> omega

theorem le_roundDiv {n d k : Nat} (hd : 0 < d) (h : k * d ≤ n) : k ≤ roundDiv n d := by
  have hq : k ≤ n / d := (Nat.le_div_iff_mul_le hd).mpr h
  unfold roundDiv
  dsimp only
  split_ifs <;> omega

/-- Past the midpoint to the next natural number a quotient is rounded up. -/
theorem lt_roundDiv {n d k : Nat} (hd : 0 < d) (h : (2 * k + 1) * d < 2 * n) :
    k < roundDiv n d := by
  have hn := Nat.div_add_mod n d
  have hq : k ≤ n / d := (Nat.le_div_iff_mul_le hd).mpr (by linarith)
  by_cases he : n / d = k
  · rw [he, Nat.mul_comm] at hn
    have hr : d < 2 * (n % d) := by linarith
    simp [roundDiv, he, hr, Nat.lt_asymm hr]
  · unfold roundDiv
    dsimp only
    split_ifs <;> omega

/-- A larger quotient is not rounded to a smaller number. -/
theorem roundDiv_mono {n d n' d' : Nat} (hd : 0 < d) (hd' : 0 < d') (h : n * d' ≤ n' * d) :
    roundDiv n d ≤ roundDiv n' d' := by
  have hn := Nat.div_add_mod n d
  have hn' := Nat.div_add_mod n' d'
  have hr := Nat.mod_lt n hd
  have hr' := Nat.mod_lt n' hd'
  unfold roundDiv
  dsimp only
  generalize n / d = q at *
  generalize n % d = r at *
  generalize n' / d' = q' at *
  generalize n' % d' = r' at *
  subst hn hn'
  have hle : q * (d * d') + r * d' ≤ q' * (d * d') + r' * d := by linarith
  have hup : r' * d < d * d' := by rw [Nat.mul_comm d]; exact Nat.mul_lt_mul_of_pos_right hr' hd
  by_cases hlt : q < q'
  · split_ifs <;> omega
  · -- the same whole part, so that the remainders are compared
    have hq : q = q' := by
      by_contra hne
      have hgt : q' + 1 ≤ q := by omega
      have := Nat.mul_le_mul_right (d * d') hgt
      rw [Nat.add_mul] at this
      omega
    subst hq
    have hrest : r * d' ≤ r' * d := by omega
    have hbelow : 2 * r' < d' → 2 * r < d := by
      intro hlow
      have : 2 * r * d' < d * d' := by
        calc 2 * r * d' = 2 * (r * d') := by ring
          _ ≤ 2 * (r' * d) := by omega
          _ = 2 * r' * d := by ring
          _ < d' * d := Nat.mul_lt_mul_of_pos_right hlow hd
          _ = d * d' := Nat.mul_comm ..
      exact Nat.lt_of_mul_lt_mul_right this
    have habove : d < 2 * r → d' < 2 * r' := by
      intro hhigh
      have : d' * d < 2 * r' * d := by
        calc d' * d = d * d' := Nat.mul_comm ..
          _ < 2 * r * d' := Nat.mul_lt_mul_of_pos_right hhigh hd'
          _ = 2 * (r * d') := by ring
          _ ≤ 2 * (r' * d) := by omega
          _ = 2 * r' * d := by ring
      exact Nat.lt_of_mul_lt_mul_right this
    split_ifs <;> omega

namespace Double

/-- The rational number that a finite double is. -/
def value : Double → ℚ
  | finite s m e => (if s then -(m : ℚ) else m) * 2 ^ e
  | _ => 0

def isFinite : Double → Bool
  | finite _ _ _ => true
  | _ => false

/-- A significand and an exponent that a double can have. -/
def Representable : Double → Prop
  | finite _ m e => m < 2 ^ precision ∧ leastExponent ≤ e ∧ e ≤ greatestExponent
  | _ => True

theorem units_mul (s : Bool) (m : Nat) {e unit : Int} (h : unit ≤ e) :
    (units s m e unit : ℚ) * 2 ^ unit = value (finite s m e) := by
  have he : (2 : ℚ) ^ (e - unit).toNat * 2 ^ unit = 2 ^ e := by
    rw [← zpow_natCast, ← zpow_add₀ two_ne_zero]
    congr 1
    omega
  cases s
  · simp [units, value, mul_assoc, he]
  · simp [units, value, mul_assoc, he]

theorem lt_iff_value_lt {x y : Double} (hx : x.isFinite) (hy : y.isFinite) :
    x.lt y = true ↔ x.value < y.value := by
  cases x with
  | finite s m e =>
    cases y with
    | finite t n f =>
      have hp : (0 : ℚ) < 2 ^ min e f := by positivity
      rw [← units_mul s m (min_le_left e f), ← units_mul t n (min_le_right e f),
        mul_lt_mul_iff_of_pos_right hp, Int.cast_lt]
      simp [lt]
    | infinite t => simp [isFinite] at hy
    | nan => simp [isFinite] at hy
  | infinite s => simp [isFinite] at hx
  | nan => simp [isFinite] at hx

theorem same_iff_value_eq {x y : Double} (hx : x.isFinite) (hy : y.isFinite) :
    x.same y = true ↔ x.value = y.value := by
  cases x with
  | finite s m e =>
    cases y with
    | finite t n f =>
      have hp : (2 : ℚ) ^ min e f ≠ 0 := by positivity
      rw [← units_mul s m (min_le_left e f), ← units_mul t n (min_le_right e f),
        mul_left_inj' hp, Int.cast_inj]
      simp [same]
    | infinite t => simp [isFinite] at hy
    | nan => simp [isFinite] at hy
  | infinite s => simp [isFinite] at hx
  | nan => simp [isFinite] at hx

theorem le_iff_value_le {x y : Double} (hx : x.isFinite) (hy : y.isFinite) :
    x.le y = true ↔ x.value ≤ y.value := by
  rw [le, Bool.or_eq_true, lt_iff_value_lt hx hy, same_iff_value_eq hx hy, le_iff_lt_or_eq]

/-! ### The grid around a quotient -/

theorem scaled_eq (n : Nat) {d : Nat} (hd : 0 < d) (e : Int) :
    0 < (scaled n d e).2 ∧
      ((scaled n d e).1 : ℚ) / (scaled n d e).2 = (n : ℚ) / d / 2 ^ e := by
  unfold scaled
  by_cases he : 0 ≤ e
  · obtain ⟨k, rfl⟩ := Int.eq_ofNat_of_zero_le he
    simp only [he, if_true]
    refine ⟨by positivity, ?_⟩
    simp [div_div]
  · obtain ⟨k, hk⟩ : ∃ k : Nat, e = -k := ⟨(-e).toNat, by omega⟩
    subst hk
    simp only [he, if_false]
    refine ⟨hd, ?_⟩
    simp
    ring

/-- What the last place of a quotient is: the significand fits, and it would not fit at the place
before. -/
structure IsLastPlace (q : ℚ) (e : Int) : Prop where
  least : leastExponent ≤ e
  fits : q < 2 ^ (precision + e)
  normal : leastExponent < e → (2 : ℚ) ^ (precision - 1 + e) ≤ q

theorem log2_bounds {n : Nat} (hn : n ≠ 0) :
    (2 : ℚ) ^ (n.log2 : Int) ≤ n ∧ (n : ℚ) < 2 ^ ((n.log2 : Int) + 1) := by
  constructor
  · exact_mod_cast Nat.log2_self_le hn
  · have := Nat.lt_log2_self (n := n)
    exact_mod_cast this

theorem quotient_bounds {n d : Nat} (hn : n ≠ 0) (hd : 0 < d) :
    (2 : ℚ) ^ ((n.log2 : Int) - d.log2 - 1) ≤ n / d ∧
      (n : ℚ) / d < 2 ^ ((n.log2 : Int) - d.log2 + 1) := by
  obtain ⟨hn₁, hn₂⟩ := log2_bounds hn
  obtain ⟨hd₁, hd₂⟩ := log2_bounds (Nat.pos_iff_ne_zero.mp hd)
  have hd' : (0 : ℚ) < d := by exact_mod_cast hd
  constructor
  · rw [le_div_iff₀ hd']
    calc (2 : ℚ) ^ ((n.log2 : Int) - d.log2 - 1) * d
        ≤ 2 ^ ((n.log2 : Int) - d.log2 - 1) * 2 ^ ((d.log2 : Int) + 1) := by gcongr
      _ = 2 ^ (n.log2 : Int) := by rw [← zpow_add₀ two_ne_zero]; congr 1; ring
      _ ≤ n := hn₁
  · rw [div_lt_iff₀ hd']
    calc (n : ℚ) < 2 ^ ((n.log2 : Int) + 1) := hn₂
      _ = 2 ^ ((n.log2 : Int) - d.log2 + 1) * 2 ^ (d.log2 : Int) := by
        rw [← zpow_add₀ two_ne_zero]; congr 1; ring
      _ ≤ 2 ^ ((n.log2 : Int) - d.log2 + 1) * d := by gcongr

theorem scaled_div_lt (n : Nat) {d : Nat} (hd : 0 < d) (e : Int) :
    (scaled n d e).1 / (scaled n d e).2 < 2 ^ precision ↔ (n : ℚ) / d < 2 ^ (precision + e) := by
  obtain ⟨hb, hq⟩ := scaled_eq n hd e
  have hp : (0 : ℚ) < 2 ^ e := by positivity
  have hb' : (0 : ℚ) < (scaled n d e).2 := by exact_mod_cast hb
  rw [Nat.div_lt_iff_lt_mul hb, zpow_add₀ two_ne_zero, ← div_lt_iff₀ hp, ← hq,
    div_lt_iff₀ hb', zpow_natCast]
  exact_mod_cast Iff.rfl

theorem lastPlace_isLastPlace {n d : Nat} (hn : n ≠ 0) (hd : 0 < d) :
    IsLastPlace (n / d) (lastPlace n d) := by
  obtain ⟨hlow, hhigh⟩ := quotient_bounds hn hd
  unfold lastPlace
  generalize he : max leastExponent ((n.log2 : Int) - d.log2 - precision) = e
  have hle : leastExponent ≤ e := he ▸ le_max_left _ _
  have hlog : (n.log2 : Int) - d.log2 - precision ≤ e := he ▸ le_max_right _ _
  have hfits := scaled_div_lt n hd e
  dsimp only
  split
  · rename_i ht
    refine ⟨hle, hfits.mp ht, fun hlt => le_trans (le_of_eq ?_) hlow⟩
    have : e = (n.log2 : Int) - d.log2 - precision := by omega
    rw [this]
    congr 1
    ring
  · rename_i ht
    have hge : (2 : ℚ) ^ (precision + e) ≤ n / d := not_lt.mp fun h => ht (hfits.mpr h)
    refine ⟨by omega, lt_of_lt_of_le hhigh ?_, fun _ => le_trans (le_of_eq ?_) hge⟩
    · exact zpow_le_zpow_right₀ one_le_two (by omega)
    · congr 1
      ring

/-! ### Rounding keeps to one side of a double -/

/-- The significand and the exponent before a significand that is too long is halved. -/
theorem ofRatio_eq {n d : Nat} (hn : n ≠ 0) (hf : (ofRatio false n d).isFinite) :
    (ofRatio false n d).value =
      roundDiv (scaled n d (lastPlace n d)).1 (scaled n d (lastPlace n d)).2 *
        2 ^ lastPlace n d := by
  unfold ofRatio at hf ⊢
  simp only [hn, if_false] at hf ⊢
  split at hf <;> rename_i hm
  · simp only [hm, if_true] at hf ⊢
    split at hf
    · simp [isFinite] at hf
    · rename_i hg
      simp only [hg, if_false, value, Bool.false_eq_true]
      push_cast
      rw [zpow_add₀ two_ne_zero]
      norm_num [precision]
      ring
  · simp only [hm, if_false] at hf ⊢
    split at hf
    · simp [isFinite] at hf
    · rename_i hg
      simp [hg, value]

theorem ofRatio_isFinite {n d : Nat} (hd : 0 < d) (h : n ≤ d) :
    (ofRatio false n d).isFinite = true := by
  by_cases hn : n = 0
  · simp [ofRatio, hn, zero, isFinite]
  · have hle : lastPlace n d ≤ 0 := by
      by_contra hpos
      have hnormal := (lastPlace_isLastPlace hn hd).normal (by unfold leastExponent; omega)
      have hone : (n : ℚ) / d ≤ 1 := div_le_one_of_le₀ (by exact_mod_cast h) (by positivity)
      have htwo : (1 : ℚ) < 2 ^ ((precision : Int) - 1 + lastPlace n d) :=
        one_lt_zpow₀ one_lt_two (by unfold precision; omega)
      linarith
    unfold ofRatio
    simp only [hn, if_false]
    split <;> (unfold greatestExponent; rw [if_neg (by omega)]; rfl)

/-- A larger quotient is not rounded to a smaller double. -/
theorem ofRatio_mono {n d n' d' : Nat} (hd : 0 < d) (hd' : 0 < d')
    (hf : (ofRatio false n d).isFinite) (hf' : (ofRatio false n' d').isFinite)
    (h : n * d' ≤ n' * d) : (ofRatio false n d).value ≤ (ofRatio false n' d').value := by
  by_cases hn : n = 0
  · have hzero : (ofRatio false n d).value = 0 := by simp [hn, ofRatio, zero, value]
    rw [hzero]
    by_cases hn' : n' = 0
    · simp [hn', ofRatio, zero, value]
    · rw [ofRatio_eq hn' hf']
      positivity
  have hn' : n' ≠ 0 := by
    rintro rfl
    have := Nat.mul_pos (Nat.pos_of_ne_zero hn) hd'
    omega
  have hq : (n : ℚ) / d ≤ n' / d' := by
    rw [div_le_div_iff₀ (by exact_mod_cast hd) (by exact_mod_cast hd')]
    exact_mod_cast h
  obtain ⟨hleast, hfits, hnormal⟩ := lastPlace_isLastPlace hn hd
  obtain ⟨hleast', hfits', hnormal'⟩ := lastPlace_isLastPlace hn' hd'
  rw [ofRatio_eq hn hf, ofRatio_eq hn' hf']
  obtain ⟨hb, hs⟩ := scaled_eq n hd (lastPlace n d)
  obtain ⟨hb', hs'⟩ := scaled_eq n' hd' (lastPlace n' d')
  generalize lastPlace n d = e at *
  generalize lastPlace n' d' = e' at *
  have hp : (0 : ℚ) < 2 ^ e := by positivity
  have hbq : (0 : ℚ) < (scaled n d e).2 := by exact_mod_cast hb
  have hbq' : (0 : ℚ) < (scaled n' d' e').2 := by exact_mod_cast hb'
  rcases lt_trichotomy e e' with hlt | rfl | hgt
  · -- a power of two lies between the two quotients
    have hround : roundDiv (scaled n d e).1 (scaled n d e).2 ≤ 2 ^ precision := by
      refine roundDiv_le hb ?_
      rw [zpow_add₀ two_ne_zero, ← div_lt_iff₀ hp, ← hs, div_lt_iff₀ hbq, zpow_natCast] at hfits
      exact_mod_cast hfits.le
    have hround' : 2 ^ (precision - 1) ≤ roundDiv (scaled n' d' e').1 (scaled n' d' e').2 := by
      refine le_roundDiv hb' ?_
      have hlow := hnormal' (by omega)
      have hpow : (2 : ℚ) ^ ((precision : Int) - 1) = ((2 ^ (precision - 1) : Nat) : ℚ) := by
        norm_num [precision]
      rw [zpow_add₀ two_ne_zero, ← le_div_iff₀ (by positivity), ← hs', le_div_iff₀ hbq', hpow]
        at hlow
      exact_mod_cast hlow
    calc (roundDiv (scaled n d e).1 (scaled n d e).2 : ℚ) * 2 ^ e
        ≤ 2 ^ precision * 2 ^ e := by gcongr; exact_mod_cast hround
      _ = 2 ^ ((precision : Int) + e) := by rw [zpow_add₀ two_ne_zero, zpow_natCast]
      _ ≤ 2 ^ ((precision : Int) - 1 + e') := zpow_le_zpow_right₀ one_le_two (by omega)
      _ = 2 ^ (precision - 1) * 2 ^ e' := by rw [zpow_add₀ two_ne_zero]; norm_num [precision]
      _ ≤ roundDiv (scaled n' d' e').1 (scaled n' d' e').2 * 2 ^ e' := by
        gcongr
        exact_mod_cast hround'
  · have hscaled : (scaled n d e).1 * (scaled n' d' e).2 ≤ (scaled n' d' e).1 * (scaled n d e).2 := by
      have hdiv := div_le_div_of_nonneg_right hq hp.le
      rw [← hs, ← hs', div_le_div_iff₀ hbq hbq'] at hdiv
      exact_mod_cast hdiv
    gcongr
    exact_mod_cast roundDiv_mono hb hb' hscaled
  · exfalso
    have hlow := hnormal (by omega)
    have hstep : (2 : ℚ) ^ ((precision : Int) + e') ≤ 2 ^ ((precision : Int) - 1 + e) :=
      zpow_le_zpow_right₀ one_le_two (by omega)
    linarith

/-- A double that a quotient does not exceed is not exceeded by the rounded quotient either. -/
theorem value_ofRatio_le {n d m : Nat} {f : Int} (hd : 0 < d)
    (ht : (finite false m f).Representable) (hf : (ofRatio false n d).isFinite)
    (h : (n : ℚ) / d ≤ (finite false m f).value) :
    (ofRatio false n d).value ≤ (finite false m f).value := by
  by_cases hn : n = 0
  · have hzero : (ofRatio false n d).value = 0 := by simp [hn, ofRatio, zero, value]
    rw [hzero]
    simp only [value, Bool.false_eq_true, if_false]
    positivity
  obtain ⟨hm, hleast, -⟩ := ht
  obtain ⟨-, -, hnormal⟩ := lastPlace_isLastPlace hn hd
  rw [ofRatio_eq hn hf]
  obtain ⟨hb, hq⟩ := scaled_eq n hd (lastPlace n d)
  generalize lastPlace n d = e at *
  have hp : (0 : ℚ) < 2 ^ e := by positivity
  by_cases hef : e ≤ f
  · -- the double is a whole number of the quotient's last places
    have hk : ((m * 2 ^ (f - e).toNat : Nat) : ℚ) * 2 ^ e = (finite false m f).value := by
      have := units_mul false m hef
      simpa [units] using this
    rw [← hk] at h ⊢
    have hb' : (0 : ℚ) < (scaled n d e).2 := by exact_mod_cast hb
    have hle : (scaled n d e).1 ≤ m * 2 ^ (f - e).toNat * (scaled n d e).2 := by
      rw [← div_le_iff₀ hp, ← hq, div_le_iff₀ hb'] at h
      exact_mod_cast h
    exact mul_le_mul_of_nonneg_right (by exact_mod_cast roundDiv_le hb hle) hp.le
  · exfalso
    have hlow := hnormal (by omega)
    have hhigh : (finite false m f).value < 2 ^ ((precision : Int) - 1 + e) := by
      calc (finite false m f).value = (m : ℚ) * 2 ^ f := by simp [value]
        _ < 2 ^ (precision : Int) * 2 ^ f := by
          refine mul_lt_mul_of_pos_right ?_ (by positivity)
          exact_mod_cast hm
        _ = 2 ^ ((precision : Int) + f) := by rw [← zpow_add₀ two_ne_zero]
        _ ≤ 2 ^ ((precision : Int) - 1 + e) := zpow_le_zpow_right₀ one_le_two (by omega)
    linarith

/-- A double below a rounded quotient is below the exact one. -/
theorem lt_of_lt_ofRatio {n d m : Nat} {f : Int} (hd : 0 < d)
    (ht : (finite false m f).Representable) (hf : (ofRatio false n d).isFinite)
    (h : (finite false m f).lt (ofRatio false n d) = true) :
    (finite false m f).value < n / d := by
  by_contra hle
  have := value_ofRatio_le hd ht hf (not_lt.mp hle)
  rw [lt_iff_value_lt rfl hf] at h
  exact absurd h (not_lt.mpr this)

/-! ### One half -/

theorem half_eq : ofRatio false 1 2 = finite false (2 ^ 52) (-53) := by decide +kernel

theorem half_value : (finite false (2 ^ 52) (-53)).value = 1 / 2 := by norm_num [value]

/-- More than half of a total below `2 ^ 53` is also a share that is rounded to more than one
half. -/
theorem half_lt_ofRatio {n d : Nat} (hd : d < 2 ^ precision) (hle : n ≤ d) (h : d < 2 * n) :
    (ofRatio false 1 2).lt (ofRatio false n d) = true := by
  have hpos : 0 < d := by omega
  have hn : n ≠ 0 := by omega
  have hf := ofRatio_isFinite hpos hle
  rw [half_eq, lt_iff_value_lt rfl hf, half_value, ofRatio_eq hn hf]
  have hd' : (0 : ℚ) < d := by exact_mod_cast hpos
  have hhalf : (1 / 2 : ℚ) < n / d := by
    rw [lt_div_iff₀ hd']
    have : (d : ℚ) < 2 * n := by exact_mod_cast h
    linarith
  have hone : (n : ℚ) / d ≤ 1 := div_le_one_of_le₀ (by exact_mod_cast hle) hd'.le
  obtain ⟨hleast, hfits, hnormal⟩ := lastPlace_isLastPlace hn hpos
  generalize lastPlace n d = e at *
  have hlow : -53 ≤ e := by
    by_contra hlt
    have : (2 : ℚ) ^ ((precision : Int) + e) ≤ 2 ^ (-1 : Int) :=
      zpow_le_zpow_right₀ one_le_two (by unfold precision; omega)
    norm_num at this hhalf
    linarith
  have hhigh : e ≤ -52 := by
    by_contra hlt
    have := hnormal (by unfold leastExponent; omega)
    have : (1 : ℚ) < 2 ^ ((precision : Int) - 1 + e) :=
      one_lt_zpow₀ one_lt_two (by unfold precision; omega)
    linarith
  obtain rfl | rfl : e = -53 ∨ e = -52 := by omega
  · rw [show scaled n d (-53) = (n * 2 ^ 53, d) from rfl]
    have hround : 2 ^ 52 < roundDiv (n * 2 ^ 53) d := by
      refine lt_roundDiv hpos ?_
      unfold precision at hd
      omega
    have hcast : (2 ^ 52 : ℚ) < roundDiv (n * 2 ^ 53) d := by exact_mod_cast hround
    calc (1 / 2 : ℚ) = 2 ^ 52 * 2 ^ (-53 : Int) := by norm_num
      _ < roundDiv (n * 2 ^ 53) d * 2 ^ (-53 : Int) := by gcongr
  · -- the quotient is one
    have hge : d ≤ n := by
      have := hnormal (by unfold leastExponent; omega)
      norm_num [precision, le_div_iff₀ hd'] at this
      exact this
    rw [show scaled n d (-52) = (n * 2 ^ 52, d) from rfl]
    have hround : 2 ^ 52 ≤ roundDiv (n * 2 ^ 52) d := le_roundDiv hpos (by omega)
    have hcast : (2 ^ 52 : ℚ) ≤ roundDiv (n * 2 ^ 52) d := by exact_mod_cast hround
    calc (1 / 2 : ℚ) < 2 ^ 52 * 2 ^ (-52 : Int) := by norm_num
      _ ≤ roundDiv (n * 2 ^ 52) d * 2 ^ (-52 : Int) := by gcongr

end Double

end LintConfig.Number
