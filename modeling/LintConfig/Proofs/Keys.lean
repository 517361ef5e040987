import LintConfig.Proofs.Rounding
import LintConfig.Value

/-! # What the keys of a map are told apart by

Keys of different kinds can be the same: truth values and doubles count as the integers that they are
equal to, and moments are compared in universal time. Behind this there is an identity that each
scalar has or, being no number, has not; so to be the same key is symmetric, and keys that are the
same are the same as the same others. -/
namespace LintConfig.Number.Double

/-- A double is an integer exactly if that is its value. -/
theorem isInt_iff {x : Double} {n : Int} : x.isInt n = true ↔ x.isFinite = true ∧ x.value = n := by
  cases x with
  | finite s m e =>
    have hp : (2 : ℚ) ^ min e 0 ≠ 0 := by positivity
    have hscale : (2 : ℚ) ^ (-(min e 0)).toNat * 2 ^ min e 0 = 1 := by
      rw [← zpow_natCast, ← zpow_add₀ two_ne_zero]
      have hzero : ((-(min e 0)).toNat : Int) + min e 0 = 0 := by omega
      rw [hzero, zpow_zero]
    have hvalue : (n : ℚ) = ((n * 2 ^ (-(min e 0)).toNat : Int) : ℚ) * 2 ^ min e 0 := by
      push_cast
      rw [mul_assoc, hscale, mul_one]
    rw [hvalue, ← units_mul s m (min_le_left e 0), mul_left_inj' hp, Int.cast_inj]
    simp [isInt, isFinite]
  | infinite s => simp [isInt, isFinite]
  | nan => simp [isInt, isFinite]

/-- The number that a double is, or the sign of an infinite one. What is no number has no identity. -/
noncomputable def identity? : Double → Option (ℚ ⊕ Bool)
  | .finite s m e => some (.inl (finite s m e).value)
  | .infinite s => some (.inr s)
  | .nan => none

theorem same_iff_identity {x y : Double} :
    x.same y = true ↔ x.identity? = y.identity? ∧ x.identity?.isSome = true := by
  cases x with
  | finite s m e =>
    cases y with
    | finite t n f =>
      rw [same_iff_value_eq rfl rfl]
      simp [identity?]
    | infinite t => simp [same, identity?]
    | nan => simp [same, identity?]
  | infinite s => cases y <;> simp [same, identity?]
  | nan => simp [same, identity?]

theorem isInt_iff_identity {x : Double} {n : Int} :
    x.isInt n = true ↔ x.identity? = some (.inl (n : ℚ)) := by
  rw [isInt_iff]
  cases x <;> simp [identity?, isFinite]

end LintConfig.Number.Double

namespace LintConfig

/-- A moment, or the instant that it is in universal time. -/
def Moment.identity (m : Moment) : Moment ⊕ (Int × Nat × Nat) :=
  match m.offset with
  | none => .inl m
  | some offset => .inr (m.universal offset, m.second, m.microsecond)

theorem Moment.same_iff_identity {m n : Moment} : m.same n = true ↔ m.identity = n.identity := by
  unfold Moment.same Moment.identity
  cases m.offset <;> cases n.offset <;> simp [and_assoc]

namespace Value

/-- What the keys of a map are told apart by. -/
inductive Identity
  | null
  | number (x : ℚ ⊕ Bool)
  | text (s : String)
  | halves (codes : List Nat)
  | bytes (b : List UInt8)
  | date (d : Date)
  | moment (m : Moment ⊕ (Int × Nat × Nat))

/-- The identity of a scalar. Truth values are numbers, and collections are no keys. -/
noncomputable def identity? : Value → Option Identity
  | .null => some .null
  | .bool b => some (.number (.inl (if b then 1 else 0)))
  | .integer n => some (.number (.inl n))
  | .double x => x.identity?.map .number
  | .text s => some (.text s)
  | .halves codes => some (.halves codes)
  | .bytes b => some (.bytes b)
  | .date d => some (.date d)
  | .moment m => some (.moment m.identity)
  | _ => none

theorem identity_of_integer {v : Value} {n : Int} (h : v.integer? = some n) :
    v.identity? = some (.number (.inl n)) := by
  cases v with
  | bool b =>
    obtain rfl := Option.some.inj h
    cases b <;> simp [identity?]
  | integer m =>
    obtain rfl := Option.some.inj h
    rfl
  | _ => cases h

/-- Two scalars are the same key exactly if they have the same identity. -/
theorem sameScalar_iff_identity {a b : Value} :
    a.sameScalar b = true ↔ a.identity? = b.identity? ∧ a.identity?.isSome = true := by
  have hnumber : ∀ x y : Option (ℚ ⊕ Bool), x.map Identity.number = y.map .number ↔ x = y := fun x y =>
    (Option.map_injective fun _ _ h => Identity.number.inj h).eq_iff
  unfold sameScalar
  cases ha : a.integer? with
  | some m =>
    rw [identity_of_integer ha]
    cases hb : b.integer? with
    | some n => simp [identity_of_integer hb]
    | none =>
      cases b with
      | double y =>
        have h := hnumber (some (.inl (m : ℚ))) y.identity?
        simp only [identity?, Number.Double.isInt_iff_identity, Option.isSome_some, and_true]
        exact eq_comm.trans h.symm
      | _ => simp_all [integer?, identity?]
  | none =>
    cases hb : b.integer? with
    | some n =>
      rw [identity_of_integer hb]
      cases a with
      | double x =>
        have h := hnumber x.identity? (some (.inl (n : ℚ)))
        simp only [identity?, Number.Double.isInt_iff_identity]
        rw [← h]
        exact ⟨fun h => ⟨h, by rw [h]; rfl⟩, And.left⟩
      | _ => simp_all [integer?, identity?]
    | none =>
      cases a <;> cases b <;>
        simp_all [integer?, identity?, Number.Double.same_iff_identity, Moment.same_iff_identity]

theorem sameScalar_comm (a b : Value) : a.sameScalar b = b.sameScalar a := by
  rw [Bool.eq_iff_iff, sameScalar_iff_identity, sameScalar_iff_identity]
  constructor
  · exact fun ⟨h, hsome⟩ => ⟨h.symm, h ▸ hsome⟩
  · exact fun ⟨h, hsome⟩ => ⟨h.symm, h ▸ hsome⟩

/-- The same keys are the same as the same others. -/
theorem sameScalar_congr {a b : Value} (h : a.sameScalar b = true) (c : Value) :
    a.sameScalar c = b.sameScalar c := by
  obtain ⟨heq, -⟩ := sameScalar_iff_identity.mp h
  rw [Bool.eq_iff_iff, sameScalar_iff_identity, sameScalar_iff_identity, heq]

/-- Nothing but the same text is the same key as a text. -/
theorem sameScalar_text {s : String} {v : Value} : (text s).sameScalar v = true ↔ v = .text s := by
  cases v with
  | text t =>
    simp only [sameScalar, integer?, beq_iff_eq, Value.text.injEq]
    exact eq_comm
  | _ => simp [sameScalar, integer?]

end Value

end LintConfig
