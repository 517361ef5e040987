import LintConfig.Value

/-! # Values that are alike are the same

So whether two values are the same can be decided, although a value holds lists of values. -/
namespace LintConfig.Value

mutual

theorem eq_of_alike : (a b : Value) → alike a b = true → a = b
  | null, b, h => by cases b <;> simp_all [alike]
  | bool _, b, h => by cases b <;> simp_all [alike]
  | integer _, b, h => by cases b <;> simp_all [alike]
  | double _, b, h => by cases b <;> simp_all [alike]
  | text _, b, h => by cases b <;> simp_all [alike]
  | halves _, b, h => by cases b <;> simp_all [alike]
  | bytes _, b, h => by cases b <;> simp_all [alike]
  | date _, b, h => by cases b <;> simp_all [alike]
  | moment _, b, h => by cases b <;> simp_all [alike]
  | again _, b, h => by cases b <;> simp_all [alike]
  | list xs, b, h => by
    cases b with
    | list ys => rw [eq_of_itemsAlike xs ys h]
    | _ => cases h
  | tuple xs, b, h => by
    cases b with
    | tuple ys => rw [eq_of_itemsAlike xs ys h]
    | _ => cases h
  | set xs, b, h => by
    cases b with
    | set ys => rw [eq_of_itemsAlike xs ys h]
    | _ => cases h
  | map es, b, h => by
    cases b with
    | map fs => rw [eq_of_entriesAlike es fs h]
    | _ => cases h
  | knot l a, b, h => by
    cases b with
    | knot m c =>
      obtain ⟨hl, ha⟩ := Bool.and_eq_true_iff.mp h
      rw [eq_of_beq hl, eq_of_alike a c ha]
    | _ => cases h

theorem eq_of_itemsAlike : (xs ys : List Value) → itemsAlike xs ys = true → xs = ys
  | [], ys, h => by
    cases ys with
    | nil => rfl
    | cons y ys => cases h
  | x :: xs, ys, h => by
    cases ys with
    | nil => cases h
    | cons y ys =>
      obtain ⟨hx, hxs⟩ := Bool.and_eq_true_iff.mp h
      rw [eq_of_alike x y hx, eq_of_itemsAlike xs ys hxs]

theorem eq_of_entriesAlike : (es fs : List (Value × Value)) → entriesAlike es fs = true → es = fs
  | [], fs, h => by
    cases fs with
    | nil => rfl
    | cons f fs => cases h
  | (k, v) :: es, fs, h => by
    cases fs with
    | nil => cases h
    | cons f fs =>
      obtain ⟨l, w⟩ := f
      obtain ⟨hkv, hes⟩ := Bool.and_eq_true_iff.mp h
      obtain ⟨hk, hv⟩ := Bool.and_eq_true_iff.mp hkv
      rw [eq_of_alike k l hk, eq_of_alike v w hv, eq_of_entriesAlike es fs hes]

end

mutual

theorem alike_self : (a : Value) → alike a a = true
  | null => rfl
  | bool _ | integer _ | double _ | text _ | halves _ | bytes _ | date _ | moment _ | again _ => by
    simp [alike]
  | list xs | tuple xs | set xs => itemsAlike_self xs
  | map es => entriesAlike_self es
  | knot l a => by simp [alike, alike_self a]

theorem itemsAlike_self : (xs : List Value) → itemsAlike xs xs = true
  | [] => rfl
  | x :: xs => by simp [itemsAlike, alike_self x, itemsAlike_self xs]

theorem entriesAlike_self : (es : List (Value × Value)) → entriesAlike es es = true
  | [] => rfl
  | (k, v) :: es => by simp [entriesAlike, alike_self k, alike_self v, entriesAlike_self es]

end

instance : LawfulBEq Value where
  eq_of_beq h := eq_of_alike _ _ h
  rfl := alike_self _

instance : DecidableEq Value := instDecidableEqOfLawfulBEq

end LintConfig.Value
