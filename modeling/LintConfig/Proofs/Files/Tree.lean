import LintConfig.Files.Tree
import Mathlib.Data.List.Infix
import Mathlib.Tactic.ByContra

/-! # Places in a tree

What is put at a place is found there, and there only: a place on the way to it stays a folder, a
place that is apart from it stays as it is. -/
namespace LintConfig.Files.Tree

/-! ### Entries of a folder -/

theorem lookup_put (n m : String) (t : Tree) (entries : List (String × Tree)) :
    lookup? n (put m t entries) = if n = m then some t else lookup? n entries := by
  induction entries with
  | nil => by_cases h : m = n <;> simp [put, lookup?, h, eq_comm (a := n)]
  | cons e entries ih =>
    obtain ⟨k, u⟩ := e
    rw [put]
    split
    · rename_i hk
      subst hk
      by_cases h : k = n <;> simp [lookup?, h, eq_comm (a := n)]
    · rename_i hk
      by_cases hkn : k = n
      · have hnm : n ≠ m := fun h => hk (hkn.trans h)
        simp [lookup?, hkn, hnm]
      · simp [lookup?, hkn, ih]

theorem put_put (m : String) (t u : Tree) (entries : List (String × Tree)) :
    put m t (put m u entries) = put m t entries := by
  induction entries with
  | nil => simp [put]
  | cons e entries ih =>
    obtain ⟨k, v⟩ := e
    by_cases h : k = m <;> simp [put, h, ih]

theorem lookup_isSome {n : String} {entries : List (String × Tree)} :
    (lookup? n entries).isSome = true ↔ n ∈ entries.map (·.1) := by
  induction entries with
  | nil => simp [lookup?]
  | cons e entries ih =>
    obtain ⟨k, v⟩ := e
    by_cases h : k = n
    · simp [lookup?, h]
    · simp [lookup?, h, ih, eq_comm (a := n)]

theorem mem_of_lookup {n : String} {t : Tree} {entries : List (String × Tree)}
    (h : lookup? n entries = some t) : (n, t) ∈ entries := by
  induction entries with
  | nil => simp [lookup?] at h
  | cons e entries ih =>
    obtain ⟨k, v⟩ := e
    rw [lookup?] at h
    split at h
    · rename_i hk
      rw [hk, Option.some.inj h]
      exact List.mem_cons_self
    · exact List.mem_cons_of_mem _ (ih h)

@[simp] theorem get?_nil (t : Tree) : t.get? [] = some t := by cases t <;> rfl

@[simp] theorem get?_file (bytes : List UInt8) (n : String) (rest : List String) :
    (file bytes).get? (n :: rest) = none := rfl

theorem get?_folder (entries : List (String × Tree)) (n : String) (rest : List String) :
    (folder entries).get? (n :: rest) = (lookup? n entries).bind (get? · rest) := rfl

@[simp] theorem get?_empty (n : String) (rest : List String) : empty.get? (n :: rest) = none := rfl

theorem get?_append (t : Tree) (r s : List String) :
    t.get? (r ++ s) = (t.get? r).bind (get? · s) := by
  induction r generalizing t with
  | nil => simp
  | cons n r ih =>
    cases t with
    | file bytes => rfl
    | folder entries =>
      rw [List.cons_append, get?_folder, get?_folder, Option.bind_assoc]
      exact Option.bind_congr fun u _ => ih u

@[simp] theorem set_nil (t new : Tree) : t.set [] new = new := by cases t <;> rfl

theorem set_folder (entries : List (String × Tree)) (n : String) (rest : List String) (new : Tree) :
    (folder entries).set (n :: rest) new =
      folder (put n (((lookup? n entries).getD empty).set rest new) entries) := rfl

theorem get?_set (t : Tree) (q : List String) (new : Tree) : (t.set q new).get? q = some new := by
  induction q generalizing t with
  | nil => simp
  | cons n q ih =>
    cases t with
    | file bytes => simp [set, get?_folder, lookup?, ih]
    | folder entries => simp [set_folder, get?_folder, lookup_put, ih]

/-- What is below a place is what is put there. -/
theorem get?_set_append (t : Tree) (q s : List String) (new : Tree) :
    (t.set q new).get? (q ++ s) = new.get? s := by
  rw [get?_append, get?_set]
  rfl

/-- On the way to a place, the folder there holds what is put. -/
theorem get?_set_above {t u : Tree} {r : List String} (h : t.get? r = some u) (s : List String)
    (new : Tree) : (t.set (r ++ s) new).get? r = some (u.set s new) := by
  induction r generalizing t with
  | nil =>
    rw [get?_nil] at h
    simp [Option.some.inj h]
  | cons n r ih =>
    cases t with
    | file bytes => simp at h
    | folder entries =>
      rw [get?_folder] at h
      obtain ⟨v, hv, hu⟩ := Option.bind_eq_some_iff.mp h
      rw [List.cons_append, set_folder, get?_folder, lookup_put, if_pos rfl, hv]
      exact ih hu

/-- A place apart from the one where something is put stays as it is. -/
theorem get?_set_apart {q r : List String} (hqr : ¬ q <+: r) (hrq : ¬ r <+: q) (t new : Tree) :
    (t.set q new).get? r = t.get? r := by
  induction q generalizing t r with
  | nil => exact absurd r.nil_prefix hqr
  | cons n q ih =>
    cases r with
    | nil => exact absurd (List.nil_prefix) hrq
    | cons m r =>
      have hapart : n = m → ∀ u : Tree, (u.set q new).get? r = u.get? r := by
        rintro rfl u
        exact ih (fun h => hqr (List.cons_prefix_cons.mpr ⟨rfl, h⟩))
          (fun h => hrq (List.cons_prefix_cons.mpr ⟨rfl, h⟩)) u
      cases t with
      | file bytes =>
        by_cases h : n = m
        · have hnil : r ≠ [] := fun hr => hrq (by simp [h, hr])
          obtain ⟨k, r', rfl⟩ := List.exists_cons_of_ne_nil hnil
          simp [set, get?_folder, lookup?, h, hapart h]
        · simp [set, get?_folder, lookup?, h]
      | folder entries =>
        rw [set_folder, get?_folder, get?_folder, lookup_put]
        by_cases h : m = n
        · rw [if_pos h, h, Option.bind_some, hapart h.symm]
          cases lookup? n entries with
          | some u => rfl
          | none =>
            have hnil : r ≠ [] := fun hr => hrq (by simp [h, hr])
            obtain ⟨k, r', rfl⟩ := List.exists_cons_of_ne_nil hnil
            rfl
        · rw [if_neg h]

theorem set_set (t : Tree) (q : List String) (a b : Tree) : (t.set q a).set q b = t.set q b := by
  induction q generalizing t with
  | nil => simp
  | cons n q ih =>
    cases t with
    | file bytes => simp [set, put, lookup?, ih]
    | folder entries => simp [set_folder, lookup_put, put_put, ih]

end LintConfig.Files.Tree
