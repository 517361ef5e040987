import LintConfig.Files.Expansion
import LintConfig.Proofs.Failing
import Mathlib.Data.List.Nodup
import Mathlib.Tactic.ByContra

/-! # Patterns stand for each file once

Paths are sorted by their components, and what equals its predecessor is dropped. The order tells
any two paths apart that lead into the tree, so that equal ones stand next to each other and no file
is left twice. -/
namespace LintConfig.Files

/-! ### The order of paths -/

theorem partsBefore_total (as bs : List String) :
    partsBefore as bs = false ∨ partsBefore bs as = false := by
  induction as generalizing bs with
  | nil => cases bs <;> simp [partsBefore]
  | cons a as ih =>
    cases bs with
    | nil => simp [partsBefore]
    | cons b bs =>
      by_cases hab : a < b
      · have hne : b ≠ a := (String.ne_of_lt hab).symm
        simp [partsBefore, String.lt_asymm hab, hne]
      · by_cases he : a = b
        · subst he
          simpa [partsBefore] using ih bs
        · simp [partsBefore, hab, he]

theorem partsBefore_antisymm {as bs : List String} (h : partsBefore as bs = false)
    (h' : partsBefore bs as = false) : as = bs := by
  induction as generalizing bs with
  | nil => cases bs <;> simp_all [partsBefore]
  | cons a as ih =>
    cases bs with
    | nil => simp [partsBefore] at h'
    | cons b bs =>
      simp only [partsBefore, Bool.or_eq_false_iff, Bool.and_eq_false_iff, decide_eq_false_iff_not,
        beq_eq_false_iff_ne] at h h'
      obtain rfl : a = b := String.le_antisymm (String.not_lt.mp h'.1) (String.not_lt.mp h.1)
      rw [ih (h.2.resolve_left (· rfl)) (h'.2.resolve_left (· rfl))]

theorem partsBefore_split {as cs : List String} (bs : List String)
    (h : partsBefore cs as = true) : partsBefore cs bs = true ∨ partsBefore bs as = true := by
  induction cs generalizing as bs with
  | nil =>
    cases bs with
    | nil => exact Or.inr h
    | cons b bs => exact Or.inl rfl
  | cons c cs ih =>
    cases as with
    | nil => simp [partsBefore] at h
    | cons a as =>
      cases bs with
      | nil => exact Or.inr rfl
      | cons b bs =>
        simp only [partsBefore, Bool.or_eq_true, Bool.and_eq_true, decide_eq_true_eq,
          beq_iff_eq] at h ⊢
        by_cases hcb : c < b
        · exact Or.inl (Or.inl hcb)
        · have hbc : b ≤ c := String.not_lt.mp hcb
          by_cases hba : b < a
          · exact Or.inr (Or.inl hba)
          · have hab : a ≤ b := String.not_lt.mp hba
            rcases h with hca | ⟨rfl, hrest⟩
            · exact absurd hca (String.not_lt.mpr (String.le_trans hab hbc))
            · obtain rfl : b = c := String.le_antisymm hbc hab
              exact (ih bs hrest).imp (fun h => Or.inr ⟨rfl, h⟩) (fun h => Or.inr ⟨rfl, h⟩)

theorem sorted_mergeSort (ps : List Path) :
    (ps.mergeSort fun p q => !q.before p).Pairwise fun p q => q.before p = false := by
  have h := @List.pairwise_mergeSort Path (fun p q => !q.before p) ?_ ?_ ps
  · exact h.imp fun h => by simpa using h
  · intro p q r hpq hqr
    simp only [Path.before, Bool.not_eq_true'] at hpq hqr ⊢
    by_contra hpr
    rcases partsBefore_split q.key (by simpa using hpr) with h | h
    · rw [h] at hqr
      contradiction
    · rw [h] at hpq
      contradiction
  · intro p q
    rcases partsBefore_total p.key q.key with h | h <;> simp [Path.before, h]

/-! ### Dropping what is repeated -/

theorem mem_dropRepeated {p : Path} {ps : List Path} : p ∈ dropRepeated ps ↔ p ∈ ps := by
  induction ps using dropRepeated.induct with
  | case1 q rest ih => rw [dropRepeated, if_pos rfl, ih]; simp
  | case2 q r rest hne ih => rw [dropRepeated, if_neg hne, List.mem_cons, ih, ← List.mem_cons]
  | case3 few h => rw [dropRepeated]; exact h

theorem dropRepeated_sublist (ps : List Path) : (dropRepeated ps).Sublist ps := by
  induction ps using dropRepeated.induct with
  | case1 q rest ih =>
    rw [dropRepeated, if_pos rfl]
    exact ih.cons q
  | case2 q r rest hne ih =>
    rw [dropRepeated, if_neg hne]
    exact ih.cons_cons q
  | case3 few h =>
    rw [dropRepeated]
    exact h

/-- In a list that is sorted by an order that tells its members apart, nothing stays twice. -/
theorem nodup_dropRepeated {ps : List Path} (hsorted : ps.Pairwise fun p q => q.before p = false)
    (hapart : ∀ p ∈ ps, ∀ q ∈ ps, p.before q = false → q.before p = false → p = q) :
    (dropRepeated ps).Nodup := by
  induction ps using dropRepeated.induct with
  | case1 p rest ih =>
    rw [dropRepeated, if_pos rfl]
    exact ih (List.pairwise_cons.mp hsorted).2 fun a ha b hb =>
      hapart a (List.mem_cons_of_mem _ ha) b (List.mem_cons_of_mem _ hb)
  | case2 p q rest hne ih =>
    obtain ⟨hp, hrest⟩ := List.pairwise_cons.mp hsorted
    obtain ⟨hq, -⟩ := List.pairwise_cons.mp hrest
    rw [dropRepeated, if_neg hne, List.nodup_cons, mem_dropRepeated]
    refine ⟨fun hmem => ?_, ih hrest fun a ha b hb =>
      hapart a (List.mem_cons_of_mem _ ha) b (List.mem_cons_of_mem _ hb)⟩
    rcases List.mem_cons.mp hmem with he | hin
    · exact hne he
    · -- `p` stands after `q` as well, so neither is before the other
      have hqp := hq p hin
      have hpq := hp q List.mem_cons_self
      exact hne (hapart p List.mem_cons_self q (by simp) hqp hpq)
  | case3 few h =>
    rw [dropRepeated]
    · match few, h with
      | [], _ => exact List.nodup_nil
      | [p], _ => exact List.nodup_singleton p
      | p :: q :: rest, h => exact absurd rfl (h p q rest)
    · exact h

/-! ### What patterns stand for leads into the tree -/

theorem root_of_locate {root : Tree} {p : Path} {found : List String × Tree}
    (h : root.locate p = .ok found) : p.root = "" := by
  by_contra hne
  unfold Tree.locate Tree.followPath at h
  simp only [beq_iff_eq, hne, if_false] at h
  split at h
  · contradiction
  · rename_i place hplace
    split at hplace
    · contradiction
    · split at hplace <;> contradiction

mutual

theorem root_of_mem_sourcesBelow {extensions excluded : List String} {p q : Path} :
    (t : Tree) → q ∈ sourcesBelow extensions excluded p t → q.root = p.root
  | .file _, h => by simp [sourcesBelow] at h
  | .folder entries, h => by
    rw [sourcesBelow] at h
    exact root_of_mem_entrySources entries h

theorem root_of_mem_entrySources {extensions excluded : List String} {p q : Path} :
    (entries : List (String × Tree)) → q ∈ entrySources extensions excluded p entries →
      q.root = p.root
  | [], h => by simp [entrySources] at h
  | (name, .file bytes) :: rest, h => by
    rw [entrySources] at h
    rcases List.mem_append.mp h with h | h
    · split at h
      · rw [List.mem_singleton.mp h, Path.child]
      · simp at h
    · exact root_of_mem_entrySources rest h
  | (name, .folder entries) :: rest, h => by
    rw [entrySources] at h
    rcases List.mem_append.mp h with h | h
    · split at h
      · simp at h
      · rw [root_of_mem_sourcesBelow (.folder entries) h, Path.child]
    · exact root_of_mem_entrySources rest h

end

theorem root_of_mem_sourcesOf {root : Tree} {extensions excluded : List String} {pattern : String}
    {found : List Path} (h : sourcesOf root extensions excluded pattern = .ok found) {p : Path}
    (hp : p ∈ found) : p.root = "" := by
  unfold sourcesOf at h
  cases hprobe : root.probe (Path.ofString pattern) with
  | error e => simp [hprobe, bind, Except.bind] at h
  | ok what =>
    simp only [hprobe, bind, Except.bind] at h
    split at h
    · rename_i entries
      cases h
      rw [root_of_mem_sourcesBelow _ hp]
      unfold Tree.probe at hprobe
      split at hprobe
      · rename_i found hfound
        exact root_of_locate hfound
      · split at hprobe <;> cases hprobe
    · unfold matchingFiles at h
      dsimp only at h
      split at h
      · contradiction
      · cases h
        split at hp
        · simp at hp
        · have hfile := (List.mem_filter.mp hp).2
          unfold Tree.hasFile Tree.find? at hfile
          split at hfile
          · rename_i hfound
            exact root_of_locate hfound
          · contradiction

variable {root : Tree} {patterns extensions excluded : List String} {found : List Path}

theorem mem_expand (h : expand root patterns extensions excluded = .ok found) {p : Path} :
    p ∈ found ↔ ∃ pattern ∈ patterns, ∃ ps,
      sourcesOf root extensions excluded pattern = .ok ps ∧ p ∈ ps := by
  obtain ⟨lists, hlists, h⟩ := Failing.bind_eq_ok.mp h
  cases h
  rw [mem_dropRepeated, List.mem_mergeSort, List.mem_flatten]
  constructor
  · rintro ⟨ps, hps, hp⟩
    obtain ⟨pattern, hpattern, hfound⟩ := Failing.exists_of_mem_mapM hlists hps
    exact ⟨pattern, hpattern, ps, hfound, hp⟩
  · rintro ⟨pattern, hpattern, ps, hfound, hp⟩
    exact ⟨ps, Failing.mem_of_mapM hlists hpattern hfound, hp⟩

theorem root_of_mem_expand (h : expand root patterns extensions excluded = .ok found) {p : Path}
    (hp : p ∈ found) : p.root = "" := by
  obtain ⟨pattern, -, ps, hps, hmem⟩ := (mem_expand h).mp hp
  exact root_of_mem_sourcesOf hps hmem

/-- The order tells the files that are found apart. -/
theorem apart_of_mem_expand {root' : Tree} {patterns' extensions' excluded' : List String}
    {found' : List Path} (h : expand root patterns extensions excluded = .ok found)
    (h' : expand root' patterns' extensions' excluded' = .ok found') :
    ∀ p ∈ found, ∀ q ∈ found', p.before q = false → q.before p = false → p = q := by
  intro p hp q hq hpq hqp
  have hkey := partsBefore_antisymm hpq hqp
  have hp := root_of_mem_expand h hp
  have hq := root_of_mem_expand h' hq
  obtain ⟨r, ps⟩ := p
  obtain ⟨s, qs⟩ := q
  dsimp only at hp hq
  subst hp hq
  simpa [Path.key] using hkey

theorem sorted_expand (h : expand root patterns extensions excluded = .ok found) :
    found.Pairwise fun p q => q.before p = false := by
  obtain ⟨lists, -, h⟩ := Failing.bind_eq_ok.mp h
  cases h
  exact (sorted_mergeSort _).sublist (dropRepeated_sublist _)

/-- No file is found twice. -/
theorem nodup_expand (h : expand root patterns extensions excluded = .ok found) : found.Nodup := by
  have hapart := apart_of_mem_expand h h
  obtain ⟨lists, -, h⟩ := Failing.bind_eq_ok.mp h
  cases h
  refine nodup_dropRepeated (sorted_mergeSort _) fun p hp q hq => hapart p ?_ q ?_
  · exact mem_dropRepeated.mpr hp
  · exact mem_dropRepeated.mpr hq

/-- Every file that is found is before those that follow it. -/
theorem increasing_expand (h : expand root patterns extensions excluded = .ok found) :
    found.Pairwise fun p q => p.before q = true := by
  refine ((sorted_expand h).and (nodup_expand h)).imp_of_mem fun hp hq hpq => ?_
  by_contra hno
  exact hpq.2 (apart_of_mem_expand h h _ hp _ hq (Bool.eq_false_iff.mpr hno) hpq.1)

/-- Where the same files are found, they are found in the same order. -/
theorem expand_ext {root' : Tree} {patterns' extensions' excluded' : List String}
    {found' : List Path} (h : expand root patterns extensions excluded = .ok found)
    (h' : expand root' patterns' extensions' excluded' = .ok found')
    (hmem : ∀ p, p ∈ found ↔ p ∈ found') : found = found' := by
  have hperm : found.Perm found' :=
    (List.perm_ext_iff_of_nodup (nodup_expand h) (nodup_expand h')).mpr hmem
  refine hperm.eq_of_pairwise (fun p q hp hq hqp hpq => ?_) (sorted_expand h) (sorted_expand h')
  exact apart_of_mem_expand h h' p hp q hq hpq hqp

end LintConfig.Files
