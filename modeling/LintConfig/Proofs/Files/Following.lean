import LintConfig.Proofs.Failing
import LintConfig.Proofs.Files.Tree

/-! # Paths in a tree that grows

A folder that is made and a file that is written take nothing away: every path leads where it led
before. The other way round a path may lead further than before, but to no other file than the one
that was written. -/
namespace LintConfig.Files.Tree

def names (entries : List (String × Tree)) : List String := entries.map (·.1)

theorem mem_names_put {n m : String} {t : Tree} {entries : List (String × Tree)} :
    n ∈ names (put m t entries) ↔ n = m ∨ n ∈ names entries := by
  unfold names
  rw [← lookup_isSome, ← lookup_isSome, lookup_put]
  by_cases h : n = m <;> simp [h]

/-! ### Trees that grow -/

/-- What is there stays, but for the content of a file at `q`; of files, only this one can be new. -/
structure Extends (q : List String) (t t' : Tree) : Prop where
  folder {r : List String} {entries : List (String × Tree)} :
    t.get? r = some (.folder entries) →
      ∃ entries', t'.get? r = some (.folder entries') ∧ ∀ n ∈ names entries, n ∈ names entries'
  file {r : List String} {bytes : List UInt8} :
    t.get? r = some (.file bytes) →
      ∃ bytes', t'.get? r = some (.file bytes') ∧ (r ≠ q → bytes' = bytes)
  back {r : List String} {bytes : List UInt8} :
    t'.get? r = some (.file bytes) → r = q ∨ t.get? r = some (.file bytes)

theorem Extends.refl (q : List String) (t : Tree) : Extends q t t where
  folder h := ⟨_, h, fun _ hn => hn⟩
  file h := ⟨_, h, fun _ => rfl⟩
  back h := .inr h

theorem Extends.trans {q : List String} {t u v : Tree} (h : Extends q t u) (h' : Extends q u v) :
    Extends q t v where
  folder := by
    intro r entries hr
    obtain ⟨_, hu, hsub⟩ := h.folder hr
    obtain ⟨_, hv, hsub'⟩ := h'.folder hu
    exact ⟨_, hv, fun n hn => hsub' n (hsub n hn)⟩
  file := by
    intro r bytes hr
    obtain ⟨_, hu, hsame⟩ := h.file hr
    obtain ⟨_, hv, hsame'⟩ := h'.file hu
    exact ⟨_, hv, fun hne => (hsame' hne).trans (hsame hne)⟩
  back := by
    intro r bytes hr
    rcases h'.back hr with hq | hu
    · exact .inl hq
    · exact h.back hu

/-- But for the file at `q` the files are the same. -/
theorem Extends.file_iff {q r : List String} {t t' : Tree} (h : Extends q t t') (hr : r ≠ q)
    (bytes : List UInt8) : t'.get? r = some (.file bytes) ↔ t.get? r = some (.file bytes) := by
  constructor
  · intro hget
    exact (h.back hget).resolve_left hr
  · intro hget
    obtain ⟨bytes', hget', hsame⟩ := h.file hget
    rwa [hsame hr] at hget'

/-- A place in a folder that is free, or taken by a file while a file is to be put there. -/
structure Room (t : Tree) (q : List String) (new : Tree) : Prop where
  above : ∃ r name entries, q = r ++ [name] ∧ t.get? r = some (.folder entries)
  old : t.get? q = none ∨ (∃ bytes, t.get? q = some (.file bytes)) ∧ ∃ bytes, new = .file bytes
  leaf : new = empty ∨ ∃ bytes, new = .file bytes

namespace Room
variable {t new : Tree} {q r : List String}

theorem isFolder_above (h : Room t q new) (hrq : r <+: q) (hne : r ≠ q) :
    ∃ entries, t.get? r = some (folder entries) := by
  obtain ⟨above, name, entries, rfl, habove⟩ := h.above
  obtain hr | hr := List.prefix_concat_iff.mp hrq
  · exact absurd hr hne
  obtain ⟨s, rfl⟩ := hr
  rw [get?_append] at habove
  obtain ⟨u, hu, hs⟩ := Option.bind_eq_some_iff.mp habove
  cases u with
  | folder entries => exact ⟨entries, hu⟩
  | file bytes => cases s <;> simp at hs

/-- What is at the place or below it was a file, and a file takes its place. -/
theorem of_below (h : Room t q new) {s : List String} {u : Tree} (hu : t.get? (q ++ s) = some u) :
    s = [] ∧ (∃ bytes, u = file bytes) ∧ ∃ bytes, new = file bytes := by
  rw [get?_append] at hu
  rcases h.old with hnone | ⟨⟨bytes, hfile⟩, hnew⟩
  · simp [hnone] at hu
  · rw [hfile, Option.bind_some] at hu
    cases s with
    | nil => exact ⟨rfl, ⟨bytes, by simpa using hu.symm⟩, hnew⟩
    | cons n s => simp at hu

theorem get?_below (h : Room t q new) {s : List String} (hs : s ≠ []) : new.get? s = none := by
  obtain ⟨n, s, rfl⟩ := List.exists_cons_of_ne_nil hs
  rcases h.leaf with rfl | ⟨bytes, rfl⟩ <;> rfl

/-- Folders stay, and what is new in them is on the way to the place. -/
theorem folder (h : Room t q new) {entries : List (String × Tree)}
    (hr : t.get? r = some (folder entries)) :
    ∃ entries', (t.set q new).get? r = some (.folder entries') ∧
      (∀ n ∈ names entries, n ∈ names entries') ∧
      ∀ n ∈ names entries', n ∈ names entries ∨ r ++ [n] = q := by
  by_cases hqr : q <+: r
  · obtain ⟨s, rfl⟩ := hqr
    obtain ⟨-, ⟨bytes, hfile⟩, -⟩ := h.of_below hr
    cases hfile
  by_cases hrq : r <+: q
  · obtain ⟨s, rfl⟩ := hrq
    have hs : s ≠ [] := fun hs => hqr (by simp [hs])
    obtain ⟨n, s, rfl⟩ := List.exists_cons_of_ne_nil hs
    refine ⟨_, by rw [get?_set_above hr, set_folder], fun m hm => mem_names_put.mpr (.inr hm), ?_⟩
    intro m hm
    rcases mem_names_put.mp hm with rfl | hm
    · by_cases hs : s = []
      · exact .inr (by rw [hs])
      · -- the place is further below, so the folder on the way is there already
        obtain ⟨below, hbelow⟩ := h.isFolder_above (r := r ++ [m])
          ⟨s, by simp⟩ (fun he => hs (by simpa using he.symm))
        rw [get?_append, hr, Option.bind_some, get?_folder] at hbelow
        obtain ⟨u, hu, -⟩ := Option.bind_eq_some_iff.mp hbelow
        exact .inl (lookup_isSome.mp (by rw [hu]; rfl))
    · exact .inl hm
  · exact ⟨entries, by rw [get?_set_apart hqr hrq, hr], fun n hn => hn, fun n hn => .inl hn⟩

theorem file (h : Room t q new) {bytes : List UInt8} (hr : t.get? r = some (file bytes)) :
    ∃ bytes', (t.set q new).get? r = some (.file bytes') ∧ (r ≠ q → bytes' = bytes) := by
  by_cases hqr : q <+: r
  · obtain ⟨s, rfl⟩ := hqr
    obtain ⟨rfl, -, bytes', rfl⟩ := h.of_below hr
    exact ⟨bytes', by simp [get?_set], fun hne => absurd (List.append_nil q) hne⟩
  · by_cases hrq : r <+: q
    · obtain ⟨entries, hfolder⟩ := h.isFolder_above hrq fun he => hqr (he ▸ List.prefix_rfl)
      rw [hr] at hfolder
      cases hfolder
    · exact ⟨bytes, by rw [get?_set_apart hqr hrq, hr], fun _ => rfl⟩

theorem back (h : Room t q new) {bytes : List UInt8}
    (hr : (t.set q new).get? r = some (.file bytes)) :
    (r = q ∧ new = .file bytes) ∨ t.get? r = some (.file bytes) := by
  by_cases hqr : q <+: r
  · obtain ⟨s, rfl⟩ := hqr
    rw [get?_set_append] at hr
    by_cases hs : s = []
    · subst hs
      rw [get?_nil] at hr
      exact .inl ⟨List.append_nil q, Option.some.inj hr⟩
    · rw [h.get?_below hs] at hr
      cases hr
  · by_cases hrq : r <+: q
    · obtain ⟨entries, hfolder⟩ := h.isFolder_above hrq fun he => hqr (he ▸ List.prefix_rfl)
      obtain ⟨entries', hfolder', -⟩ := h.folder hfolder
      rw [hr] at hfolder'
      cases hfolder'
    · exact .inr (by rw [← hr, get?_set_apart hqr hrq])

theorem extends_set (h : Room t q new) : Extends q t (t.set q new) where
  folder hr := by
    obtain ⟨entries', hget, hsub, -⟩ := h.folder hr
    exact ⟨entries', hget, hsub⟩
  file := h.file
  back hr := (h.back hr).imp_left And.left

/-- A new folder is no change of files, wherever the change is looked for. -/
theorem extends_empty (h : Room t q empty) (p : List String) : Extends p t (t.set q empty) where
  folder := h.extends_set.folder
  file := by
    intro r bytes hr
    obtain ⟨bytes', hget, hsame⟩ := h.file hr
    refine ⟨bytes', hget, fun _ => hsame ?_⟩
    rintro rfl
    rw [get?_set] at hget
    cases hget
  back := by
    intro r bytes hr
    rcases h.back hr with ⟨-, hnew⟩ | hfile
    · cases hnew
    · exact .inr hfile

end Room

/-! ### Following a path -/

@[simp] theorem follow_nil (t : Tree) (place : List String) : t.follow place [] = .ok place := rfl

theorem follow_cons (t : Tree) (place : List String) (part : String) (rest : List String) :
    t.follow place (part :: rest) =
      match t.get? place with
      | some (.folder entries) =>
        if part = ".." then
          if place.isEmpty then .error .missing else t.follow place.dropLast rest
        else if (lookup? part entries).isSome then t.follow (place ++ [part]) rest
        else if componentLimit < part.utf8ByteSize then .error .tooLong
        else .error .missing
      | some (.file _) => .error .notFolder
      | none => .error .missing := rfl

theorem follow_cons_eq_ok {t : Tree} {place rest q : List String} {part : String} :
    t.follow place (part :: rest) = .ok q ↔
      ∃ entries, t.get? place = some (folder entries) ∧
        (part = ".." ∧ place ≠ [] ∧ t.follow place.dropLast rest = .ok q ∨
          part ≠ ".." ∧ part ∈ names entries ∧ t.follow (place ++ [part]) rest = .ok q) := by
  rw [follow_cons]
  cases t.get? place with
  | none => simp
  | some u =>
    cases u with
    | file bytes => simp
    | folder entries =>
      by_cases hup : part = ".."
      · cases place <;> simp [hup]
      · by_cases hin : part ∈ names entries
        · simp [hup, hin, lookup_isSome.mpr hin]
        · have hnone : (lookup? part entries).isSome = false :=
            Bool.eq_false_iff.mpr fun h => hin (lookup_isSome.mp h)
          by_cases hlong : componentLimit < part.utf8ByteSize <;> simp [hup, hin, hnone, hlong]

theorem follow_append (t : Tree) (place xs ys : List String) :
    t.follow place (xs ++ ys) = t.follow place xs >>= fun r => t.follow r ys := by
  induction xs generalizing place with
  | nil => rfl
  | cons x xs ih =>
    rw [List.cons_append, follow_cons, follow_cons]
    cases t.get? place with
    | none => rfl
    | some u =>
      cases u with
      | file bytes => rfl
      | folder entries =>
        dsimp only
        split
        · split
          · rfl
          · exact ih _
        · split
          · exact ih _
          · split <;> rfl

/-- Without double dots a path leads down. -/
theorem follow_down {t : Tree} {place parts q : List String} (hparts : ".." ∉ parts)
    (h : t.follow place parts = .ok q) : q = place ++ parts := by
  induction parts generalizing place with
  | nil => simpa using h.symm
  | cons part rest ih =>
    obtain ⟨entries, -, ⟨rfl, -⟩ | ⟨-, -, hrest⟩⟩ := follow_cons_eq_ok.mp h
    · simp at hparts
    · rw [ih (fun hin => hparts (List.mem_cons_of_mem _ hin)) hrest, List.append_assoc]
      rfl

/-- The components of a place lead there. -/
theorem follow_of_get? {t u : Tree} {place parts : List String} (hparts : ".." ∉ parts)
    (h : t.get? (place ++ parts) = some u) : t.follow place parts = .ok (place ++ parts) := by
  induction parts generalizing place with
  | nil => simp
  | cons part rest ih =>
    have hget := h
    rw [get?_append] at hget
    obtain ⟨v, hv, hrest⟩ := Option.bind_eq_some_iff.mp hget
    cases v with
    | file bytes => simp at hrest
    | folder entries =>
      rw [get?_folder] at hrest
      obtain ⟨w, hw, -⟩ := Option.bind_eq_some_iff.mp hrest
      have hne : part ≠ ".." := fun he => hparts (by simp [he])
      have hin : part ∈ names entries := lookup_isSome.mp (by rw [hw]; rfl)
      rw [List.append_cons] at h
      rw [List.append_cons]
      exact follow_cons_eq_ok.mpr ⟨entries, hv, .inr ⟨hne, hin,
        ih (fun hin => hparts (List.mem_cons_of_mem _ hin)) h⟩⟩

/-- There are no double dots on the way down to a place. -/
theorem noDots_of_follow {t : Tree} {place parts q : List String} (hplace : ".." ∉ place)
    (h : t.follow place parts = .ok q) : ".." ∉ q := by
  induction parts generalizing place with
  | nil =>
    rw [follow_nil] at h
    exact Except.ok.inj h ▸ hplace
  | cons part rest ih =>
    obtain ⟨entries, -, ⟨-, -, hrest⟩ | ⟨hne, -, hrest⟩⟩ := follow_cons_eq_ok.mp h
    · exact ih (fun hin => hplace (List.dropLast_subset _ hin)) hrest
    · exact ih (by simp [hplace, Ne.symm hne]) hrest

/-- Only a component that is too long makes a path too long. -/
theorem exists_of_follow_tooLong {t : Tree} {place parts : List String}
    (h : t.follow place parts = .error .tooLong) :
    ∃ part ∈ parts, componentLimit < part.utf8ByteSize := by
  induction parts generalizing place with
  | nil => simp at h
  | cons part rest ih =>
    have hrest : ∀ place, t.follow place rest = .error .tooLong →
        ∃ p ∈ part :: rest, componentLimit < p.utf8ByteSize := by
      intro place h
      obtain ⟨p, hp, hlong⟩ := ih h
      exact ⟨p, List.mem_cons_of_mem _ hp, hlong⟩
    rw [follow_cons] at h
    split at h
    · split at h
      · split at h
        · cases h
        · exact hrest _ h
      · split at h
        · exact hrest _ h
        · split at h
          · exact ⟨part, List.mem_cons_self, ‹_›⟩
          · cases h
    · cases h
    · cases h

theorem Extends.follow {q : List String} {t t' : Tree} (h : Extends q t t')
    {place parts r : List String} (hfollow : t.follow place parts = .ok r) :
    t'.follow place parts = .ok r := by
  induction parts generalizing place with
  | nil => exact hfollow
  | cons part rest ih =>
    obtain ⟨entries, hget, hpart⟩ := follow_cons_eq_ok.mp hfollow
    obtain ⟨entries', hget', hsub⟩ := h.folder hget
    refine follow_cons_eq_ok.mpr ⟨entries', hget', ?_⟩
    rcases hpart with ⟨hup, hne, hrest⟩ | ⟨hdown, hin, hrest⟩
    · exact .inl ⟨hup, hne, ih hrest⟩
    · exact .inr ⟨hdown, hsub _ hin, ih hrest⟩

end LintConfig.Files.Tree
