import LintConfig.Config.Output
import LintConfig.Proofs.Files.Following

/-! # Writing a file, and writing it again

A file is written into a folder that is made if it is missing. Nothing else changes, and with the
folder and the file in their places the same writing changes nothing at all. -/
namespace LintConfig.Text.Utf8

end LintConfig.Text.Utf8

namespace LintConfig.Files.Tree

/-- The components of a path lead to a place. -/
def Leads (t : Tree) (p : Path) (q : List String) : Prop := t.follow [] p.parts = .ok q

theorem followPath_eq_ok {t : Tree} {p : Path} {parts q : List String} :
    t.followPath p parts = .ok q ↔
      p.obstacle? = none ∧ p.root = "" ∧ t.follow [] parts = .ok q := by
  unfold followPath
  cases p.obstacle? with
  | some o => simp
  | none =>
    by_cases hroot : p.root = ""
    · simp [hroot]
    · simp only [beq_iff_eq, hroot, if_false]
      split <;> simp

theorem locate_eq_ok {t u : Tree} {p : Path} {q : List String} :
    t.locate p = .ok (q, u) ↔
      p.obstacle? = none ∧ p.root = "" ∧ t.Leads p q ∧ t.get? q = some u := by
  unfold locate Leads
  cases hfollow : t.followPath p p.parts with
  | error o =>
    simp only [reduceCtorEq, false_iff]
    rintro ⟨hobstacle, hroot, hleads, -⟩
    rw [followPath_eq_ok.mpr ⟨hobstacle, hroot, hleads⟩] at hfollow
    cases hfollow
  | ok r =>
    obtain ⟨hobstacle, hroot, hleads⟩ := followPath_eq_ok.mp hfollow
    simp only [hobstacle, hroot, hleads, true_and, Except.ok.injEq]
    constructor
    · intro h
      cases hget : t.get? r with
      | none => simp [hget] at h
      | some v =>
        simp only [hget, Except.ok.injEq, Prod.mk.injEq] at h
        exact ⟨h.1, by rw [← h.1, hget, h.2]⟩
    · rintro ⟨rfl, hget⟩
      simp [hget]

theorem find?_eq_some {t u : Tree} {p : Path} :
    t.find? p = some u ↔ ∃ q, t.locate p = .ok (q, u) := by
  unfold find?
  cases t.locate p with
  | error e => simp
  | ok found =>
    obtain ⟨q, v⟩ := found
    simp

theorem hasFolder_iff {t : Tree} {p : Path} :
    t.hasFolder p = true ↔ ∃ q entries, t.locate p = .ok (q, folder entries) := by
  rw [hasFolder, Option.any_eq_true]
  constructor
  · rintro ⟨u, hu, hfolder⟩
    obtain ⟨q, hq⟩ := find?_eq_some.mp hu
    cases u with
    | file bytes => simp [isFile] at hfolder
    | folder entries => exact ⟨q, entries, hq⟩
  · rintro ⟨q, entries, hq⟩
    exact ⟨_, find?_eq_some.mpr ⟨q, hq⟩, rfl⟩

theorem hasFile_iff {t : Tree} {p : Path} :
    t.hasFile p = true ↔ ∃ q bytes, t.locate p = .ok (q, file bytes) := by
  rw [hasFile, Option.any_eq_true]
  constructor
  · rintro ⟨u, hu, hfile⟩
    obtain ⟨q, hq⟩ := find?_eq_some.mp hu
    cases u with
    | file bytes => exact ⟨q, bytes, hq⟩
    | folder entries => simp [isFile] at hfile
  · rintro ⟨q, bytes, hq⟩
    exact ⟨_, find?_eq_some.mpr ⟨q, hq⟩, rfl⟩

theorem read_eq_ok {t : Tree} {p : Path} {bytes : List UInt8} :
    t.read p = .ok bytes ↔ ∃ q, t.locate p = .ok (q, file bytes) := by
  unfold read
  cases t.locate p with
  | error e => simp
  | ok found =>
    obtain ⟨q, u⟩ := found
    cases u <;> simp

theorem probe_of_read {t : Tree} {p : Path} {bytes : List UInt8} (h : t.read p = .ok bytes) :
    t.probe p = .ok (some (.file bytes)) := by
  obtain ⟨q, hq⟩ := read_eq_ok.mp h
  rw [probe, hq]

/-! ### Paths after a change -/

namespace Extends
variable {q r : List String} {t t' : Tree} {p : Path}

theorem locate_folder (h : Extends q t t') {entries : List (String × Tree)}
    (hp : t.locate p = .ok (r, .folder entries)) :
    ∃ entries', t'.locate p = .ok (r, .folder entries') ∧
      ∀ n ∈ names entries, n ∈ names entries' := by
  obtain ⟨hobstacle, hroot, hleads, hget⟩ := locate_eq_ok.mp hp
  obtain ⟨entries', hget', hsub⟩ := h.folder hget
  exact ⟨entries', locate_eq_ok.mpr ⟨hobstacle, hroot, h.follow hleads, hget'⟩, hsub⟩

theorem locate_file (h : Extends q t t') {bytes : List UInt8}
    (hp : t.locate p = .ok (r, .file bytes)) :
    ∃ bytes', t'.locate p = .ok (r, .file bytes') ∧ (r ≠ q → bytes' = bytes) := by
  obtain ⟨hobstacle, hroot, hleads, hget⟩ := locate_eq_ok.mp hp
  obtain ⟨bytes', hget', hsame⟩ := h.file hget
  exact ⟨bytes', locate_eq_ok.mpr ⟨hobstacle, hroot, h.follow hleads, hget'⟩, hsame⟩

theorem hasFolder (h : Extends q t t') (hp : t.hasFolder p = true) : t'.hasFolder p = true := by
  obtain ⟨r, entries, hr⟩ := hasFolder_iff.mp hp
  obtain ⟨entries', hr', -⟩ := h.locate_folder hr
  exact hasFolder_iff.mpr ⟨r, entries', hr'⟩

/-- A path that does not lead to the file that is written leads to the same bytes as before. -/
theorem read (h : Extends q t t') (hp : ¬ t'.Leads p q) {bytes : List UInt8}
    (hread : t.read p = .ok bytes) : t'.read p = .ok bytes := by
  obtain ⟨r, hr⟩ := read_eq_ok.mp hread
  obtain ⟨bytes', hr', hsame⟩ := h.locate_file hr
  have hne : r ≠ q := by
    rintro rfl
    exact hp (locate_eq_ok.mp hr').2.2.1
  exact read_eq_ok.mpr ⟨r, hsame hne ▸ hr'⟩

end Extends

/-! ### New places -/

theorem newPlace_spec {t : Tree} {p : Path} {q : List String} (h : t.newPlace p = .ok q) :
    ∃ above name r entries, p.parts = above ++ [name] ∧ name ≠ ".." ∧ q = r ++ [name] ∧
      p.obstacle? = none ∧ p.root = "" ∧ t.follow [] above = .ok r ∧
      t.get? r = some (folder entries) ∧ name ∉ names entries := by
  unfold newPlace at h
  split at h
  · cases h
  rename_i name hname
  split at h
  · cases h
  rename_i r hr
  split at h
  · rename_i entries hget
    split at h
    · cases h
    · rename_i hfree
      split at h
      · cases h
      · obtain ⟨hobstacle, hroot, hfollow⟩ := followPath_eq_ok.mp hr
        rw [Bool.or_eq_true, decide_eq_true_eq, not_or, lookup_isSome] at hfree
        exact ⟨p.parts.dropLast, name, r, entries,
          (List.dropLast_append_getLast? name hname).symm, hfree.1, (Except.ok.inj h).symm, hobstacle,
          hroot, hfollow, hget, hfree.2⟩
  · cases h
  · cases h

/-- There is room at a new place, and with something put there its path leads to it. -/
theorem room_of_newPlace {t new : Tree} {p : Path} {q : List String} (h : t.newPlace p = .ok q)
    (hnew : new = empty ∨ ∃ bytes, new = file bytes) :
    Room t q new ∧ (t.set q new).locate p = .ok (q, new) := by
  obtain ⟨above, name, r, entries, hparts, hname, rfl, hobstacle, hroot, habove, hget, hfree⟩ :=
    newPlace_spec h
  have hroom : Room t (r ++ [name]) new := by
    refine ⟨⟨r, name, entries, rfl, hget⟩, .inl ?_, hnew⟩
    rw [get?_append, hget, Option.bind_some, get?_folder]
    cases hlookup : lookup? name entries with
    | none => rfl
    | some u => exact absurd (lookup_isSome.mp (by rw [hlookup]; rfl)) hfree
  refine ⟨hroom, locate_eq_ok.mpr ⟨hobstacle, hroot, ?_, get?_set t _ new⟩⟩
  rw [Leads, hparts, follow_append, hroom.extends_set.follow habove]
  have hput : (t.set (r ++ [name]) new).get? r = some (folder (put name new entries)) := by
    rw [get?_set_above hget, set_folder, set_nil]
  exact follow_cons_eq_ok.mpr ⟨_, hput, .inr ⟨hname, mem_names_put.mpr (.inl rfl), rfl⟩⟩

theorem newPlace_of_hasFolder {t : Tree} {p : Path} (h : t.hasFolder p = true) :
    t.newPlace p = .error ⟨.exists_, p⟩ := by
  obtain ⟨q, entries, hq⟩ := hasFolder_iff.mp h
  obtain ⟨hobstacle, hroot, hleads, -⟩ := locate_eq_ok.mp hq
  unfold newPlace
  cases hlast : p.parts.getLast? with
  | none => rfl
  | some name =>
    rw [Leads, ← List.dropLast_append_getLast? name hlast, follow_append] at hleads
    obtain ⟨r, habove, hname⟩ := Failing.bind_eq_ok.mp hleads
    obtain ⟨entries, hget, hin⟩ := follow_cons_eq_ok.mp hname
    have htaken : (name = ".." || (lookup? name entries).isSome) = true := by
      rcases hin with ⟨hup, -⟩ | ⟨-, hin, -⟩
      · simp [hup]
      · simp [lookup_isSome.mpr hin]
    simp only [followPath_eq_ok.mpr ⟨hobstacle, hroot, habove⟩, hget, htaken, if_true]

/-! ### Making folders -/

theorem makeFolder_spec {t t' : Tree} {p : Path} (h : t.makeFolder p = .ok t') :
    (∀ q, Extends q t t') ∧ t'.hasFolder p = true := by
  unfold makeFolder at h
  split at h
  · rename_i q hq
    cases h
    obtain ⟨hroom, hlocate⟩ := room_of_newPlace hq (.inl rfl)
    exact ⟨hroom.extends_empty, hasFolder_iff.mpr ⟨q, [], hlocate⟩⟩
  · cases h

/-- Making folders changes no file, and the folder is there then. -/
theorem makeFolders_spec {t t' : Tree} {root : String} {depth : Nat} {parts : List String}
    (h : t.makeFolders root depth parts = .ok t') :
    (∀ q, Extends q t t') ∧ t'.hasFolder ⟨root, parts⟩ = true := by
  induction depth generalizing parts t' with
  | zero =>
    unfold makeFolders at h
    dsimp only at h
    split at h
    · cases h
      exact makeFolder_spec ‹_›
    · split at h
      · cases h
      · split at h
        · cases h
          exact ⟨fun q => .refl q _, ‹_›⟩
        · cases h
  | succ depth ih =>
    unfold makeFolders at h
    dsimp only at h
    split at h
    · cases h
      exact makeFolder_spec ‹_›
    · split at h
      · split at h
        · cases h
        · rename_i above habove
          obtain ⟨hgrow, -⟩ := ih habove
          split at h
          · cases h
            obtain ⟨hgrow', hthere⟩ := makeFolder_spec ‹_›
            exact ⟨fun q => (hgrow q).trans (hgrow' q), hthere⟩
          · split at h
            · cases h
              exact ⟨hgrow, ‹_›⟩
            · cases h
      · split at h
        · cases h
          exact ⟨fun q => .refl q _, ‹_›⟩
        · cases h

/-- What is left where folders cannot be made are at most some of them. -/
theorem makeFolders_error {t : Tree} {root : String} {depth : Nat} {parts : List String} {e : Halt}
    (h : t.makeFolders root depth parts = .error e) : ∀ q, Extends q t e.tree := by
  induction depth generalizing parts e with
  | zero =>
    unfold makeFolders at h
    dsimp only at h
    split at h
    · cases h
    · split at h
      · cases h
        exact fun q => .refl q t
      · split at h
        · cases h
        · cases h
          exact fun q => .refl q t
  | succ depth ih =>
    unfold makeFolders at h
    dsimp only at h
    split at h
    · cases h
    · split at h
      · split at h
        · rename_i habove
          cases h
          exact ih habove
        · rename_i above habove
          obtain ⟨hgrow, -⟩ := makeFolders_spec habove
          split at h
          · cases h
          · split at h
            · cases h
            · cases h
              exact hgrow
      · split at h
        · cases h
        · cases h
          exact fun q => .refl q t

/-- A folder that is there is not made. -/
theorem makeFolderAt_of_hasFolder {t : Tree} {p : Path} (h : t.hasFolder p = true) :
    t.makeFolderAt p = .ok t := by
  have hmake : t.makeFolder p = .error ⟨.exists_, p⟩ := by
    rw [makeFolder, newPlace_of_hasFolder h]
  unfold makeFolderAt makeFolders
  simp [hmake, h]

/-! ### Writing -/

/-- A file is written to a place of its own name, where there is room for it. -/
theorem write_spec {t t' : Tree} {p : Path} {bytes : List UInt8} {above : List String}
    {name : String} (h : t.write p bytes = .ok t') (hparts : p.parts = above ++ [name])
    (hname : name ≠ "..") :
    ∃ q, Room t q (file bytes) ∧ t' = t.set q (file bytes) ∧
      t'.locate p = .ok (q, file bytes) ∧ q.getLast? = some name := by
  unfold write at h
  split at h
  · rename_i q old hq
    cases h
    obtain ⟨hobstacle, hroot, hleads, hget⟩ := locate_eq_ok.mp hq
    have hlast := hleads
    rw [Leads, hparts, follow_append] at hlast
    obtain ⟨r, -, hlast⟩ := Failing.bind_eq_ok.mp hlast
    obtain ⟨entries, hfolder, ⟨hup, -⟩ | ⟨-, -, hdown⟩⟩ := follow_cons_eq_ok.mp hlast
    · exact absurd hup hname
    obtain rfl : r ++ [name] = q := by simpa using hdown
    have hroom : Room t (r ++ [name]) (file bytes) :=
      ⟨⟨r, name, entries, rfl, hfolder⟩, .inr ⟨⟨old, hget⟩, bytes, rfl⟩, .inr ⟨bytes, rfl⟩⟩
    exact ⟨_, hroom, rfl, locate_eq_ok.mpr ⟨hobstacle, hroot, hroom.extends_set.follow hleads,
      get?_set t _ _⟩, by simp⟩
  · cases h
  · split at h
    · rename_i q hq
      cases h
      obtain ⟨hroom, hlocate⟩ := room_of_newPlace hq (.inr ⟨bytes, rfl⟩)
      obtain ⟨above', name', r, -, hparts', -, rfl, -⟩ := newPlace_spec hq
      have hsame : name' = name := by
        rw [hparts'] at hparts
        exact (List.append_inj' hparts rfl).2 |> List.singleton_inj.mp
      exact ⟨_, hroom, rfl, hlocate, by simp [hsame]⟩
    · cases h

/-- What is written to a file does not matter to whether it can be. -/
theorem exists_write_of_write {t t' : Tree} {p : Path} {bytes : List UInt8}
    (h : t.write p bytes = .ok t') (bytes' : List UInt8) : ∃ t'', t.write p bytes' = .ok t'' := by
  unfold write at h ⊢
  split at h
  · exact ⟨_, rfl⟩
  · cases h
  · split at h
    · exact ⟨_, rfl⟩
    · cases h

/-- Writing to a file what it holds changes nothing. -/
theorem write_again {t : Tree} {p : Path} {q : List String} {bytes : List UInt8}
    (h : (t.set q (file bytes)).locate p = .ok (q, file bytes)) :
    (t.set q (file bytes)).write p bytes = .ok (t.set q (file bytes)) := by
  rw [write, h]
  simp only [set_set]

end LintConfig.Files.Tree

namespace LintConfig.Output
open Files (Path Tree)

theorem fileName_ne_dots (format : Format) : format.fileName ≠ ".." := by
  cases format <;> decide

theorem write_eq_ok {f : Fragment} {format : Format} {text : String} :
    f.write format = .ok text ↔ f.document.isLong = false ∧ text = f.text format := by
  rw [Fragment.write, Format.write]
  cases f.document.isLong <;> simp [Fragment.text, eq_comm]

/-- What saving a configuration does: the folder is there, and one file in it is written. -/
structure Saved (t : Tree) (folder : Path) (format : Format) (f : Fragment) (q : List String)
    (t' : Tree) : Prop where
  /-- The tree with the folder, before the file is written. -/
  made : ∃ t₁, (∀ r, Tree.Extends r t t₁) ∧ t₁.hasFolder folder = true ∧
    (t.hasFolder folder = true → t₁ = t) ∧
    Tree.Room t₁ q (.file (Text.Utf8.encode (f.text format))) ∧
    t' = t₁.set q (.file (Text.Utf8.encode (f.text format)))
  written : f.write format = .ok (f.text format)
  located : t'.locate (pathIn folder format) = .ok (q, .file (Text.Utf8.encode (f.text format)))
  name : q.getLast? = some format.fileName

variable {t t' : Tree} {folder p : Path} {format : Format} {f : Fragment} {q : List String}

theorem save_spec (h : save t folder format f = .ok (p, t')) :
    p = pathIn folder format ∧ ∃ q, Saved t folder format f q t' := by
  obtain ⟨t₁, hmake, h⟩ := Failing.bind_eq_ok.mp h
  obtain ⟨text, htext, h⟩ := Failing.bind_eq_ok.mp h
  obtain ⟨t₂, hwrite, h⟩ := Failing.bind_eq_ok.mp h
  rw [Failing.mapError_eq_ok] at hmake htext hwrite
  cases h
  obtain ⟨-, rfl⟩ := write_eq_ok.mp htext
  obtain ⟨hgrow, hthere⟩ := Tree.makeFolders_spec hmake
  obtain ⟨q, hroom, rfl, hlocate, hlast⟩ :=
    Tree.write_spec hwrite rfl (fileName_ne_dots format)
  refine ⟨rfl, q, ⟨t₁, hgrow, hthere, fun hfolder => ?_, hroom, rfl⟩, htext, hlocate, hlast⟩
  rw [Tree.makeFolderAt_of_hasFolder hfolder] at hmake
  exact (Except.ok.inj hmake).symm

/-- Where one configuration can be saved another one can be, if it has a text. -/
theorem exists_save_of_save (h : save t folder format f = .ok (p, t')) {g : Fragment}
    (hg : g.document.isLong = false) : ∃ t'', save t folder format g = .ok (p, t'') := by
  obtain ⟨t₁, hmake, h⟩ := Failing.bind_eq_ok.mp h
  obtain ⟨text, htext, h⟩ := Failing.bind_eq_ok.mp h
  obtain ⟨t₂, hwrite, h⟩ := Failing.bind_eq_ok.mp h
  rw [Failing.mapError_eq_ok] at hwrite
  cases h
  obtain ⟨t'', hwrite'⟩ := Tree.exists_write_of_write hwrite (Text.Utf8.encode (g.text format))
  exact ⟨t'', Failing.bind_eq_ok.mpr ⟨t₁, hmake, Failing.bind_eq_ok.mpr
    ⟨g.text format, Failing.mapError_eq_ok.mpr (write_eq_ok.mpr ⟨hg, rfl⟩), Failing.bind_eq_ok.mpr
      ⟨t'', Failing.mapError_eq_ok.mpr hwrite', rfl⟩⟩⟩⟩

theorem saveAs_eq_ok {name : Value} {saved : Path × Tree} :
    saveAs t folder name f = .ok saved ↔
      ∃ format, Format.resolve name = .ok format ∧ save t folder format f = .ok saved := by
  unfold saveAs
  rw [Failing.bind_eq_ok]
  simp only [Failing.mapError_eq_ok]

/-- What is left where a configuration cannot be saved are at most some folders. -/
theorem saveAs_error {name : Value} {e : Halt} (h : saveAs t folder name f = .error e) :
    ∀ q, Tree.Extends q t e.files := by
  unfold saveAs at h
  cases hformat : Format.resolve name with
  | error u =>
    rw [hformat] at h
    cases h
    exact fun q => .refl q t
  | ok format =>
    rw [hformat] at h
    change save t folder format f = .error e at h
    unfold save at h
    cases hmake : t.makeFolderAt folder with
    | error u =>
      rw [hmake] at h
      cases h
      exact Tree.makeFolders_error hmake
    | ok t₁ =>
      rw [hmake] at h
      obtain ⟨hgrow, -⟩ := Tree.makeFolders_spec hmake
      simp only [Except.mapError, bind, Except.bind] at h
      split at h
      · rename_i hwrite
        split at hwrite
        · cases hwrite
          cases h
          exact hgrow
        · cases hwrite
      · split at h
        · rename_i hwrite
          split at hwrite
          · cases hwrite
            cases h
            exact hgrow
          · cases hwrite
        · cases h

theorem Saved.extends_saved (h : Saved t folder format f q t') : Tree.Extends q t t' := by
  obtain ⟨t₁, hgrow, -, -, hroom, rfl⟩ := h.made
  exact (hgrow q).trans hroom.extends_set

theorem Saved.noDots (h : Saved t folder format f q t') : ".." ∉ q :=
  Tree.noDots_of_follow (by simp) (Tree.locate_eq_ok.mp h.located).2.2.1

/-- Saving a configuration once more changes nothing. -/
theorem Saved.again (h : Saved t folder format f q t') :
    save t' folder format f = .ok (pathIn folder format, t') := by
  obtain ⟨t₁, -, hthere, -, hroom, rfl⟩ := h.made
  have hfolder := hroom.extends_set.hasFolder hthere
  exact Failing.bind_eq_ok.mpr
    ⟨_, Failing.mapError_eq_ok.mpr (Tree.makeFolderAt_of_hasFolder hfolder), Failing.bind_eq_ok.mpr
      ⟨_, Failing.mapError_eq_ok.mpr h.written, Failing.bind_eq_ok.mpr
        ⟨_, Failing.mapError_eq_ok.mpr (Tree.write_again h.located), rfl⟩⟩⟩

end LintConfig.Output
