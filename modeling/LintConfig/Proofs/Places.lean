import LintConfig.Proofs.Scanning
import LintConfig.Proofs.Selection

/-! # Where the files that are found lie

Paths are told apart by their components. So a file is found twice if one of the paths that lead to it
goes up again on its way, and only then: all other paths are the place that they lead to. -/
namespace LintConfig.Files

/-- Every path leads to a file, and no two of them lead to the same one. -/
structure Apart (root : Tree) (found : List Path) : Prop where
  leads : ∀ p ∈ found, ∃ place bytes, root.Leads p place ∧ root.get? place = some (.file bytes)
  once : ∀ p ∈ found, ∀ q ∈ found, ∀ place, root.Leads p place → root.Leads q place → p = q

/-- The paths that go up on their way share their file with no other path. -/
def Unshared (root : Tree) (found : List Path) : Prop :=
  ∀ p ∈ found, ".." ∈ p.parts → ∀ q ∈ found, ∀ place,
    root.Leads p place → root.Leads q place → p = q

section Places
variable {root : Tree} {extensions excluded patterns : List String} {pattern : String}
  {p q : Path} {place : List String}

/-- A path that does not go up is the place that it leads to. -/
theorem parts_of_leads (h : root.Leads p place) (hdots : ".." ∉ p.parts) : place = p.parts :=
  Tree.follow_down hdots h

/-- Names of files and folders are no double dots. -/
theorem noDots_of_get? {t u : Tree} (h : t.isProper = true) {parts : List String}
    (hu : t.get? parts = some u) : ".." ∉ parts := by
  induction parts generalizing t with
  | nil => exact List.not_mem_nil
  | cons n parts ih =>
    cases t with
    | file bytes => simp at hu
    | folder entries =>
      rw [Tree.get?_folder] at hu
      obtain ⟨v, hv, hu⟩ := Option.bind_eq_some_iff.mp hu
      rw [Tree.isProper] at h
      obtain ⟨hname, hproper⟩ := Tree.proper_of_mem h (Tree.mem_of_lookup hv)
      rw [List.mem_cons, not_or]
      exact ⟨Ne.symm hname, ih hproper hu⟩

theorem leads_of_selects (hroot : root.isProper = true)
    (h : Selects root extensions excluded pattern p) :
    ∃ place bytes, root.Leads p place ∧ root.get? place = some (.file bytes) := by
  obtain @⟨place, folders, name, entries, bytes, hplace, rfl, hfile, -, -⟩ | ⟨-, -, -, -, hfile⟩ := h
  · obtain ⟨-, -, hleads, -⟩ := Tree.locate_eq_ok.mp hplace
    refine ⟨_, bytes, ?_, hfile⟩
    have hdots := noDots_of_get? hroot hfile
    rw [Tree.Leads, Path.extend, Tree.follow_append, hleads]
    exact Tree.follow_of_get? (fun hin => hdots (List.mem_append_right _ hin)) hfile
  · obtain ⟨place, bytes, hplace⟩ := Tree.hasFile_iff.mp hfile
    obtain ⟨-, -, hleads, hget⟩ := Tree.locate_eq_ok.mp hplace
    exact ⟨place, bytes, hleads, hget⟩

theorem noDots_of_fits {components parts : List String} (h : List.Forall₂ Fits components parts)
    (hdots : ".." ∉ components) : ".." ∉ parts := by
  induction h with
  | nil => exact List.not_mem_nil
  | @cons component name components parts hfits _ ih =>
    rw [List.mem_cons, not_or] at hdots ⊢
    refine ⟨?_, ih hdots.2⟩
    cases hfits with
    | literal => exact hdots.1
    | special _ hname => exact Ne.symm hname

/-- What a pattern selects goes up only where the pattern does. -/
theorem noDots_of_selects (hroot : root.isProper = true)
    (h : Selects root extensions excluded pattern p) (hdots : ".." ∉ (Path.ofString pattern).parts) :
    ".." ∉ p.parts := by
  obtain @⟨place, folders, name, entries, bytes, hplace, rfl, hfile, -, -⟩ | ⟨-, -, -, hfits, -⟩ := h
  · have hbelow := noDots_of_get? hroot hfile
    rw [Path.extend, List.mem_append, not_or]
    exact ⟨hdots, fun hin => hbelow (List.mem_append_right _ hin)⟩
  · exact noDots_of_fits hfits hdots

/-- What is found leads to files, and to different ones unless paths that go up are in the way. -/
theorem apart_iff_unshared (hroot : root.isProper = true) {found : List Path}
    (h : expand root patterns extensions excluded = .ok found) :
    Apart root found ↔ Unshared root found := by
  constructor
  · exact fun hapart p hp _ q hq => hapart.once p hp q hq
  · intro hunshared
    refine ⟨fun p hp => ?_, fun p hp q hq place hleads hleads' => ?_⟩
    · obtain ⟨pattern, -, hselects⟩ := (mem_expand_iff hroot h).mp hp
      exact leads_of_selects hroot hselects
    · by_cases hup : ".." ∈ p.parts
      · exact hunshared p hp hup q hq place hleads hleads'
      · by_cases hup' : ".." ∈ q.parts
        · exact (hunshared q hq hup' p hp place hleads' hleads).symm
        · -- both paths are the place, and none of them begins at the root
          have hparts := (parts_of_leads hleads hup).symm.trans (parts_of_leads hleads' hup')
          have hstart := (root_of_mem_expand h hp).trans (root_of_mem_expand h hq).symm
          cases p
          cases q
          congr

/-- Without double dots in the patterns no path goes up. -/
theorem unshared_of_noDots (hroot : root.isProper = true) {found : List Path}
    (h : expand root patterns extensions excluded = .ok found)
    (hdots : ∀ pattern ∈ patterns, ".." ∉ (Path.ofString pattern).parts) : Unshared root found := by
  intro p hp hup
  obtain ⟨pattern, hpattern, hselects⟩ := (mem_expand_iff hroot h).mp hp
  exact absurd hup (noDots_of_selects hroot hselects (hdots pattern hpattern))

/-- Files that are in order already need not be sorted. -/
theorem expand_of_sorted (lists : List (List Path))
    (h : patterns.mapM (sourcesOf root extensions excluded) = .ok lists)
    (hsorted : lists.flatten.Pairwise fun p q => (!q.before p) = true) :
    expand root patterns extensions excluded = .ok (dropRepeated lists.flatten) := by
  refine Failing.bind_eq_ok.mpr ⟨lists, h, ?_⟩
  rw [List.mergeSort_of_pairwise hsorted]
  rfl

end Places

end LintConfig.Files

namespace LintConfig.Scan
open Files (Apart Path Tree Unshared)
open Style (Statistic)

/-- A statistic adds up what the paths show, and of each file no more than one of them. -/
structure CountsOnce (root : Tree) (markup : Bool) (files : List Path) (s : Statistic) : Prop
    extends Accounts root markup files s where
  once : files.Pairwise fun p q => ∀ place, root.Leads p place → ¬ root.Leads q place

theorem pairwise_leads_iff {root : Tree} {files : List Path} (hnodup : files.Nodup) :
    files.Pairwise (fun p q => ∀ place, root.Leads p place → ¬ root.Leads q place) ↔
      ∀ p ∈ files, ∀ q ∈ files, ∀ place, root.Leads p place → root.Leads q place → p = q := by
  constructor
  · intro h p hp q hq place hleads hleads'
    have : Std.Symm fun p q => ∀ place, root.Leads p place → ¬ root.Leads q place :=
      ⟨fun _ _ h place hq hp => h place hp hq⟩
    by_contra hne
    exact h.forall hp hq hne place hleads hleads'
  · intro h
    exact hnodup.pairwise_of_forall_ne fun p hp q hq hne place hleads hleads' =>
      hne (h p hp q hq place hleads hleads')

/-- Patterns stand for different files, and a scan counts each file once, exactly if no path that goes
up shares its file with another one. This holds unless there are double dots in the patterns. -/
theorem scan_once_iff {root : Tree} {o : Options} {patterns : List String} {found : List Path}
    (hroot : root.isProper = true) (h : filesOf root o patterns = .ok found) :
    (Apart root found ↔ Unshared root found) ∧
    ((∀ pattern ∈ patterns, ".." ∉ (Path.ofString pattern).parts) → Unshared root found) ∧
    ∀ markup schedule c s, scan root o markup patterns schedule = .ok c → c.result? = some (.ok s) →
      (CountsOnce root markup found s ↔ Unshared root found) := by
  have hexpand := Failing.mapError_eq_ok.mp h
  have hapart := Files.apart_iff_unshared hroot hexpand
  refine ⟨hapart, Files.unshared_of_noDots hroot hexpand, ?_⟩
  intro markup schedule c s hc hs
  obtain ⟨files, hfiles, hc⟩ := Failing.bind_eq_ok.mp hc
  obtain rfl := Except.ok.inj (h.symm.trans hfiles)
  cases hc
  obtain ⟨hscan, -⟩ := (Course.sound_run schedule).result hs
  have hnodup := Files.nodup_expand hexpand
  rw [← hapart]
  constructor
  · intro honce
    refine hapart.mpr fun p hp _ q hq => ?_
    exact (pairwise_leads_iff hnodup).mp honce.once p hp q hq
  · intro h
    exact { accounts_of_scanFiles hscan with once := (pairwise_leads_iff hnodup).mpr h.once }

/-- A project with a file beside a folder. -/
def beside : Tree := .folder [("a.js", .file []), ("b", .folder [("c.js", .file [])])]

/-- Single dots, slashes without need, and patterns that overlap bring no file twice. -/
theorem scan_once_overlapping :
    beside.isProper = true ∧
      filesOf beside {} ["./a.js", ".", "b//"] = .ok [⟨"", ["a.js"]⟩, ⟨"", ["b", "c.js"]⟩] ∧
      Apart beside [⟨"", ["a.js"]⟩, ⟨"", ["b", "c.js"]⟩] := by
  have hproper : beside.isProper = true := by decide
  have hexpand : Files.expand beside ["./a.js", ".", "b//"] [".js", ".jsx"]
      ["node_modules", ".git"] = .ok _ :=
    Files.expand_of_sorted
      [[⟨"", ["a.js"]⟩], [⟨"", ["a.js"]⟩, ⟨"", ["b", "c.js"]⟩], [⟨"", ["b", "c.js"]⟩]]
      (by decide +kernel) (by decide +kernel)
  have hfiles : filesOf beside {} ["./a.js", ".", "b//"] =
      .ok [⟨"", ["a.js"]⟩, ⟨"", ["b", "c.js"]⟩] := Failing.mapError_eq_ok.mpr hexpand
  obtain ⟨hiff, hdots, -⟩ := scan_once_iff hproper hfiles
  exact ⟨hproper, hfiles, hiff.mpr (hdots (by decide +kernel))⟩

/-- A file that is named once directly and once by way of a folder is counted twice. -/
theorem scan_twice :
    beside.isProper = true ∧
      filesOf beside {} ["a.js", "b/../a.js"] = .ok [⟨"", ["a.js"]⟩, ⟨"", ["b", "..", "a.js"]⟩] ∧
      beside.Leads ⟨"", ["a.js"]⟩ ["a.js"] ∧ beside.Leads ⟨"", ["b", "..", "a.js"]⟩ ["a.js"] ∧
      ∃ c s, scan beside {} false ["a.js", "b/../a.js"] (inOrder 2) = .ok c ∧
        c.result? = some (.ok s) ∧ s.filesScanned = 2 ∧
        ¬ CountsOnce beside false [⟨"", ["a.js"]⟩, ⟨"", ["b", "..", "a.js"]⟩] s := by
  have hfirst : beside.Leads ⟨"", ["a.js"]⟩ ["a.js"] := rfl
  have hsecond : beside.Leads ⟨"", ["b", "..", "a.js"]⟩ ["a.js"] := rfl
  have hexpand : Files.expand beside ["a.js", "b/../a.js"] [".js", ".jsx"]
      ["node_modules", ".git"] = .ok _ :=
    Files.expand_of_sorted [[⟨"", ["a.js"]⟩], [⟨"", ["b", "..", "a.js"]⟩]]
      (by decide +kernel) (by decide +kernel)
  have hfiles : filesOf beside {} ["a.js", "b/../a.js"] =
      .ok [⟨"", ["a.js"]⟩, ⟨"", ["b", "..", "a.js"]⟩] := Failing.mapError_eq_ok.mpr hexpand
  have hresult : ((Course.start [⟨"", ["a.js"]⟩, ⟨"", ["b", "..", "a.js"]⟩]).run beside false
      (inOrder 2)).result?.any (fun r => r.toOption.any (·.filesScanned == 2)) = true := by
    decide +kernel
  obtain ⟨r, hr, hresult⟩ := (Option.any_eq_true _ _).mp hresult
  obtain ⟨s, rfl, hs⟩ := Failing.exists_ok_of_any hresult
  refine ⟨by decide, hfiles, hfirst, hsecond, _, s, Failing.bind_eq_ok.mpr ⟨_, hfiles, rfl⟩, hr,
    beq_iff_eq.mp hs, fun h => ?_⟩
  exact (List.pairwise_cons.mp h.once).1 _ (List.mem_singleton_self _) _ hfirst hsecond

end LintConfig.Scan
