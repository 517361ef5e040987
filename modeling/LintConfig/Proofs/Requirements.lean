import LintConfig.Config.Packages
import LintConfig.Proofs.Layering
import LintConfig.Proofs.Selection
import LintConfig.Proofs.Words

/-! # What a merged configuration requires

Merging keeps the first occurrence of each plugin, and packages of plugins are told apart by the names
of the plugins, and from the package of the base by the words they begin with. So the packages of a
merged configuration can be read off its two parts: that of the base, if there is one to install, and
one for each plugin of either part, in the order in which the plugins come first.

The status of packages is that of their manifests, one by one. Only a manifest that cannot be asked
about is in the way: its path has a component that is too long, and the folders before it are there. The
command names the packages that are missing, each of them once; a name with white space in it falls
apart into several words. -/
namespace LintConfig.Packages
open Files (Path Tree)
open Text (isBlank words)

/-! ### Required packages -/

/-- The packages of two configurations merged: each of them once, in their order, and which they are. -/
structure Exact (a b : Fragment) (names : List String) : Prop where
  nodup : names.Nodup
  listed : names = ofBase (b.base.or a.base) ++ (a.plugins ++ b.plugins).eraseDups.map ofPlugin
  named : ∀ name, name ∈ names ↔
    (∃ base, b.base.or a.base = some base ∧ base ≠ "" ∧ ¬ "eslint:".toList <+: base.toList ∧
      name = "eslint-config-" ++ base) ∨
    ∃ plugin, (plugin ∈ a.plugins ∨ plugin ∈ b.plugins) ∧ name = "eslint-plugin-" ++ plugin

theorem mem_ofBase {base : Option String} {name : String} :
    name ∈ ofBase base ↔ ∃ e, base = some e ∧ e ≠ "" ∧ ¬ "eslint:".toList <+: e.toList ∧
      name = "eslint-config-" ++ e := by
  cases base with
  | none => simp [ofBase]
  | some e =>
    have hnone : (e == "" || isBuiltIn e) = true ↔ e = "" ∨ "eslint:".toList <+: e.toList := by
      simp [isBuiltIn]
    simp only [ofBase, Option.some.injEq, exists_eq_left']
    split <;> rename_i h <;> rw [hnone] at h
    · exact iff_of_false List.not_mem_nil fun hname => h.elim hname.1 hname.2.1
    · rw [List.mem_singleton]
      exact ⟨fun hname => ⟨mt .inl h, mt .inr h, hname⟩, fun hname => hname.2.2⟩

theorem nodup_ofBase (base : Option String) : (ofBase base).Nodup := by
  unfold ofBase
  split
  · split
    · exact List.nodup_nil
    · exact List.nodup_singleton _
  · exact List.nodup_nil

theorem ofPlugin_injective : Function.Injective ofPlugin := by
  intro p q h
  have hchars := congrArg String.toList h
  rw [ofPlugin, ofPlugin, String.toList_append, String.toList_append] at hchars
  exact String.toList_inj.mp (List.append_cancel_left hchars)

/-- The package of a plugin is not that of a base. -/
theorem ofPlugin_not_mem_ofBase (plugin : String) (base : Option String) :
    ofPlugin plugin ∉ ofBase base := by
  intro h
  obtain ⟨e, -, -, -, he⟩ := mem_ofBase.mp h
  have hchars := congrArg String.toList he
  simp [ofPlugin] at hchars

theorem required_merge (a b : Fragment) : required (a.merge b) =
    ofBase (b.base.or a.base) ++ (a.plugins ++ b.plugins).eraseDups.map ofPlugin := by
  have hnodup : ((a.plugins ++ b.plugins).eraseDups.map ofPlugin).Nodup :=
    (nodup_eraseDups _).map ofPlugin_injective
  have hapart : ((a.plugins ++ b.plugins).eraseDups.map ofPlugin).removeAll
      (ofBase (b.base.or a.base)) = (a.plugins ++ b.plugins).eraseDups.map ofPlugin := by
    refine List.filter_eq_self.mpr fun name hname => ?_
    obtain ⟨plugin, -, rfl⟩ := List.mem_map.mp hname
    simpa using ofPlugin_not_mem_ofBase plugin _
  rw [required, Fragment.base_merge, Fragment.plugins_merge, firstOccurrences_eq, hapart,
    eraseDups_of_nodup hnodup]

theorem exact_required (a b : Fragment) : Exact a b (required (a.merge b)) where
  nodup := by
    rw [required_merge, List.nodup_append']
    refine ⟨nodup_ofBase _, (nodup_eraseDups _).map ofPlugin_injective, ?_⟩
    intro name hbase hplugin
    obtain ⟨plugin, -, rfl⟩ := List.mem_map.mp hplugin
    exact ofPlugin_not_mem_ofBase plugin _ hbase
  listed := required_merge a b
  named name := by
    rw [required_merge, List.mem_append, mem_ofBase, List.mem_map]
    simp only [List.mem_eraseDups, List.mem_append, ofPlugin, eq_comm]

/-! ### Installed packages -/

section Status
variable {root : Tree}

/-- Can the tree be asked about a path? It cannot if the path, or a component that is come to, is too
long. -/
def Askable (root : Tree) (p : Path) : Prop :=
  ∀ e, root.locate p = .error e → e.obstacle ≠ .tooLong

/-- The packages that have no manifest in the tree. -/
def lacking (root : Tree) (names : List String) : List String :=
  names.filter fun name => !root.hasFile (manifest name)

/-- Every package has a status, in its place, and those are missing that have no manifest. -/
def Reported (root : Tree) (names : List String) : Prop :=
  ∃ found, status root names = .ok found ∧ found.map (·.1) = names ∧
    missing found = lacking root names

/-- A path can be asked about if it is short, whatever there is. -/
theorem askable_of_short {p : Path} (hpath : p.text.utf8ByteSize ≤ Files.pathLimit)
    (hparts : ∀ part ∈ p.parts, part.utf8ByteSize ≤ Files.componentLimit) : Askable root p := by
  rintro ⟨o, q⟩ hlocate rfl
  obtain rfl : q = p := Files.locate_error hlocate
  rcases Files.overlong_of_locate hlocate with hlong | ⟨part, hpart, hlong⟩
  · unfold Path.obstacle? at hlong
    split at hlong
    · cases hlong
    · rw [if_neg (Nat.not_lt.mpr hpath)] at hlong
      cases hlong
  · exact absurd (hparts part hpart) (Nat.not_le.mpr hlong)

section Names
variable {name : String} (hslash : '/' ∉ name.toList) (hempty : name ≠ "") (hdot : name ≠ ".")
include hslash hempty hdot

theorem manifest_of_unslashed : manifest name = ⟨"", ["node_modules", name, "package.json"]⟩ := by
  have hfolder : folder = ⟨"", ["node_modules"]⟩ := by decide
  have hfile : Path.ofString "package.json" = ⟨"", ["package.json"]⟩ := by decide
  rw [manifest, hfolder, hfile, Files.ofString_of_unslashed hslash hempty hdot]
  rfl

theorem size_manifest : (manifest name).text.utf8ByteSize = name.utf8ByteSize + 26 := by
  have hends : "node_modules/".utf8ByteSize = 13 ∧ "/package.json".utf8ByteSize = 13 := by decide
  have htext : (manifest name).text = "node_modules/" ++ name ++ "/package.json" := by
    rw [manifest_of_unslashed hslash hempty hdot, ← String.toList_inj]
    simp [Path.text, Path.slashed]
  rw [htext, String.utf8ByteSize_append, String.utf8ByteSize_append, hends.1, hends.2]
  omega

/-- A package with an ordinary name can be asked about. -/
theorem askable_of_name (hsize : name.utf8ByteSize ≤ Files.componentLimit) :
    Askable root (manifest name) := by
  have hlimits : Files.componentLimit + 26 ≤ Files.pathLimit := by decide
  have hpath : (manifest name).text.utf8ByteSize ≤ Files.pathLimit :=
    (size_manifest hslash hempty hdot).trans_le ((Nat.add_le_add_right hsize 26).trans hlimits)
  refine askable_of_short hpath ?_
  rw [manifest_of_unslashed hslash hempty hdot]
  exact List.forall_mem_cons.mpr ⟨by decide, List.forall_mem_cons.mpr ⟨hsize, by decide⟩⟩

end Names

theorem isInstalled_eq_ok {name : String} {b : Bool} :
    isInstalled root name = .ok b ↔ Askable root (manifest name) ∧ root.hasFile (manifest name) = b := by
  unfold isInstalled Tree.probe Askable Tree.hasFile Tree.find?
  rw [Failing.bind_eq_ok]
  cases root.locate (manifest name) with
  | ok found => simp [pure, Except.pure]
  | error e => by_cases he : e.obstacle = .tooLong <;> simp [he, pure, Except.pure]

theorem status_eq_ok {names : List String} {found : List (String × Bool)} :
    status root names = .ok found ↔ (∀ name ∈ names, Askable root (manifest name)) ∧
      found = names.map fun name => (name, root.hasFile (manifest name)) := by
  have hone : ∀ name e, (do return (name, ← isInstalled root name)) = Except.ok e ↔
      Askable root (manifest name) ∧ e = (name, root.hasFile (manifest name)) := by
    intro name e
    rw [Failing.bind_eq_ok]
    simp only [isInstalled_eq_ok]
    constructor
    · rintro ⟨b, ⟨hask, rfl⟩, h⟩
      exact ⟨hask, (Except.ok.inj h).symm⟩
    · rintro ⟨hask, rfl⟩
      exact ⟨_, ⟨hask, rfl⟩, rfl⟩
  rw [status, Failing.mapM_eq_ok]
  simp only [hone]
  constructor
  · intro h
    induction h with
    | nil => exact ⟨nofun, rfl⟩
    | cons hfirst _ ih =>
      obtain ⟨hask, rfl⟩ := hfirst
      exact ⟨List.forall_mem_cons.mpr ⟨hask, ih.1⟩, by rw [ih.2, List.map_cons]⟩
  · rintro ⟨hask, rfl⟩
    rw [List.forall₂_map_right_iff, List.forall₂_same]
    exact fun name hname => ⟨hask name hname, rfl⟩

theorem missing_status (root : Tree) (names : List String) :
    missing (names.map fun name => (name, root.hasFile (manifest name))) = lacking root names := by
  rw [missing, List.filter_map, List.map_map]
  exact List.map_id _

/-- Packages can be reported exactly if each of their manifests can be asked about. -/
theorem reported_iff {names : List String} :
    Reported root names ↔ ∀ name ∈ names, Askable root (manifest name) := by
  constructor
  · rintro ⟨found, hstatus, -⟩
    exact (status_eq_ok.mp hstatus).1
  · intro h
    refine ⟨_, status_eq_ok.mpr ⟨h, rfl⟩, ?_, missing_status root names⟩
    rw [List.map_map]
    exact List.map_id names

end Status

/-! ### The command -/

/-- The command to install packages has their names as its words, behind its own three. -/
def Installs (names : List String) : Prop :=
  words (installCommand names).toList =
    ["npm", "install", "--save-dev"].map String.toList ++ names.map String.toList

theorem words_installCommand (names : List String) : words (installCommand names).toList =
    ["npm", "install", "--save-dev"].map String.toList ++ names.flatMap fun s => words s.toList := by
  have hblank : "npm install --save-dev ".toList = "npm install --save-dev".toList ++ [' '] := by
    decide
  have hhead : words "npm install --save-dev".toList =
      ["npm", "install", "--save-dev"].map String.toList := by decide
  calc words (installCommand names).toList
      = words ("npm install --save-dev ".toList ++ (joined " " names).toList) :=
        congrArg words String.toList_append
    _ = words "npm install --save-dev".toList ++ words (joined " " names).toList := by
        rw [hblank, List.append_assoc, List.singleton_append, Text.words_append_blank (by decide)]
    _ = _ := by rw [hhead, Text.words_joined]

/-- Names are words of their own exactly if they have no white space. -/
theorem installs_iff {names : List String} (hne : ∀ name ∈ names, name ≠ "") :
    Installs names ↔ ∀ name ∈ names, ∀ c ∈ name.toList, isBlank c = false := by
  rw [Installs, words_installCommand, List.append_cancel_left_eq]
  constructor
  · intro h name hname c hc
    have hmem : name.toList ∈ names.flatMap fun s => words s.toList :=
      h ▸ List.mem_map_of_mem hname
    obtain ⟨s, -, hword⟩ := List.mem_flatMap.mp hmem
    have hvisible : c ∈ s.toList.filter fun c => !isBlank c :=
      Text.flatten_words s.toList ▸ List.mem_flatten.mpr ⟨_, hword, hc⟩
    simpa using (List.mem_filter.mp hvisible).2
  · intro h
    induction names with
    | nil => rfl
    | cons name names ih =>
      obtain ⟨hname, hnames⟩ := List.forall_mem_cons.mp h
      obtain ⟨hfirst, hrest⟩ := List.forall_mem_cons.mp hne
      rw [List.flatMap_cons, List.map_cons, Text.words_solid hname,
        if_neg (by simpa using hfirst), ih hrest hnames]
      rfl

/-! ### All together -/

theorem ne_empty_of_required {a b : Fragment} {name : String} (h : name ∈ required (a.merge b)) :
    name ≠ "" := by
  rintro rfl
  rcases ((exact_required a b).named _).mp h with ⟨base, -, -, -, hname⟩ | ⟨plugin, -, hname⟩
  · simpa using congrArg String.toList hname
  · simpa using congrArg String.toList hname

/-- What a merged configuration requires is exact, whatever the two parts. It is reported right in a
tree exactly if the tree can be asked about all manifests, and those packages that are missing stand in
the command exactly if their names have no white space. -/
theorem required_reported_iff (root : Tree) (a b : Fragment) :
    Exact a b (required (a.merge b)) ∧
    (Reported root (required (a.merge b)) ↔
      ∀ name ∈ required (a.merge b), Askable root (manifest name)) ∧
    (Installs (lacking root (required (a.merge b))) ↔
      ∀ name ∈ lacking root (required (a.merge b)), ∀ c ∈ name.toList, isBlank c = false) := by
  refine ⟨exact_required a b, reported_iff, installs_iff fun name hname => ?_⟩
  exact ne_empty_of_required (List.mem_filter.mp hname).1

/-- A folder for packages that has none. -/
def bare : Tree := .folder [("node_modules", .folder [])]

/-- A package whose name is longer than the name of a file can be is not there, and that cannot be
found out. -/
theorem not_askable_overlong {name : String} (hslash : '/' ∉ name.toList)
    (hlong : Files.componentLimit < name.utf8ByteSize) (hplain : (manifest name).obstacle? = none) :
    ¬ Askable bare (manifest name) := by
  have hne : ∀ short : String, short.utf8ByteSize ≤ Files.componentLimit → name ≠ short := by
    rintro short hshort rfl
    exact absurd hlong (Nat.not_lt.mpr hshort)
  have hmanifest := manifest_of_unslashed hslash (hne "" (by decide)) (hne "." (by decide))
  have hlocate : bare.locate (manifest name) = .error ⟨.tooLong, manifest name⟩ := by
    rw [Tree.locate, Tree.followPath, hplain]
    simp [hmanifest, bare, Tree.follow, Tree.get?, Tree.lookup?, hne ".." (by decide), hlong]
  exact fun hask => hask _ hlocate rfl

/-- A plugin whose name is longer than the name of a file can be. -/
def ponderous : Fragment := { plugins := [String.ofList (List.replicate 300 'x')] }

theorem not_reported_ponderous : ¬ Reported bare (required (ponderous.merge {})) := by
  intro h
  obtain ⟨name, hname⟩ : ∃ name, name = ofPlugin (String.ofList (List.replicate 300 'x')) := ⟨_, rfl⟩
  have hchars : name.toList = "eslint-plugin-".toList ++ List.replicate 300 'x' :=
    hname ▸ String.toList_append.trans (congrArg _ String.toList_ofList)
  have hsize : name.utf8ByteSize = 314 := by
    rw [hname]
    decide +kernel
  have hslash : '/' ∉ name.toList := by
    rw [hchars]
    decide
  have hnull : '\x00' ∉ name.toList := by
    rw [hchars]
    decide
  have hempty : name ≠ "" := fun h => absurd (h ▸ hsize) (by decide)
  have hdot : name ≠ "." := fun h => absurd (h ▸ hsize) (by decide)
  have hplain : (manifest name).obstacle? = none := by
    have hparts : ((manifest name).parts.any (·.toList.contains '\x00')) = false := by
      simp [manifest_of_unslashed hslash hempty hdot, hnull]
    have hpath := size_manifest hslash hempty hdot
    rw [Path.obstacle?, hparts, if_neg Bool.false_ne_true, hpath, hsize]
    decide
  have hrequired : name ∈ required (ponderous.merge {}) :=
    ((exact_required _ _).named name).mpr (.inr ⟨_, .inl List.mem_cons_self, hname⟩)
  exact not_askable_overlong hslash (hsize ▸ by decide) hplain (reported_iff.mp h name hrequired)

end LintConfig.Packages
