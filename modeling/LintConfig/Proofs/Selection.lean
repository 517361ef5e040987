import LintConfig.Proofs.Files.Finding

/-! # Which files patterns stand for

A pattern that names a folder stands for the files below it that are reached through folders whose
names are not excluded; any other pattern for the files whose path fits it component by component.
What is found for several patterns is what is found for each of them, whatever their order and however
often they are repeated. -/
namespace LintConfig.Files
open Files.Tree (names)

/-! ### Proper trees -/

mutual

/-- Are the entries of every folder told apart by their names, and is no name a double dot? -/
def Tree.isProper : Tree → Bool
  | .file _ => true
  | .folder entries => areProper entries

def Tree.areProper : List (String × Tree) → Bool
  | [] => true
  | (name, t) :: rest =>
    name != ".." && !(names rest).contains name && t.isProper && areProper rest

end

theorem Tree.lookup_of_mem {entries : List (String × Tree)} (h : areProper entries = true)
    {name : String} {t : Tree} (hmem : (name, t) ∈ entries) : lookup? name entries = some t := by
  induction entries with
  | nil => simp at hmem
  | cons e rest ih =>
    obtain ⟨n, u⟩ := e
    simp only [areProper, Bool.and_eq_true, Bool.not_eq_true', List.contains_eq_mem,
      decide_eq_false_iff_not] at h
    rw [lookup?]
    rcases List.mem_cons.mp hmem with he | hmem
    · cases he
      rw [if_pos rfl]
    · have hne : n ≠ name := by
        rintro rfl
        exact h.1.1.2 (List.mem_map_of_mem (f := (·.1)) hmem)
      rw [if_neg hne]
      exact ih h.2 hmem

theorem Tree.proper_of_mem {entries : List (String × Tree)} (h : areProper entries = true)
    {e : String × Tree} (hmem : e ∈ entries) : e.1 ≠ ".." ∧ e.2.isProper = true := by
  induction entries with
  | nil => simp at hmem
  | cons d rest ih =>
    simp only [areProper, Bool.and_eq_true, bne_iff_ne] at h
    rcases List.mem_cons.mp hmem with rfl | hmem
    · exact ⟨h.1.1.1, h.1.2⟩
    · exact ih h.2 hmem

theorem Tree.isProper_of_get? {t u : Tree} (h : t.isProper = true) {place : List String}
    (hu : t.get? place = some u) : u.isProper = true := by
  induction place generalizing t with
  | nil =>
    rw [get?_nil] at hu
    exact Option.some.inj hu ▸ h
  | cons n place ih =>
    cases t with
    | file bytes => simp at hu
    | folder entries =>
      rw [get?_folder] at hu
      obtain ⟨v, hv, hu⟩ := Option.bind_eq_some_iff.mp hu
      rw [isProper] at h
      exact ih (proper_of_mem h (mem_of_lookup hv)).2 hu

/-! ### Names that components stand for -/

namespace Pattern

/-- A text is one that pieces stand for: a star for any part of it, any other piece for one
character. -/
inductive Spells : List Piece → List Char → Prop
  | nil : Spells [] []
  | star (skipped : List Char) {later : List Piece} {text : List Char} :
      Spells later text → Spells (.star :: later) (skipped ++ text)
  | one {p : Piece} {c : Char} {later : List Piece} {text : List Char} :
      p.admits c = true → Spells later text → Spells (p :: later) (c :: text)

theorem skip_iff {f : List Char → Bool} {text : List Char} :
    fits.skip f text = true ↔ ∃ skipped rest, text = skipped ++ rest ∧ f rest = true := by
  induction text with
  | nil =>
    rw [fits.skip]
    constructor
    · exact fun h => ⟨[], [], rfl, h⟩
    · rintro ⟨skipped, rest, he, h⟩
      obtain ⟨rfl, rfl⟩ := List.append_eq_nil_iff.mp he.symm
      exact h
  | cons c text ih =>
    rw [fits.skip, Bool.or_eq_true, ih]
    constructor
    · rintro (h | ⟨skipped, rest, rfl, h⟩)
      · exact ⟨[], c :: text, rfl, h⟩
      · exact ⟨c :: skipped, rest, rfl, h⟩
    · rintro ⟨skipped, rest, he, h⟩
      cases skipped with
      | nil => exact .inl (by rw [he]; exact h)
      | cons d skipped =>
        obtain ⟨-, rfl⟩ := List.cons.inj he
        exact .inr ⟨skipped, rest, rfl, h⟩

theorem fits_star (later : List Piece) (text : List Char) :
    fits (.star :: later) text = fits.skip (fits later) text := by
  cases text <;> rfl

theorem fits_cons {p : Piece} (hp : p ≠ .star) (later : List Piece) (c : Char) (text : List Char) :
    fits (p :: later) (c :: text) = (p.admits c && fits later text) := by
  cases p with
  | star => contradiction
  | any | nothing | literal | oneOf => rfl

theorem fits_iff {ps : List Piece} {text : List Char} : fits ps text = true ↔ Spells ps text := by
  constructor
  · intro h
    induction ps generalizing text with
    | nil =>
      rw [fits, List.isEmpty_iff] at h
      exact h ▸ .nil
    | cons p later ih =>
      by_cases hp : p = .star
      · rw [hp, fits_star, skip_iff] at h
        obtain ⟨skipped, rest, rfl, h⟩ := h
        exact hp ▸ .star skipped (ih h)
      · cases text with
        | nil => cases p <;> contradiction
        | cons c text =>
          rw [fits_cons hp, Bool.and_eq_true] at h
          exact .one h.1 (ih h.2)
  · intro h
    induction h with
    | nil => rfl
    | star skipped _ ih =>
      rw [fits_star, skip_iff]
      exact ⟨skipped, _, rfl, ih⟩
    | one hc _ ih =>
      rename_i p _ _ _ _
      have hp : p ≠ .star := by
        rintro rfl
        contradiction
      rw [fits_cons hp, hc, ih]
      rfl

end Pattern

/-- A component of a path is one that a component of a pattern stands for: the component itself, or a
name that its special characters spell, hidden only if the component is. -/
inductive Fits (component : String) : String → Prop
  | literal : Pattern.isSpecial component = false → Fits component component
  | special {name : String} : Pattern.isSpecial component = true → name ≠ ".." →
      (isHidden name = true → isHidden component = true) →
      Pattern.Spells (Pattern.ofString component) name.toList → Fits component name

theorem fits_of_special {component name : String} (h : Pattern.isSpecial component = true) :
    Fits component name ↔ name ≠ ".." ∧
      ((isHidden component || !isHidden name) && Pattern.matchesName component name) = true := by
  rw [Pattern.matchesName, Bool.and_eq_true, Pattern.fits_iff]
  have hhidden : (isHidden component || !isHidden name) = true ↔
      (isHidden name = true → isHidden component = true) := by
    cases isHidden component <;> cases isHidden name <;> decide
  rw [hhidden]
  constructor
  · rintro (hliteral | ⟨-, hdots, hhidden, hspells⟩)
    · rw [h] at hliteral
      contradiction
    · exact ⟨hdots, hhidden, hspells⟩
  · exact fun ⟨hdots, hhidden, hspells⟩ => .special h hdots hhidden hspells

theorem fits_of_literal {component name : String} (h : ¬ Pattern.isSpecial component = true) :
    Fits component name ↔ name = component := by
  constructor
  · rintro (- | ⟨hspecial, -⟩)
    · rfl
    · exact absurd hspecial h
  · rintro rfl
    exact .literal (Bool.eq_false_iff.mpr h)

/-! ### Below a folder -/

section Below
variable {extensions excluded : List String}

mutual

/-- What is found below a folder is a file, reached through folders that are not excluded. -/
theorem file_of_mem_sourcesBelow {p x : Path} : (t : Tree) → t.isProper = true →
    x ∈ sourcesBelow extensions excluded p t →
      ∃ folders name bytes, x = p.extend (folders ++ [name]) ∧
        t.get? (folders ++ [name]) = some (.file bytes) ∧
        (∀ d ∈ folders, d ∉ excluded) ∧ extensionOf name ∈ extensions
  | .file _, _, hx => by simp [sourcesBelow] at hx
  | .folder entries, h, hx => by
    rw [sourcesBelow] at hx
    rw [Tree.isProper] at h
    obtain ⟨n, u, hmem, hentry⟩ := entry_of_mem_entrySources entries h hx
    have hlookup := Tree.lookup_of_mem h hmem
    rcases hentry with ⟨bytes, rfl, rfl, hext⟩ | ⟨hn, folders, name, bytes, rfl, hget, hfolders, hext⟩
    · exact ⟨[], n, bytes, rfl, by simp [Tree.get?_folder, hlookup], by simp, hext⟩
    · refine ⟨n :: folders, name, bytes, (Path.extend_cons p n _).symm, ?_, ?_, hext⟩
      · rw [List.cons_append, Tree.get?_folder, hlookup]
        exact hget
      · exact List.forall_mem_cons.mpr ⟨hn, hfolders⟩

theorem entry_of_mem_entrySources {p x : Path} : (entries : List (String × Tree)) →
    Tree.areProper entries = true → x ∈ entrySources extensions excluded p entries →
      ∃ n u, (n, u) ∈ entries ∧
        ((∃ bytes, u = .file bytes ∧ x = p.child n ∧ extensionOf n ∈ extensions) ∨
          n ∉ excluded ∧ ∃ folders name bytes, x = (p.child n).extend (folders ++ [name]) ∧
            u.get? (folders ++ [name]) = some (.file bytes) ∧
            (∀ d ∈ folders, d ∉ excluded) ∧ extensionOf name ∈ extensions)
  | [], _, hx => by simp [entrySources] at hx
  | (n, .file bytes) :: rest, h, hx => by
    rw [entrySources] at hx
    rw [Tree.areProper, Bool.and_eq_true] at h
    rcases List.mem_append.mp hx with hx | hx
    · split at hx
      · rename_i hext
        exact ⟨n, _, List.mem_cons_self, .inl ⟨bytes, rfl, List.mem_singleton.mp hx, by simpa using hext⟩⟩
      · simp at hx
    · obtain ⟨m, u, hmem, hentry⟩ := entry_of_mem_entrySources rest h.2 hx
      exact ⟨m, u, List.mem_cons_of_mem _ hmem, hentry⟩
  | (n, .folder entries) :: rest, h, hx => by
    rw [entrySources] at hx
    rw [Tree.areProper, Bool.and_eq_true, Bool.and_eq_true] at h
    rcases List.mem_append.mp hx with hx | hx
    · split at hx
      · simp at hx
      · rename_i hn
        exact ⟨n, _, List.mem_cons_self, .inr ⟨by simpa using hn,
          file_of_mem_sourcesBelow (.folder entries) h.1.2 hx⟩⟩
    · obtain ⟨m, u, hmem, hentry⟩ := entry_of_mem_entrySources rest h.2 hx
      exact ⟨m, u, List.mem_cons_of_mem _ hmem, hentry⟩

end

/-- Every file is found that is reached through folders that are not excluded. -/
theorem mem_sourcesBelow_of_file {folders : List String} {name : String} {bytes : List UInt8}
    {entries : List (String × Tree)} {p : Path}
    (hget : (Tree.folder entries).get? (folders ++ [name]) = some (.file bytes))
    (hfolders : ∀ d ∈ folders, d ∉ excluded) (hext : extensionOf name ∈ extensions) :
    p.extend (folders ++ [name]) ∈ sourcesBelow extensions excluded p (.folder entries) := by
  rw [sourcesBelow_folder]
  induction folders generalizing entries p with
  | nil =>
    rw [List.nil_append, Tree.get?_folder] at hget
    obtain ⟨u, hu, hget⟩ := Option.bind_eq_some_iff.mp hget
    rw [Tree.get?_nil] at hget
    cases hget
    refine List.mem_flatMap.mpr ⟨_, Tree.mem_of_lookup hu, ?_⟩
    rw [sourcesIn, if_pos (by simpa using hext)]
    exact List.mem_singleton_self _
  | cons d folders ih =>
    rw [List.cons_append, Tree.get?_folder] at hget
    obtain ⟨u, hu, hget⟩ := Option.bind_eq_some_iff.mp hget
    obtain ⟨hd, hfolders⟩ := List.forall_mem_cons.mp hfolders
    refine List.mem_flatMap.mpr ⟨_, Tree.mem_of_lookup hu, ?_⟩
    cases u with
    | file content => cases folders <;> simp at hget
    | folder below =>
      rw [sourcesIn, if_neg (by simpa using hd), List.cons_append, Path.extend_cons,
        sourcesBelow_folder]
      exact ih hget hfolders

end Below

/-! ### Paths that fit -/

theorem pieces_of_unslashed {text : List Char} (h : '/' ∉ text) : Path.pieces text = [text] := by
  induction text with
  | nil => rfl
  | cons c rest ih =>
    obtain ⟨hc, hrest⟩ := not_or.mp (mt List.mem_cons.mpr h)
    rw [Path.pieces.eq_3 _ _ (Ne.symm hc), ih hrest]

/-- A name is a path of one component. -/
theorem ofString_of_unslashed {name : String} (hslash : '/' ∉ name.toList) (hempty : name ≠ "")
    (hdot : name ≠ ".") : Path.ofString name = ⟨"", [name]⟩ := by
  have hroot : Path.rootOf name.toList = "" := by
    cases hchars : name.toList with
    | nil => rfl
    | cons c rest =>
      have hc : c ≠ '/' := fun hc => hslash (hchars ▸ hc ▸ List.mem_cons_self)
      exact Path.rootOf.eq_4 _ (fun _ h => hc (List.cons.inj h).1) (fun _ h => hc (List.cons.inj h).1)
        (fun _ h => hc (List.cons.inj h).1)
  rw [Path.ofString, Path.components, pieces_of_unslashed hslash, hroot, List.map_singleton,
    String.ofList_toList, List.filter_cons_of_pos (by simp [hempty, hdot]), List.filter_nil]

theorem slashed_size_le (as bs : List String) :
    (Path.slashed as).utf8ByteSize ≤ (Path.slashed (as ++ bs)).utf8ByteSize := by
  induction as with
  | nil => exact Nat.zero_le _
  | cons a as ih =>
    cases as with
    | nil =>
      cases bs with
      | nil => exact le_rfl
      | cons b bs =>
        simp only [Path.slashed, List.cons_append, List.nil_append, String.utf8ByteSize_append]
        omega
    | cons b as =>
      simp only [Path.slashed, List.cons_append, String.utf8ByteSize_append] at ih ⊢
      omega

/-- A path can be asked about if it can be asked about a longer one. -/
theorem Path.obstacle_of_extend {p : Path} {more : List String}
    (h : (p.extend more).obstacle? = none) : p.obstacle? = none := by
  unfold Path.obstacle? at h ⊢
  split at h
  · contradiction
  rename_i hnull
  split at h
  · contradiction
  rename_i hlong
  rw [if_neg, if_neg]
  · unfold Path.text at hlong ⊢
    split
    · decide
    · rename_i hne
      have hne' : ¬ ((p.extend more).root == "" && (p.extend more).parts.isEmpty) = true := by
        intro he
        refine hne ?_
        simp only [Path.extend, Bool.and_eq_true, List.isEmpty_iff, List.append_eq_nil_iff] at he ⊢
        exact ⟨he.1, he.2.1⟩
      rw [if_neg hne', String.utf8ByteSize_append] at hlong
      rw [String.utf8ByteSize_append]
      have := slashed_size_le p.parts more
      simp only [Path.extend] at hlong
      omega
  · intro he
    refine hnull ?_
    simp only [Path.extend, List.any_append, Bool.or_eq_true]
    exact .inl he

section Fitting
variable {root : Tree}

theorem fits_of_mem_candidates (hroot : root.isProper = true) {components : List String}
    {p x : Path} (hx : x ∈ candidates root p components) :
    ∃ parts, x = p.extend parts ∧ List.Forall₂ Fits components parts := by
  induction components generalizing p with
  | nil =>
    rw [candidates, List.mem_singleton] at hx
    exact ⟨[], by simp [hx, Path.extend], .nil⟩
  | cons component rest ih =>
    rw [candidates] at hx
    split at hx
    · rename_i hspecial
      split at hx
      · rename_i entries hfind
        obtain ⟨name, hname, hx⟩ := List.mem_flatMap.mp hx
        obtain ⟨hin, hfits⟩ := mem_matchingNames.mp hname
        obtain ⟨parts, rfl, hparts⟩ := ih hx
        obtain ⟨place, hplace⟩ := Tree.find?_eq_some.mp hfind
        have hproper := Tree.isProper_of_get? hroot (Tree.locate_eq_ok.mp hplace).2.2.2
        rw [Tree.isProper] at hproper
        obtain ⟨e, he, rfl⟩ := List.mem_map.mp hin
        have hdots := (Tree.proper_of_mem hproper he).1
        exact ⟨e.1 :: parts, (Path.extend_cons p e.1 parts).symm,
          .cons ((fits_of_special hspecial).mpr ⟨hdots, hfits⟩) hparts⟩
      · simp at hx
    · rename_i hliteral
      obtain ⟨parts, rfl, hparts⟩ := ih hx
      exact ⟨component :: parts, (Path.extend_cons p component parts).symm,
        .cons ((fits_of_literal hliteral).mpr rfl) hparts⟩

/-- A file whose path fits is found: the folders on the way are there, and hold the names. -/
theorem mem_candidates_of_fits {components parts : List String}
    (h : List.Forall₂ Fits components parts) {p : Path}
    (hfile : root.hasFile (p.extend parts) = true) :
    p.extend parts ∈ candidates root p components := by
  induction h generalizing p with
  | nil => simp [candidates, Path.extend]
  | cons hfits hrest ih =>
    rename_i component name components parts
    rw [candidates]
    rw [Path.extend_cons] at hfile ⊢
    split
    · rename_i hspecial
      obtain ⟨hdots, hname⟩ := (fits_of_special hspecial).mp hfits
      rw [← Path.extend_cons] at hfile
      obtain ⟨q, bytes, hq⟩ := Tree.hasFile_iff.mp hfile
      obtain ⟨hobstacle, hempty, hleads, -⟩ := Tree.locate_eq_ok.mp hq
      rw [Tree.Leads, Path.extend, Tree.follow_append] at hleads
      obtain ⟨place, hplace, hleads⟩ := Failing.bind_eq_ok.mp hleads
      obtain ⟨entries, hentries, ⟨hup, -⟩ | ⟨-, hin, -⟩⟩ := Tree.follow_cons_eq_ok.mp hleads
      · exact absurd hup hdots
      · have hfind : root.find? p = some (.folder entries) := Tree.find?_eq_some.mpr
          ⟨place, Tree.locate_eq_ok.mpr ⟨Path.obstacle_of_extend hobstacle, hempty, hplace, hentries⟩⟩
        rw [hfind]
        rw [Path.extend_cons] at hfile
        exact List.mem_flatMap.mpr ⟨name, mem_matchingNames.mpr ⟨hin, hname⟩, ih hfile⟩
    · rename_i hliteral
      obtain rfl := (fits_of_literal hliteral).mp hfits
      exact ih hfile

end Fitting

/-! ### Patterns -/

/-- A pattern selects a path: it names a folder, and the path leads from there to a file with one of
the extensions, through folders that are not excluded; or it names none, and the path is that of a file
and fits. -/
inductive Selects (root : Tree) (extensions excluded : List String) (pattern : String) (p : Path) :
    Prop
  | below {place folders : List String} {name : String} {entries : List (String × Tree)}
      {bytes : List UInt8} :
      root.locate (.ofString pattern) = .ok (place, .folder entries) →
      p = (Path.ofString pattern).extend (folders ++ [name]) →
      root.get? (place ++ (folders ++ [name])) = some (.file bytes) →
      (∀ d ∈ folders, d ∉ excluded) → extensionOf name ∈ extensions →
      Selects root extensions excluded pattern p
  | fitting :
      root.hasFolder (.ofString pattern) = false → asksForFolder pattern = false →
      p.root = (Path.ofString pattern).root →
      List.Forall₂ Fits (Path.ofString pattern).parts p.parts → root.hasFile p = true →
      Selects root extensions excluded pattern p

/-- A pattern that can be looked up: neither is it too long on the way, nor does a null character
stand in a component before the first one with special characters. -/
structure Usable (root : Tree) (pattern : String) : Prop where
  short : root.locate (.ofString pattern) ≠ .error ⟨.tooLong, .ofString pattern⟩
  listed : ∀ start, literalStart? (.ofString pattern) = some start →
    start.obstacle? ≠ some .nullCharacter

section Patterns
variable {root : Tree} {extensions excluded : List String} {pattern : String}

theorem mem_of_literalStart {p start : Path} (h : literalStart? p = some start) :
    ∀ part ∈ start.parts, part ∈ p.parts := by
  unfold literalStart? at h
  dsimp only at h
  split at h
  · cases h
    exact fun part hpart => List.takeWhile_subset _ hpart
  · contradiction

theorem null_of_obstacle {p : Path} :
    p.obstacle? = some .nullCharacter ↔ ∃ part ∈ p.parts, '\x00' ∈ part.toList := by
  unfold Path.obstacle?
  split
  · rename_i h
    simpa [List.any_eq_true] using h
  · rename_i h
    constructor
    · intro he
      split at he <;> simp at he
    · intro he
      refine absurd ?_ h
      simpa [List.any_eq_true] using he

/-- A path is too long as a whole, or has a component that is. -/
theorem overlong_of_locate {p : Path} (h : root.locate p = .error ⟨.tooLong, p⟩) :
    p.obstacle? = some .tooLong ∨ ∃ part ∈ p.parts, componentLimit < part.utf8ByteSize := by
  have hfollow : root.followPath p p.parts = .error .tooLong := by
    unfold Tree.locate at h
    split at h
    · cases h
      assumption
    · split at h <;> cases h
  unfold Tree.followPath at hfollow
  split at hfollow
  · cases hfollow
    exact .inl ‹_›
  · split at hfollow
    · exact .inr (Tree.exists_of_follow_tooLong hfollow)
    · split at hfollow
      · rename_i hhead
        obtain ⟨part, hpart, hlong⟩ := (Option.any_eq_true _ _).mp hhead
        exact .inr ⟨part, List.mem_of_mem_head? hpart, of_decide_eq_true hlong⟩
      · cases hfollow

/-- A pattern without over-long components and null characters can be looked up in every project. -/
theorem usable_of_short
    (hshort : ∀ part ∈ (Path.ofString pattern).parts, ¬ componentLimit < part.utf8ByteSize)
    (hplain : (Path.ofString pattern).obstacle? = none) : Usable root pattern where
  short := by
    intro h
    obtain hlong | ⟨part, hpart, hlong⟩ := overlong_of_locate h
    · rw [hplain] at hlong
      contradiction
    · exact hshort part hpart hlong
  listed := by
    intro start hstart hnull
    obtain ⟨part, hpart, hin⟩ := null_of_obstacle.mp hnull
    have hobstacle := null_of_obstacle.mpr ⟨part, mem_of_literalStart hstart part hpart, hin⟩
    rw [hplain] at hobstacle
    contradiction

theorem matchingFiles_eq_ok {found : List Path} :
    matchingFiles root pattern = .ok found ↔
      (∀ start, literalStart? (.ofString pattern) = some start →
        start.obstacle? ≠ some .nullCharacter) ∧
      found = if asksForFolder pattern then []
        else (candidates root ⟨(Path.ofString pattern).root, []⟩
          (Path.ofString pattern).parts).filter root.hasFile := by
  unfold matchingFiles
  dsimp only
  split
  · rename_i hnull
    obtain ⟨start, hstart, hnull⟩ := Option.bind_eq_some_iff.mp hnull
    exact ⟨nofun, fun h => absurd hnull (h.1 start hstart)⟩
  · rename_i hno
    rw [Except.ok.injEq, eq_comm]
    refine (and_iff_right fun start hstart hnull => hno ?_).symm
    rw [hstart]
    exact hnull

/-- Whether a pattern names a folder, some other thing, or cannot be looked up. -/
theorem sourcesOf_eq_ok {found : List Path} :
    sourcesOf root extensions excluded pattern = .ok found ↔
      (∃ place entries, root.locate (.ofString pattern) = .ok (place, .folder entries) ∧
        found = sourcesBelow extensions excluded (.ofString pattern) (.folder entries)) ∨
      root.hasFolder (.ofString pattern) = false ∧
        root.locate (.ofString pattern) ≠ .error ⟨.tooLong, .ofString pattern⟩ ∧
        matchingFiles root pattern = .ok found := by
  by_cases hfolder : ∃ place entries, root.locate (.ofString pattern) = .ok (place, .folder entries)
  · obtain ⟨place, entries, hplace⟩ := hfolder
    have hhas : root.hasFolder (.ofString pattern) = true :=
      Tree.hasFolder_iff.mpr ⟨place, entries, hplace⟩
    rw [sourcesOf_folder hplace, hplace, hhas]
    simp [eq_comm]
  · have hhas : root.hasFolder (.ofString pattern) = false :=
      Bool.eq_false_iff.mpr fun h => hfolder (Tree.hasFolder_iff.mp h)
    simp only [not_exists] at hfolder
    by_cases hlong : root.locate (.ofString pattern) = .error ⟨.tooLong, .ofString pattern⟩
    · simp [sourcesOf, Tree.probe, hlong, bind, Except.bind]
    · rw [sourcesOf_other hfolder hlong]
      simp [hfolder, hhas, hlong]

theorem sourcesOf_ok_iff :
    (∃ found, sourcesOf root extensions excluded pattern = .ok found) ↔ Usable root pattern := by
  constructor
  · rintro ⟨found, h⟩
    rcases sourcesOf_eq_ok.mp h with ⟨place, entries, hplace, -⟩ | ⟨-, hshort, hmatching⟩
    · refine ⟨by rw [hplace]; simp, fun start hstart hnull => ?_⟩
      obtain ⟨part, hpart, hin⟩ := null_of_obstacle.mp hnull
      have hall := null_of_obstacle.mpr ⟨part, mem_of_literalStart hstart part hpart, hin⟩
      rw [(Tree.locate_eq_ok.mp hplace).1] at hall
      contradiction
    · exact ⟨hshort, (matchingFiles_eq_ok.mp hmatching).1⟩
  · rintro ⟨hshort, hlisted⟩
    cases hhas : root.hasFolder (.ofString pattern) with
    | true =>
      obtain ⟨place, entries, hplace⟩ := Tree.hasFolder_iff.mp hhas
      exact ⟨_, sourcesOf_eq_ok.mpr (.inl ⟨place, entries, hplace, rfl⟩)⟩
    | false =>
      exact ⟨_, sourcesOf_eq_ok.mpr (.inr ⟨hhas, hshort, matchingFiles_eq_ok.mpr ⟨hlisted, rfl⟩⟩)⟩

theorem mem_sourcesOf (hroot : root.isProper = true) {found : List Path}
    (h : sourcesOf root extensions excluded pattern = .ok found) {p : Path} :
    p ∈ found ↔ Selects root extensions excluded pattern p := by
  rcases sourcesOf_eq_ok.mp h with ⟨place, entries, hplace, rfl⟩ | ⟨hhas, -, hmatching⟩
  · have hget := (Tree.locate_eq_ok.mp hplace).2.2.2
    constructor
    · intro hp
      obtain ⟨folders, name, bytes, rfl, hfile, hfolders, hext⟩ :=
        file_of_mem_sourcesBelow (.folder entries) (Tree.isProper_of_get? hroot hget) hp
      have hthere : root.get? (place ++ (folders ++ [name])) = some (.file bytes) := by
        rw [Tree.get?_append, hget]
        exact hfile
      exact .below hplace rfl hthere hfolders hext
    · rintro (⟨hplace', rfl, hfile, hfolders, hext⟩ | ⟨hnot, -⟩)
      · rw [hplace] at hplace'
        cases hplace'
        rw [Tree.get?_append, hget] at hfile
        exact mem_sourcesBelow_of_file hfile hfolders hext
      · rw [Tree.hasFolder_iff.mpr ⟨place, entries, hplace⟩] at hnot
        contradiction
  · obtain ⟨-, rfl⟩ := matchingFiles_eq_ok.mp hmatching
    constructor
    · intro hp
      split at hp
      · simp at hp
      · rename_i hasks
        obtain ⟨hp, hfile⟩ := List.mem_filter.mp hp
        obtain ⟨parts, rfl, hfits⟩ := fits_of_mem_candidates hroot hp
        exact .fitting hhas (Bool.eq_false_iff.mpr hasks) rfl hfits hfile
    · rintro (⟨hplace, -⟩ | ⟨-, hasks, hempty, hfits, hfile⟩)
      · rw [Tree.hasFolder_iff.mpr ⟨_, _, hplace⟩] at hhas
        contradiction
      · rw [if_neg (Bool.eq_false_iff.mp hasks)]
        have hextend : p = (⟨(Path.ofString pattern).root, []⟩ : Path).extend p.parts := by
          rw [← hempty]
          rfl
        rw [hextend] at hfile ⊢
        exact List.mem_filter.mpr ⟨mem_candidates_of_fits hfits hfile, hfile⟩

variable {patterns : List String}

theorem expand_ok_iff :
    (∃ found, expand root patterns extensions excluded = .ok found) ↔
      ∀ pattern ∈ patterns, Usable root pattern := by
  constructor
  · rintro ⟨found, h⟩ pattern hpattern
    obtain ⟨lists, hlists, -⟩ := Failing.bind_eq_ok.mp h
    exact sourcesOf_ok_iff.mp (Failing.forall_of_mapM_ok hlists hpattern)
  · intro h
    obtain ⟨lists, hlists⟩ := Failing.mapM_ok_of_forall fun pattern hpattern =>
      sourcesOf_ok_iff.mpr (h pattern hpattern)
    exact ⟨_, Failing.bind_eq_ok.mpr ⟨lists, hlists, rfl⟩⟩

theorem mem_expand_iff (hroot : root.isProper = true) {found : List Path}
    (h : expand root patterns extensions excluded = .ok found) {p : Path} :
    p ∈ found ↔ ∃ pattern ∈ patterns, Selects root extensions excluded pattern p := by
  rw [mem_expand h]
  obtain ⟨lists, hlists, -⟩ := Failing.bind_eq_ok.mp h
  constructor
  · rintro ⟨pattern, hpattern, ps, hps, hp⟩
    exact ⟨pattern, hpattern, (mem_sourcesOf hroot hps).mp hp⟩
  · rintro ⟨pattern, hpattern, hp⟩
    obtain ⟨ps, hps⟩ := Failing.forall_of_mapM_ok hlists hpattern
    exact ⟨pattern, hpattern, ps, hps, (mem_sourcesOf hroot hps).mpr hp⟩

/-- If every pattern can be looked up, and only then, the patterns stand for a list of files. It is
strictly increasing, has the paths that some pattern selects, does not depend on the order of the
patterns or on how often they stand there, and joins what two parts of the patterns stand for. -/
theorem expand_exact_iff (hroot : root.isProper = true) :
    (∀ pattern ∈ patterns, Usable root pattern) ↔
      ∃ found, expand root patterns extensions excluded = .ok found ∧
        found.Pairwise (fun p q => p.before q = true) ∧
        (∀ p, p ∈ found ↔ ∃ pattern ∈ patterns, Selects root extensions excluded pattern p) ∧
        (∀ others, (∀ pattern, pattern ∈ others ↔ pattern ∈ patterns) →
          expand root others extensions excluded = .ok found) ∧
        ∀ first second, patterns = first ++ second →
          ∃ left right, expand root first extensions excluded = .ok left ∧
            expand root second extensions excluded = .ok right ∧
            ∀ p, p ∈ found ↔ p ∈ left ∨ p ∈ right := by
  constructor
  · intro husable
    obtain ⟨found, hfound⟩ := expand_ok_iff.mpr husable
    refine ⟨found, hfound, increasing_expand hfound, fun p => mem_expand_iff hroot hfound, ?_, ?_⟩
    · intro others hothers
      obtain ⟨found', hfound'⟩ : ∃ found', expand root others extensions excluded = .ok found' :=
        expand_ok_iff.mpr fun pattern hpattern => husable pattern ((hothers pattern).mp hpattern)
      obtain rfl := expand_ext hfound' hfound fun p => by
        simp only [mem_expand_iff hroot hfound', mem_expand_iff hroot hfound, hothers]
      exact hfound'
    · rintro first second rfl
      obtain ⟨left, hleft⟩ := expand_ok_iff.mpr fun pattern hpattern =>
        husable pattern (List.mem_append_left _ hpattern)
      obtain ⟨right, hright⟩ := expand_ok_iff.mpr fun pattern hpattern =>
        husable pattern (List.mem_append_right _ hpattern)
      refine ⟨left, right, hleft, hright, fun p => ?_⟩
      rw [mem_expand_iff hroot hfound, mem_expand_iff hroot hleft, mem_expand_iff hroot hright]
      simp only [List.mem_append, or_and_right, exists_or]
  · rintro ⟨found, hfound, -⟩
    exact expand_ok_iff.mp ⟨found, hfound⟩

end Patterns

/-- A project with a folder that is excluded inside of another one. -/
def nested : Tree := .folder [("a.js", .file []), ("b.txt", .file []),
  ("lib", .folder [("c.js", .file []), ("node_modules", .folder [("d.js", .file [])])])]

theorem expand_exact_nested :
    nested.isProper = true ∧
      ∀ p, p ∈ [⟨"", ["lib", "c.js"]⟩] ↔
        ∃ pattern ∈ ["lib"], Selects nested [".js"] ["node_modules"] pattern p := by
  have hproper : nested.isProper = true := by decide
  have hfound : expand nested ["lib"] [".js"] ["node_modules"] = .ok [⟨"", ["lib", "c.js"]⟩] := by
    decide +kernel
  obtain ⟨found, hfound', -, hmem, -⟩ :=
    (expand_exact_iff hproper).mp (expand_ok_iff.mp ⟨_, hfound⟩)
  obtain rfl := Except.ok.inj (hfound.symm.trans hfound')
  exact ⟨hproper, hmem⟩

/-! Many stars spell any name, but are a name of their own that is too long to be looked up. -/

def stars (n : Nat) : String := String.ofList (List.replicate n '*')

theorem toList_stars (n : Nat) : (stars n).toList = List.replicate n '*' := String.toList_ofList

theorem size_stars (n : Nat) : (stars n).utf8ByteSize = n := by
  induction n with
  | zero => rfl
  | succ n ih =>
    rw [stars, List.replicate_succ, String.ofList_cons, String.utf8ByteSize_append, ← stars, ih,
      Nat.add_comm]
    rfl

theorem spells_stars (n : Nat) (text : List Char) :
    Pattern.Spells (List.replicate (n + 1) .star) text := by
  induction n with
  | zero => exact List.append_nil text ▸ .star text .nil
  | succ n ih => exact .star [] ih

theorem ofString_stars (n : Nat) : Pattern.ofString (stars n) = List.replicate n .star := by
  rw [Pattern.ofString, toList_stars, List.length_replicate]
  induction n with
  | zero => rfl
  | succ n ih => rw [List.replicate_succ, Pattern.pieces, ih, List.replicate_succ]

theorem isSpecial_stars (n : Nat) : Pattern.isSpecial (stars (n + 1)) = true := by
  rw [Pattern.isSpecial, toList_stars]
  rfl

theorem fits_stars (n : Nat) {name : String} (hdots : name ≠ "..") (hhidden : isHidden name = false) :
    Fits (stars (n + 1)) name := by
  refine .special (isSpecial_stars n) hdots (fun h => ?_) (ofString_stars _ ▸ spells_stars n _)
  rw [hhidden] at h
  contradiction

theorem unslashed_stars (n : Nat) : '/' ∉ (stars n).toList := by
  rw [toList_stars]
  exact fun h => absurd (List.eq_of_mem_replicate h) (by decide)

theorem path_stars (n : Nat) : Path.ofString (stars (n + 1)) = ⟨"", [stars (n + 1)]⟩ := by
  refine ofString_of_unslashed (unslashed_stars _) (fun h => ?_) (fun h => ?_)
  · simpa [size_stars] using congrArg String.utf8ByteSize h
  · simpa [toList_stars, List.replicate_succ] using congrArg String.toList h

/-- A name that is too long is looked up in vain, and that is an error. -/
theorem locate_overlong {entries : List (String × Tree)} {name : String}
    (hlookup : Tree.lookup? name entries = none) (hdots : name ≠ "..")
    (hlong : componentLimit < name.utf8ByteSize) (hobstacle : (⟨"", [name]⟩ : Path).obstacle? = none) :
    (Tree.folder entries).locate ⟨"", [name]⟩ = .error ⟨.tooLong, ⟨"", [name]⟩⟩ := by
  simp [Tree.locate, Tree.followPath, hobstacle, Tree.follow, hdots, hlookup, hlong]

/-- A project of one file with a short name. -/
def single : Tree := .folder [("a", .file [])]

theorem locate_stars : single.locate (.ofString (stars 256)) =
    .error ⟨.tooLong, .ofString (stars 256)⟩ := by
  have hne : ∀ name : String, name.utf8ByteSize < 256 → stars 256 ≠ name := by
    rintro name h rfl
    rw [size_stars] at h
    exact absurd h (by decide)
  have hnull : '\x00' ∉ (stars 256).toList := by
    rw [toList_stars]
    exact fun h => absurd (List.eq_of_mem_replicate h) (by decide)
  rw [path_stars 255]
  refine locate_overlong ?_ (hne ".." (by decide)) ?_ ?_
  · simp [Tree.lookup?, (hne "a" (by decide)).symm]
  · rw [size_stars]
    decide
  · simp [Path.obstacle?, hnull, Path.text, Path.slashed, size_stars, pathLimit]

/-- Stars spell the name of the file, but they cannot be looked up. -/
theorem expand_overlong :
    single.isProper = true ∧ Selects single [".js"] [] (stars 256) ⟨"", ["a"]⟩ ∧
      ∀ found, expand single [stars 256] [".js"] [] ≠ .ok found := by
  refine ⟨by decide, .fitting ?_ ?_ ?_ ?_ (by decide +kernel), fun found hfound => ?_⟩
  · rw [Tree.hasFolder, Tree.find?, locate_stars]
    rfl
  · rw [asksForFolder, pieces_of_unslashed (unslashed_stars _), toList_stars]
    rfl
  · rw [path_stars 255]
  · rw [path_stars 255]
    have hname : Fits (stars (255 + 1)) "a" := fits_stars 255 (by decide) (by decide)
    exact .cons hname .nil
  · exact (expand_ok_iff.mp ⟨found, hfound⟩ _ (List.mem_singleton_self _)).short locate_stars

end LintConfig.Files
