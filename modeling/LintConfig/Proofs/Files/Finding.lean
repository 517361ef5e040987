import LintConfig.Proofs.Expansion
import LintConfig.Proofs.Files.Writing

/-! # What patterns find after a file is written

In a folder that is there already, a file that is written is the only one that patterns can find in
addition: below a folder, or among the files whose path fits. All other paths lead to the same files
or, as before, to none. -/
namespace LintConfig.Files
open Files.Tree (names Room Extends)

/-- The path with more components. -/
def Path.extend (p : Path) (parts : List String) : Path := { p with parts := p.parts ++ parts }

theorem Path.extend_cons (p : Path) (n : String) (rest : List String) :
    p.extend (n :: rest) = (p.child n).extend rest := by
  simp [Path.extend, Path.child]

/-! ### Below a folder -/

/-- The source files that one entry of a folder holds. -/
def sourcesIn (extensions excluded : List String) (p : Path) : String × Tree → List Path
  | (name, .file _) => if extensions.contains (extensionOf name) then [p.child name] else []
  | (name, .folder entries) =>
    if excluded.contains name then []
    else sourcesBelow extensions excluded (p.child name) (.folder entries)

theorem sourcesBelow_folder (extensions excluded : List String) (p : Path)
    (entries : List (String × Tree)) :
    sourcesBelow extensions excluded p (.folder entries) =
      entries.flatMap (sourcesIn extensions excluded p) := by
  rw [sourcesBelow]
  induction entries with
  | nil => rfl
  | cons e entries ih =>
    obtain ⟨name, t⟩ := e
    cases t <;> rw [entrySources, ih, List.flatMap_cons] <;> rfl

section Overwriting
variable {t : Tree} {q : List String} {bytes : List UInt8}

theorem mem_matchingNames {component name : String} {entries : List (String × Tree)} :
    name ∈ matchingNames component entries ↔ name ∈ names entries ∧
      ((isHidden component || !isHidden name) && Pattern.matchesName component name) = true :=
  List.mem_filter

theorem locate_error {p : Path} {e : FileError} (h : t.locate p = .error e) : e.path = p := by
  unfold Tree.locate at h
  split at h
  · cases h
    rfl
  · split at h <;> cases h
    rfl

theorem sourcesOf_folder {extensions excluded : List String} {pattern : String} {r : List String}
    {entries : List (String × Tree)} (h : t.locate (.ofString pattern) = .ok (r, .folder entries)) :
    sourcesOf t extensions excluded pattern =
      .ok (sourcesBelow extensions excluded (.ofString pattern) (.folder entries)) := by
  simp [sourcesOf, Tree.probe, h, bind, Except.bind, pure, Except.pure]

theorem sourcesOf_other {extensions excluded : List String} {pattern : String}
    (hfolder : ∀ r entries, t.locate (.ofString pattern) ≠ .ok (r, .folder entries))
    (hlong : t.locate (.ofString pattern) ≠ .error ⟨.tooLong, .ofString pattern⟩) :
    sourcesOf t extensions excluded pattern = matchingFiles t pattern := by
  cases hp : t.locate (.ofString pattern) with
  | ok found =>
    obtain ⟨r, u⟩ := found
    cases u with
    | file content => simp [sourcesOf, Tree.probe, hp, bind, Except.bind]
    | folder entries => exact absurd hp (hfolder r entries)
  | error e =>
    have hne : e.obstacle ≠ .tooLong := by
      intro he
      obtain ⟨o, p⟩ := e
      obtain rfl := locate_error hp
      exact hlong (he ▸ hp)
    simp [sourcesOf, Tree.probe, hp, hne, bind, Except.bind]

end Overwriting

end LintConfig.Files
