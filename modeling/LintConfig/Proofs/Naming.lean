import LintConfig.Proofs.Selection
import Mathlib.Data.List.TakeWhile

/-! # Patterns that name a file

There are no names that are only names: whatever leads to no folder is matched, also where it is the
path of a file. So a file is found by its own path if every component of the path spells itself. Stars
and question marks do, and brackets that are not closed; a class in brackets stands for one character,
so that in general it does not. -/
namespace LintConfig.Files

/-- The text of a pattern is the path of a file. A path that asks for a folder is none. -/
structure Names (root : Tree) (pattern : String) : Prop where
  file : root.hasFile (.ofString pattern) = true
  exact : asksForFolder pattern = false

/-- Behind an opening bracket there is no closing one. -/
def Unbracketed (text : List Char) : Prop :=
  ∀ before after, text = before ++ '[' :: after → ']' ∉ after

theorem Unbracketed.tail {c : Char} {text : List Char} (h : Unbracketed (c :: text)) :
    Unbracketed text := fun before after he => h (c :: before) after (by rw [he]; rfl)

namespace Pattern

/-- A bracket that is not closed opens no class. -/
theorem bracketed_of_unclosed {text : List Char} (h : ']' ∉ text) : bracketed? text = none := by
  have hbody : ∀ marks, (text.drop marks).takeWhile (· != ']') = text.drop marks := fun marks =>
    List.takeWhile_eq_self_iff.mpr fun c hc => by
      have hne : c ≠ ']' := fun he => h (he ▸ List.mem_of_mem_drop hc)
      simpa using hne
  have hrest : ∀ marks, text.drop (marks + (text.drop marks).length) = [] := fun marks => by
    rw [← List.drop_drop, List.drop_length]
  unfold bracketed?
  dsimp only
  rw [hbody, hrest]

theorem spells_pieces {fuel : Nat} {text : List Char} (h : Unbracketed text)
    (hfuel : text.length ≤ fuel) : Spells (pieces fuel text) text := by
  induction fuel generalizing text with
  | zero =>
    obtain rfl := List.length_eq_zero_iff.mp (Nat.le_zero.mp hfuel)
    exact .nil
  | succ fuel ih =>
    cases text with
    | nil => exact .nil
    | cons c rest =>
      have hrest : Spells (pieces fuel rest) rest := ih h.tail (Nat.le_of_succ_le_succ hfuel)
      rcases eq_or_ne c '*' with rfl | hstar
      · exact .star ['*'] hrest
      rcases eq_or_ne c '?' with rfl | hany
      · exact .one rfl hrest
      rcases eq_or_ne c '[' with rfl | hbracket
      · rw [pieces, bracketed_of_unclosed (h [] rest rfl)]
        exact .one rfl hrest
      · rw [pieces.eq_6 fuel c rest hstar hany hbracket]
        exact .one (beq_self_eq_true c) hrest

end Pattern

/-- A component that has special characters spells itself, or it does not stand for itself. -/
theorem fits_self_iff {component : String} : Fits component component ↔
    (Pattern.isSpecial component = true →
      Pattern.Spells (Pattern.ofString component) component.toList) := by
  constructor
  · rintro (hliteral | ⟨-, -, -, hspells⟩) hspecial
    · rw [hspecial] at hliteral
      contradiction
    · exact hspells
  · intro h
    cases hspecial : Pattern.isSpecial component with
    | false => exact .literal hspecial
    | true =>
      refine .special hspecial ?_ id (h hspecial)
      rintro rfl
      exact absurd hspecial (by decide)

theorem fits_self_of_unbracketed {component : String} (h : Unbracketed component.toList) :
    Fits component component :=
  fits_self_iff.mpr fun _ => Pattern.spells_pieces h le_rfl

section Naming
variable {root : Tree} {extensions excluded : List String} {pattern : String}

/-- What leads to a file can be looked up. -/
theorem Names.usable (h : Names root pattern) : Usable root pattern := by
  obtain ⟨place, bytes, hplace⟩ := Tree.hasFile_iff.mp h.file
  have hobstacle := (Tree.locate_eq_ok.mp hplace).1
  refine ⟨by rw [hplace]; exact nofun, fun start hstart hnull => ?_⟩
  obtain ⟨part, hpart, hin⟩ := null_of_obstacle.mp hnull
  have hall := null_of_obstacle.mpr ⟨part, mem_of_literalStart hstart part hpart, hin⟩
  rw [hobstacle] at hall
  contradiction

/-- The path of a file is selected if its components stand for themselves. -/
theorem Names.selects_iff (h : Names root pattern) :
    Selects root extensions excluded pattern (.ofString pattern) ↔
      ∀ component ∈ (Path.ofString pattern).parts, Fits component component := by
  obtain ⟨place, bytes, hplace⟩ := Tree.hasFile_iff.mp h.file
  have hfolder : root.hasFolder (.ofString pattern) = false := by
    refine Bool.eq_false_iff.mpr fun hhas => ?_
    obtain ⟨place', entries, hplace'⟩ := Tree.hasFolder_iff.mp hhas
    rw [hplace] at hplace'
    cases hplace'
  rw [← List.forall₂_same]
  constructor
  · rintro (⟨hplace', -⟩ | ⟨-, -, -, hfits, -⟩)
    · rw [hplace] at hplace'
      cases hplace'
    · exact hfits
  · exact fun hfits => .fitting hfolder h.exact rfl hfits h.file

/-- A pattern that is the path of a file stands for a list of files, and this file is one of them
exactly if every component of the path stands for itself. This holds wherever no bracket is closed. -/
theorem expand_named_iff (hroot : root.isProper = true) (h : Names root pattern) :
    ∃ found, expand root [pattern] extensions excluded = .ok found ∧
      (Path.ofString pattern ∈ found ↔
        ∀ component ∈ (Path.ofString pattern).parts, Fits component component) ∧
      ((∀ component ∈ (Path.ofString pattern).parts, Unbracketed component.toList) →
        Path.ofString pattern ∈ found) := by
  obtain ⟨found, hfound⟩ : ∃ found, expand root [pattern] extensions excluded = .ok found :=
    expand_ok_iff.mpr fun p hp => List.mem_singleton.mp hp ▸ h.usable
  have hmem : Path.ofString pattern ∈ found ↔
      ∀ component ∈ (Path.ofString pattern).parts, Fits component component := by
    have hselects : Selects root extensions excluded pattern (.ofString pattern) ↔ _ := h.selects_iff
    rw [mem_expand_iff hroot hfound, ← hselects]
    simp only [List.mem_singleton, exists_eq_left]
  refine ⟨found, hfound, hmem, fun hbrackets => hmem.mpr fun component hcomponent => ?_⟩
  exact fits_self_of_unbracketed (hbrackets component hcomponent)

end Naming

/-- A project with a file whose name has a star and an opening bracket in it, in a folder that is
hidden. -/
def starred : Tree := .folder [(".lib", .folder [("a*[.js", .file [])]), ("b.js", .file [])]

/-- The path of the file finds it, whatever the extensions are. -/
theorem expand_named_starred :
    starred.isProper = true ∧ Names starred ".lib/a*[.js" ∧
      ∃ found, expand starred [".lib/a*[.js"] [] [".lib"] = .ok found ∧
        ⟨"", [".lib", "a*[.js"]⟩ ∈ found := by
  have hproper : starred.isProper = true := by decide
  have hnames : Names starred ".lib/a*[.js" := ⟨by decide, by decide +kernel⟩
  have hpath : Path.ofString ".lib/a*[.js" = ⟨"", [".lib", "a*[.js"]⟩ := by decide
  obtain ⟨found, hfound, hiff, -⟩ := @expand_named_iff _ [] [".lib"] _ hproper hnames
  refine ⟨hproper, hnames, found, hfound, hpath ▸ hiff.mpr ?_⟩
  have hfits : ∀ component ∈ [".lib", "a*[.js"], Pattern.isSpecial component = true →
      Pattern.matchesName component component = true := by decide
  intro component hcomponent
  rw [hpath] at hcomponent
  exact fits_self_iff.mpr fun hspecial => Pattern.fits_iff.mp (hfits component hcomponent hspecial)

/-- A project with a file whose name looks like a class, and one whose name the class spells. -/
def bracketed : Tree := .folder [("[a].js", .file []), ("a.js", .file [])]

/-- The path of the first file finds the second one alone. -/
theorem expand_bracketed :
    bracketed.isProper = true ∧ Names bracketed "[a].js" ∧
      expand bracketed ["[a].js"] [".js"] [] = .ok [⟨"", ["a.js"]⟩] ∧
      Path.ofString "[a].js" ∉ [⟨"", ["a.js"]⟩] :=
  ⟨by decide, ⟨by decide, by decide +kernel⟩, by decide +kernel, by decide +kernel⟩

end LintConfig.Files
