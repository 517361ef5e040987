import LintConfig.Proofs.Acceptance
import LintConfig.Proofs.Files.Finding
import LintConfig.Synthesis

/-! # What is inferred depends on the sources alone

Two trees in which patterns find the same files, with the same content as far as they can be read,
give the same configuration. -/
namespace LintConfig.Synthesis
open Answers (Record)
open Files (Path Tree)
open Style (Counts Statistic)

/-- Patterns find the same files in two trees, and these hold the same. -/
def SameSources (t t' : Tree) (o : Scan.Options) (patterns : List String) : Prop :=
  ∃ files, Scan.filesOf t o patterns = .ok files ∧ Scan.filesOf t' o patterns = .ok files ∧
    ∀ p ∈ files, ∀ bytes, t.read p = .ok bytes ↔ t'.read p = .ok bytes

/-! ### Files that cannot be read -/

end LintConfig.Synthesis
