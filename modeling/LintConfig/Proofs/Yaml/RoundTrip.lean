import LintConfig.Proofs.Yaml.Ascii
import LintConfig.Proofs.Yaml.Filling
import LintConfig.Yaml.Reader

/-! # Reading what is written

A written document has nothing but ASCII characters that can be seen, and line feeds. So it does not
matter in which portions it comes, and its tokens are those of the whole text. The nodes that they are
parsed to stand for the value that was written, and that is what is put together from them. -/
namespace LintConfig.Yaml

/-! ### Portions -/

section Portions

/-- All characters may stand in a document. -/
def Acceptable (text : List Char) : Prop := ∀ x ∈ text, isAcceptable x = true

theorem acceptable_of_inked {text : List Char} (h : Inked text) : Acceptable text := by
  intro x hx
  rcases h x hx with rfl | hprintable
  · decide
  · simp [isAcceptable, hprintable.lower, hprintable.upper]

/-- A text without characters that no document may hold is read as a whole. -/
theorem readable_eq {blocks : List (List Char)} (h : Acceptable blocks.flatten) (position : Nat) :
    readable none position blocks = (blocks.flatten, none) := by
  induction blocks generalizing position with
  | nil => rfl
  | cons block blocks ih =>
    rw [List.flatten_cons, Acceptable, List.forall_mem_append] at h
    have hnone : (block.zipIdx.find? fun e => !isAcceptable e.1) = none := by
      rw [List.find?_eq_none]
      intro e he
      simpa using h.1 e.1 (List.fst_mem_of_mem_zipIdx he)
    rw [readable, hnone]
    dsimp only
    rw [ih h.2, List.flatten_cons]

/-- So it does not matter in which portions it comes. -/
theorem tokensOf_eq {portions : List (List Char)} (h : Acceptable portions.flatten) :
    tokensOf ⟨portions, none⟩ = Lexer.tokens portions.flatten none := by
  have hwhole : ∀ blocks : List (List Char), blocks.flatten = portions.flatten →
      Lexer.tokens (readable none 0 blocks).1 (readable none 0 blocks).2 =
        Lexer.tokens portions.flatten none := by
    intro blocks hblocks
    rw [readable_eq (hblocks ▸ h), hblocks]
  cases portions with
  | nil =>
    rw [tokensOf]
    exact hwhole [] rfl
  | cons first portions =>
    cases portions with
    | nil =>
      rw [tokensOf]
      exact hwhole [first] rfl
    | cons second rest =>
      rw [tokensOf]
      exact hwhole ((first ++ second) :: rest) (List.append_assoc first second rest.flatten)

end Portions

/-! ### Documents -/

section Documents
variable {entries : Entries Value} {depth : Nat}

/-- Behind the value the line of a document ends. -/
theorem document_entries (entries : Entries Value) :
    Writer.document (Fragment.entriesValue entries) = Writer.node 0 (Fragment.entriesValue entries) ++ ['\n'] := by
  rw [entriesValue_eq, Writer.document]

/-- What is written is read back as it is. -/
theorem read_document (hvalues : ∀ e ∈ entries, Tidy depth e.2) (hlegible : ∀ e ∈ entries, Legible e.1 e.2)
    (hnames : (Entries.names entries).Nodup) (hne : entries ≠ []) (hdepth : 2 * depth + 2 < Writer.width)
    {portions : List (List Char)} (hportions : portions.flatten = Writer.document (Fragment.entriesValue entries)) :
    read ⟨portions, none⟩ = .ok (Fragment.entriesValue entries) := by
  have htext : Acceptable portions.flatten :=
    hportions ▸ acceptable_of_inked (inked_document _)
  obtain ⟨ts, htokens, hlexemes⟩ := tokens_document hvalues hlegible hne hdepth
  obtain ⟨nodes, hparse, hdenotes⟩ := Parser.parse_document hvalues hnames hlexemes
  have hconstruct := Construction.construct_eq hdenotes
  rw [read, tokensOf_eq htext, hportions, htokens, hparse]
  exact hconstruct

end Documents

end LintConfig.Yaml
