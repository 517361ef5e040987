import LintConfig.Console.Print
import Mathlib.Data.List.TakeWhile

/-! # Texts that can be printed

A text is printed as markup, and what fails is a tag that closes nothing, or one with arguments that
are none. A text without a bracket has no tags at all. One with a tag around a part of it can be
printed if the parts before the end of the tag have nothing in them that tags are made with. -/
namespace LintConfig.Console

namespace Markup

theorem tagAt_eq_none {text : List Char} (h : '[' ∉ text) : tagAt? text = none := by
  unfold tagAt?
  split
  · exact absurd List.mem_cons_self h
  · rfl

/-- No tag is in the text. -/
def Untagged (text : List Char) : Prop := ∀ t, t <:+ text → tagAt? t = none

theorem untagged_of_not_mem {text : List Char} (h : '[' ∉ text) : Untagged text := fun _ ht =>
  tagAt_eq_none fun hin => h (ht.mem hin)

/-- The piece of a text, if there is any. -/
def textPieces (a : List Char) : List Piece := if a.isEmpty then [] else [.text a]

/-- A text without tags is one piece. -/
theorem pieces_untagged {text : List Char} (h : Untagged text) : pieces text = textPieces text := by
  induction text with
  | nil => rfl
  | cons c rest ih =>
    have hrest := ih fun t ht => h t (ht.trans (List.suffix_cons c rest))
    rw [pieces] at hrest
    rw [pieces, piecesFrom, h _ (List.drop_suffix _ _), hrest]
    cases rest <;> rfl

theorem piecesFrom_skip (n : Nat) (text : List Char) :
    piecesFrom n text = piecesFrom 0 (text.drop n) := by
  induction n generalizing text with
  | zero => rfl
  | succ n ih =>
    cases text with
    | nil => rfl
    | cons c rest => rw [piecesFrom, ih, List.drop_succ_cons]

/-- Characters that tags are made with, or kept from being ones. -/
def isMark (c : Char) : Bool := c == '[' || c == ']' || c == '\\' || c == '='

def Unmarked (text : List Char) : Prop := ∀ c ∈ text, isMark c = false

instance (text : List Char) : Decidable (Unmarked text) :=
  List.decidableBAll (fun c => isMark c = false) text

theorem bracket_not_mem {text : List Char} (h : Unmarked text) : '[' ∉ text := fun hin =>
  absurd (h _ hin) (by decide)

theorem piecesFrom_cons {c : Char} (hbracket : c ≠ '[') (hescape : c ≠ '\\') (rest : List Char) :
    piecesFrom 0 (c :: rest) = addChar c (piecesFrom 0 rest) := by
  have hrun : (c :: rest).takeWhile (· == '\\') = [] :=
    List.takeWhile_cons_of_neg (by simpa using hescape)
  have htag : tagAt? (c :: rest) = none := by
    unfold tagAt?
    split
    · rename_i heq
      exact absurd (List.cons.inj heq).1 hbracket
    · rfl
  rw [piecesFrom, hrun]
  simp only [List.length_nil, List.drop_zero, htag]

/-- The name of a tag that opens, which needs no stripping. -/
structure IsTag (t : List Char) : Prop where
  opens : t.head?.any (fun c => opensTag c && c != '/') = true
  unmarked : Unmarked t
  bare : Text.strip t = t

instance (t : List Char) : Decidable (IsTag t) :=
  decidable_of_iff (t.head?.any (fun c => opensTag c && c != '/') = true ∧ Unmarked t ∧ Text.strip t = t)
    ⟨fun h => ⟨h.1, h.2.1, h.2.2⟩, fun h => ⟨h.opens, h.unmarked, h.bare⟩⟩

theorem IsTag.exists_cons {t : List Char} (h : IsTag t) :
    ∃ c rest, t = c :: rest ∧ opensTag c = true ∧ c ≠ '/' := by
  cases t with
  | nil => exact absurd h.opens Bool.false_ne_true
  | cons c rest =>
    have hopens := h.opens
    simp only [List.head?_cons, Option.any_some, Bool.and_eq_true, bne_iff_ne] at hopens
    exact ⟨c, rest, rfl, hopens⟩

theorem tagAt_eq_some {c : Char} {t rest : List Char} (hc : opensTag c = true)
    (ht : Unmarked t) : tagAt? ('[' :: c :: t ++ ']' :: rest) = some (c :: t) := by
  have hall : ∀ d ∈ t, (d != '[' && d != ']') = true := by
    intro d hd
    have hmark := ht d hd
    simp only [isMark, Bool.or_eq_false_iff, beq_eq_false_iff_ne] at hmark
    simp [hmark.1.1.1, hmark.1.1.2]
  have hstop : (']' :: rest).takeWhile (fun d => d != '[' && d != ']') = [] := by simp
  have hinside : (t ++ ']' :: rest).takeWhile (fun d => d != '[' && d != ']') = t := by
    rw [List.takeWhile_append_of_pos hall, hstop, List.append_nil]
  simp [tagAt?, hc, hinside]

theorem piecesFrom_tag {c : Char} {t rest : List Char} (hc : opensTag c = true)
    (ht : Unmarked t) :
    piecesFrom 0 ('[' :: c :: t ++ ']' :: rest) = tagOf (c :: t) :: piecesFrom 0 rest := by
  have htag : tagAt? ('[' :: c :: t ++ ']' :: rest) = some (c :: t) := tagAt_eq_some hc ht
  have hbackslash : ('[' :: c :: t ++ ']' :: rest).takeWhile (· == '\\') = [] := by simp
  rw [List.cons_append, piecesFrom, ← List.cons_append, hbackslash]
  simp only [List.length_nil, List.drop_zero, htag, tagPieces, Nat.zero_add]
  rw [piecesFrom_skip]
  simp

/-- Text before a tag is a piece of its own. -/
theorem piecesFrom_text {a rest : List Char} (ha : Unmarked a) {name : List Char}
    {parameters : Option (List Char)} {ps : List Piece}
    (hrest : piecesFrom 0 rest = .tag name parameters :: ps) :
    piecesFrom 0 (a ++ rest) = textPieces a ++ .tag name parameters :: ps := by
  induction a with
  | nil => exact hrest
  | cons c a ih =>
    have hmark := ha c List.mem_cons_self
    simp only [isMark, Bool.or_eq_false_iff, beq_eq_false_iff_ne] at hmark
    rw [List.cons_append, piecesFrom_cons hmark.1.1.1 hmark.1.2]
    rw [ih fun d hd => ha d (List.mem_cons_of_mem _ hd)]
    cases a <;> rfl

theorem render_text (stack : List OpenTag) (a : List Char) (rest : List Piece) :
    render stack (textPieces a ++ rest) = (render stack rest).map (shown a ++ ·) := by
  cases a with
  | nil =>
    change render stack rest = (render stack rest).map ([] ++ ·)
    cases render stack rest <;> rfl
  | cons c a => rfl

theorem tagOf_unmarked {t : List Char} (ht : Unmarked t) : tagOf t = .tag t none := by
  have hall : t.takeWhile (· != '=') = t := by
    rw [List.takeWhile_eq_self_iff]
    intro c hc
    have hmark := ht c hc
    simp only [isMark, Bool.or_eq_false_iff, beq_eq_false_iff_ne] at hmark
    simpa using hmark.2
  simp [tagOf, hall]

theorem checkHandler_bare (name : String) : checkHandler ⟨name, none⟩ = .ok () := by
  unfold checkHandler
  split
  · contradiction
  · rfl

/-- A tag around a part of a text, closed by its own name. -/
def tagged (a t b c : List Char) : List Char :=
  a ++ ('[' :: t ++ ']' :: (b ++ ('[' :: '/' :: t ++ ']' :: c)))

theorem pieces_tagged {a t b c : List Char} (ha : Unmarked a) (ht : IsTag t) (hb : Unmarked b) :
    pieces (tagged a t b c) =
      textPieces a ++ .tag t none :: (textPieces b ++ .tag ('/' :: t) none :: pieces c) := by
  have hslash : Unmarked ('/' :: t) := by
    intro d hd
    rcases List.mem_cons.mp hd with rfl | hd
    · decide
    · exact ht.unmarked d hd
  have hclose : piecesFrom 0 ('[' :: '/' :: t ++ ']' :: c) = tagOf ('/' :: t) :: piecesFrom 0 c :=
    piecesFrom_tag (by decide) ht.unmarked
  rw [tagOf_unmarked hslash] at hclose
  obtain ⟨d, t', rfl, hopens, -⟩ := ht.exists_cons
  have hopen : piecesFrom 0 ('[' :: d :: t' ++ ']' :: (b ++ ('[' :: '/' :: d :: t' ++ ']' :: c))) =
      tagOf (d :: t') :: piecesFrom 0 (b ++ ('[' :: '/' :: d :: t' ++ ']' :: c)) :=
    piecesFrom_tag hopens fun e he => ht.unmarked e (List.mem_cons_of_mem _ he)
  rw [tagOf_unmarked ht.unmarked, piecesFrom_text hb hclose] at hopen
  exact piecesFrom_text ha hopen

end Markup

/-- A tag around a part of a text shows the part. -/
theorem markup_tagged_eq {a t b : List Char} (ha : Markup.Unmarked a) (ht : Markup.IsTag t)
    (hb : Markup.Unmarked b) (c : List Char) : markup (Markup.tagged a t b c) =
      (markup c).map fun out => Markup.shown a ++ (Markup.shown b ++ out) := by
  have hopen : ∀ ps, Markup.render [] (.tag t none :: ps) =
      Markup.render [⟨styleName t, none⟩] ps := by
    intro ps
    obtain ⟨d, t, rfl, -, hslash⟩ := ht.exists_cons
    rw [Markup.render]
    exact fun rest he => hslash (List.cons.inj he).1
  have hclose : Markup.render [⟨styleName t, none⟩] (.tag ('/' :: t) none :: Markup.pieces c) =
      Markup.render [] (Markup.pieces c) := by
    have hne : t ≠ [] := by
      obtain ⟨d, t, rfl, -, -⟩ := ht.exists_cons
      exact List.cons_ne_nil _ _
    rw [Markup.render]
    simp [ht.bare, hne, Markup.close?, Markup.checkHandler_bare]
  rw [markup, Markup.pieces_tagged ha ht hb, Markup.render_text, hopen, Markup.render_text, hclose, markup]
  cases Markup.render [] (Markup.pieces c) <;> rfl

/-- A text with one tag that is closed can be printed. -/
theorem markup_tagged {a t b c : List Char} (ha : Markup.Unmarked a) (ht : Markup.IsTag t)
    (hb : Markup.Unmarked b) (hc : ∃ shown, markup c = .ok shown) :
    ∃ shown, markup (Markup.tagged a t b c) = .ok shown := by
  obtain ⟨shown, hshown⟩ := hc
  exact ⟨_, by rw [markup_tagged_eq ha ht hb, hshown]; rfl⟩

theorem markup_untagged {text : List Char} (h : Markup.Untagged text) :
    markup text = .ok (Markup.shown text) := by
  rw [markup, Markup.pieces_untagged h]
  cases text with
  | nil => rfl
  | cons c rest => exact congrArg Except.ok (List.append_nil _)

/-- A text without a bracket can be printed. -/
theorem markup_ok {text : List Char} (h : '[' ∉ text) : ∃ shown, markup text = .ok shown :=
  ⟨_, markup_untagged (Markup.untagged_of_not_mem h)⟩

theorem print_ok {text : String} (h : '[' ∉ text.toList) : ∃ shown, print text = .ok shown := by
  obtain ⟨shown, hshown⟩ := markup_ok h
  exact ⟨_, by rw [print, hshown]; rfl⟩

theorem print_tagged {text : String} {a t b c : List Char}
    (htext : text.toList = Markup.tagged a t b c) (ha : Markup.Unmarked a) (ht : Markup.IsTag t)
    (hb : Markup.Unmarked b) (hc : '[' ∉ c) : ∃ shown, print text = .ok shown := by
  obtain ⟨shown, hshown⟩ := markup_tagged ha ht hb (markup_ok hc)
  exact ⟨_, by rw [print, htext, hshown]; rfl⟩

end LintConfig.Console
