import LintConfig.Proofs.Failing
import LintConfig.Proofs.Markup
import LintConfig.Proofs.Words
import LintConfig.Proofs.Wrapping

/-! # Texts that are printed as they are

What is printed is read as markup, and some texts do not come out as they went in: tags vanish, a
backslash before a bracket does, and names between colons become pictures. A text in which there is
nothing of the kind is inert, and it is shown character for character. No other text is. Whatever
markup takes away has one of the three characters that it is written with, and it never puts one of
them in: tags are only taken out, and the pictures have none. So the number of these characters
tells whether anything was taken. -/
namespace LintConfig.Console
open Text (isBlank)

/-- Characters that markup begins with: of tags, of escapes and of the names of pictures. -/
def isSign (c : Char) : Bool := c == '[' || c == '\\' || c == ':'

def signs (text : List Char) : Nat := text.countP isSign

@[simp] theorem signs_append (s t : List Char) : signs (s ++ t) = signs s + signs t :=
  List.countP_append

theorem signs_cons (c : Char) (text : List Char) : signs (c :: text) = signs [c] + signs text :=
  signs_append [c] text

theorem signs_eq_zero {text : List Char} (h : ∀ c ∈ text, isSign c = false) : signs text = 0 :=
  List.countP_eq_zero.mpr fun c hc => by simp [h c hc]

/-- A sign can be seen. -/
theorem isSign_visible {c : Char} (h : isSign c = true) : isBlank c = false ∧ isSilent c = false := by
  simp only [isSign, Bool.or_eq_true, beq_iff_eq] at h
  rcases h with (rfl | rfl) | rfl <;> decide

theorem signs_filter {p : Char → Bool} (h : ∀ c, isSign c = true → p c = true) (text : List Char) :
    signs (text.filter p) = signs text := by
  rw [signs, List.countP_filter]
  refine List.countP_congr fun c _ => ?_
  rw [Bool.and_eq_true]
  exact ⟨fun hc => hc.1, fun hc => ⟨hc, h c hc⟩⟩

theorem signs_visible (text : List Char) : signs (visible text) = signs text :=
  signs_filter (fun c hc => by rw [(isSign_visible hc).1]; rfl) text

theorem signs_audible (text : List Char) : signs (text.filter (!isSilent ·)) = signs text :=
  signs_filter (fun c hc => by rw [(isSign_visible hc).2]; rfl) text

/-- A run that is closed by a character, and what is behind it. -/
theorem exists_of_closed {p : Char → Bool} {text : List Char} {closing : Char}
    (h : ((text.drop (text.takeWhile p).length).head? == some closing) = true) :
    ∃ behind, text = text.takeWhile p ++ closing :: behind := by
  obtain ⟨others, hothers⟩ := List.takeWhile_prefix (l := text) p
  generalize text.takeWhile p = run at h hothers
  rw [← hothers, List.drop_left, beq_iff_eq] at h
  obtain ⟨behind, rfl⟩ := List.head?_eq_some_iff.mp h
  exact ⟨behind, hothers.symm⟩

/-! ### Pictures -/

namespace Picture

/-- Lines without signs. The characters of those before them are gathered, so that many lines are
looked at at once. -/
structure Signless (gathered : List (List Char)) (lines : List String) : Prop where
  seen : gathered.all (·.all (!isSign ·)) = true
  lines : ∀ line ∈ lines, ∀ c ∈ line.toList, isSign c = false

theorem Signless.cons {gathered : List (List Char)} {lines : List String} (line : List Char)
    (h : Signless (line :: gathered) lines) : Signless gathered (String.ofList line :: lines) := by
  obtain ⟨hseen, hlines⟩ := h
  rw [List.all_cons, Bool.and_eq_true] at hseen
  refine ⟨hseen.2, List.forall_mem_cons.mpr ⟨fun c hc => ?_, hlines⟩⟩
  rw [String.toList_ofList] at hc
  simpa using List.all_eq_true.mp hseen.1 c hc

theorem Signless.look {gathered : List (List Char)} {lines : List String}
    (hseen : gathered.all (·.all (!isSign ·)) = true) (h : Signless [] lines) :
    Signless gathered lines :=
  ⟨hseen, h.lines⟩

set_option maxRecDepth 20000 in
/-- The table of pictures has no signs in it. -/
theorem signless_lines : Signless [] PictureTable.lines.toList := by
  rw [PictureTable.lines]
  dsimp only
  -- To see the characters of a line nothing must be unfolded.
  repeat
    iterate 60 with_reducible refine Signless.cons _ ?_
    refine Signless.look (by decide +kernel) ?_
  repeat with_reducible refine Signless.cons _ ?_
  exact Signless.look (by decide +kernel) ⟨rfl, nofun⟩

theorem mem_of_second {name picture : List Char} {ws : List (List Char)}
    (h : second? name ws = some picture) : picture ∈ ws := by
  induction ws using second?.induct name with
  | case1 picture' rest =>
    rw [second?, if_pos rfl] at h
    cases h
    simp
  | case2 word picture' rest hne ih =>
    rw [second?, if_neg hne] at h
    exact List.mem_cons_of_mem _ (List.mem_cons_of_mem _ (ih h))
  | case3 ws hws =>
    rw [second?] at h
    · cases h
    · exact hws

theorem signs_ofName {name picture : List Char} (h : ofName? name = some picture) :
    signs picture = 0 := by
  obtain ⟨line, hline, hword⟩ := List.exists_of_findSome?_eq_some h
  refine signs_eq_zero fun c hc => signless_lines.lines line hline c ?_
  have hmem : c ∈ (Text.words line.toList).flatten :=
    List.mem_flatten.mpr ⟨picture, mem_of_second hword, hc⟩
  rw [Text.flatten_words] at hmem
  exact List.mem_of_mem_filter hmem

theorem signs_ofCode {code picture : List Char} (h : ofCode? code = some picture) :
    signs picture = 0 := by
  unfold ofCode? at h
  split at h
  · rename_i form hform
    obtain ⟨picture, hpicture, rfl⟩ := Option.map_eq_some_iff.mp h
    have hforms : ∀ form ∈ forms, signs [form.2] = 0 := by decide
    rw [signs_append, signs_ofName hpicture, hforms _ (List.mem_of_find?_eq_some hform)]
  · exact signs_ofName h

theorem codeAt_eq_some {rest code : List Char} (h : codeAt? rest = some code) :
    ∃ behind, rest = code ++ ':' :: behind := by
  obtain ⟨hcolon, hcode⟩ := Option.ite_none_right_eq_some.mp h
  cases hcode
  exact exists_of_closed hcolon

theorem replaceFrom_skip (n : Nat) (text : List Char) :
    replaceFrom n text = replaceFrom 0 (text.drop n) := by
  induction n generalizing text with
  | zero => rfl
  | succ n ih =>
    cases text with
    | nil => rfl
    | cons c text => rw [replaceFrom, ih, List.drop_succ_cons]

theorem replaceFrom_code (code behind : List Char) :
    replaceFrom (code.length + 1) (code ++ ':' :: behind) = replace behind := by
  rw [replaceFrom_skip, ← List.drop_drop, List.drop_left]
  rfl

/-- Pictures take the signs of their names with them, and where all signs are left there were none. -/
theorem signs_replace (text : List Char) : signs (replace text) < signs text ∨ replace text = text := by
  induction hlength : text.length using Nat.strong_induction_on generalizing text with
  | _ n ih =>
  cases text with
  | nil => exact .inr rfl
  | cons c rest =>
    subst hlength
    have hkept : signs (c :: replace rest) < signs (c :: rest) ∨ c :: replace rest = c :: rest := by
      refine (ih _ (Nat.lt_succ_self _) rest rfl).imp (fun hlt => ?_) (congrArg _)
      rw [signs_cons c, signs_cons c rest]
      exact Nat.add_lt_add_left hlt _
    unfold replace
    rw [replaceFrom]
    split
    · rename_i hcolon
      split
      · rename_i code hcode
        obtain ⟨behind, rfl⟩ := codeAt_eq_some hcode
        have hbehind := ih behind.length (by simp; omega) behind rfl
        rw [replaceFrom_code, hcolon]
        have htext : ':' :: (code ++ ':' :: behind) = ':' :: code ++ [':'] ++ behind := by simp
        rw [htext]
        cases hpicture : ofCode? code with
        | some picture =>
          have hcolons : 0 < signs (':' :: code ++ [':']) := List.countP_pos_iff.mpr ⟨':', by simp, rfl⟩
          have hle : signs (replace behind) ≤ signs behind :=
            hbehind.elim Nat.le_of_lt fun he => (congrArg signs he).le
          rw [Option.getD_some, signs_append, signs_append, signs_ofCode hpicture]
          exact .inl (by omega)
        | none =>
          rw [Option.getD_none]
          refine hbehind.imp (fun hlt => ?_) (congrArg _)
          rw [signs_append, signs_append _ behind]
          exact Nat.add_lt_add_left hlt _
      · exact hkept
    · exact hkept

end Picture

/-! ### Escapes -/

namespace Markup

/-- A backslash that is left out is a sign that is gone. -/
theorem signs_unescape (text : List Char) :
    (signs (unescape text) < signs text ∧ ['\\', '['] <:+: text) ∨
      unescape text = text ∧ ¬ ['\\', '['] <:+: text := by
  induction text using unescape.induct with
  | case1 rest ih =>
    have hle : signs (unescape rest) ≤ signs rest :=
      ih.elim (fun h => h.1.le) fun h => (congrArg signs h.1).le
    have hsigns : signs ['\\'] = 1 ∧ signs ['['] = 1 := by decide
    rw [unescape, signs_cons '[', signs_cons '\\', signs_cons '[' rest]
    exact .inl ⟨by omega, (List.prefix_append ['\\', '['] rest).isInfix⟩
  | case2 c rest hescape ih =>
    rw [unescape.eq_2 _ _ hescape]
    rcases ih with ⟨hlt, hin⟩ | ⟨he, hnone⟩
    · rw [signs_cons, signs_cons c rest]
      exact .inl ⟨Nat.add_lt_add_left hlt _, List.infix_cons hin⟩
    · refine .inr ⟨congrArg _ he, fun hin => ?_⟩
      rcases List.infix_cons_iff.mp hin with ⟨behind, hprefix⟩ | hin
      · obtain ⟨hc, hrest⟩ := List.cons.inj hprefix
        exact hescape behind hc.symm hrest.symm
      · exact hnone hin
  | case3 => exact .inr ⟨rfl, by decide⟩

/-- Where all signs are shown nothing is taken for markup. -/
theorem signs_shown (s : List Char) : signs (shown s) < signs s ∨
    ¬ ['\\', '['] <:+: s ∧ Picture.replace s = s := by
  unfold shown
  rcases signs_unescape s with ⟨hlt, -⟩ | ⟨he, hnone⟩
  · rcases Picture.signs_replace (unescape s) with hlt' | he
    · exact .inl (hlt'.trans hlt)
    · exact .inl (he.symm ▸ hlt)
  · rw [he]
    exact (Picture.signs_replace s).imp_right fun hreplace => ⟨hnone, hreplace⟩

theorem shown_eq {s : List Char} (hescape : ¬ ['\\', '['] <:+: s) (hpicture : Picture.replace s = s) :
    shown s = s := by
  rcases signs_unescape s with ⟨-, hin⟩ | ⟨he, -⟩
  · exact absurd hin hescape
  · rw [shown, he, hpicture]

theorem signs_shown_le (s : List Char) : signs (shown s) ≤ signs s :=
  (signs_shown s).elim Nat.le_of_lt fun h => (congrArg signs (shown_eq h.1 h.2)).le

/-! ### Tags -/

/-- The signs that pieces can show. -/
def weight (ps : List Piece) : Nat :=
  (ps.map fun
    | .text s | .verbatim s => signs s
    | .tag _ _ => 0).sum

theorem weight_append (ps qs : List Piece) : weight (ps ++ qs) = weight ps + weight qs := by
  simp [weight]

theorem weight_addChar (c : Char) (ps : List Piece) : weight (addChar c ps) = signs [c] + weight ps := by
  unfold addChar
  split
  · rename_i s rest
    simp only [weight, List.map_cons, List.sum_cons]
    rw [signs_cons, Nat.add_assoc]
  · simp [weight]

theorem weight_textPieces (text : List Char) : weight (textPieces text) = signs text := by
  cases text <;> rfl

/-- Nothing is shown but what is in the pieces. -/
theorem signs_render {stack : List OpenTag} {ps : List Piece} {out : List Char}
    (h : render stack ps = .ok out) : signs out ≤ weight ps := by
  induction ps generalizing stack out with
  | nil =>
    cases h
    exact Nat.le_refl _
  | cons p ps ih =>
    have htext : ∀ s, (render stack ps).map (shown s ++ ·) = .ok out → signs out ≤ signs s + weight ps := by
      intro s hout
      obtain ⟨rest, hrest, rfl⟩ := Failing.map_eq_ok.mp hout
      rw [signs_append]
      exact Nat.add_le_add (signs_shown_le s) (ih hrest)
    have hweight : weight (p :: ps) = weight [p] + weight ps := weight_append [p] ps
    rw [hweight]
    cases p with
    | text s => exact htext s h
    | verbatim s => exact htext s h
    | tag name parameters =>
      rw [show weight [.tag name parameters] = 0 from rfl, Nat.zero_add]
      unfold render at h
      split at h
      · rename_i closed
        dsimp only at h
        generalize (if (Text.strip closed).isEmpty then stack.head?.map (·, stack.tail)
          else close? (styleName (Text.strip closed)) stack) = closing at h
        cases closing with
        | none => cases h
        | some found =>
          dsimp only at h
          split at h
          · exact ih h
          · cases h
      · exact ih h

/-- A tag with the backslashes before it shows less than is there. -/
theorem weight_tagPieces (n : Nat) (inside : List Char) :
    weight (tagPieces n inside) < n + 1 + signs inside := by
  have hbackslashes : weight (if n < 2 then [] else [.verbatim (List.replicate (n / 2) '\\')]) ≤ n / 2 := by
    split
    · exact Nat.zero_le _
    · simp [weight, signs, List.countP_replicate, isSign]
  have hlast : weight [if n % 2 = 1 then .verbatim ('[' :: inside ++ [']']) else tagOf inside] ≤
      n % 2 * (1 + signs inside) := by
    split
    · rename_i hodd
      rw [hodd]
      simp [weight, signs, isSign]
    · unfold tagOf
      dsimp only
      split <;> exact Nat.zero_le _
  have hparity : n % 2 * (1 + signs inside) ≤ n % 2 + signs inside := by
    rcases Nat.mod_two_eq_zero_or_one n with h | h <;> rw [h] <;> omega
  rw [tagPieces, weight_append]
  omega

theorem tagAt_cons {text inside : List Char} (h : tagAt? text = some inside) :
    ∃ behind, text = '[' :: inside ++ ']' :: behind := by
  unfold tagAt? at h
  split at h
  · rename_i c rest
    obtain ⟨hclosed, hinside⟩ := Option.ite_none_right_eq_some.mp h
    cases hinside
    rw [Bool.and_eq_true] at hclosed
    obtain ⟨behind, hbehind⟩ := exists_of_closed hclosed.2
    exact ⟨behind, congrArg ('[' :: c :: ·) hbehind⟩
  · cases h

/-- A tag takes signs out. -/
theorem weight_pieces (text : List Char) : weight (pieces text) < signs text ∨ Untagged text := by
  induction hlength : text.length using Nat.strong_induction_on generalizing text with
  | _ n ih =>
  cases text with
  | nil => exact .inr fun t ht => by rw [List.suffix_nil.mp ht]; rfl
  | cons c rest =>
    subst hlength
    have hrun : ∃ n, (c :: rest).takeWhile (· == '\\') = List.replicate n '\\' :=
      ⟨_, List.eq_replicate_of_mem fun d hd => by simpa using List.mem_takeWhile_imp hd⟩
    obtain ⟨n, hrun⟩ := hrun
    obtain ⟨others, hothers⟩ := List.takeWhile_prefix (l := c :: rest) (· == '\\')
    rw [hrun] at hothers
    rw [pieces, piecesFrom, hrun, List.length_replicate, ← hothers]
    split
    · rename_i inside htag
      rw [List.drop_left' List.length_replicate] at htag
      obtain ⟨behind, rfl⟩ := tagAt_cons htag
      have hskip : rest.drop (n + inside.length + 1) = behind := by
        have htext : c :: rest = (List.replicate n '\\' ++ '[' :: inside ++ [']']) ++ behind := by
          rw [← hothers]
          simp
        rw [← List.drop_succ_cons, htext, List.drop_left' (by simp; omega)]
      have hlength : behind.length < (c :: rest).length := by
        rw [← hothers]
        simp
        omega
      have hbehind : weight (piecesFrom (n + inside.length + 1) rest) ≤ signs behind := by
        rw [piecesFrom_skip, hskip]
        rcases ih _ hlength behind rfl with hlt | huntagged
        · exact hlt.le
        · rw [← pieces, pieces_untagged huntagged, weight_textPieces]
      have htag := weight_tagPieces n inside
      have hsigns : signs (List.replicate n '\\' ++ ('[' :: inside ++ ']' :: behind)) =
          n + 1 + signs inside + signs behind := by
        have hcount : signs (List.replicate n '\\') = n := by simp [signs, List.countP_replicate, isSign]
        have hbrackets : signs ['['] = 1 ∧ signs [']'] = 0 := by decide
        rw [signs_append, signs_append, signs_cons '[', signs_cons ']']
        omega
      rw [hsigns, weight_append]
      exact .inl (by omega)
    · rename_i htag
      rw [List.drop_left' List.length_replicate] at htag
      have hnone : tagAt? (c :: rest) = none := by
        cases n with
        | zero => rwa [← hothers]
        | succ n =>
          rw [← hothers]
          rfl
      rw [hothers]
      rcases ih _ (Nat.lt_succ_self _) rest rfl with hlt | huntagged
      · rw [weight_addChar, signs_cons c rest]
        exact .inl (Nat.add_lt_add_left hlt _)
      · refine .inr fun t ht => ?_
        rcases List.suffix_cons_iff.mp ht with rfl | ht
        · exact hnone
        · exact huntagged t ht

end Markup

namespace Markup

theorem shown_cons {c : Char} (h : isSign c = false) (s : List Char) :
    shown (c :: s) = c :: shown s := by
  simp only [isSign, Bool.or_eq_false_iff, beq_eq_false_iff_ne] at h
  rw [shown, unescape.eq_2 _ _ fun rest he => absurd he h.1.2, Picture.replace, Picture.replaceFrom,
    if_neg h.2]
  rfl

theorem render_addChar {c : Char} (h : isSign c = false) (stack : List OpenTag) (ps : List Piece) :
    render stack (addChar c ps) = (render stack ps).map (c :: ·) := by
  unfold addChar
  split
  · rename_i s ps
    rw [render, render, shown_cons h]
    cases render stack ps <;> rfl
  · have hshown : shown [c] = [c] := shown_cons h []
    rw [render, hshown]
    rfl

end Markup

/-- What begins no markup is shown as it is. -/
theorem markup_cons {c : Char} (h : isSign c = false) (text : List Char) :
    markup (c :: text) = (markup text).map (c :: ·) := by
  have hsign := h
  simp only [isSign, Bool.or_eq_false_iff, beq_eq_false_iff_ne] at hsign
  rw [markup, Markup.pieces, Markup.piecesFrom_cons hsign.1.1 hsign.1.2]
  exact Markup.render_addChar h [] _

/-! ### Inert texts -/

/-- A text without the controls that a terminal does not show. -/
def Audible (text : List Char) : Prop := ∀ c ∈ text, isSilent c = false

instance (text : List Char) : Decidable (Audible text) :=
  List.decidableBAll (fun c => isSilent c = false) text

theorem Audible.filter {text : List Char} (h : Audible text) : text.filter (!isSilent ·) = text :=
  List.filter_eq_self.mpr fun c hc => by simp [h c hc]

/-- A text that markup leaves as it is: it has no tags, no escapes and no names of pictures, and no
controls that a terminal would not show. -/
structure Inert (text : List Char) : Prop where
  untagged : Markup.Untagged text
  unescaped : ¬ ['\\', '['] <:+: text
  unpictured : Picture.replace text = text
  audible : Audible text

/-- A text without brackets is inert if there are no pictures in it, and no silent controls. -/
theorem Inert.of_not_mem {text : List Char} (h : '[' ∉ text) (hpicture : Picture.replace text = text)
    (haudible : Audible text) : Inert text :=
  ⟨Markup.untagged_of_not_mem h, fun hin => h (hin.mem (by decide)), hpicture, haudible⟩

theorem Inert.markup {text : List Char} (h : Inert text) : markup text = .ok text := by
  rw [markup_untagged h.untagged, Markup.shown_eq h.unescaped h.unpictured]

/-- What markup shows of a text looks like the text exactly if the text is inert. -/
theorem markup_literal_iff {text : List Char} : (∃ out, markup text = .ok out ∧
    visible (out.filter (!isSilent ·)) = visible text) ↔ Inert text := by
  constructor
  · rintro ⟨out, hout, hvisible⟩
    have hsigns : signs out = signs text := by
      rw [← signs_audible, ← signs_visible, hvisible, signs_visible]
    rcases Markup.weight_pieces text with hlt | huntagged
    · exact absurd (hsigns ▸ Markup.signs_render hout) hlt.not_ge
    rw [markup_untagged huntagged] at hout
    cases hout
    rcases Markup.signs_shown text with hlt | ⟨hescape, hpicture⟩
    · exact absurd hsigns hlt.ne
    refine ⟨huntagged, hescape, hpicture, fun c hc => ?_⟩
    rw [Markup.shown_eq hescape hpicture] at hvisible
    by_contra hsilent
    rw [Bool.not_eq_false] at hsilent
    have hsolid : isBlank c = false := by
      simp only [isSilent, Bool.or_eq_true, beq_iff_eq] at hsilent
      rcases hsilent with rfl | rfl <;> decide
    have hshown : c ∈ visible text := List.mem_filter.mpr ⟨hc, by rw [hsolid]; rfl⟩
    rw [← hvisible] at hshown
    have haudible := (List.mem_filter.mp (List.mem_filter.mp hshown).1).2
    rw [hsilent] at haudible
    cases haudible
  · intro h
    exact ⟨text, h.markup, by rw [h.audible.filter]⟩

/-! ### Printing -/

theorem visible_ended (lines : List (List Char)) :
    visible (ended lines).toList = visible lines.flatten := by
  rw [ended, String.toList_ofList]
  induction lines with
  | nil => rfl
  | cons line lines ih =>
    have hbreak : visible ['\n'] = [] := by decide
    rw [List.flatMap_cons, visible_append, visible_append, hbreak, List.append_nil, ih,
      List.flatten_cons, visible_append]

theorem Inert.print {text : String} (h : Inert text.toList) :
    print text = .ok (ended (wrap columns .fold text.toList)) := by
  rw [Console.print, h.markup]
  rfl

/-- A text behind a label is printed character for character exactly if it is inert. -/
theorem print_labelled_iff {whole : String} {label text : List Char}
    (h : markup whole.toList = (markup text).map (label ++ ·))
    (hlabel : Audible label) :
    (∃ lines, print whole = .ok (ended lines) ∧ Shows lines (label ++ text)) ↔ Inert text := by
  constructor
  · rintro ⟨lines, hprint, hlines⟩
    obtain ⟨out, hout, hended⟩ := Failing.map_eq_ok.mp hprint
    rw [h] at hout
    obtain ⟨shown, hshown, rfl⟩ := Failing.map_eq_ok.mp hout
    have hwrapped := (wrap_shows (by decide : 2 ≤ columns) (label ++ shown)).visible
    rw [← visible_ended, hended, visible_ended, hlines.visible, List.filter_append, hlabel.filter,
      visible_append, visible_append] at hwrapped
    exact markup_literal_iff.mp ⟨shown, hshown, (List.append_cancel_left hwrapped).symm⟩
  · intro hinert
    have hwrapped := wrap_shows (by decide : 2 ≤ columns) (label ++ text)
    rw [List.filter_append, hlabel.filter, hinert.audible.filter] at hwrapped
    refine ⟨_, ?_, hwrapped⟩
    rw [print, h, hinert.markup]
    rfl

/-- A text is printed character for character exactly if it is inert. -/
theorem print_shows_iff {text : String} :
    (∃ lines, print text = .ok (ended lines) ∧ Shows lines text.toList) ↔ Inert text.toList := by
  have hsame : markup text.toList = (markup text.toList).map ([] ++ ·) := by
    cases markup text.toList <;> rfl
  exact print_labelled_iff hsame nofun

end LintConfig.Console
