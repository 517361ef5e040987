import LintConfig.Proofs.Precedence

/-! # Texts as widths

A text for a width is looked at twice, first whether it looks like a number, and then what number it
is. For a text of decimal digits, of whatever script, that are not too many, and for a text with
anything in it that is no digit, both agree. What is left are digits that no number is written with,
like superscripts, and very long texts; these stop a run.

A run with one width goes on like a run with another one, as nothing that is asked later depends on it.
So two mappings of answers are followed side by side that say the same, except about the width. -/
namespace LintConfig

namespace Command
open Number (decimalNumber digitLimit)

/-- Decimal digits, of any script, and at least one. -/
def IsDecimal (text : String) : Prop :=
  text.toList ≠ [] ∧ ∀ c ∈ text.toList, (Text.decimalValue? c).isSome = true

instance (text : String) : Decidable (IsDecimal text) :=
  @instDecidableAnd _ _ _ (List.decidableBAll _ text.toList)

/-- The widths that texts stand for. -/
inductive Width : String → Value → Prop
  | tab : Width "tab" (.text "tab")
  | spaces {text : String} (h : IsDecimal text) (hpos : 0 < decimalNumber text.toList) :
    Width text (.integer (decimalNumber text.toList))

/-- What looks like a number is written in decimal digits, and not in too many. -/
def Readable (text : String) : Prop :=
  Text.isDigits text.toList = true → IsDecimal text ∧ text.toList.length ≤ digitLimit

/-- The answer in a text: a number if there are decimal digits only, or the text. -/
def answerIn (text : String) : Value :=
  if IsDecimal text then .integer (decimalNumber text.toList) else .text text

section Texts
variable {text : String}

theorem IsDecimal.isDigits (h : IsDecimal text) : Text.isDigits text.toList = true := by
  rw [Text.isDigits, Bool.and_eq_true, List.all_eq_true]
  refine ⟨by simpa using h.1, fun c hc => ?_⟩
  rw [Text.isDigit, h.2 c hc, Bool.true_or]

/-- Exactly the readable texts are answers. -/
theorem indentOf_cases (text : String) :
    (Readable text ∧ indentOf text = .ok (answerIn text)) ∨
      ¬ Readable text ∧ ∃ e, indentOf text = .error e := by
  unfold indentOf
  cases hdigits : Text.isDigits text.toList with
  | false =>
    have hno : ¬ IsDecimal text := fun h => by
      rw [h.isDigits] at hdigits
      cases hdigits
    have hreadable : Readable text := fun h => by
      rw [hdigits] at h
      cases h
    exact .inl ⟨hreadable, by rw [answerIn, if_neg hno]; rfl⟩
  | true =>
    obtain ⟨hne, hall⟩ := (Bool.and_eq_true ..).mp hdigits
    replace hne : text.toList ≠ [] := by simpa using hne
    have hread := Number.readInt_solid hne fun c hc =>
      Number.solid_of_isDigit (List.all_eq_true.mp hall c hc)
    rw [String.ofList_toList] at hread
    rw [if_pos rfl, hread]
    by_cases hdecimal : IsDecimal text
    · rw [if_pos (List.all_eq_true.mpr hdecimal.2)]
      by_cases hlong : digitLimit < text.toList.length
      · rw [if_pos hlong]
        exact .inr ⟨fun h => Nat.not_le.mpr hlong (h hdigits).2, _, rfl⟩
      · rw [if_neg hlong]
        refine .inl ⟨fun _ => ⟨hdecimal, Nat.not_lt.mp hlong⟩, ?_⟩
        rw [answerIn, if_pos hdecimal]
        rfl
    · rw [if_neg fun h => hdecimal ⟨hne, List.all_eq_true.mp h⟩]
      exact .inr ⟨fun h => hdecimal (h hdigits).1, _, rfl⟩

theorem Width.answerIn_eq {v : Value} (h : Width text v) : answerIn text = v := by
  cases h with
  | tab => decide
  | spaces h hpos => rw [answerIn, if_pos h]

/-- An answer passes exactly if it is a width. -/
theorem isIndent_answerIn : Answers.isIndent (answerIn text) = true ↔ Width text (answerIn text) := by
  rw [Answers.isIndent_iff]
  constructor
  · unfold answerIn
    split
    · rename_i h
      rintro (⟨n, hn, heq⟩ | htab)
      · refine .spaces h ?_
        cases heq
        exact Int.natCast_pos.mp hn
      · cases htab
    · rintro (⟨n, -, heq⟩ | htab)
      · cases heq
      · cases htab
        exact .tab
  · intro h
    generalize answerIn text = v at h
    cases h with
    | tab => exact .inr rfl
    | spaces h hpos => exact .inl ⟨_, Int.natCast_pos.mpr hpos, rfl⟩

theorem decimalNumber_lt (ds : List Char) : decimalNumber ds < 10 ^ ds.length := by
  have hfold : ∀ (ds : List Char) (n : Nat),
      ds.foldl (fun n c => n * 10 + (Text.decimalValue? c).getD 0) n < (n + 1) * 10 ^ ds.length := by
    intro ds
    induction ds with
    | nil => intro n; simp
    | cons c ds ih =>
      intro n
      have hdigit : (Text.decimalValue? c).getD 0 < 10 := by
        cases hvalue : Text.decimalValue? c with
        | none => decide
        | some d => exact Number.decimalValue_lt hvalue
      have hnext : n * 10 + (Text.decimalValue? c).getD 0 + 1 ≤ (n + 1) * 10 := by omega
      refine lt_of_lt_of_le (ih _) ?_
      rw [List.length_cons, pow_succ', ← mul_assoc]
      exact Nat.mul_le_mul_right _ hnext
  simpa [decimalNumber] using hfold ds 0

/-- The answer in a text that can be read can be put into words. -/
theorem isLong_answerIn (h : Readable text) : (answerIn text).isLong = false := by
  unfold answerIn
  split
  · rename_i hdecimal
    obtain ⟨-, hlength⟩ := h hdecimal.isDigits
    rw [Value.isLong, decide_eq_false_iff_not, Nat.not_le, Int.natAbs_natCast]
    exact lt_of_lt_of_le (decimalNumber_lt _) (Nat.pow_le_pow_right (by decide) hlength)
  · rfl

end Texts

/-! ### Answers with different widths -/

open Answers (Mapping Record)
open Questions (Keyed answer known)

/-- Two mappings that say the same, except that each of them has its own width. -/
structure Varies (v v' : Value) (m m' : Mapping) : Prop where
  keyed : Keyed m
  keyed' : Keyed m'
  indent : m.get? "indent" = some v
  indent' : m'.get? "indent" = some v'
  same : ∀ field, field ≠ "indent" → m'.get? field = m.get? field

section Mappings
variable {v v' : Value} {m m' : Mapping}

theorem varies_answer (h : Keyed m) (v v' : Value) :
    Varies v v' (answer m "indent" v) (answer m "indent" v') where
  keyed := h.answer (by decide) v
  keyed' := h.answer (by decide) v'
  indent := by rw [Questions.get?_answer h, if_pos rfl]
  indent' := by rw [Questions.get?_answer h, if_pos rfl]
  same := fun field hne => by
    rw [Questions.get?_answer h, Questions.get?_answer h, if_neg hne.symm, if_neg hne.symm]

theorem Varies.answer (h : Varies v v' m m') {field : String} (hfield : field ∈ Answers.fieldNames)
    (hne : field ≠ "indent") (w : Value) : Varies v v' (answer m field w) (answer m' field w) where
  keyed := h.keyed.answer hfield w
  keyed' := h.keyed'.answer hfield w
  indent := by rw [Questions.get?_answer h.keyed, if_neg hne, h.indent]
  indent' := by rw [Questions.get?_answer h.keyed', if_neg hne, h.indent']
  same := fun other hother => by
    rw [Questions.get?_answer h.keyed, Questions.get?_answer h.keyed', h.same other hother]

theorem Varies.update (h : Varies v v' m m') {news : Mapping} (hnews : Keyed news)
    (hfree : ∀ e ∈ news, e.1 ≠ .text "indent") :
    Varies v v' (Answers.update m news) (Answers.update m' news) := by
  induction news generalizing m m' with
  | nil => exact h
  | cons e news ih =>
    obtain ⟨⟨field, hfield, hname⟩, hrest⟩ := List.forall_mem_cons.mp hnews
    obtain ⟨hne, hrestFree⟩ := List.forall_mem_cons.mp hfree
    obtain ⟨key, w⟩ := e
    obtain rfl : key = .text field := hname
    exact ih (h.answer hfield (fun he => hne (congrArg Value.text he)) w) hrest hrestFree

theorem Varies.known (h : Varies v v' m m') {field : String} (hne : field ≠ "indent")
    (fallback : Value) : known m' field fallback = known m field fallback := by
  rw [Questions.known, h.same field hne]
  rfl

/-- The records differ in their widths alone. -/
theorem Varies.record (h : Varies v v' m m') (source : Value) (env patterns : List String) :
    m'.record source env patterns = { m.record source env patterns with indent := v' } := by
  simp only [Mapping.record, h.same _ (show "style_guide" ≠ "indent" by decide),
    h.same _ (show "quotes" ≠ "indent" by decide), h.same _ (show "linebreak" ≠ "indent" by decide),
    h.same _ (show "semi" ≠ "indent" by decide), h.same _ (show "es6" ≠ "indent" by decide),
    h.same _ (show "jsx" ≠ "indent" by decide), h.same _ (show "react" ≠ "indent" by decide),
    h.same _ (show "commonjs" ≠ "indent" by decide), h.same _ (show "format" ≠ "indent" by decide),
    h.indent', Option.getD_some]

theorem validate_badIndent {r : Record} (hsource : ∃ word ∈ Answers.sources, r.source.text? = some word)
    (hindent : Answers.isIndent r.indent = false) : r.validate = .error (.badIndent r.indent) := by
  unfold Record.validate
  rw [Answers.checkWord_eq_ok.mpr hsource, hindent]
  rfl

/-- Where answers are accepted with one width, they are accepted with every other one, and refused with
what is none. -/
theorem Varies.ofMapping (h : Varies v v' m m') {r : Record} (hr : Answers.ofMapping m = .ok r)
    (hlong : v'.isLong = false) : Answers.ofMapping m' =
      if Answers.isIndent v' then .ok { r with indent := v' }
      else .error (.refused (.badIndent v')) := by
  obtain ⟨-, source, env, patterns, hsource, henv, hpatterns, hvalid, rfl⟩ :=
    Answers.ofMapping_eq_ok.mp hr
  have hsource' : m'.get? "source" = some source := by rw [h.same _ (by decide), hsource]
  have henv' : Answers.namesOf "env" (m'.names "env") = .ok env := by
    rwa [Mapping.names, h.same _ (by decide)]
  have hpatterns' : Answers.namesOf "patterns" (m'.names "patterns") = .ok patterns := by
    rwa [Mapping.names, h.same _ (by decide)]
  have hrecord := h.record source env patterns
  split
  · rename_i hindent
    refine Answers.ofMapping_eq_ok.mpr ⟨h.keyed'.unknownKeys, source, env, patterns, hsource', henv',
      hpatterns', ?_, hrecord⟩
    rw [hrecord]
    exact { hvalid with indent := Answers.isIndent_iff.mp hindent }
  · rename_i hindent
    have hrefused : (m'.record source env patterns).check = .error (.refused (.badIndent v')) := by
      have hinvalid : (m'.record source env patterns).validate = .error (.badIndent v') := by
        rw [hrecord]
        exact validate_badIndent hvalid.source (Bool.eq_false_iff.mpr hindent)
      have htold : (Answers.Refusal.badIndent v').isLong = false := hlong
      rw [Answers.check_eq_error hinvalid, Answers.Failure.ofRefusal_of_told htold]
    have hkeys : Answers.checkKeys m' = .ok () := by
      rw [Answers.checkKeys, h.keyed'.unknownKeys]
    rw [Mapping.names] at henv' hpatterns'
    unfold Answers.ofMapping
    rw [hkeys]
    simp only [bind, Except.bind, hsource', henv', hpatterns', hrefused]

end Mappings

/-! ### Questions with different widths -/

/-- What one dialogue comes to the other one comes to as well, but for the width. -/
def Follows (v v' : Value) (x x' : Except Interruption (Mapping × Dialogue)) : Prop :=
  ∀ m d, x = .ok (m, d) → ∃ m', x' = .ok (m', d) ∧ Varies v v' m m'

section Dialogues
variable {v v' : Value} {m m' : Mapping} {x x' : Except Interruption (Mapping × Dialogue)}

theorem Varies.follows (h : Varies v v' m m') (d : Dialogue) :
    Follows v v' (.ok (m, d)) (.ok (m', d)) := by
  intro m₁ d₁ hx
  cases hx
  exact ⟨m', rfl, h⟩

theorem Follows.bind {f f' : Mapping × Dialogue → Except Interruption (Mapping × Dialogue)}
    (h : Follows v v' x x')
    (hf : ∀ m m' d, Varies v v' m m' → Follows v v' (f (m, d)) (f' (m', d))) :
    Follows v v' (x >>= f) (x' >>= f') := by
  intro m₂ d₂ hx
  obtain ⟨⟨m₁, d₁⟩, hx, hrest⟩ := Failing.bind_eq_ok.mp hx
  obtain ⟨m₁', hx', hvaries⟩ := h m₁ d₁ hx
  obtain ⟨m₂', hrest', hvaries⟩ := hf m₁ m₁' d₁ hvaries m₂ d₂ hrest
  exact ⟨m₂', Failing.bind_eq_ok.mpr ⟨_, hx', hrest'⟩, hvaries⟩

/-- A step that does not depend on the width. -/
theorem follows_step {α : Type} {y : Except Interruption α}
    {f f' : α → Except Interruption (Mapping × Dialogue)} (h : ∀ a, Follows v v' (f a) (f' a)) :
    Follows v v' (y >>= f) (y >>= f') := by
  intro m d hx
  obtain ⟨a, hy, hx⟩ := Failing.bind_eq_ok.mp hx
  obtain ⟨m', hx', hvaries⟩ := h a m d hx
  exact ⟨m', Failing.bind_eq_ok.mpr ⟨a, hy, hx'⟩, hvaries⟩

variable {field : String} (hfield : field ∈ Answers.fieldNames) (hne : field ≠ "indent")
include hfield hne

theorem follows_chooseField (h : Varies v v' m m') (text : String) (choices : List String)
    (fallback : String) (d : Dialogue) :
    Follows v v' (Questions.chooseField m field text choices fallback d)
      (Questions.chooseField m' field text choices fallback d) := by
  unfold Questions.chooseField
  rw [h.known hne]
  exact follows_step fun (word, d) => (h.answer hfield hne (.text word)).follows d

theorem follows_confirmField (h : Varies v v' m m') (text : String) (fallback : Bool) (d : Dialogue) :
    Follows v v' (Questions.confirmField m field text fallback d)
      (Questions.confirmField m' field text fallback d) := by
  unfold Questions.confirmField
  rw [h.known hne]
  exact follows_step fun (w, d) => (h.answer hfield hne w).follows d

omit hfield hne

theorem follows_askPlatform (h : Varies v v' m m') (d : Dialogue) :
    Follows v v' (Questions.askPlatform m d) (Questions.askPlatform m' d) := by
  unfold Questions.askPlatform
  refine (follows_confirmField (by decide) (by decide) h _ _ d).bind fun m m' d h => ?_
  have henv : Questions.suggestedEnv m' = Questions.suggestedEnv m := by
    rw [Questions.suggestedEnv, h.known (by decide)]
    rfl
  dsimp only
  rw [henv]
  refine follows_step fun suggested => follows_step fun answered => ?_
  obtain ⟨env, d⟩ := answered
  have henv : "env" ∈ Answers.fieldNames ∧ "env" ≠ "indent" := by decide
  have h := h.answer henv.1 henv.2
    (.list ((Text.words env.toList).map fun word => .text (String.ofList word)))
  refine (follows_confirmField (by decide) (by decide) h _ _ d).bind fun m m' d h => ?_
  refine (follows_confirmField (by decide) (by decide) h _ _ d).bind fun m m' d h => ?_
  dsimp only
  rw [h.known (by decide)]
  split
  · exact follows_confirmField (by decide) (by decide) h _ _ d
  · exact h.follows d

theorem follows_askRest (h : Varies v v' m m') (d : Dialogue) :
    Follows v v' (Questions.askRest m d) (Questions.askRest m' d) :=
  (follows_askPlatform h d).bind fun _ _ d h =>
    follows_chooseField (by decide) (by decide) h _ _ _ d

/-- What is asked about style once there is a width. -/
def askForm (m : Mapping) (d : Dialogue) : Except Interruption (Mapping × Dialogue) := do
  let (m, d) ← Questions.chooseField m "quotes" "Quotes" Answers.quoteStyles "single" d
  let (m, d) ←
    Questions.chooseField m "linebreak" "Line endings" Answers.linebreakStyles "unix" d
  Questions.confirmField m "semi" "Require semicolons?" true d

theorem follows_askForm (h : Varies v v' m m') (d : Dialogue) :
    Follows v v' (askForm m d) (askForm m' d) :=
  (follows_chooseField (by decide) (by decide) h _ _ _ d).bind fun _ _ d h =>
    (follows_chooseField (by decide) (by decide) h _ _ _ d).bind fun _ _ d h =>
      follows_confirmField (by decide) (by decide) h _ _ d

/-- The line that is typed when the width is asked for, or the width that is suggested. -/
def taken (suggested line : String) : String := if line == "" then suggested else line

theorem askStyle_eq {suggested : String} (htold : (known m "indent" (.integer 4)).told = .ok suggested)
    (line : String) (rest : List String) (shown : String) :
    Questions.askStyle m ⟨line :: rest, shown⟩ = (do
      let v ← (indentOf (taken suggested line)).mapError .unreadableWidth
      askForm (answer m "indent" v) ⟨rest, shown ++ Dialogue.question
        "Indentation (number of spaces, or 'tab')" (some suggested)⟩) := by
  unfold Questions.askStyle
  rw [htold]
  rfl

/-! ### What is typed before -/

theorem lt_of_chooseFrom {text : String} {choices : List String} {default : Option Value}
    {typed : List String} {shown word : String} {d : Dialogue}
    (h : Dialogue.chooseFrom text choices default typed shown = .ok (word, d)) :
    d.typed.length < typed.length := by
  induction typed generalizing shown with
  | nil =>
    rw [Dialogue.chooseFrom.eq_def] at h
    cases h
  | cons line rest ih =>
    have hlater : d.typed.length < rest.length → d.typed.length < (line :: rest).length := by
      rw [List.length_cons]
      omega
    rw [Dialogue.chooseFrom.eq_def] at h
    dsimp only at h
    split at h
    · split at h
      · cases h
        exact Nat.lt_succ_self _
      · exact hlater (ih h)
    · exact hlater (ih h)

/-- What is typed later does not matter to a choice. -/
theorem chooseFrom_append {text : String} {choices : List String} {default : Option Value}
    {before rest : List String} {shown shown' word : String}
    (h : Dialogue.chooseFrom text choices default (before ++ rest) shown = .ok (word, ⟨rest, shown'⟩))
    (rest' : List String) :
    Dialogue.chooseFrom text choices default (before ++ rest') shown = .ok (word, ⟨rest', shown'⟩) := by
  induction before generalizing shown with
  | nil => exact absurd (lt_of_chooseFrom h) (Nat.lt_irrefl _)
  | cons line before ih =>
    rw [List.cons_append, Dialogue.chooseFrom.eq_def] at h ⊢
    dsimp only at h ⊢
    split at h
    · split at h
      · rename_i hchoice
        simp only [Except.ok.injEq, Prod.mk.injEq, Dialogue.mk.injEq] at h
        obtain ⟨rfl, hrest, rfl⟩ := h
        obtain rfl : before = [] := by simpa using hrest
        rw [if_pos hchoice]
        rfl
      · rename_i hchoice
        rw [if_neg hchoice]
        exact ih h
    · exact ih h

theorem choose_append {text : String} {choices : List String} {default : Option Value}
    {before : List String} {shown shown' word : String}
    (h : Dialogue.choose text choices default ⟨before, shown⟩ = .ok (word, ⟨[], shown'⟩))
    (rest : List String) :
    Dialogue.choose text choices default ⟨before ++ rest, shown⟩ = .ok (word, ⟨rest, shown'⟩) := by
  unfold Dialogue.choose at h ⊢
  split at h
  · cases h
  · rename_i hlong
    rw [if_neg hlong]
    exact chooseFrom_append (by rwa [List.append_nil]) rest

theorem askGuide_append {before : List String} {shown shown' : String} {m₁ : Mapping}
    (h : Questions.askGuide m ⟨before, shown⟩ = .ok (m₁, ⟨[], shown'⟩)) (rest : List String) :
    Questions.askGuide m ⟨before ++ rest, shown⟩ = .ok (m₁, ⟨rest, shown'⟩) := by
  obtain ⟨⟨word, d⟩, hchoose, h⟩ := Failing.bind_eq_ok.mp h
  cases h
  exact Failing.bind_eq_ok.mpr ⟨(word, ⟨rest, shown'⟩), choose_append hchoose rest, rfl⟩

theorem exists_answer_of_askGuide {d d' : Dialogue} {m₁ : Mapping}
    (h : Questions.askGuide m d = .ok (m₁, d')) : ∃ v, m₁ = answer m "style_guide" v := by
  obtain ⟨⟨word, d⟩, -, h⟩ := Failing.bind_eq_ok.mp h
  cases h
  exact ⟨_, rfl⟩

/-- A dialogue in which the width is asked for once some lines have been typed. They settle that there
is no style guide. -/
structure AsksWidth (m : Mapping) (before : List String) (m₁ : Mapping) (shown suggested : String) :
    Prop where
  guide : Questions.askGuide m ⟨before, ""⟩ = .ok (m₁, ⟨[], shown⟩)
  free : m₁.get? "style_guide" = some .null
  prompt : (m₁.get? "source").bind Value.text? = some "prompt"
  told : (known m₁ "indent" (.integer 4)).told = .ok suggested

/-- From the width on a dialogue takes its course. -/
theorem AsksWidth.ask_eq {before : List String} {m₁ : Mapping} {shown suggested : String}
    (h : AsksWidth m before m₁ shown suggested) (line : String) (rest : List String) :
    Questions.ask m ⟨before ++ line :: rest, ""⟩ = (do
      let v ← (indentOf (taken suggested line)).mapError .unreadableWidth
      let (m, d) ← askForm (answer m₁ "indent" v) ⟨rest, shown ++ Dialogue.question
        "Indentation (number of spaces, or 'tab')" (some suggested)⟩
      Questions.askRest m d) := by
  rw [Questions.ask_free (askGuide_append h.guide _) h.free, if_pos h.prompt, askStyle_eq h.told, bind_assoc]

/-- With any width the dialogue goes on as with the first one. -/
theorem AsksWidth.follows {before : List String} {m₁ : Mapping} {shown suggested line line' : String}
    (h : AsksWidth m before m₁ shown suggested) (hm : Keyed m) (rest : List String)
    (hv : indentOf (taken suggested line) = .ok v) (hv' : indentOf (taken suggested line') = .ok v') :
    Follows v v' (Questions.ask m ⟨before ++ line :: rest, ""⟩)
      (Questions.ask m ⟨before ++ line' :: rest, ""⟩) := by
  rw [h.ask_eq, h.ask_eq, hv, hv']
  obtain ⟨guide, rfl⟩ := exists_answer_of_askGuide h.guide
  have hguide : Keyed (answer m "style_guide" guide) := hm.answer (by decide) guide
  have hvaries := varies_answer hguide v v'
  exact (follows_askForm hvaries _).bind fun _ _ d h => follows_askRest h d

end Dialogues

end Command

end LintConfig
