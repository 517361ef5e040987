import LintConfig.Command.Questions
import LintConfig.Proofs.Acceptance
import LintConfig.Proofs.Integers
import LintConfig.Proofs.Lossless
import LintConfig.Proofs.Values
import LintConfig.Proofs.Words

/-! # Taking every suggestion

Whoever is asked sees what the answers say already, and takes it with an empty line. This is to leave
the answers as they are. Each of them is put into words for that, and read from the words again: it
comes back unless an integer is too long to be put into words, or the names of environments are not
listed as texts. A text that names several of them is taken apart into its characters. -/
namespace LintConfig.Command.Questions
open Answers (Mapping Record ofMapping_eq_ok)

/-! ### Mappings -/

/-- All keys are names of fields. -/
def Keyed (m : Mapping) : Prop := ∀ e ∈ m, ∃ field ∈ Answers.fieldNames, e.1 = .text field

/-- Halves of surrogate pairs stand only in texts that have some. -/
def RealHalves (v : Value) : Prop := ∀ codes, v = .halves codes → codes.any Text.isHalf = true

section Keys
variable {m : Mapping}

theorem Keyed.unknownKeys (h : Keyed m) : Answers.unknownKeys m = [] := by
  refine List.filter_eq_nil_iff.mpr fun k hk => ?_
  obtain ⟨e, he, rfl⟩ := List.mem_map.mp hk
  obtain ⟨field, hfield, heq⟩ := h e he
  simp [heq, Value.text?, hfield]

theorem Keyed.answer (h : Keyed m) {field : String} (hfield : field ∈ Answers.fieldNames)
    (v : Value) : Keyed (answer m field v) := by
  unfold Questions.answer
  induction m with
  | nil =>
    intro e he
    obtain rfl := List.mem_singleton.mp he
    exact ⟨field, hfield, rfl⟩
  | cons e m ih =>
    have ih := ih fun e he => h e (List.mem_cons_of_mem _ he)
    have he := h e List.mem_cons_self
    unfold Value.assign
    split
    · exact List.forall_mem_cons.mpr ⟨he, fun d hd => h d (List.mem_cons_of_mem _ hd)⟩
    · exact List.forall_mem_cons.mpr ⟨he, ih⟩

theorem get?_answer (h : Keyed m) (field other : String) (v : Value) :
    (answer m field v).get? other = if field = other then some v else m.get? other := by
  unfold Questions.answer Mapping.get? Value.lookup?
  induction m with
  | nil =>
    by_cases heq : field = other <;> simp [Value.assign, Value.text?, heq]
  | cons e m ih =>
    have ih := ih fun e he => h e (List.mem_cons_of_mem _ he)
    obtain ⟨k, w⟩ := e
    obtain ⟨name, -, hname⟩ := h (k, w) List.mem_cons_self
    obtain rfl : k = .text name := hname
    have hsame : (Value.text name).sameScalar (.text field) = (name == field) := rfl
    rw [Value.assign, hsame]
    by_cases hfield : name = field
    · subst hfield
      by_cases heq : name = other <;> simp [Value.text?, heq]
    · rw [if_neg (by simpa using hfield)]
      by_cases hother : name = other
      · have hne : field ≠ other := fun h => hfield (hother.trans h.symm)
        simp [Value.text?, hother, hne]
      · rw [List.find?_cons_of_neg (by simpa [Value.text?] using hother),
          List.find?_cons_of_neg (by simpa [Value.text?] using hother)]
        exact ih

theorem toNat_paired {a b : Nat} (h : Text.isPair a b = true) :
    0x10000 ≤ (Char.ofNat (Text.paired a b)).toNat := by
  obtain ⟨ha, ha', hb, hb'⟩ := Json.isPair_iff.mp h
  have hvalid : (Text.paired a b).isValidChar := by
    rw [Json.paired_eq]
    exact .inr ⟨by omega, by omega⟩
  have hcode : (Char.ofNat (Text.paired a b)).toNat = Text.paired a b := by
    rw [Char.ofNat, dif_pos hvalid]
    rfl
  rw [hcode, Json.paired_eq]
  omega

/-- A text with a half has a character that is not ASCII, whatever its halves become. -/
theorem exists_notAscii {codes : List Nat} (h : codes.any Text.isHalf = true) :
    ∃ c ∈ Text.characters codes, 0x80 ≤ c.toNat := by
  induction codes using Text.characters.induct with
  | case1 => simp at h
  | case2 a =>
    refine ⟨_, List.mem_singleton_self _, ?_⟩
    rw [if_pos (by simpa using h)]
    decide
  | case3 a b rest hpair ih =>
    rw [Text.characters, if_pos hpair]
    exact ⟨_, List.mem_cons_self, le_trans (by decide) (toNat_paired hpair)⟩
  | case4 a b rest hpair ih =>
    rw [Text.characters, if_neg hpair]
    rw [List.any_cons, Bool.or_eq_true] at h
    rcases h with ha | hrest
    · refine ⟨_, List.mem_cons_self, ?_⟩
      rw [if_pos ha]
      decide
    · obtain ⟨c, hc, hascii⟩ := ih hrest
      exact ⟨c, List.mem_cons_of_mem _ hc, hascii⟩

/-- A value that is an ASCII word is a text. -/
theorem RealHalves.eq_text {v : Value} (h : RealHalves v) {word : String}
    (hword : v.text? = some word) (hascii : word.toList.all (·.toNat < 0x80) = true) :
    v = .text word := by
  cases v with
  | text s => exact congrArg Value.text (Option.some.inj hword)
  | halves codes =>
    obtain rfl := Option.some.inj hword
    obtain ⟨c, hc, hbig⟩ := exists_notAscii (h codes rfl)
    rw [String.toList_ofList, List.all_eq_true] at hascii
    exact absurd (of_decide_eq_true (hascii c hc)) (Nat.not_lt.mpr hbig)
  | _ => cases hword

end Keys

/-! ### What a mapping says -/

/-- The fields that may be missing, and what they are taken to be then. -/
def optional : List (String × Value) :=
  [("style_guide", .null), ("indent", .integer 4), ("quotes", .text "single"),
   ("linebreak", .text "unix"), ("semi", .bool true), ("es6", .bool false), ("jsx", .bool false),
   ("react", .bool false), ("commonjs", .bool false), ("format", .text "JSON")]

/-- The second mapping says what the first one does, except for the environments. -/
structure Keeps (m m' : Mapping) : Prop where
  keyed : Keyed m'
  source : m'.get? "source" = m.get? "source"
  patterns : m'.get? "patterns" = m.get? "patterns"
  known : ∀ p ∈ optional, known m' p.1 p.2 = known m p.1 p.2

theorem optional_fields : ∀ p ∈ optional,
    p.1 ∈ Answers.fieldNames ∧ p.1 ≠ "source" ∧ p.1 ≠ "patterns" ∧ p.1 ≠ "env" := by
  decide

theorem optional_unique : ∀ p ∈ optional, ∀ q ∈ optional, p.1 = q.1 → p.2 = q.2 := by
  have hnodup : (optional.map Prod.fst).Nodup := by decide
  intro p hp q hq h
  rw [List.inj_on_of_nodup_map hnodup hp hq h]

section Keeping
variable {m m' m'' : Mapping}

theorem Keeps.trans (h : Keeps m m') (h' : Keeps m' m'') : Keeps m m'' where
  keyed := h'.keyed
  source := h'.source.trans h.source
  patterns := h'.patterns.trans h.patterns
  known := fun p hp => (h'.known p hp).trans (h.known p hp)

/-- To answer with what is known already changes nothing. -/
theorem keeps_answer (h : Keyed m) {field : String} {fallback v : Value}
    (hfield : (field, fallback) ∈ optional) (hv : known m field fallback = v) :
    Keeps m (answer m field v) where
  keyed := h.answer (optional_fields _ hfield).1 v
  source := by rw [get?_answer h, if_neg (optional_fields _ hfield).2.1]
  patterns := by rw [get?_answer h, if_neg (optional_fields _ hfield).2.2.1]
  known := fun p hp => by
    rw [Questions.known, get?_answer h]
    split
    · rename_i heq
      rw [← optional_unique _ hfield p hp heq, ← heq, hv]
      rfl
    · rfl

theorem env_answer (h : Keyed m) {field : String} (fallback : Value)
    (hfield : (field, fallback) ∈ optional) (v : Value) :
    (answer m field v).get? "env" = m.get? "env" := by
  rw [get?_answer h, if_neg (optional_fields _ hfield).2.2.2]

theorem keeps_env (h : Keyed m) (v : Value) : Keeps m (answer m "env" v) where
  keyed := h.answer (by decide) v
  source := by rw [get?_answer h, if_neg (by decide)]
  patterns := by rw [get?_answer h, if_neg (by decide)]
  known := fun p hp => by
    rw [Questions.known, get?_answer h, if_neg (optional_fields p hp).2.2.2.symm]
    rfl

/-- The record is made of the names and of what else the mapping says. -/
theorem record_congr (h : ∀ p ∈ optional, known m' p.1 p.2 = known m p.1 p.2) (source : Value)
    (env patterns : List String) : m'.record source env patterns = m.record source env patterns := by
  simp only [optional, List.forall_mem_cons, List.not_mem_nil, false_imp_iff, implies_true, and_true,
    Questions.known] at h
  simp only [Mapping.record, Record.mk.injEq, true_and]
  tauto

theorem Keeps.record (h : Keeps m m') (source : Value) (env patterns : List String) :
    m'.record source env patterns = m.record source env patterns :=
  record_congr h.known source env patterns

end Keeping

/-- A mapping that says the same is accepted with the environments that it names. -/
theorem Keeps.ofMapping {m m' : Mapping} {r : Record} (h : Keeps m m')
    (haccepted : Answers.ofMapping m = .ok r) {env : List String}
    (henv : Answers.namesOf "env" (m'.names "env") = .ok env) :
    Answers.ofMapping m' = .ok { r with env } := by
  obtain ⟨-, source, before, patterns, hsource, -, hpatterns, hvalid, rfl⟩ :=
    ofMapping_eq_ok.mp haccepted
  refine ofMapping_eq_ok.mpr ⟨h.keyed.unknownKeys, source, env, patterns, h.source.trans hsource,
    henv, by rwa [Mapping.names, h.patterns], ?_, h.record source env patterns⟩
  rw [h.record]
  exact { hvalid with }

/-! ### Lines that are empty -/

/-- At least so many lines are left, and all of them are empty. -/
def Silent (n : Nat) (d : Dialogue) : Prop := ∃ k, d.typed = List.replicate (n + k) ""

section Silence
variable {m : Mapping} {d : Dialogue} {n : Nat} {field : String} (text : String)

theorem Silent.next (h : Silent (n + 1) d) :
    ∃ rest, d.typed = "" :: rest ∧ ∀ shown, Silent n ⟨rest, shown⟩ := by
  obtain ⟨k, hk⟩ := h
  refine ⟨List.replicate (n + k) "", ?_, fun _ => ⟨k, rfl⟩⟩
  rw [hk, Nat.add_right_comm]
  rfl

theorem askText_silent (hd : Silent (n + 1) d) (default : String) :
    ∃ d', d.askText text default = .ok (default, d') ∧ Silent n d' := by
  obtain ⟨rest, hrest, hsilent⟩ := hd.next
  refine ⟨⟨rest, d.shown ++ Dialogue.question text (some default)⟩, ?_, hsilent _⟩
  rw [Dialogue.askText, hrest]
  rfl

theorem choose_silent (hd : Silent (n + 1) d) {choices : List String} {word : String}
    (hword : word ∈ choices) :
    ∃ d', d.choose text choices (some (.text word)) = .ok (word, d') ∧ Silent n d' := by
  obtain ⟨rest, hrest, hsilent⟩ := hd.next
  refine ⟨⟨rest, d.shown ++ Dialogue.question (text ++ " (" ++ joined ", " choices ++ ")")
    (some word)⟩, ?_, hsilent _⟩
  rw [Dialogue.choose, if_neg (by simp [Value.isLong]), Dialogue.chooseFrom.eq_def, hrest]
  simp only [beq_self_eq_true, if_true]
  rw [if_pos (by simpa [Value.plain] using hword)]
  rfl

theorem chooseField_silent (hd : Silent (n + 1) d) {choices : List String} {fallback word : String}
    (hv : known m field (.text fallback) = .text word) (hword : word ∈ choices) :
    ∃ d', chooseField m field text choices fallback d = .ok (answer m field (.text word), d') ∧
      Silent n d' := by
  obtain ⟨d', hd', hsilent⟩ := choose_silent text hd hword
  refine ⟨d', ?_, hsilent⟩
  rw [chooseField, hv, default?, hd']
  · rfl
  · exact nofun

theorem confirmField_silent (hd : Silent (n + 1) d) {fallback b : Bool}
    (hv : known m field (.bool fallback) = .bool b) :
    ∃ d', confirmField m field text fallback d = .ok (answer m field (.bool b), d') ∧
      Silent n d' := by
  obtain ⟨rest, hrest, hsilent⟩ := hd.next
  have hyes : Dialogue.yesOrNo? (some (.bool b)) "" = some (.bool b) := rfl
  refine ⟨⟨rest, d.shown ++ Dialogue.question text (some (Dialogue.letters (some (.bool b))))⟩, ?_,
    hsilent _⟩
  rw [confirmField, hv, default?, Dialogue.confirm, Dialogue.confirmFrom.eq_def,
    hrest]
  · simp only [hyes]
    rfl
  · exact nofun

end Silence

/-! ### Stages -/

/-- Every field holds what it may hold, or is missing. Words are texts of characters. -/
structure Sound (m : Mapping) : Prop where
  keyed : Keyed m
  indent : (∃ k : Int, 0 < k ∧ known m "indent" (.integer 4) = .integer k) ∨
    known m "indent" (.integer 4) = .text "tab"
  quotes : ∃ word ∈ Answers.quoteStyles, known m "quotes" (.text "single") = .text word
  linebreak : ∃ word ∈ Answers.linebreakStyles, known m "linebreak" (.text "unix") = .text word
  semi : ∃ b, known m "semi" (.bool true) = .bool b
  es6 : ∃ b, known m "es6" (.bool false) = .bool b
  jsx : ∃ b, known m "jsx" (.bool false) = .bool b
  react : ∃ b, known m "react" (.bool false) = .bool b
  commonjs : ∃ b, known m "commonjs" (.bool false) = .bool b
  format : ∃ word ∈ Format.names, known m "format" (.text "JSON") = .text word

theorem Keeps.sound {m m' : Mapping} (h : Keeps m m') (hm : Sound m) : Sound m' := by
  have hknown := h.known
  simp only [optional, List.forall_mem_cons, List.not_mem_nil, false_imp_iff, implies_true,
    and_true] at hknown
  obtain ⟨-, hindent, hquotes, hlinebreak, hsemi, hes6, hjsx, hreact, hcommonjs, hformat⟩ := hknown
  exact {
    keyed := h.keyed
    indent := hindent ▸ hm.indent
    quotes := hquotes ▸ hm.quotes
    linebreak := hlinebreak ▸ hm.linebreak
    semi := hsemi ▸ hm.semi
    es6 := hes6 ▸ hm.es6
    jsx := hjsx ▸ hm.jsx
    react := hreact ▸ hm.react
    commonjs := hcommonjs ▸ hm.commonjs
    format := hformat ▸ hm.format }

/-- An answer that was known already, and an empty line less. -/
structure Taken (n : Nat) (m : Mapping) (x : Mapping × Dialogue) : Prop where
  keeps : Keeps m x.1
  env : x.1.get? "env" = m.get? "env"
  silent : Silent n x.2

section Stages
variable {m : Mapping} {d : Dialogue} {n : Nat} {field : String} (text : String)

theorem chooseField_taken (hm : Keyed m) (hd : Silent (n + 1) d) {choices : List String}
    {fallback : String} (hfield : (field, .text fallback) ∈ optional)
    (hv : ∃ word ∈ choices, known m field (.text fallback) = .text word) :
    ∃ x, chooseField m field text choices fallback d = .ok x ∧ Taken n m x := by
  obtain ⟨word, hword, hv⟩ := hv
  obtain ⟨d', hd', hsilent⟩ := chooseField_silent text hd hv hword
  exact ⟨_, hd', keeps_answer hm hfield hv, env_answer hm _ hfield _, hsilent⟩

theorem confirmField_taken (hm : Keyed m) (hd : Silent (n + 1) d) {fallback : Bool}
    (hfield : (field, .bool fallback) ∈ optional)
    (hv : ∃ b, known m field (.bool fallback) = .bool b) :
    ∃ x, confirmField m field text fallback d = .ok x ∧ Taken n m x := by
  obtain ⟨b, hv⟩ := hv
  obtain ⟨d', hd', hsilent⟩ := confirmField_silent text hd hv
  exact ⟨_, hd', keeps_answer hm hfield hv, env_answer hm _ hfield _, hsilent⟩

theorem Taken.trans {m m' : Mapping} {d' : Dialogue} {k : Nat} {x : Mapping × Dialogue}
    (h : Taken k m (m', d')) (h' : Taken n m' x) : Taken n m x :=
  ⟨h.keeps.trans h'.keeps, h'.env.trans h.env, h'.silent⟩

/-- A width comes back from its digits, and so does the word for tabs. -/
theorem indentOf_plain {v : Value}
    (h : (∃ k : Int, 0 < k ∧ v = .integer k) ∨ v = .text "tab") (hlong : v.isLong = false) :
    indentOf v.plain = .ok v := by
  rcases h with ⟨k, hk, rfl⟩ | rfl
  · obtain ⟨k, rfl⟩ := Int.eq_ofNat_of_zero_le hk.le
    have hdigits : (Value.integer k).plain = String.ofList (Nat.toDigits 10 k) := by
      rw [← String.ofList_toList (s := (Value.integer k).plain)]
      exact congrArg String.ofList (Json.toList_natural k)
    rw [Value.isLong_integer, Int.natAbs_natCast] at hlong
    rw [indentOf, hdigits, String.toList_ofList, if_pos (Number.isDigits_toDigits k),
      Number.readInt_toDigits hlong]
    rfl
  · decide +kernel

theorem askStyle_taken (hm : Sound m) (hd : Silent (n + 4) d)
    (hlong : (known m "indent" (.integer 4)).isLong = false) :
    ∃ x, askStyle m d = .ok x ∧ Taken n m x := by
  obtain ⟨d₁, hd₁, hsilent⟩ := askText_silent "Indentation (number of spaces, or 'tab')"
    hd (known m "indent" (.integer 4)).plain
  have hkeeps : Keeps m (answer m "indent" (known m "indent" (.integer 4))) :=
    keeps_answer hm.keyed (by decide) rfl
  have htaken : Taken (n + 3) m (answer m "indent" (known m "indent" (.integer 4)), d₁) :=
    ⟨hkeeps, env_answer hm.keyed (.integer 4) (by decide) _, hsilent⟩
  obtain ⟨⟨m₂, d₂⟩, hx₂, h₂⟩ := chooseField_taken "Quotes" hkeeps.keyed hsilent
    (by decide) (hkeeps.sound hm).quotes
  have htaken := htaken.trans h₂
  obtain ⟨⟨m₃, d₃⟩, hx₃, h₃⟩ := chooseField_taken "Line endings" htaken.keeps.keyed
    htaken.silent (by decide) (htaken.keeps.sound hm).linebreak
  have htaken := htaken.trans h₃
  obtain ⟨x, hx, h⟩ := confirmField_taken "Require semicolons?" htaken.keeps.keyed
    htaken.silent (by decide) (htaken.keeps.sound hm).semi
  refine ⟨x, ?_, htaken.trans h⟩
  unfold askStyle
  rw [Value.told, if_neg (by simp [hlong])]
  simp only [Except.mapError, bind, Except.bind, hd₁, indentOf_plain hm.indent hlong, hx₂, hx₃, hx]

/-- What can be suggested as environments is what can be read again. -/
theorem askPlatform_silent (hm : Sound m) (hd : Silent (n + 5) d) {s : String}
    (hs : suggestedEnv m = .ok s) :
    ∃ x, askPlatform m d = .ok x ∧ Keeps m x.1 ∧
      x.1.get? "env" = some (.list ((Text.words s.toList).map fun w => .text (String.ofList w))) ∧
      Silent n x.2 := by
  obtain ⟨⟨m₁, d₁⟩, hx₁, h₁⟩ := confirmField_taken
    "Are you using ECMAScript 6 features?" hm.keyed hd (by decide) hm.es6
  have hs₁ : suggestedEnv m₁ = .ok s := by
    rw [← hs, suggestedEnv, suggestedEnv, known, known, h₁.env]
  obtain ⟨d₂, hd₂, hsilent⟩ := askText_silent "Environments (space separated)" h₁.silent s
  set names := Value.list ((Text.words s.toList).map fun w => .text (String.ofList w)) with hnames
  have hkeeps : Keeps m (answer m₁ "env" names) := h₁.keeps.trans (keeps_env h₁.keeps.keyed names)
  have henv : (answer m₁ "env" names).get? "env" = some names := by
    rw [get?_answer h₁.keeps.keyed, if_pos rfl]
  obtain ⟨⟨m₃, d₃⟩, hx₃, h₃⟩ := confirmField_taken "Do you use CommonJS?" hkeeps.keyed
    hsilent (by decide) (hkeeps.sound hm).commonjs
  have hkeeps := hkeeps.trans h₃.keeps
  have henv := h₃.env.trans henv
  obtain ⟨⟨m₄, d₄⟩, hx₄, h₄⟩ := confirmField_taken "Do you use JSX?" hkeeps.keyed
    h₃.silent (by decide) (hkeeps.sound hm).jsx
  have hkeeps := hkeeps.trans h₄.keeps
  have henv := h₄.env.trans henv
  unfold askPlatform
  simp only [bind, Except.bind, hx₁, hs₁, hd₂, ← hnames, hx₃, hx₄]
  by_cases hjsx : (known m₄ "jsx" .null).isTruthy = true
  · obtain ⟨x, hx, h⟩ := confirmField_taken "Do you use React?" hkeeps.keyed
      h₄.silent (by decide) (hkeeps.sound hm).react
    rw [if_pos hjsx, hx]
    exact ⟨x, rfl, hkeeps.trans h.keeps, h.env.trans henv, h.silent⟩
  · rw [if_neg hjsx]
    obtain ⟨k, hk⟩ := h₄.silent
    exact ⟨_, rfl, hkeeps, henv, ⟨k + 1, by rw [hk]; congr 1; omega⟩⟩

theorem askPlatform_unsuggested (hm : Sound m) (hd : Silent (n + 1) d) {e : Interruption}
    (he : suggestedEnv m = .error e) : askPlatform m d = .error e := by
  obtain ⟨⟨m₁, d₁⟩, hx₁, h₁⟩ := confirmField_taken
    "Are you using ECMAScript 6 features?" hm.keyed hd (by decide) hm.es6
  have he₁ : suggestedEnv m₁ = .error e := by
    rw [← he, suggestedEnv, suggestedEnv, known, known, h₁.env]
  unfold askPlatform
  simp only [bind, Except.bind, hx₁, he₁]

theorem askGuide_taken (hm : Keyed m) (hd : Silent (n + 1) d)
    (hguide : known m "style_guide" .null = .null ∨
      ∃ g : StyleGuide, known m "style_guide" .null = .text g.name) :
    ∃ x, askGuide m d = .ok x ∧ Taken n m x ∧
      x.1.get? "style_guide" = some (known m "style_guide" .null) := by
  have hsame : ∀ {word : String}, word ∈ noGuide :: StyleGuide.all.map StyleGuide.name →
      (if (known m "style_guide" .null).isTruthy then known m "style_guide" .null
        else .text noGuide) = .text word →
      (if word == noGuide then .null else .text word) = known m "style_guide" .null →
      ∃ x, askGuide m d = .ok x ∧ Taken n m x ∧
        x.1.get? "style_guide" = some (known m "style_guide" .null) := by
    intro word hword hdefault hanswer
    obtain ⟨d', hd', hsilent⟩ := choose_silent "Style guide" hd hword
    refine ⟨(answer m "style_guide" (known m "style_guide" .null), d'), ?_,
      ⟨keeps_answer hm (by decide) rfl, env_answer hm .null (by decide) _, hsilent⟩, ?_⟩
    · unfold askGuide
      simp only [hdefault, hd', bind, Except.bind, hanswer]
      rfl
    · rw [get?_answer hm, if_pos rfl]
  rcases hguide with hnull | ⟨g, hg⟩
  · rw [hnull] at hsame ⊢
    exact hsame List.mem_cons_self rfl rfl
  · rw [hg] at hsame ⊢
    cases g <;> exact hsame (by decide) rfl rfl

end Stages

/-! ### Environments -/

/-- A code point by itself as a character. -/
def characterOf (n : Nat) : Char := if Text.isHalf n then '\ufffd' else Char.ofNat n

/-- The names that a value gives are texts, listed one by one. A text stands for its characters. -/
def Listed (v : Value) : Prop :=
  match v.unrolled with
  | .list items | .tuple items => ∀ item ∈ items, ∃ s, item.text? = some s ∧ s ≠ ""
  | .text s => ∀ word ∈ Text.words s.toList, word.length = 1
  | .halves codes =>
    Text.characters codes = codes.map characterOf ∧
      ∀ word ∈ Text.words (Text.characters codes), word.length = 1
  | _ => False

section Environments
variable {v : Value} {names : List String}

/-- Names that are told one by one are read again, unless they are empty. -/
theorem words_names (hblank : ∀ name ∈ names, ∀ c ∈ name.toList, Text.isBlank c = false) :
    (Text.words (joined " " names).toList).map String.ofList = names.filter (· ≠ "") := by
  rw [Text.words_joined]
  induction names with
  | nil => rfl
  | cons name names ih =>
    have ih := ih fun other hother => hblank other (List.mem_cons_of_mem _ hother)
    rw [List.flatMap_cons, List.map_append, ih,
      Text.words_solid (hblank name List.mem_cons_self)]
    by_cases hname : name = "" <;> simp [hname]

/-- The characters of a text, told one by one. -/
theorem words_singles (text : List Char) :
    (Text.words (joined " " (text.map fun c => String.ofList [c])).toList) =
      (text.filter fun c => !Text.isBlank c).map fun c => [c] := by
  rw [Text.words_joined, List.flatMap_map, ← Text.words_characters]
  simp

theorem map_ofList_injective {xs ys : List (List Char)} :
    xs.map String.ofList = ys.map String.ofList ↔ xs = ys :=
  (List.map_injective_iff.mpr fun _ _ h => String.ofList_injective h).eq_iff

/-- A collection that holds itself counts as what is seen of it. -/
theorem isTruthy_unrolled (hknot : ∀ l b, v.unrolled ≠ .knot l b) (hagain : ∀ l, v.unrolled ≠ .again l) :
    v.isTruthy = v.unrolled.isTruthy := by
  cases v with
  | knot l body =>
    cases body with
    | again k =>
      by_cases hk : k = l
      · exact absurd (by simp [Value.unrolled, Value.untie, hk]) (hknot l (.again k))
      · exact absurd (by simp [Value.unrolled, Value.untie, hk]) (hagain k)
    | knot k b => exact absurd (by simp [Value.unrolled, Value.untie]; rfl) (hknot k _)
    | list items | tuple items | set items =>
      cases items <;> simp [Value.unrolled, Value.untie, Value.untieItems, Value.isTruthy]
    | map entries =>
      cases entries <;> simp [Value.unrolled, Value.untie, Value.untieEntries, Value.isTruthy]
    | _ => rfl
  | _ => rfl

/-- A text has no more characters than code points. It has fewer if there are pairs of halves among
them, and no half is white space. -/
theorem characters_eq_of_length (codes : List Nat) :
    ((Text.characters codes).filter fun c => !Text.isBlank c).length ≤
      ((codes.map characterOf).filter fun c => !Text.isBlank c).length ∧
    (((Text.characters codes).filter fun c => !Text.isBlank c).length =
      ((codes.map characterOf).filter fun c => !Text.isBlank c).length →
      Text.characters codes = codes.map characterOf) := by
  induction codes using Text.characters.induct with
  | case1 => exact ⟨le_rfl, fun _ => rfl⟩
  | case2 a => exact ⟨le_rfl, fun _ => rfl⟩
  | case3 a b rest hpair ih =>
    obtain ⟨ha, ha', hb, hb'⟩ := Json.isPair_iff.mp hpair
    have hhalves : Text.isHalf a = true ∧ Text.isHalf b = true := by
      simp only [Text.isHalf, Bool.and_eq_true, decide_eq_true_eq]
      omega
    have hsolid : Text.isBlank (Char.ofNat (Text.paired a b)) = false := by
      have hbig := toNat_paired hpair
      simp only [Text.isBlank, Bool.or_eq_false_iff, Bool.and_eq_false_iff, decide_eq_false_iff_not,
        beq_eq_false_iff_ne]
      omega
    have hblank : Text.isBlank '\ufffd' = false := by decide
    have hle := ih.1
    rw [Text.characters, if_pos hpair]
    simp only [List.map_cons, characterOf, hhalves, if_true, List.filter_cons, hsolid, hblank,
      Bool.not_false, List.length_cons] at hle ⊢
    exact ⟨by omega, fun h => by omega⟩
  | case4 a b rest hpair ih =>
    have hcons : Text.characters (a :: b :: rest) = characterOf a :: Text.characters (b :: rest) := by
      rw [Text.characters, if_neg hpair, characterOf]
    rw [hcons, List.map_cons, List.filter_cons, List.filter_cons]
    split
    · rw [List.length_cons, List.length_cons, Nat.add_le_add_iff_right, Nat.add_right_cancel_iff]
      exact ⟨ih.1, fun h => congrArg _ (ih.2 h)⟩
    · exact ⟨ih.1, fun h => congrArg _ (ih.2 h)⟩

/-- Listed names can be told one by one, if they are texts; they are read again, if none is empty. -/
theorem spaced_items_iff {items : List Value} (hblank : ∀ name ∈ items.map Value.plain,
      ∀ c ∈ name.toList, Text.isBlank c = false) :
    (∃ s, (allTexts? items).map (joined " ") = some s ∧
      (Text.words s.toList).map String.ofList = items.map Value.plain) ↔
    ∀ item ∈ items, ∃ s, item.text? = some s ∧ s ≠ "" := by
  have hplain : ∀ {item : Value} {s : String}, item.text? = some s → item.plain = s := by
    intro item s hs
    cases item <;> simp_all [Value.text?, Value.plain]
  unfold allTexts?
  by_cases htexts : ∀ item ∈ items, item.text?.isSome = true
  · have hall : items.filterMap Value.text? = items.map Value.plain := by
      rw [← List.filterMap_eq_map]
      refine List.filterMap_congr fun item hitem => ?_
      obtain ⟨s, hs⟩ := Option.isSome_iff_exists.mp (htexts item hitem)
      rw [hs, Function.comp_apply, hplain hs]
    rw [if_pos (List.all_eq_true.mpr htexts), hall]
    simp only [Option.map_some, Option.some.injEq, exists_eq_left', words_names hblank,
      List.filter_eq_self, List.forall_mem_map, decide_eq_true_eq]
    refine forall₂_congr fun item hitem => ?_
    obtain ⟨s, hs⟩ := Option.isSome_iff_exists.mp (htexts item hitem)
    simp [hs, hplain hs]
  · rw [if_neg (mt List.all_eq_true.mp htexts)]
    simp only [Option.map_none, reduceCtorEq, false_and, exists_false, false_iff]
    intro h
    refine htexts fun item hitem => ?_
    obtain ⟨s, hs, -⟩ := h item hitem
    rw [hs]
    rfl

/-- The names are suggested, and read again from what is suggested, exactly if they are listed. -/
theorem spaced_iff (hnames : Answers.namesOf "env" v = .ok names) (hne : names ≠ [])
    (hblank : ∀ name ∈ names, ∀ c ∈ name.toList, Text.isBlank c = false) :
    (∃ s, spaced? v = some s ∧ (Text.words s.toList).map String.ofList = names) ↔ Listed v := by
  have hitems : ∀ items, (Value.allTold items).mapError Answers.Failure.longInteger = .ok names →
      items.map Value.plain = names := by
    intro items h
    rw [Failing.mapError_eq_ok, Value.allTold] at h
    split at h
    · cases h
    · exact Except.ok.inj h
  unfold Answers.namesOf at hnames
  unfold spaced? Listed
  cases hv : v.unrolled
  case null =>
    rw [hv] at hnames
    exact absurd (Except.ok.inj hnames).symm hne
  case list items | tuple items =>
    rw [hv] at hnames
    obtain rfl := hitems items hnames
    exact spaced_items_iff hblank
  case text s =>
    rw [hv] at hnames
    obtain rfl := Except.ok.inj hnames
    simp only [Option.map_some, Option.some.injEq, exists_eq_left', words_singles,
      map_ofList_injective, ← Text.words_eq_characters_iff]
    exact eq_comm
  case halves codes =>
    rw [hv] at hnames
    obtain rfl := Except.ok.inj hnames
    have hsingle : (codes.map fun n => String.ofList (Text.characters [n])) =
        (codes.map characterOf).map fun c => String.ofList [c] := by
      rw [List.map_map]
      rfl
    simp only [Option.map_some, Option.some.injEq, exists_eq_left', hsingle, words_singles,
      map_ofList_injective, String.toList_ofList, ← Text.words_eq_characters_iff]
    constructor
    · intro h
      have hletters := congrArg List.flatten h
      rw [Text.flatten_words, ← List.flatMap_def, List.flatMap_singleton'] at hletters
      have hcodes := (characters_eq_of_length codes).2 (congrArg List.length hletters.symm)
      exact ⟨hcodes, by rw [← h, hcodes]⟩
    · rintro ⟨hcodes, h⟩
      rw [h, hcodes]
  all_goals
    rw [hv] at hnames
    cases hnames

/-- Names that are listed as texts are read as they are. -/
theorem namesOf_texts (field : String) (texts : List String) :
    Answers.namesOf field (.list (texts.map .text)) = .ok texts := by
  have hplain : (texts.map Value.text).map Value.plain = texts := by
    rw [List.map_map]
    exact List.map_id _
  change (Value.allTold (texts.map .text)).mapError Answers.Failure.longInteger = .ok texts
  rw [Value.allTold, Value.areLong_texts, hplain]
  rfl

theorem isTruthy_of_namesOf (hnames : Answers.namesOf "env" v = .ok names) (hne : names ≠ []) :
    v.isTruthy = true := by
  unfold Answers.namesOf at hnames
  rw [isTruthy_unrolled]
  · cases hv : v.unrolled
    case null =>
      rw [hv] at hnames
      exact absurd (Except.ok.inj hnames).symm hne
    case list items | tuple items =>
      rw [hv] at hnames
      cases items with
      | nil => exact absurd (Except.ok.inj hnames).symm hne
      | cons => rfl
    case text s =>
      rw [hv] at hnames
      by_cases hs : s = ""
      · subst hs
        exact absurd (Except.ok.inj hnames).symm hne
      · simpa [Value.isTruthy] using hs
    case halves => rfl
    all_goals
      rw [hv] at hnames
      cases hnames
  all_goals
    intros
    intro hv
    rw [hv] at hnames
    cases hnames

end Environments

/-! ### All questions -/

/-- Every answer comes back from the words that it is suggested in. A style guide settles them all. -/
structure Restorable (m : Mapping) (r : Record) : Prop where
  indent : r.styleGuide = .null → r.source.text? = some "prompt" → r.indent.isLong = false
  env : r.styleGuide = .null → Listed (m.names "env")

/-- The mapping behind an accepted record. -/
theorem sound_of_accepted {m : Mapping} {r : Record} (h : Answers.ofMapping m = .ok r)
    (hhalves : ∀ e ∈ m, RealHalves e.1 ∧ RealHalves e.2) : Sound m := by
  obtain ⟨hkeys, source, env, patterns, -, -, -, hvalid, rfl⟩ := ofMapping_eq_ok.mp h
  have hreal : ∀ {field fallback}, RealHalves fallback → RealHalves (known m field fallback) := by
    intro field fallback hfallback
    unfold known
    cases hget : m.get? field with
    | none => exact hfallback
    | some v =>
      obtain ⟨e, he, rfl⟩ := Option.map_eq_some_iff.mp hget
      exact (hhalves e (List.mem_of_find?_eq_some he)).2
  have htext : ∀ {field fallback : String} {words : List String},
      (∃ word ∈ words, (known m field (.text fallback)).text? = some word) →
      words.all (fun word => word.toList.all (·.toNat < 0x80)) = true →
      ∃ word ∈ words, known m field (.text fallback) = .text word := by
    rintro field fallback words ⟨word, hword, heq⟩ hascii
    exact ⟨word, hword, (hreal fun _ h => by cases h).eq_text heq
      (List.all_eq_true.mp hascii word hword)⟩
  exact {
    keyed := by
      intro e he
      have hknown := List.filter_eq_nil_iff.mp hkeys e.1 (List.mem_map_of_mem he)
      rw [Bool.not_eq_true, Bool.not_eq_false', Option.any_eq_true] at hknown
      obtain ⟨field, hfield, hmem⟩ := hknown
      rw [List.contains_iff_mem] at hmem
      have hascii : Answers.fieldNames.all (fun field => field.toList.all (·.toNat < 0x80)) = true := by
        decide +kernel
      exact ⟨field, hmem, (hhalves e he).1.eq_text hfield (List.all_eq_true.mp hascii field hmem)⟩
    indent := hvalid.indent
    quotes := htext hvalid.quotes (by decide +kernel)
    linebreak := htext hvalid.linebreak (by decide +kernel)
    semi := hvalid.semi
    es6 := hvalid.es6
    jsx := hvalid.jsx
    react := hvalid.react
    commonjs := hvalid.commonjs
    format := htext hvalid.format (by decide +kernel) }

section Asking
variable {m m' : Mapping} {r : Record} {d : Dialogue}

/-- What is asked once style is settled, without a guide. -/
def askRest (m : Mapping) (d : Dialogue) : Except Interruption (Mapping × Dialogue) := do
  let (m, d) ← askPlatform m d
  chooseField m "format" "Config file format" Format.names "JSON" d

theorem ask_guided {d' : Dialogue} {v : Value} (hguide : askGuide m d = .ok (m', d'))
    (hget : m'.get? "style_guide" = some v) (hv : v ≠ .null) :
    ask m d = chooseField m' "format" "Config file format" Format.names "JSON" d' := by
  have hfree : (m'.get? "style_guide" == some .null) = false := by
    rw [hget]
    simpa using hv
  unfold ask
  simp only [hguide, bind, Except.bind, hfree, Bool.false_and, Bool.false_eq_true, if_false, pure,
    Except.pure]

theorem ask_free {d' : Dialogue} (hguide : askGuide m d = .ok (m', d'))
    (hget : m'.get? "style_guide" = some .null) :
    ask m d = (do
      let (m, d) ← if (m'.get? "source").bind Value.text? = some "prompt" then askStyle m' d'
        else pure (m', d')
      askRest m d) := by
  have hfree : (m'.get? "style_guide" == some .null) = true := by
    rw [hget]
    simp
  unfold ask askRest
  simp only [hguide, bind, Except.bind, hfree, Bool.true_and, if_true, beq_iff_eq, pure, Except.pure]

/-- Without a guide it depends on the environments whether the answers come back. -/
theorem askRest_restores_iff (hm : Sound m) (haccepted : Answers.ofMapping m = .ok r)
    (hne : r.env ≠ []) (hblank : ∀ name ∈ r.env, ∀ c ∈ name.toList, Text.isBlank c = false)
    (hkeeps : Keeps m m') (henv : m'.get? "env" = m.get? "env") (hd : Silent 6 d) :
    (∃ x, askRest m' d = .ok x ∧ Answers.ofMapping x.1 = .ok r) ↔ Listed (m.names "env") := by
  obtain ⟨-, source, env, patterns, -, hnames, -, -, rfl⟩ := ofMapping_eq_ok.mp haccepted
  have htruthy := isTruthy_of_namesOf hnames hne
  have hknown : known m' "env" .null = m.names "env" := by
    rw [known, henv]
    rfl
  rw [← spaced_iff hnames hne hblank]
  cases hspaced : spaced? (m.names "env") with
  | none =>
    have hsuggested : suggestedEnv m' = .error .defaultNotNames := by
      simp only [suggestedEnv, hknown, htruthy, if_true, hspaced]
    simp only [askRest, askPlatform_unsuggested (hkeeps.sound hm) hd hsuggested]
    simp [bind, Except.bind]
  | some s =>
    have hsuggested : suggestedEnv m' = .ok s := by
      simp only [suggestedEnv, hknown, htruthy, if_true, hspaced]
    obtain ⟨⟨m₁, d₁⟩, hx₁, hkeeps₁, henv₁, hsilent⟩ :=
      askPlatform_silent (hkeeps.sound hm) hd hsuggested
    have hkeeps₁ := hkeeps.trans hkeeps₁
    obtain ⟨x, hx, h⟩ := chooseField_taken "Config file format" hkeeps₁.keyed hsilent
      (by decide) (hkeeps₁.sound hm).format
    have hask : askRest m' d = .ok x := by
      simp only [askRest, hx₁, bind, Except.bind, hx]
    have hread : Answers.namesOf "env" (x.1.names "env") =
        .ok ((Text.words s.toList).map String.ofList) := by
      rw [Mapping.names, h.env, henv₁, Option.getD_some, ← namesOf_texts "env", List.map_map]
      rfl
    have hofMapping := (hkeeps₁.trans h.keeps).ofMapping haccepted hread
    simp only [hask, Except.ok.injEq, exists_eq_left', hofMapping, Option.some.injEq]
    exact ⟨fun h => congrArg Record.env h, fun h => by rw [h]; rfl⟩

theorem askStyle_long (h : (known m "indent" (.integer 4)).isLong = true) :
    askStyle m d = .error (.longInteger {}) := by
  unfold askStyle
  rw [Value.told, if_pos h]
  rfl

/-- Whoever takes every suggestion ends up with the same answers, exactly if each of them comes back
from the words that it is suggested in. -/
theorem ask_restores_iff (haccepted : Answers.ofMapping m = .ok r)
    (hhalves : ∀ e ∈ m, RealHalves e.1 ∧ RealHalves e.2)
    (hguide : r.styleGuide = .null ∨ ∃ g : StyleGuide, r.styleGuide = .text g.name)
    (hne : r.env ≠ []) (hblank : ∀ name ∈ r.env, ∀ c ∈ name.toList, Text.isBlank c = false)
    (hd : Silent 11 d) :
    (∃ x, ask m d = .ok x ∧ Answers.ofMapping x.1 = .ok r) ↔ Restorable m r := by
  have hm := sound_of_accepted haccepted hhalves
  obtain ⟨-, source, env, patterns, hsource, henv, -, -, heq⟩ := ofMapping_eq_ok.mp haccepted
  have hstyle : known m "style_guide" .null = r.styleGuide := heq ▸ rfl
  have hindent : known m "indent" (.integer 4) = r.indent := heq ▸ rfl
  have hrecord : r.source = source := heq ▸ rfl
  obtain ⟨⟨m₁, d₁⟩, hx₁, h₁, hget⟩ := askGuide_taken hm.keyed hd (hstyle ▸ hguide)
  rw [hstyle] at hget
  by_cases hnull : r.styleGuide = .null
  · rw [hnull] at hget
    rw [ask_free hx₁ hget, h₁.keeps.source, hsource, Option.bind_some, ← hrecord]
    have hindent₁ : known m₁ "indent" (.integer 4) = r.indent :=
      (h₁.keeps.known ("indent", .integer 4) (by decide)).trans hindent
    by_cases hprompt : r.source.text? = some "prompt"
    · rw [if_pos hprompt]
      cases hlong : r.indent.isLong with
      | true =>
        rw [askStyle_long (by rwa [hindent₁])]
        refine ⟨fun ⟨x, hx, _⟩ => (nomatch hx), fun h => ?_⟩
        rw [h.indent hnull hprompt] at hlong
        cases hlong
      | false =>
        obtain ⟨⟨m₂, d₂⟩, hx₂, h₂⟩ :=
          askStyle_taken (h₁.keeps.sound hm) h₁.silent (by rwa [hindent₁])
        have h₂ := h₁.trans h₂
        rw [hx₂]
        exact (askRest_restores_iff hm haccepted hne hblank h₂.keeps h₂.env h₂.silent).trans
          ⟨fun h => ⟨fun _ _ => hlong, fun _ => h⟩, fun h => h.env hnull⟩
    · rw [if_neg hprompt]
      obtain ⟨k, hk⟩ := h₁.silent
      exact (askRest_restores_iff hm haccepted hne hblank h₁.keeps h₁.env
        ⟨k + 4, by rw [hk]; congr 1; omega⟩).trans
          ⟨fun h => ⟨fun _ h => absurd h hprompt, fun _ => h⟩, fun h => h.env hnull⟩
  · rw [ask_guided hx₁ hget hnull]
    obtain ⟨x, hx, h⟩ := chooseField_taken "Config file format" h₁.keeps.keyed h₁.silent
      (by decide) (h₁.keeps.sound hm).format
    have h := h₁.trans h
    have hread : Answers.namesOf "env" (x.1.names "env") = .ok r.env := by
      rw [Mapping.names, h.env, ← heq]
      exact henv
    exact iff_of_true ⟨x, hx, h.keeps.ofMapping haccepted hread⟩
      ⟨fun h => absurd h hnull, fun h => absurd h hnull⟩

end Asking

/-- Answers as a file gives them, with the environments as a value. -/
def answersWith (env : Value) : Mapping :=
  [(.text "source", .text "prompt"), (.text "indent", .integer 2), (.text "env", env)]

/-- What answers with two environments spell. -/
def spelled : Record :=
  { source := .text "prompt", indent := .integer 2, env := ["browser", "node"] }

theorem ask_restores_listed :
    Answers.ofMapping (answersWith (.list [.text "browser", .text "node"])) = .ok spelled ∧
    ∃ x, ask (answersWith (.list [.text "browser", .text "node"])) ⟨List.replicate 11 "", ""⟩ = .ok x ∧
      Answers.ofMapping x.1 = .ok spelled := by
  have haccepted :
      Answers.ofMapping (answersWith (.list [.text "browser", .text "node"])) = .ok spelled := by
    rfl
  have hsolid : ∀ name ∈ spelled.env, ∀ c ∈ name.toList, Text.isBlank c = false := by
    have hall : spelled.env.all (fun name => name.toList.all fun c => !Text.isBlank c) = true := by
      decide +kernel
    simpa only [List.all_eq_true, Bool.not_eq_true'] using hall
  refine ⟨haccepted, (ask_restores_iff haccepted ?_ (.inl rfl) (List.cons_ne_nil _ _) hsolid
    ⟨0, rfl⟩).mpr ⟨fun _ _ => Value.isLong_integer.mpr (by decide), fun _ => ?_⟩⟩
  · simp [answersWith, RealHalves]
  · rintro item (_ | ⟨_, _ | ⟨_, ⟨⟩⟩⟩)
    · exact ⟨"browser", rfl, by decide⟩
    · exact ⟨"node", rfl, by decide⟩

/-- Environments that are named in one text come back as its letters. -/
theorem not_restored_text :
    Answers.ofMapping (answersWith (.text "browser node")) = .ok spelled ∧
    ¬ ∃ x, ask (answersWith (.text "browser node")) ⟨List.replicate 11 "", ""⟩ = .ok x ∧
      Answers.ofMapping x.1 = .ok spelled := by
  have hletters : ((ask (answersWith (.text "browser node")) ⟨List.replicate 11 "", ""⟩).toOption.bind
      fun x => (Answers.ofMapping x.1).toOption.map Record.env) =
      some ["b", "r", "o", "w", "s", "e", "r", "n", "o", "d", "e"] := by
    decide +kernel
  refine ⟨rfl, ?_⟩
  rintro ⟨x, hx, hr⟩
  rw [hx] at hletters
  simp only [Except.toOption, Option.bind_some, hr, Option.map_some] at hletters
  exact absurd hletters (by decide)

end LintConfig.Command.Questions
