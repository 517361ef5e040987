import LintConfig.Answers.File
import LintConfig.Proofs.Failing

/-! # Which answers are accepted, and how others are refused

Answers come as a mapping with keys and values of any kind. Each is either spelled out as a record that
passes every check, or refused for a reason. A third way out is left only where the reason cannot be
put into words: a key that is no text has no place in the list of unknown fields, and an integer of
too many digits has no text at all. -/
namespace LintConfig.Answers
open Files (Path Tree)

/-! ### Checking -/

/-- Answers that nothing is wrong with. -/
structure Record.Valid (r : Record) : Prop where
  source : ∃ word ∈ sources, r.source.text? = some word
  indent : (∃ n : Int, 0 < n ∧ r.indent = .integer n) ∨ r.indent = .text "tab"
  quotes : ∃ word ∈ quoteStyles, r.quotes.text? = some word
  linebreak : ∃ word ∈ linebreakStyles, r.linebreak.text? = some word
  semi : ∃ b, r.semi = .bool b
  es6 : ∃ b, r.es6 = .bool b
  jsx : ∃ b, r.jsx = .bool b
  react : ∃ b, r.react = .bool b
  commonjs : ∃ b, r.commonjs = .bool b
  format : ∃ word ∈ Format.names, r.format.text? = some word

theorem checkWord_eq_ok {field : String} {words : List String} {v : Value} :
    checkWord field words v = .ok () ↔ ∃ word ∈ words, v.text? = some word := by
  unfold checkWord
  cases v.text? with
  | none => simp
  | some word => by_cases hword : word ∈ words <;> simp [hword]

theorem checkTruthValue_eq_ok {field : String} {v : Value} :
    checkTruthValue field v = .ok () ↔ ∃ b, v = .bool b := by
  cases v <;> simp [checkTruthValue]

theorem isIndent_iff {v : Value} :
    isIndent v = true ↔ (∃ n : Int, 0 < n ∧ v = .integer n) ∨ v = .text "tab" := by
  cases v <;> simp [isIndent]

/-- A record passes exactly if each of its fields holds what it may hold. -/
theorem validate_eq_ok {r : Record} : r.validate = .ok () ↔ r.Valid := by
  unfold Record.validate
  rw [Failing.andThen_eq_ok, checkWord_eq_ok]
  cases hindent : isIndent r.indent with
  | false =>
    constructor
    · rintro ⟨-, hrest⟩
      cases hrest
    · intro h
      rw [isIndent_iff.mpr h.indent] at hindent
      cases hindent
  | true =>
    simp only [if_true, Failing.andThen_eq_ok, checkWord_eq_ok, checkTruthValue_eq_ok]
    constructor
    · rintro ⟨hsource, hquotes, hlinebreak, hsemi, hes6, hjsx, hreact, hcommonjs, hformat⟩
      exact ⟨hsource, isIndent_iff.mp hindent, hquotes, hlinebreak, hsemi, hes6, hjsx, hreact,
        hcommonjs, hformat⟩
    · intro h
      exact ⟨h.source, h.quotes, h.linebreak, h.semi, h.es6, h.jsx, h.react, h.commonjs, h.format⟩

theorem Record.Valid.prompt_or_auto {r : Record} (h : r.Valid) :
    r.source.text? = some "prompt" ∨ r.source.text? = some "auto" := by
  obtain ⟨word, hword, hsource⟩ := h.source
  rcases List.mem_pair.mp hword with rfl | rfl
  · exact .inl hsource
  · exact .inr hsource

theorem Failure.ofRefusal_of_told {e : Refusal} (h : e.isLong = false) :
    Failure.ofRefusal e = .refused e := by
  rw [Failure.ofRefusal, h]
  rfl

/-- A check tells what is wrong, unless it cannot. -/
theorem check_eq_error {r : Record} {e : Refusal} (h : r.validate = .error e) :
    r.check = .error (Failure.ofRefusal e) := by
  rw [Record.check, h]
  rfl

/-! ### Names -/

/-- The items of a list, if a value is one, hold no integer that is too long. -/
def NamesTellable (v : Value) : Prop :=
  ∀ items, v.unrolled = .list items ∨ v.unrolled = .tuple items → Value.areLong items = false

/-- Names are read or refused, as long as the items can be told. -/
theorem namesOf_cases (field : String) (v : Value) :
    (NamesTellable v ∧ ((∃ names, namesOf field v = .ok names) ∨
        namesOf field v = .error (.refused (.notNames field)))) ∨
      ¬ NamesTellable v ∧ namesOf field v = .error (.longInteger {}) := by
  unfold NamesTellable namesOf
  cases v.unrolled
  case list items | tuple items =>
    cases hlong : Value.areLong items <;> simp [Value.allTold, hlong, Except.mapError]
  all_goals simp [Value.text?]

/-! ### Mappings -/

/-- A key that is a field is a text, so what counts are the keys that are no fields. -/
theorem texts_unknownKeys {m : Mapping} :
    (∀ k ∈ unknownKeys m, k.text?.isSome = true) ↔ ∀ e ∈ m, e.1.text? ≠ none := by
  simp only [unknownKeys, List.mem_filter, List.mem_map, Option.isSome_iff_ne_none]
  constructor
  · intro h e he hnone
    exact h e.1 ⟨⟨e, he, rfl⟩, by simp [hnone]⟩ hnone
  · rintro h k ⟨⟨e, he, rfl⟩, -⟩
    exact h e he

/-- The keys of a mapping that are no fields can be listed, or one of them is no text. -/
theorem checkKeys_cases {m : Mapping} (h : unknownKeys m ≠ []) :
    ((∀ e ∈ m, e.1.text? ≠ none) ∧ ∃ names, checkKeys m = .error (.refused (.unknownFields names))) ∨
      ¬ (∀ e ∈ m, e.1.text? ≠ none) ∧ checkKeys m = .error .fieldNotText := by
  have hlength : ((unknownKeys m).filterMap Value.text?).length = (unknownKeys m).length ↔
      ∀ e ∈ m, e.1.text? ≠ none := by
    rw [List.length_filterMap_eq_countP, List.countP_eq_length, texts_unknownKeys]
  unfold checkKeys
  split
  · contradiction
  · dsimp only
    by_cases htexts : ∀ e ∈ m, e.1.text? ≠ none
    · rw [if_pos (hlength.mpr htexts)]
      exact .inl ⟨htexts, _, rfl⟩
    · rw [if_neg (mt hlength.mp htexts)]
      exact .inr ⟨htexts, rfl⟩

/-- The value that names are read from. -/
def Mapping.names (m : Mapping) (field : String) : Value := (m.get? field).getD .null

/-- A mapping is accepted exactly if it has only fields, among them a source, its names can be read and
what it spells is valid. -/
theorem ofMapping_eq_ok {m : Mapping} {r : Record} : ofMapping m = .ok r ↔
    unknownKeys m = [] ∧ ∃ source env patterns, m.get? "source" = some source ∧
      namesOf "env" (m.names "env") = .ok env ∧
      namesOf "patterns" (m.names "patterns") = .ok patterns ∧
      (m.record source env patterns).Valid ∧ m.record source env patterns = r := by
  have hkeys : checkKeys m = .ok () ↔ unknownKeys m = [] := by
    unfold checkKeys
    split
    · simp [*]
    · rename_i hsome
      dsimp only
      split <;> exact ⟨nofun, fun h => absurd h hsome⟩
  have hcheck : ∀ {r : Record}, r.check = .ok () ↔ r.Valid := by
    intro r
    rw [Record.check, Failing.mapError_eq_ok, validate_eq_ok]
  unfold ofMapping
  rw [Failing.andThen_eq_ok, hkeys]
  refine and_congr_right fun _ => ?_
  cases hsource : m.get? "source" with
  | none =>
    simp only [reduceCtorEq, false_and, exists_false]
  | some source =>
    simp only [Failing.bind_eq_ok, hcheck, Mapping.names]
    constructor
    · rintro ⟨env, henv, patterns, hpatterns, -, hvalid, hr⟩
      exact ⟨source, env, patterns, rfl, henv, hpatterns, hvalid, Except.ok.inj hr⟩
    · rintro ⟨_, env, patterns, ⟨rfl⟩, henv, hpatterns, hvalid, rfl⟩
      exact ⟨env, henv, patterns, hpatterns, (), hvalid, rfl⟩

/-- Whatever is wrong with a mapping of answers can be put into words. Each part matters only if those
before it are in order. -/
structure Tellable (m : Mapping) : Prop where
  keys : ∀ e ∈ m, e.1.text? ≠ none
  env : unknownKeys m = [] → m.get? "source" ≠ none → NamesTellable (m.names "env")
  patterns : unknownKeys m = [] → m.get? "source" ≠ none →
    (∃ names, namesOf "env" (m.names "env") = .ok names) → NamesTellable (m.names "patterns")
  record : ∀ source env patterns e, unknownKeys m = [] → m.get? "source" = some source →
    namesOf "env" (m.names "env") = .ok env → namesOf "patterns" (m.names "patterns") = .ok patterns →
    (m.record source env patterns).validate = .error e → e.isLong = false

/-- There is a record that passes every check, or a refusal. -/
def Settled (x : Except Failure Record) : Prop :=
  (∃ r, x = .ok r ∧ r.Valid) ∨ ∃ e, x = .error (.refused e)

theorem settled_refused (e : Refusal) : Settled (.error (.refused e)) := .inr ⟨e, rfl⟩

theorem not_settled_longInteger (e : LongInteger) : ¬ Settled (.error (.longInteger e)) := by
  simp [Settled]

theorem not_settled_fieldNotText : ¬ Settled (.error .fieldNotText) := by
  simp [Settled]

/-- A record that is spelled out is settled, unless what is wrong with it cannot be told. -/
theorem settled_checked (r : Record) :
    Settled (do r.check; return r) ↔ ∀ e, r.validate = .error e → e.isLong = false := by
  cases hvalid : r.validate with
  | ok u =>
    have hcheck : r.check = .ok () := by rw [Record.check, hvalid]; rfl
    rw [hcheck]
    exact ⟨fun _ => nofun, fun _ => .inl ⟨r, rfl, validate_eq_ok.mp hvalid⟩⟩
  | error e =>
    rw [check_eq_error hvalid]
    cases hlong : e.isLong with
    | true =>
      rw [Failure.ofRefusal, if_pos hlong]
      refine ⟨fun h => absurd h (not_settled_longInteger _), fun h => ?_⟩
      rw [h e rfl] at hlong
      cases hlong
    | false =>
      rw [Failure.ofRefusal_of_told hlong]
      refine ⟨fun _ e' he => ?_, fun _ => settled_refused e⟩
      cases he
      exact hlong

/-- With a source, what is left are the two lists of names and the record. -/
theorem settled_spelled_iff (m : Mapping) (source : Value) :
    Settled (do
      let env ← namesOf "env" (m.names "env")
      let patterns ← namesOf "patterns" (m.names "patterns")
      let r := m.record source env patterns
      r.check
      return r) ↔
    NamesTellable (m.names "env") ∧
      ∀ env, namesOf "env" (m.names "env") = .ok env →
        NamesTellable (m.names "patterns") ∧
          ∀ patterns, namesOf "patterns" (m.names "patterns") = .ok patterns →
            ∀ e, (m.record source env patterns).validate = .error e → e.isLong = false := by
  rcases namesOf_cases "env" (m.names "env") with ⟨henv, ⟨env, hok⟩ | hrefused⟩ | ⟨henv, hlong⟩
  · rw [hok]
    simp only [henv, true_and, Except.ok.injEq, forall_eq']
    rcases namesOf_cases "patterns" (m.names "patterns") with
      ⟨hpatterns, ⟨patterns, hok⟩ | hrefused⟩ | ⟨hpatterns, hlong⟩
    · rw [hok]
      simp only [hpatterns, true_and, Except.ok.injEq, forall_eq']
      exact settled_checked _
    · rw [hrefused]
      exact ⟨fun _ => ⟨hpatterns, nofun⟩, fun _ => settled_refused _⟩
    · rw [hlong]
      exact ⟨fun h => absurd h (not_settled_longInteger _), fun h => absurd h.1 hpatterns⟩
  · rw [hrefused]
    exact ⟨fun _ => ⟨henv, nofun⟩, fun _ => settled_refused _⟩
  · rw [hlong]
    exact ⟨fun h => absurd h (not_settled_longInteger _), fun h => absurd h.1 henv⟩

/-- A mapping comes to a valid record or a refusal, exactly if all that is wrong with it can be told. -/
theorem settled_ofMapping_iff (m : Mapping) : Settled (ofMapping m) ↔ Tellable m := by
  unfold ofMapping
  by_cases hunknown : unknownKeys m = []
  · have hkeys : ∀ e ∈ m, e.1.text? ≠ none := by
      rw [← texts_unknownKeys, hunknown]
      exact nofun
    have hcheck : checkKeys m = .ok () := by rw [checkKeys, hunknown]
    rw [hcheck]
    cases hsource : m.get? "source" with
    | none =>
      refine ⟨fun _ => ⟨hkeys, fun _ h => absurd hsource h, fun _ h => absurd hsource h, ?_⟩,
        fun _ => settled_refused _⟩
      intro source env patterns e _ h
      rw [hsource] at h
      cases h
    | some source =>
      refine (settled_spelled_iff m source).trans ?_
      have hgiven : m.get? "source" ≠ none := by simp [hsource]
      constructor
      · rintro ⟨henv, hrest⟩
        refine ⟨hkeys, fun _ _ => henv, fun _ _ ⟨env, hok⟩ => (hrest env hok).1, ?_⟩
        intro source' env patterns e _ hsource' hok hok' hvalid
        rw [hsource] at hsource'
        cases hsource'
        exact (hrest env hok).2 patterns hok' e hvalid
      · intro h
        exact ⟨h.env hunknown hgiven, fun env hok => ⟨h.patterns hunknown hgiven ⟨env, hok⟩,
          fun patterns hok' e => h.record source env patterns e hunknown hsource hok hok'⟩⟩
  · rcases checkKeys_cases hunknown with ⟨hkeys, names, hcheck⟩ | ⟨hkeys, hcheck⟩
    · rw [hcheck]
      refine ⟨fun _ => ⟨hkeys, fun h => absurd h hunknown, fun h => absurd h hunknown, ?_⟩,
        fun _ => settled_refused _⟩
      intro source env patterns e h
      exact absurd h hunknown
    · rw [hcheck]
      exact ⟨fun h => absurd h not_settled_fieldNotText, fun h => absurd h.keys hkeys⟩

/-! ### Files -/

/-- A file that holds a document gives a record that passes every check, or a refusal. -/
def FileSettled (x : Except FileFailure Record) : Prop :=
  (∃ r, x = .ok r ∧ r.Valid) ∨ ∃ e, x = .error (.mapping (.refused e))

theorem fileSettled_mapping (x : Except Failure Record) :
    FileSettled (x.mapError .mapping) ↔ Settled x := by
  cases x <;> simp [FileSettled, Settled, Except.mapError]

theorem readRecord_eq {root : Tree} {p : Path} {v : Value} (h : Document.read root p = .ok v) :
    readRecord root p = match v.unrolled with
      | .null => (ofMapping []).mapError .mapping
      | .map m => (ofMapping m).mapError .mapping
      | _ => .error (.mapping (.refused (.notMapping p.text))) := by
  simp only [readRecord, readMapping, h, Except.mapError, bind, Except.bind]
  cases v.unrolled <;> rfl

theorem tellable_nil : Tellable [] where
  keys := nofun
  env _ h := absurd rfl h
  patterns _ h := absurd rfl h
  record := nofun

/-- Whatever the keys and values of the answers are, and wherever they come from, they give a record
that passes every check or are refused, exactly if all that is wrong with them can be told. -/
theorem settled_iff_tellable (root : Tree) (p : Path) (m : Mapping) :
    (Settled (ofMapping m) ↔ Tellable m) ∧
    (FileSettled (readRecord root p) ↔
      ∃ v, Document.read root p = .ok v ∧ ∀ m, v.unrolled = .map m → Tellable m) := by
  refine ⟨settled_ofMapping_iff m, ?_⟩
  cases hread : Document.read root p with
  | error f =>
    rw [readRecord, readMapping, hread]
    simp [FileSettled, Except.mapError, bind, Except.bind]
  | ok v =>
    rw [readRecord_eq hread]
    simp only [Except.ok.injEq, exists_eq_left']
    split
    · rename_i hnull
      rw [fileSettled_mapping, settled_ofMapping_iff]
      refine ⟨fun _ m hm => ?_, fun _ => tellable_nil⟩
      rw [hnull] at hm
      cases hm
    · rename_i m hmap
      rw [fileSettled_mapping, settled_ofMapping_iff, hmap]
      simp
    · rename_i hnull hmap
      exact ⟨fun _ m hm => absurd hm (hmap m), fun _ => .inr ⟨_, rfl⟩⟩

/-- A folder with a file of answers. -/
def answersIn (text : String) : Tree := .folder [("answers.yaml", .file (Text.Utf8.encode text))]

/-- A number that stands where a field is to be named is neither accepted nor refused. -/
theorem not_settled_numbered :
    (∃ v, Document.read (answersIn "1: a\n") (.ofString "answers.yaml") = .ok v) ∧
    ¬ FileSettled (readRecord (answersIn "1: a\n") (.ofString "answers.yaml")) := by
  have hread : ((readRecord (answersIn "1: a\n") (.ofString "answers.yaml")).map fun _ => ()).mapError
      (· == .mapping .fieldNotText) = .error true := by decide +kernel
  refine ⟨Failing.exists_ok_of_isSome (by decide +kernel), ?_⟩
  rintro (⟨r, hr, -⟩ | ⟨e, he⟩)
  · rw [hr] at hread
    cases hread
  · rw [he] at hread
    exact absurd (Except.error.inj hread) Bool.false_ne_true

end LintConfig.Answers
