import LintConfig.Proofs.Keys
import LintConfig.Proofs.Suggestions

/-! # Which layer an answer comes from

The layers lie on top of each other key by key: the uppermost one that has a key says what its value
is. A flag that is not given has no place in its layer, so that it hides nothing. Hence it does not
matter whether answers are given as flags or in a file: both come to the same mapping, but for a null
in the file, which says no more than a field that is missing where it is accepted at all. -/
namespace LintConfig.Answers
open Command.Questions (Keyed)
open Files (Tree)

/-! ### Look-up -/

/-- The value of a key, whatever kind of key it is. -/
def valueOf (k : Value) (m : Mapping) : Option Value :=
  (m.find? fun e => e.1.sameScalar k).map (·.2)

/-- No key is there twice. -/
def Unrepeated (m : Mapping) : Prop := m.Pairwise fun e d => e.1.sameScalar d.1 = false

section LookUp
variable {m news : Mapping} {k key v : Value}

theorem valueOf_cons : valueOf k ((key, v) :: m) = if key.sameScalar k then some v else valueOf k m := by
  unfold valueOf
  cases h : key.sameScalar k <;> simp [h]

theorem valueOf_eq_none : valueOf k m = none ↔ ∀ e ∈ m, e.1.sameScalar k = false := by
  simp [valueOf]

theorem valueOf_eq_none_of_fresh (hsame : key.sameScalar k = true)
    (hfresh : ∀ e ∈ m, key.sameScalar e.1 = false) : valueOf k m = none := by
  refine valueOf_eq_none.mpr fun e he => ?_
  rw [Value.sameScalar_comm, ← Value.sameScalar_congr hsame]
  exact hfresh e he

/-- A value that is assigned is the key's value, and that of no other key. -/
theorem valueOf_assign (m : Mapping) (k key v : Value) :
    valueOf k (Value.assign key v m) = if key.sameScalar k then some v else valueOf k m := by
  induction m with
  | nil => rw [Value.assign, valueOf_cons]
  | cons e m ih =>
    obtain ⟨first, w⟩ := e
    rw [Value.assign]
    cases hsame : first.sameScalar key with
    | true =>
      rw [if_pos rfl, valueOf_cons, valueOf_cons, Value.sameScalar_congr hsame]
      split <;> rfl
    | false =>
      rw [if_neg Bool.false_ne_true, valueOf_cons, valueOf_cons, ih]
      cases hfirst : first.sameScalar k with
      | false => rfl
      | true =>
        -- the first key is the one looked for, so the key that is assigned to is another one
        have hkey : key.sameScalar k = false := by
          rw [Value.sameScalar_comm, ← Value.sameScalar_congr hfirst, hsame]
        rw [hkey]
        rfl

/-- What is new counts, and what is not replaced stays. -/
theorem valueOf_update (h : Unrepeated news) (m : Mapping) (k : Value) :
    valueOf k (update m news) = (valueOf k news).or (valueOf k m) := by
  induction news generalizing m with
  | nil => rfl
  | cons e news ih =>
    obtain ⟨key, v⟩ := e
    obtain ⟨hfresh, hnews⟩ := List.pairwise_cons.mp h
    have hstep : update m ((key, v) :: news) = update (Value.assign key v m) news := rfl
    rw [hstep, ih hnews, valueOf_assign, valueOf_cons]
    cases hsame : key.sameScalar k with
    | false => rfl
    | true =>
      rw [valueOf_eq_none_of_fresh hsame hfresh]
      rfl

theorem unrepeated_given (h : Unrepeated m) : Unrepeated (given m) := List.Pairwise.filter _ h

/-- A key has a given value if it has a value other than null. -/
theorem valueOf_given (h : Unrepeated m) (k : Value) :
    valueOf k (given m) = (valueOf k m).filter (· != .null) := by
  induction m with
  | nil => rfl
  | cons e m ih =>
    obtain ⟨key, v⟩ := e
    obtain ⟨hfresh, hm⟩ := List.pairwise_cons.mp h
    have hgiven : given ((key, v) :: m) = if v != .null then (key, v) :: given m else given m :=
      List.filter_cons
    rw [hgiven, valueOf_cons]
    cases hsame : key.sameScalar k with
    | false =>
      rw [if_neg Bool.false_ne_true, ← ih hm]
      split
      · rw [valueOf_cons, hsame]
        rfl
      · rfl
    | true =>
      rw [if_pos rfl, Option.filter_some]
      split
      · rw [valueOf_cons, hsame]
        rfl
      · exact valueOf_eq_none_of_fresh hsame fun e he => hfresh e (List.mem_of_mem_filter he)

/-- Fields are looked up like all other keys. -/
theorem get?_eq_valueOf (h : Keyed m) (field : String) : m.get? field = valueOf (.text field) m := by
  unfold Mapping.get? Value.lookup? valueOf
  congr 1
  induction m with
  | nil => rfl
  | cons e m ih =>
    obtain ⟨name, -, hname⟩ := h e List.mem_cons_self
    have hsame : (e.1.text? == some field) = e.1.sameScalar (.text field) := by
      rw [hname]
      rfl
    rw [List.find?_cons, List.find?_cons, hsame, ih fun d hd => h d (List.mem_cons_of_mem _ hd)]

end LookUp

/-! ### Layers -/

/-- The answers in the file that is named, if one is. -/
def fileAnswers (root : Tree) : Option String → Except FileFailure Mapping
  | some name => if name == "" then .ok [] else readMapping root (.ofString name)
  | none => .ok []

/-- What is answered under a key: what patterns ask for, else the flag that is given, else what the
file says, else what holds if nothing is said. -/
def answered (format : String) (file flags : Mapping) (patterns : List String) (k : Value) :
    Option Value :=
  if patterns ≠ [] ∧ k = .text "source" then some (.text "auto")
  else if patterns ≠ [] ∧ k = .text "patterns" then some (.list (patterns.map .text))
  else match (valueOf k flags).filter (· != .null), valueOf k file with
    | some v, _ => some v
    | none, some v => some v
    | none, none =>
      if k = .text "source" then some (.text "prompt")
      else if k = .text "format" then some (.text format)
      else none

section Layers
variable {root : Tree} {format : String} {file flags : Mapping} {patterns : List String} {k : Value}

theorem gather_eq (root : Tree) (format : String) (name : Option String) (flags : Mapping)
    (patterns : List String) : gather root format name flags patterns =
      (fileAnswers root name).map fun file => layered format file flags patterns := by
  unfold gather fileAnswers
  cases name with
  | none => rfl
  | some name =>
    dsimp only
    split
    · rfl
    · cases readMapping root (.ofString name) <;> rfl

theorem valueOf_text {s : String} {v : Value} {m : Mapping} :
    valueOf k ((.text s, v) :: m) = if k = .text s then some v else valueOf k m := by
  rw [valueOf_cons]
  by_cases hk : k = .text s
  · rw [if_pos (Value.sameScalar_text.mpr hk), if_pos hk]
  · rw [if_neg (mt Value.sameScalar_text.mp hk), if_neg hk]

theorem valueOf_basis (format : String) (k : Value) : valueOf k (basis format) =
    if k = .text "source" then some (.text "prompt")
    else if k = .text "format" then some (.text format) else none := by
  rw [basis, valueOf_text, valueOf_text]
  rfl

theorem unrepeated_ofPatterns (patterns : List String) : Unrepeated (ofPatterns patterns) := by
  unfold ofPatterns
  split
  · exact List.Pairwise.nil
  · simp [Unrepeated, Value.sameScalar, Value.integer?]

theorem valueOf_ofPatterns (patterns : List String) (k : Value) : valueOf k (ofPatterns patterns) =
    if patterns ≠ [] ∧ k = .text "source" then some (.text "auto")
    else if patterns ≠ [] ∧ k = .text "patterns" then some (.list (patterns.map .text)) else none := by
  unfold ofPatterns
  cases patterns with
  | nil => rfl
  | cons p patterns =>
    simp only [List.isEmpty_cons, Bool.false_eq_true, if_false, valueOf_text, ne_eq, reduceCtorEq,
      not_false_eq_true, true_and]
    rfl

/-- The uppermost layer that has a key says what its value is. -/
theorem valueOf_layered (hfile : Unrepeated file) (hflags : Unrepeated flags) (k : Value) :
    valueOf k (layered format file flags patterns) = answered format file flags patterns k := by
  rw [layered, valueOf_update (unrepeated_ofPatterns patterns),
    valueOf_update (unrepeated_given hflags), valueOf_update hfile, valueOf_ofPatterns,
    valueOf_given hflags, valueOf_basis, answered]
  split
  · rfl
  · split
    · rfl
    · cases (valueOf k flags).filter (· != .null) <;> cases valueOf k file <;> rfl

end Layers

/-! ### The same answers -/

/-- Answers under names of fields, each of them given once. -/
structure Fields (m : Mapping) : Prop where
  keyed : Keyed m
  unrepeated : Unrepeated m

section Sameness
variable {m m' : Mapping} {r : Record}

theorem keyed_update (hm : Keyed m) (h : Keyed m') : Keyed (update m m') := by
  induction m' generalizing m with
  | nil => exact hm
  | cons e m' ih =>
    obtain ⟨⟨field, hfield, hname⟩, hrest⟩ := List.forall_mem_cons.mp h
    obtain ⟨key, v⟩ := e
    obtain rfl : key = .text field := hname
    exact ih (hm.answer hfield v) hrest

theorem keyed_layered {file flags : Mapping} (hfile : Keyed file) (hflags : Keyed flags) (format : String)
    (patterns : List String) : Keyed (layered format file flags patterns) := by
  have hbasis : Keyed (basis format) := by
    simp [Keyed, basis, fieldNames]
  have hpatterns : Keyed (ofPatterns patterns) := by
    unfold ofPatterns
    split <;> simp [Keyed, fieldNames]
  exact keyed_update (keyed_update (keyed_update hbasis hfile) fun e he =>
    hflags e (List.mem_of_mem_filter he)) hpatterns

/-- A null is accepted only where it stands for nothing. -/
theorem fallback_of_null {source : Value} {env patterns : List String}
    (h : (m.record source env patterns).Valid) :
    ∀ p ∈ Command.Questions.optional, m.get? p.1 = some .null → p.2 = .null := by
  have hword : ∀ {field fallback : String} {words : List String},
      (∃ word ∈ words, ((m.get? field).getD (.text fallback)).text? = some word) →
      m.get? field ≠ some .null := by
    rintro field fallback words ⟨word, -, hword⟩ hnull
    rw [hnull] at hword
    cases hword
  have hbool : ∀ {field : String} {fallback : Bool},
      (∃ b, (m.get? field).getD (.bool fallback) = .bool b) → m.get? field ≠ some .null := by
    rintro field fallback ⟨b, hb⟩ hnull
    rw [hnull] at hb
    cases hb
  have hindent : m.get? "indent" ≠ some .null := by
    intro hnull
    have hindent : (∃ n : Int, 0 < n ∧ (m.get? "indent").getD (.integer 4) = .integer n) ∨
        (m.get? "indent").getD (.integer 4) = .text "tab" := h.indent
    rw [hnull] at hindent
    obtain ⟨n, -, hn⟩ | htab := hindent
    · cases hn
    · cases htab
  simp only [Command.Questions.optional, List.forall_mem_cons, List.not_mem_nil, false_imp_iff,
    implies_true, and_true, true_and]
  exact ⟨fun h' => absurd h' hindent, fun h' => absurd h' (hword h.quotes),
    fun h' => absurd h' (hword h.linebreak), fun h' => absurd h' (hbool h.semi),
    fun h' => absurd h' (hbool h.es6), fun h' => absurd h' (hbool h.jsx),
    fun h' => absurd h' (hbool h.react), fun h' => absurd h' (hbool h.commonjs),
    fun h' => absurd h' (hword h.format)⟩

/-- A mapping that says the same, and nothing in place of a null, is accepted for the same record. -/
theorem ofMapping_of_same (hm' : Keyed m') (hok : ofMapping m = .ok r)
    (hsame : ∀ field, m'.get? field = m.get? field ∨
      m.get? field = some .null ∧ (m'.get? field = none ∨ field = "source" ∨ field = "format")) :
    ofMapping m' = .ok r := by
  obtain ⟨-, source, env, patterns, hsource, henv, hpatterns, hvalid, rfl⟩ := ofMapping_eq_ok.mp hok
  have hnulls := fallback_of_null hvalid
  have hsource' : m'.get? "source" = some source := by
    obtain heq | ⟨hnull, -⟩ := hsame "source"
    · rw [heq, hsource]
    · obtain ⟨word, -, hword⟩ := hvalid.source
      have hnull : source = .null := Option.some.inj (hsource.symm.trans hnull)
      subst hnull
      cases hword
  have hnames : ∀ field, field ≠ "source" → field ≠ "format" → m'.names field = m.names field := by
    intro field hne hne'
    unfold Mapping.names
    obtain heq | ⟨hnull, hnone | rfl | rfl⟩ := hsame field
    · rw [heq]
    · rw [hnull, hnone]
      rfl
    · contradiction
    · contradiction
  have hknown : ∀ p ∈ Command.Questions.optional,
      Command.Questions.known m' p.1 p.2 = Command.Questions.known m p.1 p.2 := by
    intro p hp
    unfold Command.Questions.known
    obtain heq | ⟨hnull, hnone | hfield | hfield⟩ := hsame p.1
    · rw [heq]
    · rw [hnull, hnone, hnulls p hp hnull]
      rfl
    · exact absurd hfield (Command.Questions.optional_fields p hp).2.1
    · have hfallback := hnulls p hp hnull
      have hformat : ∀ p ∈ Command.Questions.optional, p.1 = "format" → p.2 ≠ .null := by decide
      exact absurd hfallback (hformat p hp hfield)
  have hrecord := Command.Questions.record_congr hknown source env patterns
  refine ofMapping_eq_ok.mpr ⟨hm'.unknownKeys, source, env, patterns, hsource', ?_, ?_, ?_, hrecord⟩
  · rwa [hnames "env" (by decide) (by decide)]
  · rwa [hnames "patterns" (by decide) (by decide)]
  · rwa [hrecord]

end Sameness

/-- Whether answers are given as flags or in the file is one, but that only the file can say null. -/
theorem ofMapping_flags {format : String} {file : Mapping} {patterns : List String} {r : Record}
    (hfile : Fields file) (h : ofMapping (layered format file [] patterns) = .ok r) :
    ofMapping (layered format [] file patterns) = .ok r := by
  have hnothing : Fields [] := ⟨fun _ h => absurd h List.not_mem_nil, List.Pairwise.nil⟩
  have hkeyed := keyed_layered hfile.keyed hnothing.keyed format patterns
  have hkeyed' := keyed_layered hnothing.keyed hfile.keyed format patterns
  refine ofMapping_of_same hkeyed' h fun field => ?_
  rw [get?_eq_valueOf hkeyed', get?_eq_valueOf hkeyed,
    valueOf_layered hnothing.unrepeated hfile.unrepeated,
    valueOf_layered hfile.unrepeated hnothing.unrepeated, answered, answered]
  split
  · exact .inl rfl
  · split
    · exact .inl rfl
    · obtain hnone | ⟨v, hv⟩ := Option.eq_none_or_eq_some (valueOf (.text field) file)
      · rw [hnone]
        exact .inl rfl
      · rw [hv]
        by_cases hnull : v = .null
        · -- as a flag a null says nothing, so that what holds without it is left
          subst hnull
          refine .inr ⟨rfl, ?_⟩
          by_cases hsource : field = "source"
          · exact .inr (.inl hsource)
          · by_cases hformat : field = "format"
            · exact .inr (.inr hformat)
            · refine .inl ?_
              have hsource' : Value.text field ≠ .text "source" := fun h => hsource (Value.text.inj h)
              have hformat' : Value.text field ≠ .text "format" := fun h => hformat (Value.text.inj h)
              rw [Option.filter_some, if_neg (by simp), if_neg hsource', if_neg hformat']
              rfl
        · left
          rw [Option.filter_some, if_pos (by simpa using hnull)]
          rfl

/-- The uppermost layer that has a key says what is answered: patterns, flags, the file, and what holds
if nothing is said. A flag that is not given hides nothing in the file. So the same answers come to
the same record, whichever of them are given as flags and which in the file. -/
theorem gather_answered {root : Tree} {format : String} {name : Option String}
    {file flags : Mapping} {patterns : List String} (hread : fileAnswers root name = .ok file)
    (hfile : Unrepeated file) (hflags : Unrepeated flags) :
    ∃ m, gather root format name flags patterns = .ok m ∧
      (∀ k, valueOf k m = answered format file flags patterns k) ∧
      (∀ k v, valueOf k file = some v → (∀ w, valueOf k flags = some w → w = .null) →
        (patterns = [] ∨ k ≠ .text "source" ∧ k ≠ .text "patterns") → valueOf k m = some v) ∧
      (∀ file' flags', Fields file → Fields flags → Fields file' → Fields flags' →
        (∀ k, answered format file' flags' patterns k = answered format file flags patterns k) →
        ∀ r, ofMapping m = .ok r → ofMapping (layered format file' flags' patterns) = .ok r) ∧
      (Fields file → given flags = [] →
        ∀ r, ofMapping m = .ok r → ofMapping (layered format [] file patterns) = .ok r) := by
  have hlayered : ∀ k, valueOf k (layered format file flags patterns) =
      answered format file flags patterns k := valueOf_layered hfile hflags
  refine ⟨layered format file flags patterns, by rw [gather_eq, hread]; rfl, hlayered, ?_, ?_, ?_⟩
  · intro k v hv hunset hpatterns
    have hgiven : (valueOf k flags).filter (· != .null) = none := by
      cases hflag : valueOf k flags with
      | none => rfl
      | some w =>
        rw [hunset w hflag]
        rfl
    rw [hlayered, answered, if_neg, if_neg, hgiven, hv]
    · rintro ⟨hne, hk⟩
      exact (hpatterns.resolve_left hne).2 hk
    · rintro ⟨hne, hk⟩
      exact (hpatterns.resolve_left hne).1 hk
  · intro file' flags' hfields hfields' hother hother' hsame r hr
    have hkeyed := keyed_layered hfields.keyed hfields'.keyed format patterns
    have hkeyed' := keyed_layered hother.keyed hother'.keyed format patterns
    refine ofMapping_of_same hkeyed' hr fun field => .inl ?_
    rw [get?_eq_valueOf hkeyed', get?_eq_valueOf hkeyed, hlayered,
      valueOf_layered hother.unrepeated hother'.unrepeated, hsame]
  · intro hfields hnone r hr
    refine ofMapping_flags hfields ?_
    rwa [layered, hnone] at hr

/-- A flag is taken in place of what the file says about quotes. No flag says whether there are
semicolons, so that the file does. -/
theorem gather_answered_over_file :
    fileAnswers (answersIn "quotes: double\nsemi: false\n") (some "answers.yaml") =
      .ok [(.text "quotes", .text "double"), (.text "semi", .bool false)] ∧
    ∃ m, gather (answersIn "quotes: double\nsemi: false\n") "YAML" (some "answers.yaml")
        [(.text "quotes", .text "single"), (.text "semi", .null)] [] = .ok m ∧
      valueOf (.text "quotes") m = some (.text "single") ∧
      valueOf (.text "semi") m = some (.bool false) ∧
      valueOf (.text "format") m = some (.text "YAML") := by
  have hread : fileAnswers (answersIn "quotes: double\nsemi: false\n") (some "answers.yaml") =
      .ok [(.text "quotes", .text "double"), (.text "semi", .bool false)] := by
    have hdocument : Document.read (answersIn "quotes: double\nsemi: false\n")
        (.ofString "answers.yaml") =
          .ok (.map [(.text "quotes", .text "double"), (.text "semi", .bool false)]) := by
      decide +kernel
    have hname : ("answers.yaml" == "") = false := by decide
    simp only [fileAnswers, hname, Bool.false_eq_true, if_false, readMapping, hdocument]
    rfl
  have hunrepeated : ∀ v w : Value, Unrepeated [(.text "quotes", v), (.text "semi", w)] := by
    simp [Unrepeated, Value.sameScalar, Value.integer?]
  obtain ⟨m, hm, hanswered, -, -⟩ := @gather_answered _ "YAML" _ _ _ [] hread
    (hunrepeated _ _) (hunrepeated (.text "single") .null)
  refine ⟨hread, m, hm, ?_, ?_, ?_⟩
  · rw [hanswered]
    decide +kernel
  · rw [hanswered]
    decide +kernel
  · rw [hanswered]
    decide +kernel

end LintConfig.Answers
