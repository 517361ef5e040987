import LintConfig.Proofs.Suggestions

/-! # Records are a normal form of answers

The fields of a record are a mapping again, and it stands for the same record. Names may be given in
other forms than a record has them in: as a list, or as a text with white space between them. -/
namespace LintConfig.Answers
open Command.Questions (Keyed known namesOf_texts optional_fields record_congr)

/-! ### The fields of a record -/

/-- The fields of a record in their order, each with its value. -/
def Record.fields (r : Record) : List (String × Value) :=
  [("source", r.source), ("style_guide", r.styleGuide), ("indent", r.indent), ("quotes", r.quotes),
   ("linebreak", r.linebreak), ("semi", r.semi), ("es6", r.es6), ("env", .tuple (r.env.map .text)),
   ("jsx", r.jsx), ("react", r.react), ("commonjs", r.commonjs),
   ("patterns", .tuple (r.patterns.map .text)), ("format", r.format)]

/-- A record as a mapping. -/
def Record.mapping (r : Record) : Mapping := r.fields.map fun e => (.text e.1, e.2)

theorem Record.fields_names (r : Record) : r.fields.map (·.1) = fieldNames := rfl

theorem Record.keyed_mapping (r : Record) : Keyed r.mapping := by
  intro e he
  obtain ⟨d, hd, rfl⟩ := List.mem_map.mp he
  exact ⟨d.1, r.fields_names ▸ List.mem_map_of_mem hd, rfl⟩

/-- The mapping of a record spells the record. -/
theorem Record.record_mapping (r : Record) :
    r.mapping.record r.source r.env r.patterns = r := rfl

/-- A record that passes every check is what its fields spell. -/
theorem ofMapping_mapping {r : Record} (h : r.Valid) : ofMapping r.mapping = .ok r := by
  refine ofMapping_eq_ok.mpr ⟨r.keyed_mapping.unknownKeys, r.source, r.env, r.patterns, rfl,
    namesOf_texts "env" r.env, namesOf_texts "patterns" r.patterns, ?_, r.record_mapping⟩
  rwa [r.record_mapping]

/-- What is read from a mapping is a normal form of it. -/
structure Normal (m : Mapping) (r : Record) : Prop where
  again : ofMapping r.mapping = .ok r
  valid : r.validate = .ok ()
  /-- What is given for a field is its value, but that the names are put into a normal form. -/
  given : ∀ e ∈ r.fields, e.1 ≠ "env" → e.1 ≠ "patterns" → ∀ v, m.get? e.1 = some v → e.2 = v
  /-- What is not given is what it is by default. -/
  missing : ∀ e ∈ r.fields, m.get? e.1 = none → e ∈ ({ source := r.source } : Record).fields

theorem normal_of_ofMapping {m : Mapping} {r : Record} (h : ofMapping m = .ok r) : Normal m r := by
  obtain ⟨-, source, env, patterns, hsource, henv, hpatterns, hvalid, rfl⟩ := ofMapping_eq_ok.mp h
  have hnames : ∀ {field names}, namesOf field (m.names field) = .ok names → m.get? field = none →
      names = [] := by
    intro field names hnames hnone
    rw [Mapping.names, hnone] at hnames
    exact (Except.ok.inj hnames).symm
  refine ⟨ofMapping_mapping hvalid, validate_eq_ok.mpr hvalid, ?_, ?_⟩
  · -- apart from the names a field is looked up, and it has been found
    simp +contextual [Record.fields, Mapping.record, hsource]
  · have henv := hnames henv
    have hpatterns := hnames hpatterns
    simp +contextual [Record.fields, Mapping.record, henv, hpatterns]

/-! ### Names -/

/-- A text of names: white space is between them, and maybe around them. -/
inductive Spelled : List String → List Char → Prop
  | nil {blank : List Char} : Text.isAllBlank blank = true → Spelled [] blank
  | cons {blank : List Char} {name : String} {names : List String} {rest : List Char} :
    Text.isAllBlank blank = true → name ≠ "" → name.toList.any Text.isBlank = false →
    rest.head?.all Text.isBlank = true → Spelled names rest →
    Spelled (name :: names) (blank ++ name.toList ++ rest)

theorem words_blank_append {blank : List Char} (h : Text.isAllBlank blank = true)
    (rest : List Char) : Text.words (blank ++ rest) = Text.words rest := by
  induction blank with
  | nil => rfl
  | cons c blank ih =>
    obtain ⟨hc, hblank⟩ := Bool.and_eq_true_iff.mp h
    rw [List.cons_append, Text.words_cons_blank hc, ih hblank]

/-- White space after a text keeps its words apart from those that follow. -/
theorem words_append {text rest : List Char} (h : rest.head?.all Text.isBlank = true) :
    Text.words (text ++ rest) = Text.words text ++ Text.words rest := by
  cases rest with
  | nil => simp [Text.words]
  | cons c rest => rw [Text.words_append_blank h, Text.words_cons_blank h]

/-- The words of the text are the names. -/
theorem Spelled.words {names : List String} {text : List Char} (h : Spelled names text) :
    (Text.words text).map String.ofList = names := by
  induction h with
  | @nil blank hblank =>
    rw [← List.append_nil blank, words_blank_append hblank]
    rfl
  | @cons blank name names rest hblank hname hsolid hrest _ ih =>
    have hne : name.toList ≠ [] := by simpa using hname
    have hsolid : ∀ c ∈ name.toList, Text.isBlank c = false := by simpa using hsolid
    rw [List.append_assoc, words_blank_append hblank, words_append hrest, List.map_append, ih,
      Text.words_solid hsolid, if_neg hne, List.map_singleton, String.ofList_toList]
    rfl

theorem namesOf_spelled (field : String) {names : List String} {text : String}
    (h : Spelled names text.toList) : namesOf field (.text text) = .ok names := by
  rw [← h.words]
  rfl

theorem namesOf_tuple (field : String) (names : List String) :
    namesOf field (.tuple (names.map .text)) = .ok names :=
  namesOf_texts field names

section Forms
variable {m before after : Mapping} {field : String} {v w : Value}

theorem get?_append (before m : Mapping) (field : String) :
    Mapping.get? (before ++ m) field = (before.get? field).or (m.get? field) := by
  unfold Mapping.get? Value.lookup?
  rw [List.find?_append]
  cases before.find? fun e => e.1.text? == some field <;> rfl

theorem get?_text (field other : String) (v : Value) (m : Mapping) :
    Mapping.get? ((.text field, v) :: m) other = if field = other then some v else m.get? other := by
  unfold Mapping.get? Value.lookup?
  by_cases h : field = other <;> simp [Value.text?, h]

/-- A record takes from a mapping nothing but its fields and the names that are read from it. -/
theorem ofMapping_congr {m' : Mapping} (hkeys : m'.map (·.1) = m.map (·.1))
    (hfields : ∀ other, other ≠ "env" → other ≠ "patterns" → m'.get? other = m.get? other)
    (henv : namesOf "env" (m'.names "env") = namesOf "env" (m.names "env"))
    (hpatterns : namesOf "patterns" (m'.names "patterns") = namesOf "patterns" (m.names "patterns")) :
    ofMapping m' = ofMapping m := by
  have hunknown : checkKeys m' = checkKeys m := by
    unfold checkKeys unknownKeys
    rw [hkeys]
  have hrecord : ∀ source env patterns, m'.record source env patterns = m.record source env patterns := by
    refine record_congr fun p hp => ?_
    obtain ⟨-, -, hpatterns, henv⟩ := optional_fields p hp
    rw [known, known, hfields p.1 henv hpatterns]
  unfold Mapping.names at henv hpatterns
  unfold ofMapping
  rw [hunknown, hfields "source" (by decide) (by decide), henv, hpatterns]
  simp only [hrecord]

/-- One form of names is as good as another. -/
theorem ofMapping_names (hfield : field = "env" ∨ field = "patterns")
    (h : namesOf field v = namesOf field w) (before after : Mapping) :
    ofMapping (before ++ (.text field, v) :: after) = ofMapping (before ++ (.text field, w) :: after) := by
  have hnames : ∀ other, namesOf other ((before ++ (.text field, v) :: after : Mapping).names other) =
      namesOf other ((before ++ (.text field, w) :: after : Mapping).names other) := by
    intro other
    unfold Mapping.names
    rw [get?_append, get?_append, get?_text, get?_text]
    split
    · rename_i heq
      subst heq
      cases before.get? field with
      | none => exact h
      | some => rfl
    · rfl
  refine ofMapping_congr (by simp) (fun other hne hne' => ?_) (hnames "env") (hnames "patterns")
  have hother : field ≠ other := by
    rintro rfl
    exact hfield.elim hne hne'
  rw [get?_append, get?_append, get?_text, get?_text, if_neg hother, if_neg hother]

/-- A record has the names that are read for it. -/
theorem names_mem_fields {r : Record} {names : List String}
    (hfield : field = "env" ∨ field = "patterns") (h : ofMapping m = .ok r)
    (hnames : namesOf field (m.names field) = .ok names) :
    (field, .tuple (names.map .text)) ∈ r.fields := by
  obtain ⟨-, source, env, patterns, -, henv, hpatterns, -, rfl⟩ := ofMapping_eq_ok.mp h
  obtain rfl | rfl := hfield
  · rw [hnames] at henv
    cases henv
    simp [Record.fields, Mapping.record]
  · rw [hnames] at hpatterns
    cases hpatterns
    simp [Record.fields, Mapping.record]

end Forms

/-- A record that is read is a normal form: read again it stays as it is, and it says what the mapping
says and no more. Names are the same whether they come as a list, as a tuple or as a text. -/
theorem ofMapping_normal {field : String} {names : List String} {text : String}
    (hfield : field = "env" ∨ field = "patterns") (h : Spelled names text.toList) :
    (∀ m r, ofMapping m = .ok r → Normal m r) ∧
    ∀ before after : Mapping,
      ofMapping (before ++ (.text field, .tuple (names.map .text)) :: after) =
        ofMapping (before ++ (.text field, .list (names.map .text)) :: after) ∧
      ofMapping (before ++ (.text field, .text text) :: after) =
        ofMapping (before ++ (.text field, .list (names.map .text)) :: after) ∧
      ∀ r, before.get? field = none →
        ofMapping (before ++ (.text field, .text text) :: after) = .ok r →
        (field, .tuple (names.map .text)) ∈ r.fields := by
  have htext := namesOf_spelled field h
  refine ⟨fun m r => normal_of_ofMapping, fun before after => ⟨?_, ?_, ?_⟩⟩
  · refine ofMapping_names hfield ?_ before after
    rw [namesOf_tuple, namesOf_texts]
  · refine ofMapping_names hfield ?_ before after
    rw [htext, namesOf_texts]
  · intro r hfresh hr
    refine names_mem_fields hfield hr ?_
    rw [Mapping.names, get?_append, get?_text, hfresh, if_pos rfl]
    exact htext

/-- Two environments with a line break and a wide space between them. -/
theorem ofMapping_normal_environments :
    Spelled ["browser", "node"] " browser\n\u3000node".toList ∧
    ∃ r, ofMapping [(.text "source", .text "prompt"), (.text "env", .text " browser\n\u3000node")] = .ok r ∧
      Normal [(.text "source", .text "prompt"), (.text "env", .text " browser\n\u3000node")] r ∧
      ("env", .tuple [.text "browser", .text "node"]) ∈ r.fields := by
  have hnode : Spelled ["node"] (['\n', '\u3000'] ++ "node".toList ++ []) :=
    .cons (by decide) (by decide) (by decide) (by decide) (.nil (by decide))
  have hboth : Spelled ["browser", "node"] ([' '] ++ "browser".toList ++ (['\n', '\u3000'] ++
      "node".toList ++ [])) := .cons (by decide) (by decide) (by decide) (by decide) hnode
  have hspelled : Spelled ["browser", "node"] " browser\n\u3000node".toList := hboth
  obtain ⟨r, hr⟩ := Failing.exists_ok_of_isSome
    (x := ofMapping [(.text "source", .text "prompt"), (.text "env", .text " browser\n\u3000node")])
    (by decide +kernel)
  obtain ⟨hnormal, hforms⟩ := ofMapping_normal (.inl rfl) hspelled
  exact ⟨hspelled, r, hr, hnormal _ _ hr,
    (hforms [(.text "source", .text "prompt")] []).2.2 r rfl hr⟩

end LintConfig.Answers
