import LintConfig.Proofs.Files.Writing
import LintConfig.Proofs.Json.Ascii
import LintConfig.Proofs.Yaml.Ascii

/-! # Nothing is lost in JSON and JavaScript

The document of a configuration names its sections, and a section that is empty is left out; so a
section that is missing stands for an empty one, and the configuration can be put together again. In
JSON the document is read back as it is, with the keys in their order. So two configurations with the
same text are the same. Only an integer with more digits than are written is in the way. -/
namespace LintConfig
open Json (isJson areJson entriesJson)

/-! ### Long integers -/

namespace Value

/-- An integer is long if it has more decimal digits than the limit. -/
theorem isLong_integer {n : Int} : (Value.integer n).isLong = false ↔
    (Nat.toDigits 10 n.natAbs).length ≤ Number.digitLimit := by
  rw [Value.isLong, decide_eq_false_iff_not, Nat.not_le, Nat.length_toDigits_le_iff]
  all_goals decide

theorem sameScalar_texts (s t : String) : (Value.text s).sameScalar (.text t) = (s == t) := rfl

theorem areLong_texts (texts : List String) : areLong (texts.map .text) = false := by
  induction texts with
  | nil => rfl
  | cons s texts ih =>
    rw [List.map_cons, areLong, ih]
    rfl

end Value

namespace Entries
variable {α : Type}

theorem get?_append (name : String) (es fs : Entries α) :
    get? name (es ++ fs) = (get? name es).or (get? name fs) := by
  induction es with
  | nil => rfl
  | cons e es ih =>
    rw [List.cons_append, get?, get?, ih]
    split <;> rfl

end Entries

namespace Fragment

theorem isLong_entries (es : Entries Value) :
    (entriesValue es).isLong = es.any fun e => e.2.isLong := by
  rw [entriesValue, Value.isLong]
  induction es with
  | nil => rfl
  | cons e es ih =>
    rw [List.map_cons, Value.entriesLong, ih]
    rfl

theorem isJson_entries (es : Entries Value) : isJson (entriesValue es) = true ↔
    (Entries.names es).Nodup ∧ ∀ e ∈ es, isJson e.2 = true := by
  rw [entriesValue, isJson]
  induction es with
  | nil => simp [entriesJson, Entries.names]
  | cons e es ih =>
    have hfresh : ∀ named : String × Value → Value × Value, (∀ f, (named f).1 = .text f.1) →
        (((es.map named).all fun f => !(Value.text e.1).sameScalar f.1) = true ↔
          e.1 ∉ Entries.names es) := by
      intro named hnamed
      simp only [List.all_map, List.all_eq_true, Function.comp_apply, hnamed,
        Value.sameScalar_texts, Bool.not_eq_true', beq_eq_false_iff_ne, Entries.names,
        List.mem_map, not_exists, not_and]
      exact forall₂_congr fun f _ => ne_comm
    have hnames : Entries.names (e :: es) = e.1 :: Entries.names es := rfl
    rw [List.map_cons, entriesJson, Bool.and_eq_true, Bool.and_eq_true,
      hfresh _ fun _ => rfl, ih, hnames,
      List.nodup_cons, List.forall_mem_cons]
    tauto

theorem isJson_flags (es : Entries Bool) :
    isJson (flagsValue es) = true ↔ (Entries.names es).Nodup := by
  have hnames : ∀ flag : String × Bool → String × Value, (∀ e, (flag e).1 = e.1) →
      Entries.names (es.map flag) = Entries.names es := by
    intro flag hflag
    rw [Entries.names, List.map_map]
    exact List.map_congr_left fun e _ => hflag e
  rw [flagsValue, isJson_entries, hnames _ fun _ => rfl, and_iff_left_iff_imp]
  intro _ e he
  obtain ⟨⟨k, b⟩, -, rfl⟩ := List.mem_map.mp he
  rfl

/-! ### Plain configurations -/

/-- The names of a section are different, and JSON has a form for every setting. -/
structure Plain (f : Fragment) : Prop where
  rules : (Entries.names f.rules).Nodup
  env : (Entries.names f.env).Nodup
  ecmaFeatures : (Entries.names f.ecmaFeatures).Nodup
  settings : ∀ rule ∈ f.rules, isJson rule.2 = true

theorem mem_sectionOf {name : String} {isEmpty : Bool} {v : Value} {e : String × Value} :
    e ∈ sectionOf name isEmpty v ↔ isEmpty = false ∧ e = (name, v) := by
  cases isEmpty <;> simp [sectionOf]

theorem names_sections (f : Fragment) : (Entries.names f.sections).Sublist
    ["extends", "env", "parserOptions", "plugins", "rules"] := by
  have hsection : ∀ name isEmpty v, (Entries.names (sectionOf name isEmpty v)).Sublist [name] := by
    intro name isEmpty v
    cases isEmpty
    · exact List.Sublist.refl _
    · exact List.nil_sublist _
  have hbase : (Entries.names (f.base.map fun b => ("extends", Value.text b)).toList).Sublist
      ["extends"] := by
    cases f.base
    · exact List.nil_sublist _
    · exact List.Sublist.refl _
  simp only [sections, Entries.names, List.map_append]
  exact ((((hbase.append (hsection ..)).append (hsection ..)).append (hsection ..)).append
    (hsection ..))

theorem mem_sections {f : Fragment} {e : String × Value} : e ∈ f.sections ↔
    (∃ b, f.base = some b ∧ e = ("extends", .text b)) ∨
    (f.env.isEmpty = false ∧ e = ("env", flagsValue f.env)) ∨
    (f.ecmaFeatures.isEmpty = false ∧
      e = ("parserOptions", entriesValue [("ecmaFeatures", flagsValue f.ecmaFeatures)])) ∨
    (f.plugins.isEmpty = false ∧ e = ("plugins", .list (f.plugins.map .text))) ∨
    (f.rules.isEmpty = false ∧ e = ("rules", entriesValue f.rules)) := by
  have hbase : e ∈ (f.base.map fun b => ("extends", Value.text b)).toList ↔
      ∃ b, f.base = some b ∧ e = ("extends", .text b) := by
    cases f.base <;> simp
  simp only [sections, List.mem_append, mem_sectionOf, hbase, or_assoc]

theorem areJson_texts (texts : List String) : areJson (texts.map .text) = true := by
  induction texts with
  | nil => rfl
  | cons s texts ih => rw [List.map_cons, areJson, ih]; rfl

theorem Plain.isJson_document {f : Fragment} (h : f.Plain) : isJson f.document = true := by
  rw [document, isJson_entries]
  refine ⟨(by decide : ["extends", "env", "parserOptions", "plugins", "rules"].Nodup).sublist
    f.names_sections, ?_⟩
  intro e he
  obtain ⟨b, -, rfl⟩ | ⟨-, rfl⟩ | ⟨-, rfl⟩ | ⟨-, rfl⟩ | ⟨-, rfl⟩ := mem_sections.mp he
  · rfl
  · exact (isJson_flags _).mpr h.env
  · refine (isJson_entries _).mpr ⟨List.nodup_singleton _, fun e he => ?_⟩
    rw [List.mem_singleton.mp he]
    exact (isJson_flags _).mpr h.ecmaFeatures
  · exact areJson_texts f.plugins
  · exact (isJson_entries _).mpr ⟨h.rules, h.settings⟩

theorem isLong_flags (es : Entries Bool) : (flagsValue es).isLong = false := by
  rw [flagsValue, isLong_entries, List.any_eq_false]
  intro e he
  obtain ⟨⟨k, b⟩, -, rfl⟩ := List.mem_map.mp he
  exact Bool.false_ne_true

/-- The document has a long integer if a setting has one. -/
theorem isLong_document (f : Fragment) :
    f.document.isLong = false ↔ ∀ rule ∈ f.rules, rule.2.isLong = false := by
  have hrules : (entriesValue f.rules).isLong = false ↔ ∀ rule ∈ f.rules, rule.2.isLong = false := by
    simp [isLong_entries]
  rw [← hrules, document, isLong_entries, List.any_eq_false]
  constructor
  · intro h
    cases hempty : f.rules with
    | nil => rfl
    | cons rule rules =>
      rw [← hempty]
      have hmem : ("rules", entriesValue f.rules) ∈ f.sections := by
        simp [mem_sections, hempty]
      exact eq_false_of_ne_true (h _ hmem)
  · intro h e he
    obtain ⟨b, -, rfl⟩ | ⟨-, rfl⟩ | ⟨-, rfl⟩ | ⟨-, rfl⟩ | ⟨-, rfl⟩ := mem_sections.mp he
    · exact Bool.false_ne_true
    · exact ne_true_of_eq_false (isLong_flags _)
    · rw [isLong_entries]
      simp [isLong_flags]
    · exact ne_true_of_eq_false (Value.areLong_texts f.plugins)
    · exact ne_true_of_eq_false h

/-! ### Reading a configuration back -/

/-- An entry whose key is a text. -/
def entry? : Value × Value → Option (String × Value)
  | (.text k, v) => some (k, v)
  | _ => none

def entries? : Value → Option (Entries Value)
  | .map entries => entries.mapM entry?
  | _ => none

def flag? : String × Value → Option (String × Bool)
  | (k, .bool b) => some (k, b)
  | _ => none

def flags? (v : Value) : Option (Entries Bool) := do (← entries? v).mapM flag?

def text? : Value → Option String
  | .text s => some s
  | _ => none

def texts? : Value → Option (List String)
  | .list items => items.mapM text?
  | _ => none

/-- A section of a document. One that is missing is empty. -/
def part? {α : Type} (name : String) (read : Value → Option α) (empty : α)
    (document : Entries Value) : Option α :=
  match document.get? name with
  | some v => read v
  | none => some empty

/-- The configuration that has a document. -/
def ofDocument? (document : Value) : Option Fragment := do
  let sections ← entries? document
  let base ← part? "extends" (fun v => (text? v).map some) none sections
  let env ← part? "env" flags? [] sections
  let options ← part? "parserOptions" entries? [] sections
  let ecmaFeatures ← part? "ecmaFeatures" flags? [] options
  let plugins ← part? "plugins" texts? [] sections
  let rules ← part? "rules" entries? [] sections
  return { rules, env, ecmaFeatures, plugins, base }

theorem mapM_map_some {α β : Type} {write : α → β} {read : β → Option α}
    (h : ∀ x, read (write x) = some x) (xs : List α) : (xs.map write).mapM read = some xs := by
  induction xs with
  | nil => rfl
  | cons x xs ih =>
    rw [List.map_cons, List.mapM_cons, h, Option.bind_eq_bind, Option.bind_some, ih]
    rfl

theorem entries_entriesValue (es : Entries Value) : entries? (entriesValue es) = some es := by
  have hentry : ∀ e : String × Value, entry? (.text e.1, e.2) = some e := fun _ => rfl
  exact mapM_map_some hentry es

theorem flags_flagsValue (es : Entries Bool) : flags? (flagsValue es) = some es := by
  have hflag : ∀ e : String × Bool, flag? (e.1, .bool e.2) = some e := fun _ => rfl
  rw [flags?, flagsValue, entries_entriesValue, Option.bind_eq_bind, Option.bind_some]
  exact mapM_map_some hflag es

theorem texts_list (texts : List String) : texts? (.list (texts.map .text)) = some texts := by
  have htext : ∀ s : String, text? (.text s) = some s := fun _ => rfl
  exact mapM_map_some htext texts

theorem get?_sectionOf (name other : String) (isEmpty : Bool) (v : Value) :
    Entries.get? name (sectionOf other isEmpty v) =
      if other = name ∧ isEmpty = false then some v else none := by
  cases isEmpty <;> simp [sectionOf, Entries.get?]

theorem get?_base (name : String) (base : Option String) :
    Entries.get? name (base.map fun b => ("extends", Value.text b)).toList =
      if "extends" = name then base.map .text else none := by
  cases base <;> simp [Entries.get?]

/-- A section that is left out when it is empty is read back. -/
theorem part_eq {α : Type} {name : String} {read : Value → Option α} {x empty : α}
    {document : Entries Value} {isEmpty : Bool} {v : Value}
    (hget : Entries.get? name document = if isEmpty = false then some v else none)
    (hread : isEmpty = false → read v = some x) (hempty : isEmpty = true → x = empty) :
    part? name read empty document = some x := by
  rw [part?, hget]
  cases isEmpty
  · exact hread rfl
  · rw [hempty rfl]
    rfl

section Sections
variable (f : Fragment)

theorem part_base :
    part? "extends" (fun v => (text? v).map some) none f.sections = some f.base := by
  have hget : Entries.get? "extends" f.sections = f.base.map .text := by
    simp [sections, Entries.get?_append, get?_sectionOf, get?_base]
  rw [part?, hget]
  cases f.base <;> rfl

theorem part_env : part? "env" flags? [] f.sections = some f.env := by
  refine part_eq ?_ (fun _ => flags_flagsValue f.env) List.isEmpty_iff.mp
  simp [sections, Entries.get?_append, get?_sectionOf, get?_base]

theorem part_options : part? "parserOptions" entries? [] f.sections =
    some (sectionOf "ecmaFeatures" f.ecmaFeatures.isEmpty (flagsValue f.ecmaFeatures)) := by
  have hget : Entries.get? "parserOptions" f.sections = if f.ecmaFeatures.isEmpty = false then
      some (entriesValue [("ecmaFeatures", flagsValue f.ecmaFeatures)]) else none := by
    simp [sections, Entries.get?_append, get?_sectionOf, get?_base]
  refine part_eq hget (fun hempty => ?_) (fun hempty => ?_)
  · rw [entries_entriesValue, hempty]
    rfl
  · rw [hempty]
    rfl

theorem part_ecmaFeatures : part? "ecmaFeatures" flags? []
    (sectionOf "ecmaFeatures" f.ecmaFeatures.isEmpty (flagsValue f.ecmaFeatures)) =
      some f.ecmaFeatures := by
  refine part_eq ?_ (fun _ => flags_flagsValue f.ecmaFeatures) List.isEmpty_iff.mp
  simp [get?_sectionOf]

theorem part_plugins : part? "plugins" texts? [] f.sections = some f.plugins := by
  refine part_eq ?_ (fun _ => texts_list f.plugins) List.isEmpty_iff.mp
  simp [sections, Entries.get?_append, get?_sectionOf, get?_base]

theorem part_rules : part? "rules" entries? [] f.sections = some f.rules := by
  refine part_eq ?_ (fun _ => entries_entriesValue f.rules) List.isEmpty_iff.mp
  simp [sections, Entries.get?_append, get?_sectionOf, get?_base]

end Sections

/-- All that a configuration holds can be read from its document. -/
theorem ofDocument_document (f : Fragment) : ofDocument? f.document = some f := by
  rw [ofDocument?, document, entries_entriesValue]
  simp only [Option.bind_eq_bind, Option.bind_some, part_base, part_env, part_options,
    part_ecmaFeatures, part_plugins, part_rules]
  rfl

theorem document_injective {f g : Fragment} (h : f.document = g.document) : f = g := by
  have hread := ofDocument_document f
  rw [h, ofDocument_document] at hread
  exact (Option.some.inj hread).symm

/-! ### Texts -/

/-- A text is the JSON of a configuration, and keeps all of it. -/
structure Kept (f : Fragment) (text : String) : Prop where
  json : f.write .json = .ok (text ++ "\n")
  javaScript : f.write .javaScript = .ok ("module.exports = " ++ text ++ ";\n")
  isAscii : ∀ format ≠ Format.yaml, ∀ written, f.write format = .ok written →
    Json.isAscii written.toList = true
  decoded : Json.decode? text = some f.document ∧ Json.decode? (text ++ "\n") = some f.document
  restored : ofDocument? f.document = some f
  /-- No other configuration has the same text. -/
  apart : ∀ g : Fragment, g.Plain →
    g.write .json = f.write .json ∨ g.write .javaScript = f.write .javaScript → g = f

theorem serialize_json (v : Value) : Format.json.serialize v = Json.write v ++ "\n" := rfl

theorem serialize_javaScript (v : Value) :
    Format.javaScript.serialize v = "module.exports = " ++ Json.write v ++ ";\n" := rfl

/-- Whatever a value holds, its text has printable characters and line feeds only. -/
theorem inked_serialize (format : Format) (v : Value) : Inked (format.serialize v).toList := by
  have hwrite : Inked (Json.write v).toList := Json.inked_write v
  cases format with
  | json =>
    rw [serialize_json, String.toList_append, Inked.append_iff]
    exact ⟨hwrite, by decide⟩
  | yaml =>
    have hdocument : (Format.yaml.serialize v).toList = Yaml.Writer.document v :=
      String.toList_ofList
    rw [hdocument]
    exact Yaml.inked_document v
  | javaScript =>
    rw [serialize_javaScript, String.toList_append, String.toList_append, Inked.append_iff,
      Inked.append_iff]
    exact ⟨⟨by decide, hwrite⟩, by decide⟩

theorem write_json_injective {v w : Value} (hv : isJson v = true) (hw : isJson w = true)
    (h : Json.write v = Json.write w) : v = w := by
  have hread := Json.decode_write hv Json.isSpace_nil
  rw [h, Json.decode_write hw Json.isSpace_nil] at hread
  exact (Option.some.inj hread).symm

/-- Both formats tell plain configurations apart. -/
theorem Plain.eq_of_serialize {f g : Fragment} (hf : f.Plain) (hg : g.Plain) {format : Format}
    (hformat : format ≠ .yaml) (h : format.serialize g.document = format.serialize f.document) :
    g = f := by
  refine document_injective (write_json_injective hg.isJson_document hf.isJson_document ?_)
  have hlist := congrArg String.toList h
  rw [← String.toList_inj]
  cases format with
  | json =>
    simpa only [serialize_json, String.toList_append, List.append_cancel_right_eq] using hlist
  | yaml => exact absurd rfl hformat
  | javaScript =>
    simpa only [serialize_javaScript, String.toList_append, List.append_assoc,
      List.append_cancel_left_eq, List.append_cancel_right_eq] using hlist

/-- Exactly if no integer of a setting is too long, a plain configuration is written in JSON and in
JavaScript, and nothing of it is lost. -/
theorem write_lossless_iff {f : Fragment} (h : f.Plain) :
    (∀ rule ∈ f.rules, rule.2.isLong = false) ↔ ∃ text, f.Kept text := by
  rw [← isLong_document]
  constructor
  · intro hshort
    have hwrite : ∀ format, f.write format = .ok (format.serialize f.document) := fun format =>
      Output.write_eq_ok.mpr ⟨hshort, rfl⟩
    have hapart : ∀ g : Fragment, g.Plain → ∀ format ≠ Format.yaml,
        g.write format = f.write format → g = f := by
      intro g hg format hformat hsame
      rw [hwrite] at hsame
      exact h.eq_of_serialize hg hformat (Output.write_eq_ok.mp hsame).2.symm
    have hdecode := Json.decode_write h.isJson_document Json.isSpace_nil
    rw [String.append_empty] at hdecode
    refine ⟨Json.write f.document, hwrite .json, hwrite .javaScript, ?_,
      ⟨hdecode, Json.decode_write h.isJson_document Json.isSpace_break⟩, ofDocument_document f, ?_⟩
    · intro format hformat written hwritten
      obtain ⟨-, rfl⟩ := Output.write_eq_ok.mp hwritten
      exact Json.isAscii_of_inked (inked_serialize format f.document)
    · rintro g hg (hsame | hsame)
      · exact hapart g hg .json nofun hsame
      · exact hapart g hg .javaScript nofun hsame
  · rintro ⟨text, hkept⟩
    exact (Output.write_eq_ok.mp hkept.json).1

/-- A configuration with every section, and a setting that is nested. -/
def nested : Fragment where
  rules := [("indent", .list [.integer 2, .integer (-4), .map [(.text "SwitchCase", .integer 1),
    (.text "\"\x7f\n", .list [.map [], .list [], .null, .bool false])]]), ("semi", .integer 0)]
  env := [("node", true), ("browser", false)]
  ecmaFeatures := [("jsx", true)]
  plugins := ["react"]
  base := some recommended

theorem write_lossless_nested : nested.Plain ∧ ∃ text, nested.Kept text := by
  have hplain : nested.Plain := ⟨by decide, by decide, by decide, by decide⟩
  exact ⟨hplain, (write_lossless_iff hplain).mp (by decide +kernel)⟩

/-- A configuration with an integer of 4302 digits. -/
def overlong : Fragment where
  rules := [("indent", .integer (16 ^ 3572))]

/-- No format has a text for it. -/
theorem write_overlong : overlong.Plain ∧ ∀ format, overlong.write format = .error {} := by
  refine ⟨⟨by decide, by decide, by decide, by decide⟩, fun format => ?_⟩
  have hlong : overlong.document.isLong = true := by decide +kernel
  rw [Fragment.write, Format.write, hlong]
  rfl

end Fragment

end LintConfig
