import LintConfig.Proofs.Contract
import LintConfig.Proofs.Suggestions
import LintConfig.Proofs.Yaml.WideKeys

/-! # Nothing is lost in YAML

A configuration that was synthesized, or merged from such ones, is written as YAML text that is read
as its document again: whatever its environments are called, in the same order and with the same
types. There are two exceptions. An integer can have more digits than are written; and a name that
stands on the line of its value can be wider than a key may be there, since it is measured before
the characters in it are replaced by escapes. -/
namespace LintConfig
open Command.Questions (RealHalves)
open Style (Rule)
open Yaml (Leaf Legible Tidy Wide)

/-! ### The settings of rules -/

/-- The options that can stand with a rule: texts and numbers without a sign. -/
inductive IsOption : Value → Prop
  | text (s : String) : IsOption (.text s)
  | natural (n : Nat) : IsOption (.integer n)

inductive IsSetting : Setting → Prop
  | off : IsSetting .off
  | error {v : Value} (h : IsOption v) : IsSetting (.error v)

namespace Synthesis
open Answers (Record)
open Files (Tree)

section Options
variable {r : Record} {rule : Rule} {v : Value}

theorem isOption_indent (h : Admits .indent v) : IsOption v := by
  obtain ⟨n, hn, rfl⟩ | rfl := h
  · obtain ⟨n, rfl⟩ := Int.eq_ofNat_of_zero_le (Int.le_of_lt hn)
    exact .natural n
  · exact .text "tab"

theorem isOption_candidate {c : Style.Candidate} (h : c ∈ rule.candidates) : IsOption c.value := by
  cases c with
  | number n =>
    have hadmits := admits_candidate h
    cases rule with
    | indent => exact isOption_indent hadmits
    | quotes | linebreak =>
      obtain ⟨word, -, hword⟩ := hadmits
      cases hword
    | semi =>
      obtain ⟨word, -, hword⟩ := hadmits
      cases hword
  | word s => exact .text s

/-- A word of ASCII characters is a text, if halves of surrogate pairs stand only where there are some. -/
theorem isOption_word (hreal : RealHalves v) {words : List String}
    (hascii : ∀ word ∈ words, word.toList.all (·.toNat < 0x80) = true)
    (h : ∃ word ∈ words, v.text? = some word) : IsOption v := by
  obtain ⟨word, hword, htext⟩ := h
  rw [hreal.eq_text htext (hascii word hword)]
  exact .text word

theorem isOption_styleOption (h : r.Valid) (hquotes : RealHalves r.quotes)
    (hlinebreak : RealHalves r.linebreak) (rule : Rule) : IsOption (r.styleOption rule) := by
  cases rule with
  | indent => exact isOption_indent (admits_styleOption h .indent)
  | quotes => exact isOption_word hquotes (by decide) h.quotes
  | linebreak => exact isOption_word hlinebreak (by decide) h.linebreak
  | semi => exact .text _

end Options

/-- Each setting is for one of the style rules. -/
structure IsRuling (e : String × Setting) : Prop where
  name : ∃ rule : Rule, e.1 = rule.name
  setting : IsSetting e.2

theorem isRuling_of_synthesize {root : Tree} {o : Scan.Options} {r : Record} {out : Outcome}
    (h : synthesize root o r = .ok out) (hquotes : RealHalves r.quotes) (hlinebreak : RealHalves r.linebreak) :
    ∀ e ∈ out.fragment.rules, IsRuling e := by
  have hall : ∀ {setting : Rule → Setting}, (∀ rule, IsSetting (setting rule)) →
      ∀ e ∈ Rule.all.map fun rule => (rule.name, setting rule), IsRuling e := by
    intro setting hsetting e he
    obtain ⟨rule, -, rfl⟩ := List.mem_map.mp he
    exact ⟨⟨rule, rfl⟩, hsetting rule⟩
  obtain ⟨g, hguide⟩ | ⟨hvalid, hfragment | ⟨hauto, hinferred⟩⟩ := way_of_synthesize h
  · rw [hguide]
    nofun
  · rw [hfragment, fragment_eq]
    exact hall fun rule => .error (isOption_styleOption hvalid hquotes hlinebreak rule)
  · obtain ⟨files, s, hfiles, hs⟩ := scan_of_inferred hinferred
    obtain ⟨dominant, hcandidates, hout⟩ := inferred_eq hfiles hs
    rw [hinferred] at hout
    cases hout
    have hsetting : ∀ rule, IsSetting (Style.settingOf (dominant rule)) := by
      intro rule
      cases hdominant : dominant rule with
      | none => exact .off
      | some c => exact .error (isOption_candidate (hcandidates rule c hdominant))
    exact hall hsetting

/-- Configurations that answers come to, and those that such ones are merged to. -/
inductive Composed : Fragment → Prop
  | synthesized {root : Tree} {o : Scan.Options} {r : Record} {out : Outcome}
    (h : synthesize root o r = .ok out) (hquotes : RealHalves r.quotes) (hlinebreak : RealHalves r.linebreak) :
    Composed out.fragment
  | merged {a b : Fragment} (ha : Composed a) (hb : Composed b) : Composed (a.merge b)

end Synthesis

namespace Fragment

/-! ### What a configuration can hold -/

/-- What is true of all configurations that are composed from answers. -/
structure Regular (f : Fragment) : Prop where
  keyed : f.Keyed
  base : f.base ≠ none
  rules : ∀ e ∈ f.rules, Synthesis.IsRuling e
  ecmaFeatures : ∀ name ∈ f.ecmaFeatures.names, name ∈ ["jsx", "experimentalObjectRestSpread"]

theorem Regular.merge {a b : Fragment} (ha : a.Regular) (hb : b.Regular) : (a.merge b).Regular := by
  have hlayered := layered_pair ha.keyed hb.keyed
  refine ⟨⟨hlayered.rules.nodup, hlayered.env.nodup, hlayered.ecmaFeatures.nodup⟩, ?_, fun e he => ?_,
    fun name hname => ?_⟩
  · rw [base_merge]
    cases hbase : b.base with
    | none => exact ha.base
    | some base => nofun
  · rcases Entries.mem_of_mem_merge he with he | he
    · exact ha.rules e he
    · exact hb.rules e he
  · obtain ⟨e, he, rfl⟩ := List.mem_map.mp hname
    rcases Entries.mem_of_mem_merge he with he | he
    · exact ha.ecmaFeatures _ (List.mem_map_of_mem he)
    · exact hb.ecmaFeatures _ (List.mem_map_of_mem he)

theorem regular_of_composed {f : Fragment} (h : Synthesis.Composed f) : f.Regular := by
  induction h with
  | merged _ _ ha hb => exact ha.merge hb
  | @synthesized root o r out h hquotes hlinebreak =>
    have hrules := Synthesis.isRuling_of_synthesize h hquotes hlinebreak
    obtain ⟨g, hguide⟩ | hformed := Synthesis.shape_of_synthesize h
    · rw [hguide] at hrules ⊢
      exact ⟨⟨List.nodup_nil, List.nodup_nil, List.nodup_nil⟩, nofun, hrules, nofun⟩
    · obtain ⟨setting, hnames, -⟩ := hformed.rules
      refine ⟨⟨?_, hformed.env.nodup, hformed.ecmaFeatures.nodup⟩, ?_, hrules, fun name hname => ?_⟩
      · rw [hnames]
        exact (by decide : ["indent", "quotes", "linebreak-style", "semi"].Nodup)
      · rw [hformed.base]
        nofun
      · obtain ⟨⟨name, value⟩, he, rfl⟩ := List.mem_map.mp hname
        obtain ⟨-, ⟨rfl, -⟩ | ⟨rfl, -⟩⟩ := (hformed.ecmaFeatures.mem name value).mp he <;> simp

/-! ### Configurations that are read back -/

/-- Where the name of an environment stands on the line of its value, it is not too wide for a key. -/
def IsNarrow (f : Fragment) : Prop := ∀ name ∈ f.env.names, ¬ Wide name

instance (f : Fragment) : Decidable f.IsNarrow :=
  List.decidableBAll _ f.env.names

section Tidy
variable {f : Fragment}

theorem tidy_flags {depth : Nat} {flags : Entries Bool} (hnames : flags.names.Nodup) (hne : flags ≠ [])
    (hnarrow : ∀ name ∈ flags.names, ¬ Wide name) : Tidy (depth + 1) (flagsValue flags) := by
  have hentry : ∀ e ∈ flags.map fun flag => (flag.1, Value.bool flag.2), e.1 ∈ flags.names ∧ Leaf e.2 := by
    intro e he
    obtain ⟨⟨name, b⟩, hflag, rfl⟩ := List.mem_map.mp he
    exact ⟨List.mem_map_of_mem hflag, .bool b⟩
  refine .map (fun e he => .leaf (hentry e he).2) (fun e he => ?_) ?_ (by simpa using hne)
  · exact Yaml.legible_of_not_wide (hnarrow e.1 (hentry e he).1) (hentry e he).2
  · simpa [Entries.names, Function.comp_def] using hnames

/-- The names that all configurations share: those of sections, rules and features. -/
def commonNames : List String :=
  ["extends", "env", "parserOptions", "plugins", "rules", "ecmaFeatures"] ++
    Rule.all.map Rule.name ++ ["jsx", "experimentalObjectRestSpread"]

theorem narrow_common : ∀ name ∈ commonNames, Yaml.Writer.isSimpleKey (.text name) = true ∧
    (Yaml.Writer.text none 0 name.toList).length ≤ 1024 := by
  decide +kernel

theorem legible_common {name : String} (h : name ∈ commonNames) (v : Value) : Legible name v where
  narrow _ := (narrow_common name h).2
  leaf hmarked := by
    rw [(narrow_common name h).1] at hmarked
    cases hmarked

theorem tidy_setting {depth : Nat} {v : Setting} (h : IsSetting v) (hlong : v.isLong = false) :
    Tidy depth v := by
  cases h with
  | off => exact .leaf (.natural 0 (by decide))
  | @error v hoption =>
    have hleaf : Leaf v := by
      cases hoption with
      | text s => exact .text s
      | natural n =>
        rw [Setting.error, Value.isLong, Value.areLong, Value.areLong, Value.areLong, Bool.or_eq_false_iff,
          Bool.or_false] at hlong
        exact .natural n (Value.isLong_integer.mp hlong.2)
    have hleaves : ∀ w ∈ [Value.integer Severity.error.level, v], Leaf w :=
      List.forall_mem_cons.mpr ⟨.natural 2 (by decide), List.forall_mem_singleton.mpr hleaf⟩
    exact .list hleaves (List.cons_ne_nil _ _)

theorem tidy_rules {depth : Nat} (h : f.Regular) (hne : f.rules ≠ [])
    (hlong : ∀ rule ∈ f.rules, rule.2.isLong = false) : Tidy (depth + 1) (entriesValue f.rules) := by
  refine .map (fun e he => tidy_setting (h.rules e he).setting (hlong e he)) (fun e he => ?_)
    h.keyed.rules hne
  obtain ⟨rule, hrule⟩ := (h.rules e he).name
  refine legible_common ?_ e.2
  rw [hrule]
  cases rule <;> decide

theorem not_wide_common {name : String} (h : name ∈ commonNames) : ¬ Wide name :=
  fun hwide => absurd (narrow_common name h).2 (Nat.not_le_of_lt hwide.wide)

/-- The sections besides that of the environments do not depend on what those are called. -/
theorem tidy_section (h : f.Regular) (hlong : ∀ rule ∈ f.rules, rule.2.isLong = false) {e : String × Value}
    (he : e ∈ f.sections) : Tidy 2 e.2 ∨ f.env ≠ [] ∧ e = ("env", flagsValue f.env) := by
  obtain ⟨b, -, rfl⟩ | ⟨hempty, rfl⟩ | ⟨hempty, rfl⟩ | ⟨hempty, rfl⟩ | ⟨hempty, rfl⟩ := mem_sections.mp he
  · exact .inl (.leaf (.text b))
  · exact .inr ⟨by simpa using hempty, rfl⟩
  · have hfeatures : Tidy 1 (flagsValue f.ecmaFeatures) :=
      tidy_flags h.keyed.ecmaFeatures (by simpa using hempty) fun name hname =>
        not_wide_common (by simp [commonNames, h.ecmaFeatures name hname])
    refine .inl (.map (List.forall_mem_singleton.mpr hfeatures) (List.forall_mem_singleton.mpr ?_)
      (List.nodup_singleton _) (List.cons_ne_nil _ _))
    exact legible_common (show "ecmaFeatures" ∈ commonNames by decide) _
  · refine .inl (.list (fun v hv => ?_) (by simpa using hempty))
    obtain ⟨s, -, rfl⟩ := List.mem_map.mp hv
    exact .text s
  · exact .inl (tidy_rules h (by simpa using hempty) hlong)

theorem tidy_sections (h : f.Regular) (hnarrow : f.IsNarrow)
    (hlong : ∀ rule ∈ f.rules, rule.2.isLong = false) : ∀ e ∈ f.sections, Tidy 2 e.2 := by
  intro e he
  obtain htidy | ⟨hne, rfl⟩ := tidy_section h hlong he
  · exact htidy
  · exact tidy_flags h.keyed.env hne hnarrow

theorem legible_sections (f : Fragment) : ∀ e ∈ f.sections, Legible e.1 e.2 := by
  intro e he
  have hname : e.1 ∈ ["extends", "env", "parserOptions", "plugins", "rules"] :=
    f.names_sections.subset (List.mem_map_of_mem he)
  refine legible_common ?_ e.2
  exact (by decide : ∀ name ∈ ["extends", "env", "parserOptions", "plugins", "rules"], name ∈ commonNames)
    e.1 hname

theorem sections_ne_nil (h : f.base ≠ none) : f.sections ≠ [] := by
  obtain ⟨b, hb⟩ := Option.ne_none_iff_exists'.mp h
  simp [sections, hb]

theorem serialize_yaml (v : Value) : Format.yaml.serialize v = Yaml.write v := rfl

/-- In whatever portions the text of a configuration comes, it is that of its document. -/
theorem flatten_text {portions : List (List Char)} (h : portions.flatten = (f.text .yaml).toList) :
    portions.flatten = Yaml.Writer.document f.document := by
  rw [h, Fragment.text, serialize_yaml, Yaml.write, String.toList_ofList]

/-- Such a configuration is read as it was written. -/
theorem read_of_narrow (h : f.Regular) (hnarrow : f.IsNarrow) (hlong : ∀ rule ∈ f.rules, rule.2.isLong = false)
    {portions : List (List Char)} (hportions : portions.flatten = (f.text .yaml).toList) :
    Yaml.read ⟨portions, none⟩ = .ok f.document :=
  Yaml.read_document (tidy_sections h hnarrow hlong) (legible_sections f)
    ((by decide : ["extends", "env", "parserOptions", "plugins", "rules"].Nodup).sublist f.names_sections)
    (sections_ne_nil h.base) (by decide) (flatten_text hportions)

/-- The base comes first, and the environments behind it. -/
theorem sections_eq {b : String} (hbase : f.base = some b) (hne : f.env ≠ []) : ∃ behind, f.sections =
    [("extends", .text b)] ++ ("env", flagsValue f.env) :: behind := by
  have henv : f.env.isEmpty = false := by simpa using hne
  rw [sections, hbase, henv]
  exact ⟨_, rfl⟩

/-- With a name that is too wide, nothing is read. -/
theorem narrow_of_read (h : f.Regular) {portions : List (List Char)}
    (hportions : portions.flatten = (f.text .yaml).toList) {v : Value}
    (hread : Yaml.read ⟨portions, none⟩ = .ok v) : f.IsNarrow := by
  intro name hname hwide
  obtain ⟨b, hbase⟩ := Option.ne_none_iff_exists'.mp h.base
  have hne : f.env ≠ [] := by
    rintro hempty
    rw [hempty] at hname
    cases hname
  obtain ⟨behind, hsections⟩ := sections_eq hbase hne
  have htext := flatten_text hportions
  have henv := narrow_common "env" (by decide)
  rw [document, hsections] at htext
  exact Yaml.read_wide (List.forall_mem_singleton.mpr (legible_common (show "extends" ∈ commonNames by decide) _))
    (List.forall_mem_singleton.mpr (.text b)) henv.1 henv.2 ⟨name, hname, hwide⟩ htext v hread

theorem plain_of_regular (h : f.Regular) : f.Plain := by
  refine ⟨h.keyed.rules, h.keyed.env, h.keyed.ecmaFeatures, fun rule hrule => ?_⟩
  obtain ⟨name, setting⟩ := rule
  cases (h.rules _ hrule).setting with
  | off => rfl
  | error hoption => cases hoption <;> rfl

end Tidy

/-! ### Composed configurations -/

/-- A configuration that was composed is written in YAML and in JSON, and read back from both as it is, if
and only if its names are not too wide and its integers are not too long. -/
theorem write_reread_iff {f : Fragment} (h : Synthesis.Composed f) :
    (∃ text json, f.write .yaml = .ok text ∧ f.write .json = .ok json ∧
      Json.decode? json = some f.document ∧ ∀ portions : List (List Char), portions.flatten = text.toList →
        Yaml.read ⟨portions, none⟩ = .ok f.document) ↔
      f.IsNarrow ∧ ∀ rule ∈ f.rules, rule.2.isLong = false := by
  have hregular := regular_of_composed h
  constructor
  · rintro ⟨text, -, hyaml, -, -, hread⟩
    obtain ⟨hlong, rfl⟩ := Output.write_eq_ok.mp hyaml
    rw [isLong_document] at hlong
    exact ⟨narrow_of_read hregular (List.append_nil _) (hread [_] (List.append_nil _)), hlong⟩
  · rintro ⟨hnarrow, hlong⟩
    have hwrite : ∀ format, f.write format = .ok (f.text format) := fun format =>
      Output.write_eq_ok.mpr ⟨(isLong_document f).mpr hlong, rfl⟩
    exact ⟨f.text .yaml, f.text .json, hwrite .yaml, hwrite .json,
      Json.decode_write (plain_of_regular hregular).isJson_document Json.isSpace_break,
      fun portions hportions => read_of_narrow hregular hnarrow hlong hportions⟩

/-- What the answers alone come to is composed. -/
theorem composed_answers {r : Answers.Record} (hvalid : r.validate = .ok ())
    (hguide : r.styleGuide.isTruthy = false) (hprompt : r.source.text? = some "prompt")
    (hquotes : RealHalves r.quotes) (hlinebreak : RealHalves r.linebreak) : Synthesis.Composed r.fragment :=
  .synthesized (Synthesis.synthesize_prompt hvalid hguide hprompt (.folder []) {}) hquotes hlinebreak

/-- Answers with names that could be taken for something else. -/
def confusable : Answers.Record where
  source := .text "prompt"
  env := ["yes", "null", "1", "2020-01-01", "<<", "", "a\nb", "#", "a: b", String.ofList (List.replicate 129 'a')]

/-- Answers for a page that is put together from modules. -/
def bundled : Answers.Record where
  source := .text "prompt"
  indent := .text "tab"
  es6 := .bool true
  env := ["browser", "yes"]
  jsx := .bool true
  react := .bool true

theorem write_reread_confusable :
    Synthesis.Composed (confusable.fragment.merge bundled.fragment) ∧
    ∃ text json, (confusable.fragment.merge bundled.fragment).write .yaml = .ok text ∧
      (confusable.fragment.merge bundled.fragment).write .json = .ok json ∧
      Json.decode? json = some (confusable.fragment.merge bundled.fragment).document ∧
      ∀ portions : List (List Char), portions.flatten = text.toList →
        Yaml.read ⟨portions, none⟩ = .ok (confusable.fragment.merge bundled.fragment).document := by
  have hcomposed : Synthesis.Composed (confusable.fragment.merge bundled.fragment) :=
    .merged (composed_answers rfl rfl rfl (fun codes h => by cases h) (fun codes h => by cases h))
      (composed_answers rfl rfl rfl (fun codes h => by cases h) (fun codes h => by cases h))
  exact ⟨hcomposed, (write_reread_iff hcomposed).mpr ⟨by decide +kernel, by decide +kernel⟩⟩

/-- A name of 110 characters, for each of which ten are written. -/
def grins : String := String.ofList (List.replicate 110 '😀')

def grinning : Answers.Record where
  source := .text "prompt"
  env := [grins]

/-- What these answers come to is written, but nothing is read back of it. -/
theorem write_unread_grinning : Synthesis.Composed grinning.fragment ∧
    ∃ text, grinning.fragment.write .yaml = .ok text ∧ ∀ portions : List (List Char),
      portions.flatten = text.toList → ∀ v, Yaml.read ⟨portions, none⟩ ≠ .ok v := by
  have hcomposed : Synthesis.Composed grinning.fragment :=
    composed_answers rfl rfl rfl (fun codes h => by cases h) (fun codes h => by cases h)
  have hformed : Synthesis.WellFormed grinning grinning.fragment :=
    Synthesis.wellFormed_fragment (Answers.validate_eq_ok.mp rfl)
  have hflag : (grins, true) ∈ grinning.fragment.env :=
    (hformed.env.mem grins true).mpr ⟨rfl, .inl (List.mem_singleton.mpr rfl)⟩
  have hlong : ∀ rule ∈ grinning.fragment.rules, rule.2.isLong = false := by decide +kernel
  refine ⟨hcomposed, grinning.fragment.text .yaml,
    Output.write_eq_ok.mpr ⟨(isLong_document _).mpr hlong, rfl⟩, ?_⟩
  intro portions hportions v hread
  exact narrow_of_read (regular_of_composed hcomposed) hportions hread grins
    (List.mem_map.mpr ⟨_, hflag, rfl⟩) (Yaml.wide_replicate (by decide) (by decide) (by decide))

end Fragment

end LintConfig
