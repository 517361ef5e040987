import LintConfig.Proofs.Rerun
import LintConfig.Proofs.Widths
import LintConfig.Proofs.Writes

/-! # Runs with any text for a width

A run that ends well with a width of four is taken as it is, and the width replaced by any text, on the
command line or where it is asked for. It ends well with the width that the text stands for, or it is
refused and writes nothing. There are two gaps: digits that cannot be read halt the run, and so does a
refusal in which the text is taken for markup. -/
namespace LintConfig.Command
open Answers (Mapping Record)
open Files (Path Tree)
open Questions (Keyed answer)

/-! ### Command lines -/

/-- Two command lines that say the same, except about the width. -/
structure SameButWidth (a a' : Arguments) : Prop where
  words : a'.words = a.words
  switches : a'.switches = a.switches
  options : a'.options.filter (·.1 != "--indent") = a.options.filter (·.1 != "--indent")

section Lines
variable {a a' : Arguments}

theorem SameButWidth.isOn (h : SameButWidth a a') (name : String) : a'.isOn name = a.isOn name := by
  rw [Arguments.isOn, Arguments.turned?, h.switches]
  rfl

theorem values_eq {name : String} (hne : name ≠ "--indent") (a : Arguments) : a.values name =
    ((a.options.filter (·.1 != "--indent")).filter (·.1 == name)).map (·.2) := by
  rw [Arguments.values, List.filter_filter]
  congr 1
  refine List.filter_congr fun e _ => ?_
  by_cases he : e.1 = name <;> simp [he, hne]

theorem SameButWidth.values (h : SameButWidth a a') {name : String} (hne : name ≠ "--indent") :
    a'.values name = a.values name := by
  rw [values_eq hne, values_eq hne, h.options]

theorem SameButWidth.value? (h : SameButWidth a a') {name : String} (hne : name ≠ "--indent") :
    a'.value? name = a.value? name := by
  rw [Arguments.value?, h.values hne]
  rfl

theorem SameButWidth.folderOf (h : SameButWidth a a') (s : Settings) :
    folderOf a' s = folderOf a s := by
  rw [Command.folderOf, h.value? (by decide)]
  rfl

theorem checkOption_indent (root : Tree) (a : Arguments) : a.checkOption root "--indent" = .ok () := rfl

theorem SameButWidth.checkOption (h : SameButWidth a a') (root : Tree) {name : String}
    (hne : name ≠ "--indent") : a'.checkOption root name = a.checkOption root name := by
  unfold Arguments.checkOption Arguments.checkChoice
  split <;> first | rfl | rw [h.value? (by decide)]

/-- A width is not checked on the command line. -/
theorem SameButWidth.check (h : SameButWidth a a') {root : Tree} (hcheck : a.check root = .ok ()) :
    a'.check root = .ok () := by
  rw [Arguments.check, Failing.forM_eq_ok] at hcheck ⊢
  rintro ⟨name, value⟩ he
  by_cases hne : name = "--indent"
  · subst hne
    exact checkOption_indent root a'
  · have hmem : (name, value) ∈ a'.options.filter (·.1 != "--indent") :=
      List.mem_filter.mpr ⟨he, by simpa using hne⟩
    rw [h.options] at hmem
    have hok := hcheck _ (List.mem_of_mem_filter hmem)
    exact (h.checkOption root hne).trans hok

/-! ### Flags -/

/-- The answer of a command line that stands before the width. -/
def guideAnswer (a : Arguments) : Mapping := [(.text "style_guide", a.textAnswer "--style-guide")]

/-- The answers of a command line that stand behind the width. -/
def laterAnswers (a : Arguments) : Mapping := [
  (.text "quotes", a.textAnswer "--quotes"),
  (.text "linebreak", a.textAnswer "--linebreak"),
  (.text "semi", a.switchAnswer "semi"),
  (.text "es6", a.switchAnswer "es6"),
  (.text "env", if (a.values "--env").isEmpty then .null else .list ((a.values "--env").map .text)),
  (.text "jsx", a.switchAnswer "jsx"),
  (.text "react", a.switchAnswer "react"),
  (.text "commonjs", a.switchAnswer "commonjs"),
  (.text "format", a.textAnswer "--format")]

/-- The answers of a command line with a width in them. -/
def answersWith (a : Arguments) (v : Value) : Mapping :=
  guideAnswer a ++ (.text "indent", v) :: laterAnswers a

theorem answers_eq (a : Arguments) : a.answers =
    (match a.value? "--indent" with
      | some text => indentOf text
      | none => .ok .null).map (answersWith a) := by
  unfold Arguments.answers
  cases a.value? "--indent" with
  | none => rfl
  | some text => cases h : indentOf text <;> simp [h, bind, Except.bind, Except.map, pure, Except.pure,
      answersWith, guideAnswer, laterAnswers]

theorem SameButWidth.answersWith (h : SameButWidth a a') (v : Value) :
    answersWith a' v = answersWith a v := by
  have htext : ∀ name, name ≠ "--indent" → a'.textAnswer name = a.textAnswer name := fun name hne => by
    rw [Arguments.textAnswer, h.value? hne]
    rfl
  have hswitch : ∀ name, a'.switchAnswer name = a.switchAnswer name := fun name => by
    rw [Arguments.switchAnswer, Arguments.turned?, h.switches]
    rfl
  simp only [Command.answersWith, guideAnswer, laterAnswers, hswitch, htext "--style-guide" (by decide),
    htext "--quotes" (by decide), htext "--linebreak" (by decide), htext "--format" (by decide),
    h.values (show "--env" ≠ "--indent" by decide)]

theorem keyed_laterAnswers (a : Arguments) :
    Keyed (laterAnswers a) ∧ ∀ e ∈ laterAnswers a, e.1 ≠ .text "indent" := by
  simp [Keyed, laterAnswers, Answers.fieldNames]

theorem keyed_guideAnswer (a : Arguments) : Keyed (guideAnswer a) := by
  simp [Keyed, guideAnswer, Answers.fieldNames]

theorem keyed_answers {flags : Mapping} (h : a.answers = .ok flags) : Keyed flags := by
  rw [answers_eq] at h
  obtain ⟨v, -, rfl⟩ := Failing.map_eq_ok.mp h
  refine List.forall_mem_append.mpr ⟨keyed_guideAnswer a, List.forall_mem_cons.mpr ⟨?_, ?_⟩⟩
  · exact ⟨"indent", by decide, rfl⟩
  · exact (keyed_laterAnswers a).1

/-- A width is put in between the answers before it and those behind it. -/
theorem update_answersWith {v : Value} (hv : v ≠ .null) (m : Mapping) (a : Arguments) :
    Answers.update m (Answers.given (answersWith a v)) =
      Answers.update (answer (Answers.update m (Answers.given (guideAnswer a))) "indent" v)
        (Answers.given (laterAnswers a)) := by
  have hsplit : Answers.given (answersWith a v) =
      Answers.given (guideAnswer a) ++ (.text "indent", v) :: Answers.given (laterAnswers a) := by
    simp [Answers.given, answersWith, hv]
  rw [hsplit, Answers.update, List.foldl_append]
  rfl

/-- Layers that differ in the width that is given as a flag come to mappings that differ in it. -/
theorem varies_layered {file : Mapping} (hfile : Keyed file) (format : String) (a : Arguments)
    {v v' : Value} (hv : v ≠ .null) (hv' : v' ≠ .null) (patterns : List String) :
    Varies v v' (Answers.layered format file (answersWith a v) patterns)
      (Answers.layered format file (answersWith a v') patterns) := by
  obtain ⟨hkeyed, hfree⟩ := keyed_laterAnswers a
  have hbase : Keyed (Answers.update (Answers.update (Answers.basis format) file)
      (Answers.given (guideAnswer a))) :=
    Answers.keyed_layered hfile (keyed_guideAnswer a) format []
  have hpatterns : Keyed (Answers.ofPatterns patterns) ∧
      ∀ e ∈ Answers.ofPatterns patterns, e.1 ≠ .text "indent" := by
    unfold Answers.ofPatterns
    split <;> simp [Keyed, Answers.fieldNames]
  rw [Answers.layered, Answers.layered, update_answersWith hv, update_answersWith hv']
  refine ((varies_answer hbase v v').update ?_ ?_).update hpatterns.1 hpatterns.2
  · exact fun e he => hkeyed e (List.mem_of_mem_filter he)
  · exact fun e he => hfree e (List.mem_of_mem_filter he)

end Lines

/-! ### The end of a run -/

section Ending
variable {files : Tree} {a a' : Arguments} {s : Settings} {r r' : Record} {shown : String}
  {out out' : Synthesis.Outcome}

/-- A run ends well if its configuration is saved, or shown, and reported. -/
theorem finish_ends_iff : (∃ o, finish files a s r shown out = .ok o ∧ o.status = 0) ↔
    ∃ listing saved after told,
      persist files (a.isOn "dry-run") (folderOf a s) r out.fragment = .ok (listing, saved, after) ∧
      report after a out.fragment saved = .ok told := by
  unfold finish
  constructor
  · rintro ⟨o, ho, -⟩
    obtain ⟨⟨listing, saved, after⟩, hpersist, ho⟩ := Failing.bind_eq_ok.mp ho
    obtain ⟨told, htold, -⟩ := Failing.bind_eq_ok.mp ho
    exact ⟨listing, saved, after, told, hpersist, Failing.mapError_eq_ok.mp htold⟩
  · rintro ⟨listing, saved, after, told, hpersist, htold⟩
    exact ⟨_, Failing.bind_eq_ok.mpr ⟨_, hpersist, Failing.bind_eq_ok.mpr
      ⟨told, Failing.mapError_eq_ok.mpr htold, rfl⟩⟩, rfl⟩

theorem exists_ok_of_status {x : Except Crash Outcome} (h : statusOf x = 0) :
    ∃ o, x = .ok o ∧ o.status = 0 := by
  cases x with
  | ok o => exact ⟨o, rfl, h⟩
  | error c => cases h

/-- Where one configuration can be saved or shown, another one can be that has a text. -/
theorem exists_persist {isDry : Bool} {folder : Path} {f f' : Fragment} {listing : String}
    {saved : Option Path} {after : Tree} (h : persist files isDry folder r f = .ok (listing, saved, after))
    (hformat : r'.format = r.format) (hlong : f'.document.isLong = false) :
    f.document.isLong = false ∧ ∃ listing' after',
      persist files isDry folder r' f' = .ok (listing', saved, after') := by
  cases isDry with
  | true =>
    unfold persist at h ⊢
    rw [if_pos rfl, hformat]
    rw [if_pos rfl] at h
    split at h
    · rename_i format hresolve
      split at h
      · rename_i text htext
        cases h
        refine ⟨(Output.write_eq_ok.mp htext).1, ?_⟩
        rw [Output.write_eq_ok.mpr ⟨hlong, rfl⟩]
        exact ⟨_, files, rfl⟩
      · cases h
    · cases h
  | false =>
    obtain ⟨format, p, after, hresolve, hsave, hx⟩ := persist_eq_ok.mp h
    cases hx
    obtain ⟨-, q, hsaved⟩ := Output.save_spec hsave
    obtain ⟨after', hsave'⟩ := Output.exists_save_of_save hsave hlong
    exact ⟨(Output.write_eq_ok.mp hsaved.written).1, "", after',
      persist_eq_ok.mpr ⟨format, p, after', hformat ▸ hresolve, hsave', rfl⟩⟩

/-- How a run ends depends on the width only so far as it has to have a text. -/
theorem finish_ends (h : ∃ o, finish files a s r shown out = .ok o ∧ o.status = 0)
    (ha : SameButWidth a a') (hformat : r'.format = r.format)
    (hout : Summary.Generated out.fragment) (hout' : Summary.Generated out'.fragment)
    (henv : out'.fragment.env = out.fragment.env) (hlong : out'.fragment.document.isLong = false) :
    ∃ o, finish files a' s r' shown out' = .ok o ∧ o.status = 0 := by
  obtain ⟨listing, saved, after, told, hpersist, htold⟩ := finish_ends_iff.mp h
  obtain ⟨hshort, listing', after', hpersist'⟩ := exists_persist hpersist hformat hlong
  have hlines := (report_ok_iff_lines hout ((Fragment.isLong_document _).mp hshort)).mp ⟨told, htold⟩
  have henvironments : Summary.environmentsLine out'.fragment =
      Summary.environmentsLine out.fragment := by
    rw [Summary.environmentsLine, henv]
    rfl
  rw [← henvironments] at hlines
  obtain ⟨told', htold'⟩ :=
    (report_ok_iff_lines hout' ((Fragment.isLong_document _).mp hlong)).mpr hlines
  refine finish_ends_iff.mpr ⟨listing', saved, after', told', ?_, htold'⟩
  rw [ha.isOn, ha.folderOf]
  exact hpersist'

/-- The configuration for answers has their width in it. -/
theorem fragment_indent (r : Record) : r.fragment.rules.get? "indent" = some (Setting.error r.indent) := by
  rw [Synthesis.fragment_eq]
  rfl

theorem fragment_env (r : Record) (v : Value) :
    ({ r with indent := v } : Record).fragment.env = r.fragment.env := by
  rw [Synthesis.fragment_eq, Synthesis.fragment_eq]
  rfl

theorem isLong_error (v : Value) : (Setting.error v).isLong = v.isLong := by
  have hseverity : (Value.integer Severity.error.level).isLong = false :=
    Value.isLong_integer.mpr (by decide)
  simp [Setting.error, Value.isLong.eq_2, Value.areLong, hseverity]

/-- Of all settings only a width can be too long. -/
theorem isLong_fragment (hr : r.Valid) (h : r.indent.isLong = false) :
    r.fragment.document.isLong = false := by
  have hword : ∀ {v : Value} {words : List String}, (∃ word ∈ words, v.text? = some word) →
      v.isLong = false := by
    rintro v words ⟨word, -, hv⟩
    cases v with
    | text s => rfl
    | halves codes => rfl
    | _ => cases hv
  have hoption : ∀ rule, (r.styleOption rule).isLong = false := by
    intro rule
    cases rule with
    | indent => exact h
    | quotes => exact hword hr.quotes
    | linebreak => exact hword hr.linebreak
    | semi => rfl
  rw [Fragment.isLong_document, Synthesis.fragment_eq]
  intro rule hrule
  obtain ⟨style, -, rfl⟩ := List.mem_map.mp hrule
  exact (isLong_error _).trans (hoption style)

end Ending

/-! ### Runs -/

/-- A run that takes the style from its answers, without a style guide, and ends well. -/
structure EndsWell (w : Surroundings) (arguments : List String) (a : Arguments) (j : Prepared) :
    Prop where
  parsed : Arguments.parse arguments = .ok a
  helpless : a.isOn "help" = false
  fields : ∀ file, Answers.fileAnswers w.files (a.value? "--answers") = .ok file → Keyed file
  found : j.Found w a
  prompt : j.record.source.text? = some "prompt"
  free : j.record.styleGuide.isTruthy = false
  status : statusOf (run w arguments) = 0

/-- The answers known to a run before it asks for any. -/
structure Knows (w : Surroundings) (a : Arguments) (s : Settings) (known : Mapping) : Prop where
  settings : Settings.load w.files w.environment none = .ok s
  gathered : ∃ flags, a.answers = .ok flags ∧
    Answers.gather w.files s.format.name (a.value? "--answers") flags a.words = .ok known

/-- A run whose width is four, and one that is the same but for a text in the place of the four. The
text is given as a flag, or it is typed, or suggested and taken, where the width is asked for. -/
inductive Replaces (w : Surroundings) (a : Arguments) (text : String) : Surroundings → Arguments → Prop
  | flag {a' : Arguments} (hquiet : a.isOn "interactive" = false) (hsame : SameButWidth a a')
    (hfour : a.value? "--indent" = some "4") (htext : a'.value? "--indent" = some text) :
    Replaces w a text w a'
  | typed {s : Settings} {known m : Mapping} {before rest : List String}
    {shown suggested line : String} (hon : a.isOn "interactive" = true) (hknown : Knows w a s known)
    (hasks : AsksWidth known before m shown suggested) (hfour : w.input = before ++ "4" :: rest)
    (htext : text = taken suggested line) :
    Replaces w a text { w with input := before ++ line :: rest } a

/-- The line that a run ends with which refuses a width. -/
def refusalLine (v : Value) : Except Failure String :=
  print ("[bold red]Error:[/bold red] " ++ (Answers.Refusal.badIndent v).message)

/-- What a run may come to with a text for a width: it ends well with the width in its configuration, or
it tells that there is none, and writes nothing. -/
inductive Answered (w : Surroundings) (a : Arguments) (text shown : String)
    (x : Except Crash Outcome) : Prop
  | accepted {v : Value} {j : Prepared} {o : Outcome} (hwidth : Width text v) (hfound : j.Found w a)
    (hfinish : x = finish w.files a j.settings j.record j.shown j.outcome) (hx : x = .ok o)
    (hstatus : o.status = 0)
    (hrule : j.outcome.fragment.rules.get? "indent" = some (Setting.error v))
    (hwrote : a.isOn "dry-run" = false → Wrote w a j o.files)
  | refused {line : String} {o : Outcome} (hwidth : ∀ v, ¬ Width text v)
    (hline : refusalLine (answerIn text) = .ok line) (hx : x = .ok o) (hstatus : o.status = 1)
    (houtput : o.output = shown ++ line) (hfiles : o.files = w.files)

section Runs
variable {w w' : Surroundings} {a a' : Arguments} {arguments arguments' : List String} {j : Prepared}
  {text : String}

theorem indentOf_four : indentOf "4" = .ok (.integer 4) := by decide

theorem answerIn_ne_null (text : String) : answerIn text ≠ .null := by
  unfold answerIn
  split <;> exact nofun

theorem Replaces.sameButWidth (h : Replaces w a text w' a') : SameButWidth a a' := by
  cases h with
  | flag hquiet hsame hfour htext => exact hsame
  | typed hon hknown hasks hfour htext => exact ⟨rfl, rfl, rfl⟩

theorem Replaces.surroundings (h : Replaces w a text w' a') :
    w'.files = w.files ∧ w'.environment = w.environment := by
  cases h <;> exact ⟨rfl, rfl⟩

theorem EndsWell.keyed (h : EndsWell w arguments a j) {s : Settings} {known : Mapping}
    (hknown : Knows w a s known) : Keyed known := by
  obtain ⟨flags, hflags, hgather⟩ := hknown.gathered
  rw [Answers.gather_eq] at hgather
  obtain ⟨file, hfile, rfl⟩ := Failing.map_eq_ok.mp hgather
  exact Answers.keyed_layered (h.fields file hfile) (keyed_answers hflags) _ _

/-- The mapping that a run goes by, next to that of the run with four for a width. -/
structure Varied (w w' : Surroundings) (a' : Arguments) (j : Prepared) (text : String) : Prop where
  mapping : ∃ flags known m m', a'.answers = .ok flags ∧
    Answers.gather w'.files j.settings.format.name (a'.value? "--answers") flags a'.words =
      .ok known ∧
    answersOf w' a' known = .ok (m', j.shown) ∧ Varies (.integer 4) (answerIn text) m m' ∧
    Answers.ofMapping m = .ok j.record

/-- With a text that can be read a run comes as far as to the record. -/
theorem Replaces.varied (h : EndsWell w arguments a j) (ht : Replaces w a text w' a')
    (htext : indentOf text = .ok (answerIn text)) : Varied w w' a' j text := by
  obtain ⟨flags, known, m, hflags, hgather, hm, hr⟩ := h.found.record
  cases ht with
  | flag hquiet hsame hfour hgiven =>
    rw [answers_eq, hfour] at hflags
    dsimp only at hflags
    rw [indentOf_four] at hflags
    obtain rfl : answersWith a (.integer 4) = flags := Except.ok.inj hflags
    rw [Answers.gather_eq] at hgather
    obtain ⟨file, hfile, rfl⟩ := Failing.map_eq_ok.mp hgather
    rw [answersOf_quiet hquiet] at hm
    obtain ⟨rfl, hshown⟩ := Prod.mk.inj (Except.ok.inj hm)
    have hflags' : a'.answers = .ok (answersWith a (answerIn text)) := by
      rw [answers_eq, hgiven]
      dsimp only
      rw [htext, ← hsame.answersWith]
      rfl
    refine ⟨_, Answers.layered j.settings.format.name file (answersWith a (answerIn text)) a.words, _, _,
      hflags', ?_, ?_,
      varies_layered (v := .integer 4) (h.fields file hfile) _ a (by simp) (answerIn_ne_null text) a.words,
      hr⟩
    · rw [hsame.value? (by decide), hsame.words, Answers.gather_eq, hfile]
      rfl
    · rw [← hshown]
      exact answersOf_quiet ((hsame.isOn _).trans hquiet) w _
  | typed hon hknown hasks hfour hgiven =>
    obtain ⟨flags', hflags', hgather'⟩ := hknown.gathered
    obtain rfl : flags = flags' := Except.ok.inj (hflags.symm.trans hflags')
    have hsettings := h.found.settings.symm.trans hknown.settings
    rw [← Except.ok.inj hsettings] at hgather' hknown
    obtain rfl := Except.ok.inj (hgather.symm.trans hgather')
    rw [answersOf, if_pos hon, hfour] at hm
    obtain ⟨⟨m₁, d⟩, hask, hsame⟩ := Failing.map_eq_ok.mp hm
    obtain ⟨rfl, hshown⟩ := Prod.mk.inj hsame
    have htaken : ∀ suggested, indentOf (taken suggested "4") = .ok (.integer 4) :=
      fun _ => indentOf_four
    have hfollows := fun rest =>
      hasks.follows (h.keyed hknown) rest (htaken _) (hgiven ▸ htext)
    obtain ⟨m', hask', hvaries⟩ := hfollows _ m₁ d hask
    refine ⟨flags, known, m₁, m', hflags, hgather, ?_, hgiven ▸ hvaries, hr⟩
    rw [answersOf, if_pos hon]
    exact Failing.map_eq_ok.mpr ⟨(m', d), hask', congrArg (Prod.mk m') hshown⟩

/-- What is checked and read before the answers is the same. -/
theorem Replaces.begins (h : EndsWell w arguments a j) (ht : Replaces w a text w' a') :
    a'.isOn "help" = false ∧ a'.check w'.files = .ok () ∧
      Settings.load w'.files w'.environment none = .ok j.settings := by
  obtain ⟨hfiles, henvironment⟩ := ht.surroundings
  rw [hfiles, henvironment]
  exact ⟨(ht.sameButWidth.isOn "help").trans h.helpless, ht.sameButWidth.check h.found.checked,
    h.found.settings⟩

/-- Digits that cannot be read halt a run. -/
theorem Replaces.run_unreadable (h : EndsWell w arguments a j) (ht : Replaces w a text w' a')
    (hparse : Arguments.parse arguments' = .ok a') {e : Number.ReadError}
    (htext : indentOf text = .error e) : run w' arguments' = .error ⟨.width e, w'.files⟩ := by
  obtain ⟨hhelp, hcheck, hsettings⟩ := ht.begins h
  simp only [run, hparse, hhelp, hcheck, runArguments, hsettings, Bool.false_eq_true, if_false]
  cases ht with
  | flag hquiet hsame hfour hgiven =>
    have hflags : a'.answers = .error e := by
      rw [answers_eq, hgiven]
      dsimp only
      rw [htext]
      rfl
    simp only [runSettings, hflags, orCrash, Except.mapError, bind, Except.bind]
  | typed hon hknown hasks hfour hgiven =>
    obtain ⟨flags, hflags, hgather⟩ := hknown.gathered
    rw [← Except.ok.inj (h.found.settings.symm.trans hknown.settings)] at hgather
    simp only [runSettings, hflags, orCrash, Except.mapError, bind, Except.bind, hgather, hon, if_true]
    rw [runDialogue, hasks.ask_eq, ← hgiven, htext]
    rfl

theorem Replaces.run_eq (h : EndsWell w arguments a j) (ht : Replaces w a text w' a')
    (hparse : Arguments.parse arguments' = .ok a') (htext : indentOf text = .ok (answerIn text)) :
    ∃ m m', Varies (.integer 4) (answerIn text) m m' ∧ Answers.ofMapping m = .ok j.record ∧
      run w' arguments' = runMapping w'.files a' j.settings m' j.shown := by
  obtain ⟨hhelp, hcheck, hsettings⟩ := ht.begins h
  obtain ⟨flags, known, m, m', hflags, hgather, hm', hvaries, hr⟩ := (ht.varied h htext).mapping
  exact ⟨m, m', hvaries, hr,
    run_eq_mapping hparse hhelp hcheck hsettings hflags hgather hm'⟩

theorem wrote_of_finish {o : Outcome} (hparse : Arguments.parse arguments = .ok a)
    (hdry : a.isOn "dry-run" = false) (hfound : j.Found w a)
    (ho : finish w.files a j.settings j.record j.shown j.outcome = .ok o) : Wrote w a j o.files := by
  obtain ⟨format, p, after, told, hformat, hsave, -, rfl⟩ := (finish_eq_ok hdry).mp ho
  exact Saves.wrote ⟨hparse, hdry, hfound, Output.saveAs_eq_ok.mpr ⟨format, hformat, hsave⟩⟩

/-- A width is accepted like a four. -/
theorem Replaces.run_accepted (h : EndsWell w arguments a j) (ht : Replaces w a text w' a')
    (hparse : Arguments.parse arguments' = .ok a') (hreadable : Readable text)
    (htext : indentOf text = .ok (answerIn text)) (hwidth : Width text (answerIn text)) :
    Answered w' a' text j.shown (run w' arguments') := by
  obtain ⟨hhelp, hcheck, hsettings⟩ := ht.begins h
  obtain ⟨flags, known, m, m', hflags, hgather, hm', hvaries, hr⟩ := (ht.varied h htext).mapping
  have hr' := hvaries.ofMapping hr (isLong_answerIn hreadable)
  rw [if_pos (isIndent_answerIn.mpr hwidth)] at hr'
  obtain ⟨-, source, env, patterns, -, -, -, hvalid, hrecord⟩ := Answers.ofMapping_eq_ok.mp hr
  obtain ⟨-, source', env', patterns', -, -, -, hvalid', hrecord'⟩ := Answers.ofMapping_eq_ok.mp hr'
  rw [hrecord] at hvalid
  rw [hrecord'] at hvalid'
  let r' : Record := { j.record with indent := answerIn text }
  let j' : Prepared := ⟨j.settings, r', j.shown, { fragment := r'.fragment }⟩
  have hout := Synthesis.synthesize_prompt (Answers.validate_eq_ok.mpr hvalid) h.free h.prompt
    w.files j.settings.scan
  have hout' : Synthesis.synthesize w'.files j.settings.scan r' = .ok { fragment := r'.fragment } :=
    Synthesis.synthesize_prompt (Answers.validate_eq_ok.mpr hvalid') h.free h.prompt _ _
  have hfound' : j'.Found w' a' :=
    ⟨hcheck, hsettings, ⟨flags, known, m', hflags, hgather, hm', hr'⟩, hout'⟩
  have hends := exists_ok_of_status h.status
  rw [run_eq_finish h.parsed h.helpless h.found, ← Except.ok.inj (hout.symm.trans h.found.outcome),
    ← ht.surroundings.1] at hends
  have hends' := finish_ends hends ht.sameButWidth (show r'.format = j.record.format from rfl)
    (Summary.generated_of_synthesize hout) (Summary.generated_of_synthesize hout')
    (fragment_env j.record (answerIn text)) (isLong_fragment hvalid' (isLong_answerIn hreadable))
  obtain ⟨o, ho, hstatus⟩ := hends'
  have hrun := run_eq_finish hparse hhelp hfound'
  exact .accepted hwidth hfound' hrun (hrun.trans ho) hstatus (fragment_indent r') fun hdry =>
    wrote_of_finish hparse hdry hfound' ho

/-- What is no width is refused, if the refusal can be printed. -/
theorem Replaces.run_refused (h : EndsWell w arguments a j) (ht : Replaces w a text w' a')
    (hparse : Arguments.parse arguments' = .ok a') (hreadable : Readable text)
    (htext : indentOf text = .ok (answerIn text)) (hwidth : ¬ Width text (answerIn text)) :
    run w' arguments' = giveUp w'.files j.shown "Error:" (Answers.Refusal.badIndent (answerIn text)).message := by
  obtain ⟨m, m', hvaries, hr, hrun⟩ := ht.run_eq h hparse htext
  have hr' := hvaries.ofMapping hr (isLong_answerIn hreadable)
  rw [if_neg (mt isIndent_answerIn.mp hwidth)] at hr'
  rw [hrun, runMapping, hr']

/-- Every text for a width is answered, exactly if the digits in it can be read and its refusal can be
printed. -/
theorem run_answered_iff (h : EndsWell w arguments a j) (ht : Replaces w a text w' a')
    (hparse : Arguments.parse arguments' = .ok a') :
    Answered w' a' text j.shown (run w' arguments') ↔
      Readable text ∧ ((∀ v, ¬ Width text v) → ∃ line, refusalLine (answerIn text) = .ok line) := by
  rcases indentOf_cases text with ⟨hreadable, htext⟩ | ⟨hunreadable, e, he⟩
  · by_cases hwidth : Width text (answerIn text)
    · exact iff_of_true (ht.run_accepted h hparse hreadable htext hwidth)
        ⟨hreadable, fun hnone => absurd hwidth (hnone _)⟩
    · have hnone : ∀ v, ¬ Width text v := fun v hv => hwidth (hv.answerIn_eq ▸ hv)
      have hrun := ht.run_refused h hparse hreadable htext hwidth
      constructor
      · rintro (⟨hv⟩ | ⟨-, hline⟩)
        · exact absurd hv (hnone _)
        · exact ⟨hreadable, fun _ => ⟨_, hline⟩⟩
      · rintro ⟨-, hprinted⟩
        obtain ⟨line, hline⟩ := hprinted hnone
        have hgiveUp : run w' arguments' = .ok
            { status := failureStatus, output := j.shown ++ line, files := w'.files } := by
          have hprint : print ("[bold red]" ++ "Error:" ++ "[/bold red] " ++
              (Answers.Refusal.badIndent (answerIn text)).message) = .ok line := hline
          rw [hrun, giveUp, hprint]
          rfl
        exact .refused hnone hline hgiveUp rfl rfl rfl
  · have hrun := ht.run_unreadable h hparse he
    refine iff_of_false ?_ fun hall => hunreadable hall.1
    rintro (⟨-, -, -, hx⟩ | ⟨-, -, hx⟩)
    · rw [hrun] at hx
      cases hx
    · rw [hrun] at hx
      cases hx

end Runs

/-! ### Runs in an empty project -/

/-- In an empty project a run that ends well and finds answers about style will do. -/
theorem exists_endsWell {input arguments : List String} {a : Arguments}
    (hparse : Arguments.parse arguments = .ok a) (hhelp : a.isOn "help" = false)
    (hnoFile : a.value? "--answers" = none) (hstatus : statusOf (run { input } arguments) = 0)
    (hrecord : (recordOf { input } a {}).any (fun r =>
      r.source.text? == some "prompt" && !r.styleGuide.isTruthy) = true) :
    ∃ j, EndsWell { input } arguments a j := by
  have hcourse := run_course { input } arguments fun b hb => by
    rw [hparse] at hb
    exact Except.ok.inj hb ▸ hhelp
  rcases hcourse with hstopped | ⟨b, j, hb, hfound, -⟩
  · exact absurd hstatus hstopped.status
  obtain rfl := Except.ok.inj (hparse.symm.trans hb)
  have husual : Settings.load Tree.empty {} none = .ok {} := rfl
  have hsettings : {} = j.settings := Except.ok.inj (husual.symm.trans hfound.settings)
  obtain ⟨flags, known, m, hm⟩ := hfound.record
  rw [hsettings, recordOf_eq_some.mpr ⟨flags, known, m, j.shown, hm⟩, Option.any_some, Bool.and_eq_true, beq_iff_eq,
    Bool.not_eq_true'] at hrecord
  refine ⟨j, hparse, hhelp, fun file hfile => ?_, hfound, hrecord.1, hrecord.2, hstatus⟩
  rw [hnoFile] at hfile
  cases hfile
  exact nofun

/-- A command line with a text for the width. -/
def indenting (text : String) : List String := ["--indent", text, "--skip-package-check"]

def indentingArguments (text : String) : Arguments :=
  { options := [("--indent", text)], switches := [("skip-package-check", true)] }

theorem parse_indenting (text : String) :
    Arguments.parse (indenting text) = .ok (indentingArguments text) := rfl

/-- A command line that asks for questions, and the lines typed to answer them. -/
def asking : List String := ["--interactive", "--skip-package-check"]

def askingArguments : Arguments :=
  { switches := [("interactive", true), ("skip-package-check", true)] }

def typing (line : String) : List String := "" :: line :: List.replicate 8 ""

/-- A width in the digits of another script is accepted as a flag, and where it is asked for a word is
refused. -/
theorem run_answered_arabic :
    (∃ shown, Answered {} (indentingArguments "٣") "٣" shown (run {} (indenting "٣"))) ∧
    ∃ shown, Answered { input := typing "three" } askingArguments "three" shown
      (run { input := typing "three" } asking) := by
  obtain ⟨j, hj⟩ : ∃ j, EndsWell {} (indenting "4") (indentingArguments "4") j :=
    exists_endsWell (parse_indenting "4") (by decide +kernel) rfl (by decide +kernel)
      (by decide +kernel)
  obtain ⟨j', hj'⟩ : ∃ j, EndsWell { input := typing "4" } asking askingArguments j :=
    exists_endsWell rfl (by decide +kernel) rfl (by decide +kernel) (by decide +kernel)
  refine ⟨⟨j.shown, ?_⟩, j'.shown, ?_⟩
  · have hflag : Replaces {} (indentingArguments "4") "٣" {} (indentingArguments "٣") :=
      .flag (by decide) ⟨rfl, rfl, rfl⟩ rfl rfl
    have hdecimal : IsDecimal "٣" := by decide
    refine (run_answered_iff hj hflag (parse_indenting "٣")).mpr
      ⟨fun _ => ⟨hdecimal, by decide⟩, fun hnone => ?_⟩
    exact absurd (Width.spaces hdecimal (by decide)) (hnone _)
  · have hasks : AsksWidth (Answers.basis "JSON") [""]
        (answer (Answers.basis "JSON") "style_guide" .null)
        "Style guide (none, google, airbnb, standard) [none]: " "4" :=
      ⟨by rfl, rfl, rfl, by decide +kernel⟩
    have htyped : Replaces { input := typing "4" } askingArguments "three"
        { input := typing "three" } askingArguments :=
      .typed (by decide) ⟨rfl, _, rfl, rfl⟩ hasks rfl rfl
    refine (run_answered_iff hj' htyped rfl).mpr ⟨fun hdigits => ?_, fun _ => ?_⟩
    · exact absurd hdigits (by decide)
    · exact Failing.exists_ok_of_isSome (by decide +kernel)

/-- A superscript is a digit that no number is written with: the run comes to a halt. -/
theorem run_superscript : statusOf (run {} (indenting "4")) = 0 ∧
    ∀ o, run {} (indenting "²") ≠ .ok o :=
  ⟨by decide +kernel, Failing.not_ok_of_isNone (by decide +kernel)⟩

end LintConfig.Command
