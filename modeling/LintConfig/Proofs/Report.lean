import LintConfig.Command.Run
import LintConfig.Proofs.Contract
import LintConfig.Proofs.Lossless
import LintConfig.Proofs.Requirements
import LintConfig.Proofs.Summaries

/-! # What is printed about a configuration

Whatever is printed is read as markup first, and a bracket in it can be taken for a tag. Nothing that
a configuration says of itself has brackets: its base, its plugins and features are known words, and so
are its rules and their settings, but for a width. Two texts are left that come from outside, the names of
environments and the path of the file; with them the whole report stands and falls. -/
namespace LintConfig

namespace Value

theorem plain_integer (n : Int) : (Value.integer n).plain = toString n := rfl

/-- A width is written in digits. -/
theorem bracket_not_mem_integer {n : Int} (h : 0 < n) : '[' ∉ (Value.integer n).plain.toList := by
  obtain ⟨k, rfl⟩ := Int.eq_ofNat_of_zero_le h.le
  rw [plain_integer]
  change '[' ∉ (toString (Int.ofNat k)).toList
  rw [Json.toList_natural]
  intro hin
  have hdigit := Json.isDigit_of_mem_toDigits hin
  revert hdigit
  decide

theorem plain_of_text {v : Value} {s : String} (h : v.text? = some s) : v.plain = s := by
  cases v <;> simp_all [Value.text?, Value.plain]

end Value

namespace Summary
open Style (Rule)
open Console.Markup (Unmarked)
open Synthesis (Admits Settles WellFormed)

/-- An option of a rule has no bracket in it. -/
theorem bracket_not_mem_option {rule : Rule} {v : Value} (h : Admits rule v) :
    '[' ∉ v.plain.toList := by
  cases rule with
  | indent =>
    rcases h with ⟨n, hn, rfl⟩ | rfl
    · exact Value.bracket_not_mem_integer hn
    · decide
  | quotes | linebreak =>
    obtain ⟨word, hword, hv⟩ := h
    rw [Value.plain_of_text hv]
    rcases List.mem_pair.mp hword with rfl | rfl <;> decide
  | semi =>
    obtain ⟨word, hword, rfl⟩ := h
    rcases List.mem_pair.mp hword with rfl | rfl <;> decide

/-- A setting that is not too long can be described, without a bracket. -/
theorem describe_ok {r : Answers.Record} {rule : Rule} {s : Setting} (h : Settles r rule s)
    (hlong : s.isLong = false) : ∃ text, describe s = .ok text ∧ '[' ∉ text.toList := by
  unfold describe
  rw [hlong]
  rcases h with ⟨rfl, -⟩ | ⟨v, rfl, hv⟩
  · exact ⟨"off (mixed usage)", rfl, by decide⟩
  · refine ⟨"2: " ++ v.plain, rfl, ?_⟩
    · rw [String.toList_append, List.mem_append, not_or]
      exact ⟨by decide, bracket_not_mem_option hv⟩

theorem forall_mem_joined {P : Char → Prop} {separator : String}
    (hseparator : ∀ c ∈ separator.toList, P c) {names : List String}
    (h : ∀ name ∈ names, ∀ c ∈ name.toList, P c) : ∀ c ∈ (joined separator names).toList, P c := by
  induction names with
  | nil => exact nofun
  | cons name names ih =>
    cases names with
    | nil => exact h name List.mem_cons_self
    | cons next names =>
      have hrest := ih fun name hname => h name (List.mem_cons_of_mem _ hname)
      intro c hc
      rw [joined.eq_3 _ _ _ (List.cons_ne_nil _ _), String.toList_append, String.toList_append,
        List.mem_append, List.mem_append] at hc
      rcases hc with (hc | hc) | hc
      · exact h name List.mem_cons_self c hc
      · exact hseparator c hc
      · exact hrest c hc

theorem bracket_not_mem_joined {names : List String} (h : ∀ name ∈ names, '[' ∉ name.toList) :
    '[' ∉ (joined ", " names).toList := by
  have hseparator : '[' ∉ ", ".toList := by decide
  have hall := forall_mem_joined (P := (· ≠ '[')) (fun c hc he => hseparator (he ▸ hc))
    fun name hname c hc he => h name hname (he ▸ hc)
  exact fun hin => hall _ hin rfl

theorem legible_names {title : String} {names : List String} (htitle : '[' ∉ title.toList)
    (hnames : ∀ name ∈ names, '[' ∉ name.toList) : Legible (namesText title names) := by
  refine .of_not_mem ?_
  rw [namesText, String.toList_append, String.toList_append]
  simp only [List.mem_append, not_or]
  exact ⟨⟨htitle, by decide⟩, bracket_not_mem_joined hnames⟩

/-! ### A whole configuration -/

/-- The configurations that answers come to: those of style guides, and those that are well formed. -/
inductive Generated (f : Fragment) : Prop
  | guide (g : StyleGuide) (h : f = g.fragment)
  | free (r : Answers.Record) (h : WellFormed r f)

theorem generated_of_synthesize {root : Files.Tree} {o : Scan.Options} {r : Answers.Record}
    {out : Synthesis.Outcome} (h : Synthesis.synthesize root o r = .ok out) :
    Generated out.fragment := by
  rcases Synthesis.shape_of_synthesize h with ⟨g, hg⟩ | hformed
  · exact .guide g hg
  · exact .free r hformed

/-- The line with the names of environments. -/
def environmentsLine (f : Fragment) : Except Failure String :=
  namesLine "Environments" (sorted f.env.names)

theorem legible_base {f : Fragment} (h : Generated f) : Legible (baseText f) := by
  have hknown : ∀ base ∈ "eslint:recommended" :: StyleGuide.all.map StyleGuide.name,
      base ≠ "" ∧ Unmarked base.toList := by
    decide
  have hbase : ∃ base ∈ "eslint:recommended" :: StyleGuide.all.map StyleGuide.name,
      f.base = some base := by
    cases h with
    | guide g h =>
      refine ⟨g.name, List.mem_cons_of_mem _ (List.mem_map_of_mem ?_), by rw [h]; rfl⟩
      cases g <;> decide
    | free r h => exact ⟨_, List.mem_cons_self, h.base⟩
  obtain ⟨base, hmem, hbase⟩ := hbase
  obtain ⟨hne, hplain⟩ := hknown base hmem
  have htext : (baseText f).toList =
      Console.Markup.tagged "Extends: ".toList "bold".toList base.toList [] := by
    rw [baseText, hbase, Option.getD_some, if_neg (by simpa using hne), String.toList_append,
      String.toList_append]
    rfl
  rw [Legible, htext]
  exact Console.markup_tagged (by decide) (by decide) hplain ⟨_, rfl⟩

theorem plugins_plain {f : Fragment} (h : Generated f) : ∀ name ∈ f.plugins, '[' ∉ name.toList := by
  intro name hname
  cases h with
  | guide g h =>
    have hall : ∀ g ∈ StyleGuide.all, ∀ name ∈ g.fragment.plugins, '[' ∉ name.toList := by decide
    exact hall g (by cases g <;> decide) name (h ▸ hname)
  | free r h =>
    obtain ⟨rfl, -⟩ := (h.plugins.2 name).mp hname
    decide

theorem ecmaFeatures_plain {f : Fragment} (h : Generated f) :
    ∀ name ∈ sorted f.ecmaFeatures.names, '[' ∉ name.toList := by
  intro name hname
  rw [sorted, List.mem_mergeSort] at hname
  cases h with
  | guide g h =>
    rw [h] at hname
    cases hname
  | free r h =>
    obtain ⟨⟨name, value⟩, hmem, rfl⟩ := List.mem_map.mp hname
    obtain ⟨-, ⟨rfl, -⟩ | ⟨rfl, -⟩⟩ := (h.ecmaFeatures.mem name value).mp hmem
    · show '[' ∉ "jsx".toList
      decide
    · show '[' ∉ "experimentalObjectRestSpread".toList
      decide

theorem tabled {f : Fragment} (h : Generated f) (hlong : ∀ rule ∈ f.rules, rule.2.isLong = false) :
    ∀ e ∈ f.rules, Tabled e := by
  cases h with
  | guide g h =>
    rw [h]
    exact nofun
  | free r h =>
    obtain ⟨setting, hrules, hsetting⟩ := h.rules
    rw [hrules] at hlong ⊢
    intro e he
    have hrule : ∃ rule : Rule, e = (rule.name, setting rule) := by
      simp only [List.mem_cons, List.not_mem_nil, or_false] at he
      rcases he with rfl | rfl | rfl | rfl
      · exact ⟨.indent, rfl⟩
      · exact ⟨.quotes, rfl⟩
      · exact ⟨.linebreak, rfl⟩
      · exact ⟨.semi, rfl⟩
    obtain ⟨rule, rfl⟩ := hrule
    have hname : '[' ∉ rule.name.toList := by cases rule <;> decide
    obtain ⟨text, htext, hbracket⟩ := describe_ok (hsetting rule) (hlong _ he)
    exact ⟨.of_not_mem hname, text, htext, .of_not_mem hbracket⟩

/-- A configuration can be summed up if the names of its environments can be printed. -/
theorem summary_ok_iff {f : Fragment} (h : Generated f)
    (hlong : ∀ rule ∈ f.rules, rule.2.isLong = false) :
    (∃ text, f.summary = .ok text) ↔ ∃ line, environmentsLine f = .ok line := by
  have hplugins : Legible (namesText "Plugins" f.plugins) :=
    legible_names (by decide) (plugins_plain h)
  have hfeatures : Legible (namesText "ECMA features" (sorted f.ecmaFeatures.names)) :=
    legible_names (by decide) (ecmaFeatures_plain h)
  rw [summary_completes_iff, environmentsLine, namesLine_ok_iff]
  constructor
  · exact fun hsummed => hsummed.names _ List.mem_cons_self
  · exact fun henv => ⟨legible_base h, forall_nameLines.mpr ⟨henv, fun _ => hplugins, fun _ => hfeatures⟩,
      tabled h hlong⟩

end Summary

/-! ### Packages -/

namespace Packages
open Summary (Generated)

/-- All that configurations can require. -/
def requirable : List String :=
  ["eslint-plugin-react", "eslint-plugin-standard", "eslint-config-google",
   "eslint-config-airbnb", "eslint-config-standard"]

theorem required_mem {f : Fragment} (h : Generated f) : ∀ name ∈ required f, name ∈ requirable := by
  cases h with
  | guide g h =>
    rw [h]
    cases g <;> decide
  | free r h =>
    intro name hname
    have hbase : ofBase f.base = [] := by rw [h.base]; decide
    rw [required, hbase, List.nil_append, firstOccurrences_nil, List.mem_eraseDups] at hname
    obtain ⟨plugin, hplugin, rfl⟩ := List.mem_map.mp hname
    obtain ⟨rfl, -⟩ := (h.plugins.2 plugin).mp hplugin
    decide

theorem status_ok {names : List String} (h : ∀ name ∈ names, name ∈ requirable)
    (root : Files.Tree) : ∃ found, status root names = .ok found := by
  have hplain : ∀ name ∈ requirable, '/' ∉ name.toList ∧ name ≠ "" ∧ name ≠ "." ∧
      name.utf8ByteSize ≤ Files.componentLimit := by decide
  refine ⟨_, status_eq_ok.mpr ⟨fun name hname => ?_, rfl⟩⟩
  obtain ⟨hslash, hempty, hdot, hsize⟩ := hplain name (h name hname)
  exact askable_of_name hslash hempty hdot hsize

/-- What is missing is part of what was asked for. -/
theorem mem_of_missing {root : Files.Tree} {names : List String} {found : List (String × Bool)}
    (h : status root names = .ok found) {name : String} (hname : name ∈ missing found) :
    name ∈ names := by
  obtain ⟨-, rfl⟩ := status_eq_ok.mp h
  rw [missing_status] at hname
  exact List.mem_of_mem_filter hname

end Packages

namespace Command
open Console.Markup (Unmarked)
open Files (Tree)
open Summary (Generated)

theorem print_ok {text : String} (h : ∃ shown, Console.print text = .ok shown) :
    ∃ shown, print text = .ok shown := by
  obtain ⟨shown, hshown⟩ := h
  exact ⟨shown, Failing.mapError_eq_ok.mpr hshown⟩

/-- The names of the packages that can be missing have nothing in them that tags are made with. -/
theorem unmarked_requirable : ∀ name ∈ Packages.requirable, Unmarked name.toList := by
  decide

theorem countLine_ok {missing : List String} (h : ∀ name ∈ missing, Unmarked name.toList) :
    ∃ line, print ("\n[yellow]" ++ toString missing.length ++
      " package(s) not installed:[/yellow] " ++ joined ", " missing) = .ok line := by
  have hcount : Unmarked (toString missing.length ++ " package(s) not installed:").toList := by
    intro c hc
    rw [String.toList_append, List.mem_append, Nat.toString_eq_ofList_toDigits,
      String.toList_ofList] at hc
    rcases hc with hc | hc
    · have hdigit := Json.isDigit_of_mem_toDigits hc
      cases hmark : Console.Markup.isMark c with
      | false => rfl
      | true =>
        simp only [Console.Markup.isMark, Bool.or_eq_true, beq_iff_eq] at hmark
        rcases hmark with ((rfl | rfl) | rfl) | rfl <;> revert hdigit <;> decide
    · exact (show Unmarked " package(s) not installed:".toList by decide) c hc
  have hnames : '[' ∉ ' ' :: (joined ", " missing).toList := by
    rw [List.mem_cons, not_or]
    exact ⟨by decide, Summary.bracket_not_mem_joined fun name hname =>
      Console.Markup.bracket_not_mem (h name hname)⟩
  refine print_ok (Console.print_tagged (a := ['\n']) (t := "yellow".toList) ?_ (by decide)
    (by decide) hcount hnames)
  simp [Console.Markup.tagged, String.toList_append]

theorem commandLine_ok {missing : List String} (h : ∀ name ∈ missing, Unmarked name.toList) :
    ∃ line, print ("Install with: [bold]" ++ Packages.installCommand missing ++ "[/bold]") =
      .ok line := by
  have hcommand : Unmarked (Packages.installCommand missing).toList := by
    have htext : (Packages.installCommand missing).toList =
        "npm install --save-dev ".toList ++ (joined " " missing).toList := String.toList_append
    intro c hc
    rw [htext] at hc
    rcases List.mem_append.mp hc with hc | hc
    · exact (show Unmarked "npm install --save-dev ".toList by decide) c hc
    · have hblank : Unmarked " ".toList := by decide
      exact Summary.forall_mem_joined (P := fun c => Console.Markup.isMark c = false) hblank h c hc
  refine print_ok (Console.print_tagged (a := "Install with: ".toList) (t := "bold".toList) (c := [])
    ?_ (by decide) (by decide) hcommand List.not_mem_nil)
  simp [Console.Markup.tagged, String.toList_append]

theorem packageReport_ok {f : Fragment} (h : Generated f) (files : Tree) :
    ∃ text, packageReport files f = .ok text := by
  have hrequired := Packages.required_mem h
  obtain ⟨found, hfound⟩ := Packages.status_ok hrequired files
  have hplain : ∀ name ∈ Packages.missing found, Unmarked name.toList := fun name hname =>
    unmarked_requirable name (hrequired name (Packages.mem_of_missing hfound hname))
  obtain ⟨count, hcount⟩ := countLine_ok hplain
  obtain ⟨command, hcommand⟩ := commandLine_ok hplain
  unfold packageReport
  rw [hfound]
  simp only [Except.mapError, bind, Except.bind]
  split
  · exact ⟨"", rfl⟩
  · rw [hcount, hcommand]
    exact ⟨count ++ command, rfl⟩

/-! ### The report -/

/-- The line with the path of the file. -/
def savedLine (p : Files.Path) : Except Failure String :=
  print ("\n[dim]Saved to: " ++ p.text ++ "[/dim]")

/-- The lines with the names of environments and with the path can be printed. Names and path are
read as markup there, so that a bracket in them can be a tag that was never opened. -/
structure Reportable (f : Fragment) (p : Files.Path) : Prop where
  environments : ∃ line, Summary.environmentsLine f = .ok line
  saved : ∃ line, savedLine p = .ok line

/-- Of all that is printed about a configuration only two lines can fail: the one with the names of
environments and the one with the path, if the configuration was saved. -/
theorem report_ok_iff_lines {files : Tree} {a : Arguments} {f : Fragment} {saved : Option Files.Path}
    (h : Generated f) (hlong : ∀ rule ∈ f.rules, rule.2.isLong = false) :
    (∃ told, report files a f saved = .ok told) ↔
      (∃ line, Summary.environmentsLine f = .ok line) ∧
        ∀ p, saved = some p → ∃ line, savedLine p = .ok line := by
  rw [← Summary.summary_ok_iff h hlong]
  obtain ⟨packages, hpackages⟩ := packageReport_ok h files
  unfold report savedLine
  cases hsummary : f.summary with
  | error e => simp [Except.mapError, bind, Except.bind]
  | ok summary =>
    cases saved with
    | none =>
      cases hskip : a.isOn "skip-package-check" <;>
        simp [Except.mapError, bind, Except.bind, pure, Except.pure, hpackages]
    | some p =>
      cases hsaved : print ("\n[dim]Saved to: " ++ p.text ++ "[/dim]") with
      | error e => simp [Except.mapError, bind, Except.bind, hsaved]
      | ok line =>
        cases hskip : a.isOn "skip-package-check" <;>
          simp [Except.mapError, bind, Except.bind, pure, Except.pure, hsaved, hpackages]

theorem report_ok_iff {files : Tree} {a : Arguments} {f : Fragment} {p : Files.Path}
    (h : Generated f) (hlong : ∀ rule ∈ f.rules, rule.2.isLong = false) :
    (∃ told, report files a f (some p) = .ok told) ↔ Reportable f p := by
  rw [report_ok_iff_lines h hlong]
  exact ⟨fun ⟨henvironments, hsaved⟩ => ⟨henvironments, hsaved p rfl⟩,
    fun ⟨henvironments, hsaved⟩ => ⟨henvironments, fun _ h => Option.some.inj h ▸ hsaved⟩⟩

end Command

end LintConfig
