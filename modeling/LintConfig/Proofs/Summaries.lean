import LintConfig.Config.Summary
import LintConfig.Proofs.Inert

/-! # Summaries

A summary can be printed if each of its texts can be read as markup: the line with the base, the lines
with names, and the cells of the table. Nothing else can go wrong, but for settings that cannot be told.
The names of environments and plugins stand on lines of their own. Where such a line is inert it is
printed character for character, and a name in it that is not too wide is not broken. -/
namespace LintConfig.Summary
open Console (Inert Level Shows columns width)
open Text (isBlank)

/-- A text that can be read as markup. -/
def Legible (text : String) : Prop := ∃ out, Console.markup text.toList = .ok out

theorem Legible.of_inert {text : String} (h : Inert text.toList) : Legible text := ⟨_, h.markup⟩

theorem Legible.of_not_mem {text : String} (h : '[' ∉ text.toList) : Legible text :=
  Console.markup_ok h

theorem print_ok_iff {text : String} : (∃ line, print text = .ok line) ↔ Legible text := by
  constructor
  · rintro ⟨line, hline⟩
    obtain ⟨out, hout, -⟩ := Failing.map_eq_ok.mp (Failing.mapError_eq_ok.mp hline)
    exact ⟨out, hout⟩
  · rintro ⟨out, hout⟩
    exact ⟨_, Failing.mapError_eq_ok.mpr (Failing.map_eq_ok.mpr ⟨out, hout, rfl⟩)⟩

theorem cell_ok_iff {text : String} : (∃ shown, cell text = .ok shown) ↔ Legible text :=
  exists_congr fun _ => Failing.mapError_eq_ok

/-- A line with names as it is before markup is read. -/
def namesText (title : String) (names : List String) : String := title ++ ": " ++ joined ", " names

theorem namesLine_of_ne_nil {title : String} {names : List String} (h : names ≠ []) :
    namesLine title names = print (namesText title names) := by
  rw [namesLine, if_neg (by simpa using h)]
  rfl

theorem namesLine_ok_iff {title : String} {names : List String} :
    (∃ line, namesLine title names = .ok line) ↔ (names ≠ [] → Legible (namesText title names)) := by
  by_cases h : names = []
  · subst h
    exact iff_of_true ⟨"", rfl⟩ fun hne => absurd rfl hne
  · rw [namesLine_of_ne_nil h, print_ok_iff]
    exact ⟨fun hlegible _ => hlegible, fun hlegible => hlegible h⟩

/-- A rule whose line in the table can be printed. -/
def Tabled (e : String × Setting) : Prop :=
  Legible e.1 ∧ ∃ text, describe e.2 = .ok text ∧ Legible text

theorem rulesTable_ok_iff {rules : Entries Setting} :
    (∃ table, rulesTable rules = .ok table) ↔ ∀ e ∈ rules, Tabled e := by
  unfold rulesTable
  split
  · rename_i hempty
    rw [List.isEmpty_iff.mp hempty]
    exact iff_of_true ⟨_, rfl⟩ nofun
  constructor
  · rintro ⟨table, htable⟩ e he
    obtain ⟨described, hdescribed, htable⟩ := Failing.bind_eq_ok.mp htable
    obtain ⟨rows, hrows, -⟩ := Failing.bind_eq_ok.mp htable
    obtain ⟨d, hd⟩ := Failing.forall_of_mapM_ok hdescribed he
    obtain ⟨text, htext, rfl⟩ := Failing.map_eq_ok.mp hd
    obtain ⟨row, hrow⟩ := Failing.forall_of_mapM_ok hrows (Failing.mem_of_mapM hdescribed he hd)
    obtain ⟨name, hname, hrow⟩ := Failing.bind_eq_ok.mp hrow
    obtain ⟨setting, hsetting, -⟩ := Failing.bind_eq_ok.mp hrow
    exact ⟨cell_ok_iff.mp ⟨name, hname⟩, text, htext, cell_ok_iff.mp ⟨setting, hsetting⟩⟩
  · intro h
    obtain ⟨described, hdescribed⟩ := Failing.mapM_ok_of_forall
      (f := fun e : String × Setting => (describe e.2).map (e.1, ·)) fun e he => by
        obtain ⟨-, text, htext, -⟩ := h e he
        exact ⟨(e.1, text), by rw [htext]; rfl⟩
    obtain ⟨rows, hrows⟩ := Failing.mapM_ok_of_forall
      (f := fun d : String × String => do return (← cell d.1, ← cell d.2)) fun d hd => by
        obtain ⟨e, he, hed⟩ := Failing.exists_of_mem_mapM hdescribed hd
        obtain ⟨hname, text, htext, hlegible⟩ := h e he
        obtain ⟨text', htext', rfl⟩ := Failing.map_eq_ok.mp hed
        obtain rfl := Except.ok.inj (htext.symm.trans htext')
        obtain ⟨name, hname⟩ := cell_ok_iff.mpr hname
        obtain ⟨setting, hsetting⟩ := cell_ok_iff.mpr hlegible
        exact ⟨(name, setting), Failing.bind_eq_ok.mpr ⟨name, hname,
          Failing.bind_eq_ok.mpr ⟨setting, hsetting, rfl⟩⟩⟩
    have hheading : Legible "Rule" ∧ Legible "Setting" :=
      ⟨.of_not_mem (by decide), .of_not_mem (by decide)⟩
    obtain ⟨rule, hrule⟩ := cell_ok_iff.mpr hheading.1
    obtain ⟨setting, hsetting⟩ := cell_ok_iff.mpr hheading.2
    refine ⟨Console.Table.print { heading := (rule, setting), rows }, ?_⟩
    refine Failing.bind_eq_ok.mpr ⟨described, hdescribed, ?_⟩
    refine Failing.bind_eq_ok.mpr ⟨rows, hrows, ?_⟩
    exact Failing.bind_eq_ok.mpr ⟨rule, hrule, Failing.bind_eq_ok.mpr ⟨setting, hsetting, rfl⟩⟩

/-- The line with the base as it is before markup is read. -/
def baseText (f : Fragment) : String :=
  "Extends: [bold]" ++ (if f.base.getD "" == "" then "-" else f.base.getD "") ++ "[/bold]"

/-- The lines with names: what stands before the names, and the names. -/
def nameLines (f : Fragment) : List (String × List String) :=
  [("Environments", sorted f.env.names), ("Plugins", f.plugins),
   ("ECMA features", sorted f.ecmaFeatures.names)]

theorem forall_nameLines {f : Fragment} {P : String × List String → Prop} :
    (∀ l ∈ nameLines f, P l) ↔ P ("Environments", sorted f.env.names) ∧ P ("Plugins", f.plugins) ∧
      P ("ECMA features", sorted f.ecmaFeatures.names) := by
  simp [nameLines]

/-- A configuration whose texts can all be read as markup. -/
structure Summed (f : Fragment) : Prop where
  base : Legible (baseText f)
  names : ∀ l ∈ nameLines f, l.2 ≠ [] → Legible (namesText l.1 l.2)
  rules : ∀ e ∈ f.rules, Tabled e

/-- A summary consists of its lines and the table. -/
theorem summary_eq_ok {f : Fragment} {text : String} : f.summary = .ok text ↔
    ∃ extended env plugins features table, print (baseText f) = .ok extended ∧
      namesLine "Environments" (sorted f.env.names) = .ok env ∧
      namesLine "Plugins" f.plugins = .ok plugins ∧
      namesLine "ECMA features" (sorted f.ecmaFeatures.names) = .ok features ∧
      rulesTable f.rules = .ok table ∧
      Console.ruled "Generated Config" ++ extended ++ env ++ plugins ++ features ++ table = text := by
  unfold Fragment.summary
  constructor
  · intro h
    obtain ⟨extended, hextended, h⟩ := Failing.bind_eq_ok.mp h
    obtain ⟨env, henv, h⟩ := Failing.bind_eq_ok.mp h
    obtain ⟨plugins, hplugins, h⟩ := Failing.bind_eq_ok.mp h
    obtain ⟨features, hfeatures, h⟩ := Failing.bind_eq_ok.mp h
    obtain ⟨table, htable, h⟩ := Failing.bind_eq_ok.mp h
    exact ⟨_, _, _, _, _, hextended, henv, hplugins, hfeatures, htable, Except.ok.inj h⟩
  · rintro ⟨extended, env, plugins, features, table, hextended, henv, hplugins, hfeatures, htable, rfl⟩
    refine Failing.bind_eq_ok.mpr ⟨extended, hextended, ?_⟩
    refine Failing.bind_eq_ok.mpr ⟨env, henv, ?_⟩
    refine Failing.bind_eq_ok.mpr ⟨plugins, hplugins, ?_⟩
    refine Failing.bind_eq_ok.mpr ⟨features, hfeatures, ?_⟩
    exact Failing.bind_eq_ok.mpr ⟨table, htable, rfl⟩

/-- A summary can be printed exactly if all of its texts can. -/
theorem summary_completes_iff {f : Fragment} : (∃ text, f.summary = .ok text) ↔ Summed f := by
  have hnames : (∀ l ∈ nameLines f, ∃ line, namesLine l.1 l.2 = .ok line) ↔
      ∀ l ∈ nameLines f, l.2 ≠ [] → Legible (namesText l.1 l.2) :=
    forall₂_congr fun _ _ => namesLine_ok_iff
  rw [forall_nameLines] at hnames
  constructor
  · rintro ⟨text, htext⟩
    obtain ⟨extended, env, plugins, features, table, hextended, henv, hplugins, hfeatures, htable, -⟩ :=
      summary_eq_ok.mp htext
    exact ⟨print_ok_iff.mp ⟨_, hextended⟩, hnames.mp ⟨⟨_, henv⟩, ⟨_, hplugins⟩, _, hfeatures⟩,
      rulesTable_ok_iff.mp ⟨_, htable⟩⟩
  · rintro ⟨hbase, hlines, hrules⟩
    obtain ⟨⟨env, henv⟩, ⟨plugins, hplugins⟩, features, hfeatures⟩ := hnames.mpr hlines
    obtain ⟨extended, hextended⟩ := print_ok_iff.mpr hbase
    obtain ⟨table, htable⟩ := rulesTable_ok_iff.mpr hrules
    exact ⟨_, summary_eq_ok.mpr ⟨_, _, _, _, _, hextended, henv, hplugins, hfeatures, htable, rfl⟩⟩

/-! ### Names -/

/-- A name that fits on its line: all of the line fits, or else the name is a word that fits, together
with the comma behind it. -/
def Fits (line : List Char) (name : String) : Prop :=
  (width line ≤ columns ∧ line.length ≤ columns) ∨
    (∀ c ∈ name.toList, isBlank c = false) ∧ width (name.toList ++ [',']) ≤ columns

/-- Where a name stands in a list of names. -/
theorem joined_split {name : String} {names : List String} (h : name ∈ names) :
    ∃ before behind, (joined ", " names).toList = before ++ name.toList ++ behind ∧
      Console.EndsBlank before ∧ (behind = [] ∨ ∃ rest, behind = ',' :: ' ' :: rest) := by
  induction names with
  | nil => cases h
  | cons first names ih =>
    cases names with
    | nil =>
      obtain rfl := List.mem_singleton.mp h
      exact ⟨[], [], by simp [joined], Console.endsBlank_nil, .inl rfl⟩
    | cons next names =>
      have hjoined : (joined ", " (first :: next :: names)).toList =
          first.toList ++ ',' :: ' ' :: (joined ", " (next :: names)).toList := by
        rw [joined.eq_3 _ _ _ (List.cons_ne_nil _ _), String.toList_append, String.toList_append,
          List.append_assoc]
        rfl
      rcases List.mem_cons.mp h with rfl | h
      · exact ⟨[], _, hjoined, Console.endsBlank_nil, .inr ⟨_, rfl⟩⟩
      · obtain ⟨before, behind, hrest, hbefore, hbehind⟩ := ih h
        have hcomma : Console.EndsBlank [',', ' '] := fun c hc => by cases hc; rfl
        refine ⟨first.toList ++ ([',', ' '] ++ before), behind, by rw [hjoined, hrest]; simp, ?_, hbehind⟩
        exact (hcomma.join hbefore).append (List.cons_ne_nil _ _)

theorem namesText_split (title : String) {name : String} {names : List String} (h : name ∈ names) :
    ∃ before behind, (namesText title names).toList = before ++ name.toList ++ behind ∧
      Console.EndsBlank before ∧ (behind = [] ∨ ∃ rest, behind = ',' :: ' ' :: rest) := by
  obtain ⟨before, behind, hjoined, hbefore, hbehind⟩ := joined_split h
  have hcolon : Console.EndsBlank [':', ' '] := fun c hc => by cases hc; rfl
  refine ⟨title.toList ++ ([':', ' '] ++ before), behind, ?_,
    (hcolon.join hbefore).append (List.cons_ne_nil _ _), hbehind⟩
  rw [namesText, String.toList_append, String.toList_append, hjoined]
  simp

/-- A name without blanks, with the comma behind it if there is one, stands alone on its line. -/
theorem exists_standsAlone (title : String) {name : String} {names : List String} (h : name ∈ names)
    (hsolid : ∀ c ∈ name.toList, isBlank c = false) :
    ∃ u, Console.Wrap.StandsAlone u (namesText title names).toList ∧ name.toList <+: u ∧
      width u ≤ width (name.toList ++ [',']) := by
  obtain ⟨before, behind, htext, hbefore, rfl | ⟨rest, rfl⟩⟩ := namesText_split title h
  · exact ⟨name.toList, ⟨hsolid, before, [], htext, hbefore, nofun⟩, List.prefix_rfl,
      Console.width_le_append (by decide)⟩
  · refine ⟨name.toList ++ [','], ⟨fun c hc => ?_, before, ' ' :: rest, ?_, hbefore, ?_⟩,
      List.prefix_append _ _, le_rfl⟩
    · rcases List.mem_append.mp hc with hc | hc
      · exact hsolid c hc
      · obtain rfl := List.mem_singleton.mp hc
        decide
    · rw [htext]
      simp
    · intro c hc
      cases hc
      rfl

/-- Names on a line of their own are printed as they are, if the line is inert. -/
theorem name_mem_line {title name line : String} {names : List String}
    (htitle : Console.Wrap.BeginsSolid title.toList) (hline : namesLine title names = .ok line)
    (hinert : Inert (namesText title names).toList) (hlevel : Level (namesText title names).toList)
    (hname : name ∈ names) (hfits : Fits (namesText title names).toList name) :
    name.toList <:+: line.toList := by
  rw [namesLine_of_ne_nil (List.ne_nil_of_mem hname), print, hinert.print] at hline
  obtain rfl : Console.ended _ = line := Except.ok.inj hline
  rcases hfits with ⟨hwidth, hlength⟩ | ⟨hsolid, hwidth⟩
  · rw [Console.wrap_eq_singleton hlevel hwidth hlength]
    obtain ⟨before, behind, htext, -⟩ := namesText_split title hname
    exact List.IsInfix.trans ⟨before, behind, htext.symm⟩
      (Console.infix_ended List.mem_cons_self)
  · by_cases hempty : name.toList = []
    · rw [hempty]
      exact List.nil_infix
    obtain ⟨u, hu, hprefix, hnarrow⟩ := exists_standsAlone title hname hsolid
    have hne : u ≠ [] := fun he => hempty (List.prefix_nil.mp (he ▸ hprefix))
    have hbegins : Console.Wrap.BeginsSolid (namesText title names).toList := by
      obtain ⟨c, rest, hc, hblank⟩ := htitle
      rw [namesText, String.toList_append, String.toList_append, hc]
      exact ⟨c, _, rfl, hblank⟩
    obtain ⟨l, hl, hin⟩ := Console.wrap_keeps_word (by decide) hlevel hbegins hu hne
      (hnarrow.trans hwidth)
    exact hprefix.isInfix.trans (hin.trans (Console.infix_ended hl))

/-- A line of names is printed character for character exactly if it is inert, and then each of its
names is, wherever it fits. -/
structure Listed (title : String) (names : List String) (line : String) : Prop where
  printed : namesLine title names = .ok line
  shown : (∃ lines, line = Console.ended lines ∧ Shows lines (namesText title names).toList) ↔
    Inert (namesText title names).toList
  kept : Inert (namesText title names).toList → Level (namesText title names).toList →
    ∀ name ∈ names, Fits (namesText title names).toList name → name.toList <:+: line.toList

theorem listed {title line : String} {names : List String}
    (htitle : Console.Wrap.BeginsSolid title.toList) (hne : names ≠ [])
    (hline : namesLine title names = .ok line) : Listed title names line := by
  refine ⟨hline, ?_, fun hinert hlevel name => name_mem_line htitle hline hinert hlevel⟩
  rw [← Console.print_shows_iff]
  rw [namesLine_of_ne_nil hne] at hline
  have hprint := Failing.mapError_eq_ok.mp hline
  refine exists_congr fun lines => and_congr_left' ?_
  rw [hprint]
  exact ⟨congrArg _, Except.ok.inj⟩

/-- In a summary all lines of names are listed. -/
theorem exists_listed {f : Fragment} {text : String} (h : f.summary = .ok text) :
    ∀ l ∈ nameLines f, l.2 ≠ [] → ∃ line, Listed l.1 l.2 line ∧ line.toList <:+: text.toList := by
  obtain ⟨extended, env, plugins, features, table, -, henv, hplugins, hfeatures, -, rfl⟩ :=
    summary_eq_ok.mp h
  have hbegins : Console.Wrap.BeginsSolid "Environments".toList ∧
      Console.Wrap.BeginsSolid "Plugins".toList ∧ Console.Wrap.BeginsSolid "ECMA features".toList :=
    ⟨⟨'E', _, rfl, rfl⟩, ⟨'P', _, rfl, rfl⟩, ⟨'E', _, rfl, rfl⟩⟩
  have hinfix : ∀ before line behind : String, line.toList <:+: (before ++ line ++ behind).toList :=
    fun before line behind => ⟨before.toList, behind.toList, by simp only [String.toList_append]⟩
  rw [forall_nameLines]
  refine ⟨fun hne => ⟨env, listed hbegins.1 hne henv, ?_⟩,
    fun hne => ⟨plugins, listed hbegins.2.1 hne hplugins, ?_⟩,
    fun hne => ⟨features, listed hbegins.2.2 hne hfeatures, ?_⟩⟩
  · simpa only [String.append_assoc] using hinfix (Console.ruled "Generated Config" ++ extended) env
      (plugins ++ features ++ table)
  · simpa only [String.append_assoc] using hinfix (Console.ruled "Generated Config" ++ extended ++ env)
      plugins (features ++ table)
  · exact hinfix (Console.ruled "Generated Config" ++ extended ++ env ++ plugins) features table

end LintConfig.Summary
