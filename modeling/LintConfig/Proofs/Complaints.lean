import LintConfig.Proofs.Course
import LintConfig.Proofs.Report

/-! # Complaints

A run that cannot go on, for what the settings or the answers say, tells why and gives up. What it tells
quotes what was found, and it is read as markup like everything that is printed. So the message comes
out as it is if it is inert, and otherwise not: something in it is missing, or the run comes to a halt
because a tag in it closes nothing. -/
namespace LintConfig.Command
open Answers (Record)
open Console (Inert Level Shows)
open Files (Tree)

/-- A run has come to its settings and to a mapping of answers; what has been printed by then. -/
structure Reaches (w : Surroundings) (a : Arguments) (s : Settings) (m : Answers.Mapping)
    (shown : String) : Prop where
  settings : Settings.load w.files w.environment none = .ok s
  answers : ∃ flags known, a.answers = .ok flags ∧
    Answers.gather w.files s.format.name (a.value? "--answers") flags a.words = .ok known ∧
    answersOf w a known = .ok (m, shown)

section Complaints
variable (w : Surroundings) (a : Arguments)

/-- What a run complains about: what has been printed by then, the label, and the message. -/
inductive Complaint : (shown label message : String) → Prop
  | settings {e : Settings.Failure} (h : Settings.load w.files w.environment none = .error e)
      (hfault : isSettingsFault e = true) : Complaint "" "Config error:" e.message
  | answers {s : Settings} {flags : Answers.Mapping} {e : Answers.FileFailure}
      (hs : Settings.load w.files w.environment none = .ok s) (hflags : a.answers = .ok flags)
      (h : Answers.gather w.files s.format.name (a.value? "--answers") flags a.words = .error e)
      (hreported : isReported e = true) : Complaint "" "Error:" (reportOf e)
  | mapping {s : Settings} {m : Answers.Mapping} {shown : String} {e : Answers.Refusal}
      (hm : Reaches w a s m shown) (h : Answers.ofMapping m = .error (.refused e)) :
      Complaint shown "Error:" e.message
  | record {s : Settings} {m : Answers.Mapping} {shown : String} {r : Record} {e : Answers.Refusal}
      (hm : Reaches w a s m shown) (hr : Answers.ofMapping m = .ok r)
      (h : Synthesis.synthesize w.files s.scan r = .error (.refused e)) :
      Complaint shown "Error:" e.message
  | guide {s : Settings} {m : Answers.Mapping} {shown : String} {r : Record}
      {e : StyleGuide.Unsupported} (hm : Reaches w a s m shown) (hr : Answers.ofMapping m = .ok r)
      (h : Synthesis.synthesize w.files s.scan r = .error (.unsupportedGuide e)) :
      Complaint shown "Error:" e.message

end Complaints

variable {w : Surroundings} {a : Arguments} {arguments : List String} {shown label message : String}

theorem Complaint.label_mem (h : Complaint w a shown label message) :
    label = "Error:" ∨ label = "Config error:" := by
  cases h with
  | settings => exact .inr rfl
  | answers | mapping | record | guide => exact .inl rfl

/-- With a complaint a run gives up. -/
theorem run_eq_giveUp (ha : Arguments.parse arguments = .ok a) (hhelp : a.isOn "help" = false)
    (hcheck : a.check w.files = .ok ()) (h : Complaint w a shown label message) :
    run w arguments = giveUp w.files shown label message := by
  have hmapping : ∀ {s m shown}, Reaches w a s m shown →
      run w arguments = runMapping w.files a s m shown := by
    intro s m shown ⟨hs, flags, known, hflags, hknown, hm⟩
    exact run_eq_mapping ha hhelp hcheck hs hflags hknown hm
  cases h with
  | settings h hfault =>
    simp only [run, ha, hhelp, hcheck, runArguments, h, hfault, Bool.false_eq_true, if_false, if_true]
  | answers hs hflags h hreported =>
    simp only [run, ha, hhelp, hcheck, runArguments, hs, runSettings, orCrash, hflags, h, hreported,
      Except.mapError, bind, Except.bind, Bool.false_eq_true, if_false, if_true]
  | mapping hm h => rw [hmapping hm, runMapping, h]
  | record hm hr h =>
    rw [hmapping hm, runMapping, hr]
    dsimp only
    rw [runRecord, h]
  | guide hm hr h =>
    rw [hmapping hm, runMapping, hr]
    dsimp only
    rw [runRecord, h]

/-- The label of a message is bold and red, and it is shown as it is. -/
theorem markup_labelled (hlabel : label = "Error:" ∨ label = "Config error:") (message : String) :
    Console.markup ("[bold red]" ++ label ++ "[/bold red] " ++ message).toList =
      (Console.markup message.toList).map ((label.toList ++ [' ']) ++ ·) := by
  have htext : ("[bold red]" ++ label ++ "[/bold red] " ++ message).toList =
      Console.Markup.tagged [] "bold red".toList label.toList (' ' :: message.toList) := by
    simp [Console.Markup.tagged, String.toList_append]
  have hunmarked : Console.Markup.Unmarked label.toList := by
    rcases hlabel with rfl | rfl <;> decide
  have hshown : Console.Markup.shown label.toList = label.toList := by
    rcases hlabel with rfl | rfl <;> decide
  rw [htext, Console.markup_tagged_eq (by decide) (by decide) hunmarked, hshown,
    Console.markup_cons (by decide)]
  cases Console.markup message.toList with
  | error e => rfl
  | ok out => simp [Except.map, Console.Markup.shown, Console.Markup.unescape, Console.Picture.replace,
      Console.Picture.replaceFrom]

/-- A run tells a text, behind what has been shown, and ends with the status of a failure; the files are
as they were. -/
def Tells (w : Surroundings) (shown text : String) (x : Except Crash Outcome) : Prop :=
  ∃ lines, x = .ok { status := 1, output := shown ++ Console.ended lines, files := w.files } ∧
    Shows lines text.toList

/-- A run that gives up tells its message character for character exactly if this is inert. -/
theorem giveUp_tells_iff (hlabel : label = "Error:" ∨ label = "Config error:") :
    Tells w shown (label ++ " " ++ message) (giveUp w.files shown label message) ↔
      Inert message.toList := by
  have haudible : Console.Audible (label.toList ++ [' ']) := by
    rcases hlabel with rfl | rfl <;> decide
  rw [← Console.print_labelled_iff (markup_labelled hlabel message) haudible]
  have htext : (label ++ " " ++ message).toList = label.toList ++ [' '] ++ message.toList := by
    rw [String.toList_append, String.toList_append]
    rfl
  rw [Tells, htext]
  refine exists_congr fun lines => and_congr_left' ?_
  constructor
  · intro h
    obtain ⟨text, hprint, hout⟩ := Failing.bind_eq_ok.mp h
    have houtput : shown ++ text = shown ++ Console.ended lines :=
      congrArg Outcome.output (Except.ok.inj hout)
    have hsame : text = Console.ended lines := by
      have hlist := congrArg String.toList houtput
      rw [String.toList_append, String.toList_append] at hlist
      exact String.toList_inj.mp (List.append_cancel_left hlist)
    rw [← hsame]
    exact Failing.mapError_eq_ok.mp (Failing.mapError_eq_ok.mp hprint)
  · intro h
    exact Failing.bind_eq_ok.mpr
      ⟨_, Failing.mapError_eq_ok.mpr (Failing.mapError_eq_ok.mpr h), rfl⟩

/-- What is printed of texts from outside comes out as it is exactly if it is inert. A summary can be
printed if all its texts can be read as markup; then a line of names is printed character for character
exactly if it is inert, with all its names that fit. And a run that complains tells its message character
for character, and ends with status 1, exactly if the message is inert. -/
theorem printed_literally_iff (f : Fragment) (w : Surroundings) (arguments : List String) :
    ((∃ text, f.summary = .ok text) ↔ Summary.Summed f) ∧
    (∀ text, f.summary = .ok text →
      ∀ l ∈ Summary.nameLines f, l.2 ≠ [] →
        ∃ line, Summary.Listed l.1 l.2 line ∧ line.toList <:+: text.toList) ∧
    ∀ (a : Arguments) (shown label message : String),
      Arguments.parse arguments = .ok a → a.isOn "help" = false → a.check w.files = .ok () →
      Complaint w a shown label message →
        (Tells w shown (label ++ " " ++ message) (run w arguments) ↔ Inert message.toList) := by
  refine ⟨Summary.summary_completes_iff, fun text h => Summary.exists_listed h, ?_⟩
  intro a shown label message ha hhelp hcheck h
  rw [run_eq_giveUp ha hhelp hcheck h]
  exact giveUp_tells_iff h.label_mem

/-- A configuration with plain names. -/
def plainlyNamed : Fragment := { env := [("browser", true)], plugins := ["react", "import"] }

/-- A run where the environment names a format that there is not. -/
def misnaming (format : String) : Surroundings := { environment := { format } }

theorem complaint_misnaming {format : String}
    (h : Settings.load Tree.empty { format } none = .error (.unknownFormat format)) :
    Complaint (misnaming format) {} "" "Config error:" (Settings.Failure.unknownFormat format).message :=
  .settings h rfl

/-- Plain names are in the summary, and a complaint about a plain word is told. -/
theorem printed_literally_plain :
    (∃ text, plainlyNamed.summary = .ok text ∧ "browser".toList <:+: text.toList ∧
      "import".toList <:+: text.toList) ∧
    Tells (misnaming "TOML") "" ("Config error:" ++ " " ++
      (Settings.Failure.unknownFormat "TOML").message) (run (misnaming "TOML") []) := by
  obtain ⟨hsummary, hlisted, htells⟩ :=
    printed_literally_iff plainlyNamed (misnaming "TOML") []
  constructor
  · have hlines : Summary.nameLines plainlyNamed =
        [("Environments", ["browser"]), ("Plugins", ["react", "import"]), ("ECMA features", [])] := by
      simp [Summary.nameLines, plainlyNamed, Summary.sorted, Entries.names]
    have hplain : ∀ l ∈ Summary.nameLines plainlyNamed, Inert (Summary.namesText l.1 l.2).toList ∧
        Level (Summary.namesText l.1 l.2).toList ∧
        ∀ name ∈ l.2, Summary.Fits (Summary.namesText l.1 l.2).toList name := by
      have hall : ∀ l ∈ [("Environments", ["browser"]), ("Plugins", ["react", "import"]),
          ("ECMA features", [])], ∀ text, text = (Summary.namesText l.1 l.2).toList →
            '[' ∉ text ∧ Console.Picture.replace text = text ∧ Console.Audible text ∧ Level text ∧
            Console.width text ≤ Console.columns ∧ text.length ≤ Console.columns := by
        simp only [forall_eq]
        decide +kernel
      intro l hl
      obtain ⟨hbracket, hpicture, haudible, hlevel, hfits⟩ := hall l (hlines ▸ hl) _ rfl
      exact ⟨.of_not_mem hbracket hpicture haudible, hlevel, fun _ _ => .inl hfits⟩
    obtain ⟨text, htext⟩ := hsummary.mpr
      ⟨Failing.exists_ok_of_isSome (by decide +kernel), fun l hl _ => .of_inert (hplain l hl).1,
        List.forall_mem_nil _⟩
    have hkept : ∀ l ∈ Summary.nameLines plainlyNamed, ∀ name ∈ l.2, name.toList <:+: text.toList := by
      intro l hl name hname
      obtain ⟨hinert, hlevel, hfits⟩ := hplain l hl
      obtain ⟨line, hline, hin⟩ := hlisted text htext l hl (List.ne_nil_of_mem hname)
      exact (hline.kept hinert hlevel name hname (hfits name hname)).trans hin
    rw [hlines] at hkept
    exact ⟨text, htext, hkept ("Environments", _) List.mem_cons_self "browser" List.mem_cons_self,
      hkept ("Plugins", ["react", "import"]) (by simp) "import" (by simp)⟩
  · have hcomplaint : Complaint (misnaming "TOML") {} "" "Config error:" _ := complaint_misnaming rfl
    exact (htells {} _ _ _ rfl (by decide) rfl hcomplaint).mpr
      (.of_not_mem (by decide +kernel) (by decide +kernel) (by decide +kernel))

/-- A name that looks like the end of a tag cannot be printed, and neither can a complaint about it. -/
theorem summary_unmatched :
    (∀ text, ({ env := [("[/x]", true)] } : Fragment).summary ≠ .ok text) ∧
    Complaint (misnaming "[/x]") {} "" "Config error:"
      (Settings.Failure.unknownFormat "[/x]").message ∧
    ∀ o, run (misnaming "[/x]") [] ≠ .ok o :=
  ⟨Failing.not_ok_of_isNone (by decide +kernel), complaint_misnaming rfl,
    Failing.not_ok_of_isNone (by decide +kernel)⟩

end LintConfig.Command
