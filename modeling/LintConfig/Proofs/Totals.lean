import LintConfig.Proofs.Candidates
import LintConfig.Proofs.LineEnds
import LintConfig.Proofs.Scanning

/-! # What every total looks like

A total starts empty; then statistics of texts and of files are merged into it, on whichever side, and
it may be merged with itself. Whatever has been merged, a total counts the four style rules, each
candidate once and with a count above zero, only candidates that its rule has, and no more line end
votes than files that were read. Each of these holds for what a single text or file shows, also for a
file that only leaves a warning, and merging keeps them: the counts of a merged tally are sums that are
positive, so neither side can bring in a candidate that it does not have.

A text casts at most one vote on line ends. The line feeds are told apart by the character before them,
which a byte order mark at the start of the text does not change. -/
namespace LintConfig.Style
open Files (Path Tree)

/-! ### The vote on line ends -/

/-- The characters that stand before the line feeds of a text, if there is one before the text itself. -/
def beforeFeeds (before : Option Char) : List Char → List (Option Char)
  | [] => []
  | c :: rest =>
    if c = '\n' then before :: beforeFeeds (some c) rest else beforeFeeds (some c) rest

/-- How many line feeds of a text follow a carriage return. -/
def returnedFeeds (text : List Char) : Nat := (beforeFeeds none text).countP (· = some '\r')

/-- How many do not. -/
def plainFeeds (text : List Char) : Nat := (beforeFeeds none text).countP (· ≠ some '\r')

/-- A tally votes as a text does: for the line ends that have a carriage return if there are more of
them than of the others, for plain ones if there are line ends otherwise, and for none without them. -/
structure VotesAs (text : List Char) (t : Tally) : Prop where
  windows : t = [(.word "windows", 1)] ↔ plainFeeds text < returnedFeeds text
  unix : t = [(.word "unix", 1)] ↔ '\n' ∈ text ∧ ¬ plainFeeds text < returnedFeeds text
  absent : t = [] ↔ '\n' ∉ text

section Feeds
variable {text : List Char}

theorem beforeFeeds_of_ne {c : Char} (hc : c ≠ '\n') (before : Option Char) (rest : List Char) :
    beforeFeeds before (c :: rest) = beforeFeeds (some c) rest := by
  rw [beforeFeeds, if_neg hc]

theorem length_beforeFeeds (before : Option Char) (text : List Char) :
    (beforeFeeds before text).length = text.count '\n' := by
  induction text generalizing before with
  | nil => rfl
  | cons c rest ih =>
    by_cases hc : c = '\n'
    · subst hc
      rw [beforeFeeds, if_pos rfl, List.length_cons, ih, List.count_cons_self]
    · rw [beforeFeeds_of_ne hc, ih, List.count_cons_of_ne hc]

/-- Every line feed is one or the other. -/
theorem returnedFeeds_add_plainFeeds (text : List Char) :
    returnedFeeds text + plainFeeds text = text.count '\n' := by
  rw [← length_beforeFeeds none text, returnedFeeds, plainFeeds,
    List.length_eq_countP_add_countP (· = some '\r')]
  simp

/-- Reading two characters at a time tells the line feeds apart as the character before them does, as
long as the text does not start behind a carriage return. -/
theorem lineEnds_eq_feeds {before : Option Char} (hbefore : before ≠ some '\r') (text : List Char) :
    lineEnds text = ((beforeFeeds before text).countP (· = some '\r'),
      (beforeFeeds before text).countP (· ≠ some '\r')) := by
  fun_induction lineEnds text generalizing before with
  | case1 => rfl
  | case2 rest crlf lf hrest ih =>
    have ih := @ih (some '\n') (by decide)
    rw [hrest] at ih
    simpa [beforeFeeds] using ih
  | case3 rest crlf lf hrest ih =>
    have ih := @ih (some '\n') (by decide)
    rw [hrest] at ih
    simpa [beforeFeeds, hbefore] using ih
  | case4 c rest hpair hfeed ih =>
    by_cases hreturn : c = '\r'
    · -- the carriage return stands alone, so what comes next is no line feed
      subst hreturn
      rw [@ih none nofun, beforeFeeds_of_ne (by decide)]
      cases rest with
      | nil => rfl
      | cons d rest =>
        have hd : d ≠ '\n' := fun h => hpair rest rfl (by rw [h])
        rw [beforeFeeds_of_ne hd, beforeFeeds_of_ne hd]
    · rw [@ih (some c) (by simpa using hreturn), beforeFeeds_of_ne hfeed]

theorem lineEnds_withoutMark (text : List Char) : lineEnds (withoutMark text) = lineEnds text := by
  cases text with
  | nil => rfl
  | cons c rest =>
    by_cases hmark : c = '\ufeff'
    · subst hmark
      exact (LineEnds.lineEnds_cons (by decide) (by decide) rest).symm
    · rw [LineEnds.withoutMark_of_ne hmark]

theorem linebreakTally_votesAs (text : List Char) :
    VotesAs text (linebreakTally (withoutMark text)) := by
  have hends : lineEnds (withoutMark text) = (returnedFeeds text, plainFeeds text) :=
    (lineEnds_withoutMark text).trans (@lineEnds_eq_feeds none (by decide) text)
  have htally : linebreakTally (withoutMark text) =
      if returnedFeeds text = 0 && plainFeeds text = 0 then []
      else [(.word (if plainFeeds text < returnedFeeds text then "windows" else "unix"), 1)] := by
    rw [linebreakTally, hends]
  have hsum := returnedFeeds_add_plainFeeds text
  by_cases hnone : text.count '\n' = 0
  · have hmem : '\n' ∉ text := List.count_eq_zero.mp hnone
    rw [if_pos (by simp; omega)] at htally
    rw [htally]
    exact ⟨by simp; omega, by simp [hmem], by simp [hmem]⟩
  · have hmem : '\n' ∈ text := List.count_pos_iff.mp (Nat.pos_of_ne_zero hnone)
    rw [if_neg (by simp; omega)] at htally
    rw [htally]
    by_cases hfewer : plainFeeds text < returnedFeeds text
    · exact ⟨by simp [hfewer], by simp [hfewer], by simp [hmem]⟩
    · exact ⟨by simp [hfewer], by simp [hfewer, hmem], by simp [hmem]⟩

end Feeds

/-! ### Totals -/

namespace Statistic

/-- The counters of a statistic with the names of their rules. -/
def counters (s : Statistic) : List (String × Tally) :=
  Rule.all.map fun r => (r.name, s.counts.of r)

/-- What holds of every total. -/
structure Regular (s : Statistic) : Prop where
  rules : s.counters.map Prod.fst = ["indent", "quotes", "linebreak-style", "semi"]
  /-- Each candidate has one count. -/
  nodup : ∀ r, (s.counts.of r).keys.Nodup
  positive : ∀ r, ∀ e ∈ s.counts.of r, 0 < e.2
  candidates : ∀ r, ∀ v ∈ (s.counts.of r).keys, v ∈ r.candidates
  linebreaks : (s.counts.of .linebreak).total ≤ s.filesScanned

example : Rule.indent.candidates = .word "tab" :: [1, 2, 3, 4, 5, 6, 7, 8].map .number := by decide

/-- What a text or a file shows. -/
inductive Shown : Statistic → Prop
  | source {markup : Bool} {text : String} {s : Statistic} (h : analyze markup text = .ok s) : Shown s
  | file {root : Tree} {markup : Bool} {p : Path} {s : Statistic}
      (h : Scan.analyzeFile root markup p = .ok s) : Shown s

/-- What can be reached from the empty statistic. -/
inductive Total : Statistic → Prop
  | empty : Total {}
  | after {s t : Statistic} (hs : Total s) (ht : Shown t) : Total (s.merge t)
  | before {s t : Statistic} (hs : Total s) (ht : Shown t) : Total (t.merge s)
  | doubled {s : Statistic} (hs : Total s) : Total (s.merge s)

variable {s t : Statistic}

theorem Regular.proper (hs : s.Regular) (r : Rule) : (s.counts.of r).Proper :=
  ⟨hs.nodup r, hs.positive r⟩

theorem Regular.natural (hs : s.Regular) : s.Natural := fun r => (hs.proper r).natural

/-- A statistic without counts is regular, whatever it warns of. -/
theorem regular_of_no_counts (hcounts : s.counts = {}) (hscanned : 0 ≤ s.filesScanned) :
    s.Regular := by
  have hnil : ∀ r, s.counts.of r = [] := fun r => by rw [hcounts]; cases r <;> rfl
  refine ⟨rfl, fun r => ?_, fun r => ?_, fun r => ?_, ?_⟩
  · rw [hnil r]
    exact List.nodup_nil
  · rw [hnil r]
    nofun
  · rw [hnil r]
    nofun
  · rw [hnil .linebreak]
    exact hscanned

theorem total_linebreakTally_le (text : List Char) : (linebreakTally text).total ≤ 1 := by
  unfold linebreakTally
  split
  · split
    · exact Int.one_nonneg
    · exact le_refl 1

theorem regular_analyze {markup : Bool} {text : String} (h : analyze markup text = .ok s) :
    s.Regular := by
  have hproper := Inference.proper_analyze h
  obtain ⟨p, -, h⟩ := Failing.bind_eq_ok.mp h
  cases h
  refine ⟨rfl, fun r => (hproper r).nodup, fun r => (hproper r).positive, ?_,
    total_linebreakTally_le _⟩
  intro r v hv
  obtain ⟨⟨v, n⟩, hmem, rfl⟩ := List.mem_map.mp hv
  have hcount := Tally.count_of_mem (hproper r).nodup hmem
  exact mem_candidates_of_count (hcount.trans_ne ((hproper r).positive _ hmem).ne')

/-- A file shows what its text shows, or leaves a warning without counts. -/
theorem regular_analyzeFile {root : Tree} {markup : Bool} {p : Path}
    (h : Scan.analyzeFile root markup p = .ok s) : s.Regular := by
  rcases Scan.analyzeFile_eq_ok h with ⟨hanalysis, -, -⟩ | ⟨-, message, rfl⟩
  · obtain ⟨text, -, htext⟩ := Option.bind_eq_some_iff.mp hanalysis
    cases hanalyze : analyze markup text with
    | ok t =>
      rw [hanalyze] at htext
      cases htext
      exact regular_analyze hanalyze
    | error e =>
      rw [hanalyze] at htext
      contradiction
  · exact regular_of_no_counts rfl le_rfl

theorem Shown.regular (h : Shown s) : s.Regular := by
  cases h with
  | source h => exact regular_analyze h
  | file h => exact regular_analyzeFile h

/-- Merging keeps statistics regular. -/
theorem Regular.merge (hs : s.Regular) (ht : t.Regular) : (s.merge t).Regular := by
  have hproper : ∀ r, ((s.merge t).counts.of r).Proper := fun r => by
    rw [Statistic.merge, Counts.of_build]
    exact (hs.natural r).merge (ht.natural r)
  refine ⟨rfl, fun r => (hproper r).nodup, fun r => (hproper r).positive, ?_, ?_⟩
  · intro r v hv
    rw [Statistic.merge, Counts.of_build] at hv
    rcases Tally.mem_keys_merge (hs.nodup r) (ht.nodup r) hv with hleft | hright
    · exact hs.candidates r v hleft
    · exact ht.candidates r v hright
  · rw [total_merge hs.natural ht.natural]
    exact add_le_add hs.linebreaks ht.linebreaks

theorem Total.regular (h : Total s) : s.Regular := by
  induction h with
  | empty => exact regular_of_no_counts rfl le_rfl
  | after _ ht ih => exact ih.merge ht.regular
  | before _ ht ih => exact ht.regular.merge ih
  | doubled _ ih => exact ih.merge ih

/-- Every total is regular, and a single text votes on line ends as most of its line feeds demand. -/
theorem totals_regular :
    (∀ s, Total s → s.Regular) ∧
    ∀ markup text s, analyze markup text = .ok s → VotesAs text.toList s.counts.linebreak := by
  refine ⟨fun s hs => hs.regular, ?_⟩
  intro markup text s h
  obtain ⟨p, -, h⟩ := Failing.bind_eq_ok.mp h
  cases h
  exact linebreakTally_votesAs text.toList

/-- Two line feeds that follow a carriage return and one that does not, which a carriage return that
stands alone comes before. -/
def mixedEnds : String := "a('b');\r\nif (c) \x7b\r\n  \r d()\n\x7d"

/-- The text merged with a file that is not there, then with itself. -/
theorem totals_regular_mixedEnds :
    ∃ s t, analyze false mixedEnds = .ok s ∧
      Scan.analyzeFile (Tree.folder []) false (Path.ofString "x.js") = .ok t ∧
      ((t.merge (Statistic.merge {} s)).merge (t.merge (Statistic.merge {} s))).Regular ∧
      s.counts.linebreak = [(.word "windows", 1)] := by
  obtain ⟨s, hs, -⟩ := Failing.exists_ok_of_any (x := analyze false mixedEnds)
    (f := fun s => s.filesScanned == 1) (by decide +kernel)
  obtain ⟨t, ht, -⟩ := Failing.exists_ok_of_any
    (x := Scan.analyzeFile (Tree.folder []) false (Path.ofString "x.js"))
    (f := fun t => t.filesScanned == 0) (by decide +kernel)
  obtain ⟨hregular, hvotes⟩ := totals_regular
  have htotal : Total (t.merge (Statistic.merge {} s)) := .before (.after .empty (.source hs)) (.file ht)
  exact ⟨s, t, hs, ht, hregular _ htotal.doubled, (hvotes _ _ _ hs).windows.mpr (by decide +kernel)⟩

end Statistic

end LintConfig.Style
