import LintConfig.Proofs.Inference

/-! # A scan does not depend on the order of its threads

The analysis of every file runs in a thread of its own, and what the threads come to is taken up in
the order in which they end. A course of events is sound if every job holds what the analysis of its
own file comes to and the reporter heard of each file that was taken up. Every event keeps it so, and
no event sets a job back; hence all that is left to the schedule is when the result is there. -/
namespace LintConfig.Scan
open Files (Path Tree)
open Inference (Stops shown textOf?)
open Style (Rule Statistic)

/-! ### Accounts -/

/-- What a file shows, if it can be read and parsed. -/
def analysis? (root : Tree) (markup : Bool) (p : Path) : Option Statistic :=
  (textOf? root p).bind fun text => (Style.analyze markup text).toOption

/-- A statistic counts the files that can be read and parsed, adds up what they show, and warns of all
others, in their order. -/
structure Accounts (root : Tree) (markup : Bool) (files : List Path) (s : Statistic) : Prop where
  scanned : s.filesScanned = (files.filterMap (analysis? root markup)).length
  warned : s.warnings.map (·.path) =
    (files.filter fun p => (analysis? root markup p).isNone).map Path.text
  counts : ∀ r v, (s.counts.of r).count v =
    ((files.filterMap (analysis? root markup)).map fun t => (t.counts.of r).count v).sum

variable {root : Tree} {markup : Bool} {files : List Path}

/-- Every file is either counted or warned of. -/
theorem Accounts.total {s : Statistic} (h : Accounts root markup files s) :
    s.filesScanned + s.warnings.length = files.length := by
  have hwarned := congrArg List.length h.warned
  rw [List.length_map, List.length_map, ← List.countP_eq_length_filter] at hwarned
  have hnone : (fun p => (analysis? root markup p).isNone) =
      fun p => decide ¬ (analysis? root markup p).isSome = true :=
    funext fun p => by cases analysis? root markup p <;> rfl
  rw [h.scanned, hwarned, List.length_filterMap_eq_countP, hnone, ← Nat.cast_add,
    ← List.length_eq_countP_add_countP]

theorem shown_eq (r : Rule) (v : Style.Candidate) (p : Path) :
    shown root markup r v p = ((analysis? root markup p).map fun s => (s.counts.of r).count v).getD 0 := by
  unfold shown analysis?
  cases textOf? root p with
  | none => rfl
  | some text => simp only [Option.bind_some]; cases Style.analyze markup text <;> rfl

/-- A file is counted and shows what its text shows, or is warned of and shows nothing. -/
theorem analyzeFile_eq_ok {p : Path} {s : Statistic} (h : analyzeFile root markup p = .ok s) :
    (analysis? root markup p = some s ∧ s.filesScanned = 1 ∧ s.warnings = []) ∨
      (analysis? root markup p = none ∧ ∃ message, s = warned p message) := by
  unfold analyzeFile at h
  unfold analysis? textOf?
  cases hread : root.read p with
  | error e =>
    simp only [hread] at h ⊢
    split at h
    · contradiction
    · exact .inr ⟨rfl, _, (Except.ok.inj h).symm⟩
  | ok bytes =>
    simp only [hread] at h ⊢
    cases hdecode : Text.Utf8.decode bytes with
    | error f =>
      simp only [hdecode] at h ⊢
      exact .inr ⟨rfl, _, (Except.ok.inj h).symm⟩
    | ok text =>
      simp only [hdecode, Except.toOption, Option.bind_some] at h ⊢
      cases hanalyze : Style.analyze markup text with
      | ok t =>
        simp only [hanalyze] at h ⊢
        cases h
        obtain ⟨tree, -, ht⟩ := Failing.bind_eq_ok.mp hanalyze
        cases ht
        simp
      | error e =>
        cases e with
        | malformed line cause =>
          simp only [hanalyze] at h
          exact .inr ⟨rfl, _, (Except.ok.inj h).symm⟩
        | aborted reason =>
          simp only [hanalyze] at h
          contradiction

section Parts
variable {parts : List Statistic}

/-- Of what files come to, as many statistics count a file as there are files that can be analysed. -/
theorem sum_scanned (h : List.Forall₂ (fun p s => analyzeFile root markup p = .ok s) files parts) :
    (parts.map (·.filesScanned)).sum = (files.filterMap (analysis? root markup)).length := by
  induction h with
  | nil => rfl
  | cons hp _ ih =>
    rw [List.map_cons, List.sum_cons, ih]
    rcases analyzeFile_eq_ok hp with ⟨hsome, hone, -⟩ | ⟨hnone, _, rfl⟩
    · rw [List.filterMap_cons_some hsome, hone, List.length_cons]
      push_cast
      ring
    · rw [List.filterMap_cons_none hnone]
      exact zero_add _

/-- The files that are warned of are those that cannot be analysed. -/
theorem paths_warned (h : List.Forall₂ (fun p s => analyzeFile root markup p = .ok s) files parts) :
    (parts.flatMap (·.warnings)).map (·.path) =
      (files.filter fun p => (analysis? root markup p).isNone).map Path.text := by
  induction h with
  | nil => rfl
  | cons hp _ ih =>
    rw [List.flatMap_cons, List.map_append, ih]
    rcases analyzeFile_eq_ok hp with ⟨hsome, -, hempty⟩ | ⟨hnone, _, rfl⟩
    · rw [List.filter_cons_of_neg (by simp [hsome]), hempty]
      rfl
    · rw [List.filter_cons_of_pos (by simp [hnone])]
      rfl

/-- What all files show is what those show that can be analysed. -/
theorem sum_shown (r : Rule) (v : Style.Candidate) (files : List Path) :
    (files.map (shown root markup r v)).sum =
      ((files.filterMap (analysis? root markup)).map fun t => (t.counts.of r).count v).sum := by
  induction files with
  | nil => rfl
  | cons p files ih =>
    rw [List.map_cons, List.sum_cons, ih]
    cases hp : analysis? root markup p with
    | some t =>
      rw [List.filterMap_cons_some hp, List.map_cons, List.sum_cons, shown_eq, hp]
      rfl
    | none =>
      rw [List.filterMap_cons_none hp, shown_eq, hp]
      exact zero_add _

end Parts

/-- What all files come to accounts for every one of them. -/
theorem accounts_of_scanFiles {s : Statistic} (h : scanFiles root markup files = .ok s) :
    Accounts root markup files s := by
  have hcounts := (Inference.scanFiles_counts h).2
  obtain ⟨parts, hparts, hs⟩ := Failing.bind_eq_ok.mp h
  cases hs
  rw [Failing.mapM_eq_ok] at hparts
  refine ⟨?_, ?_, fun r v => ?_⟩
  · rw [Statistic.filesScanned_foldl, sum_scanned hparts]
  · rw [Statistic.warnings_foldl, paths_warned hparts]
  · exact (congrFun (hcounts r) v).trans (sum_shown r v files)

/-! ### Events -/

/-- How often a job has been set forward. -/
def Stage.rank : Stage → Nat
  | .running => 0
  | .ended _ => 1
  | .taken _ => 2

/-- A job that is not running holds what the analysis of its file comes to. -/
def Job.Sound (root : Tree) (markup : Bool) (j : Job) : Prop :=
  match j.stage with
  | .running => True
  | .ended r | .taken r => r = analyzeFile root markup j.file

/-- The jobs are those of the files, the reporter heard of each file that was taken up, and a failure
is that of a file. -/
structure Course.Sound (root : Tree) (markup : Bool) (files : List Path) (c : Course) : Prop where
  ofFiles : c.jobs.map Job.file = files
  jobs : ∀ j ∈ c.jobs, j.Sound root markup
  reports : c.reports = List.replicate (c.jobs.countP (·.part?.isSome)) .advance
  failure : ∀ e, c.failure = some e → ∃ p ∈ files, analyzeFile root markup p = .error e

theorem Course.sound_start : (Course.start files).Sound root markup files where
  ofFiles := by simp [Course.start, Function.comp_def]
  jobs := by
    intro j hj
    obtain ⟨p, -, rfl⟩ := List.mem_map.mp hj
    exact trivial
  reports := by
    have hnone : (Course.start files).jobs.countP (·.part?.isSome) = 0 := by
      rw [List.countP_eq_zero]
      intro j hj
      obtain ⟨p, -, rfl⟩ := List.mem_map.mp hj
      exact Bool.false_ne_true
    rw [hnone]
    rfl
  failure := fun _ h => nomatch h

section Step
variable {c : Course} {i : Nat} {p : Path} {old new : Stage}

theorem files_set {jobs : List Job} (h : jobs[i]? = some ⟨p, old⟩) :
    (jobs.set i ⟨p, new⟩).map Job.file = jobs.map Job.file := by
  obtain ⟨hi, hget⟩ := List.getElem?_eq_some_iff.mp h
  have hi' : i < (jobs.map Job.file).length := by rwa [List.length_map]
  have hfile : p = (jobs.map Job.file)[i] := by rw [List.getElem_map, hget]
  rw [List.map_set, hfile, List.set_getElem_self]

theorem Course.Sound.set (h : c.Sound root markup files) (hnew : Job.Sound root markup ⟨p, new⟩) :
    ∀ j ∈ c.jobs.set i ⟨p, new⟩, j.Sound root markup := by
  intro j hj
  rcases List.mem_or_eq_of_mem_set hj with hj | rfl
  · exact h.jobs j hj
  · exact hnew

theorem countP_set {jobs : List Job} (h : jobs[i]? = some ⟨p, old⟩)
    (hold : (Job.mk p old).part? = none) :
    (jobs.set i ⟨p, new⟩).countP (·.part?.isSome) =
      jobs.countP (·.part?.isSome) + if (Job.mk p new).part?.isSome then 1 else 0 := by
  obtain ⟨hi, hget⟩ := List.getElem?_eq_some_iff.mp h
  rw [List.countP_set hi, hget, hold]
  simp

/-- An event keeps a course sound. -/
theorem Course.Sound.step (h : c.Sound root markup files) (e : Event) :
    (c.step root markup e).Sound root markup files := by
  cases e with
  | ends i =>
    rw [Course.step]
    split
    · rename_i p hj
      refine ⟨(files_set hj).trans h.ofFiles, h.set rfl, ?_, h.failure⟩
      rw [countP_set hj rfl, h.reports]
      rfl
    · exact h
  | takes i =>
    rw [Course.step]
    split
    · rename_i p r hj
      have hr : r = analyzeFile root markup p := h.jobs _ (List.mem_of_getElem? hj)
      refine ⟨(files_set hj).trans h.ofFiles, h.set hr, ?_, fun e he => ?_⟩
      · simp only [Course.take]
        rw [countP_set hj rfl, h.reports]
        cases r with
        | ok s => exact (List.replicate_succ' ..).symm
        | error e => rfl
      · simp only [Course.take] at he
        cases hc : c.failure with
        | some e' => exact h.failure e (by simpa [hc] using he)
        | none =>
          cases r with
          | ok s => simp [hc] at he
          | error e' =>
            obtain rfl : e' = e := by simpa [hc] using he
            refine ⟨p, ?_, hr.symm⟩
            rw [← h.ofFiles]
            exact List.mem_map_of_mem (List.mem_of_getElem? hj)
    · exact h

/-- Every course from the start on is sound. -/
theorem Course.sound_run (schedule : List Event) :
    ((Course.start files).run root markup schedule).Sound root markup files := by
  suffices h : ∀ c : Course, c.Sound root markup files → (c.run root markup schedule).Sound root markup files
    from h _ Course.sound_start
  induction schedule with
  | nil => exact fun _ h => h
  | cons e schedule ih => exact fun c h => ih _ (h.step e)

/-! ### Progress -/

/-- Is the job at a place set forward so often, if there is one? -/
def Course.Reaches (c : Course) (i n : Nat) : Prop :=
  ∀ j, c.jobs[i]? = some j → n ≤ j.stage.rank

/-- An event sets one job forward, or changes nothing. -/
theorem Course.jobs_step (c : Course) (e : Event) :
    (c.step root markup e).jobs = c.jobs ∨
      ∃ k p old new, c.jobs[k]? = some ⟨p, old⟩ ∧ old.rank < new.rank ∧
        (c.step root markup e).jobs = c.jobs.set k ⟨p, new⟩ := by
  cases e with
  | ends k =>
    rw [Course.step]
    split
    · rename_i p hk
      exact .inr ⟨k, p, .running, .ended _, hk, Nat.zero_lt_one, rfl⟩
    · exact .inl rfl
  | takes k =>
    rw [Course.step]
    split
    · rename_i p r hk
      exact .inr ⟨k, p, .ended r, .taken r, hk, Nat.one_lt_two, rfl⟩
    · exact .inl rfl

theorem Course.Reaches.step {n : Nat} (h : c.Reaches i n) (e : Event) :
    (c.step root markup e).Reaches i n := by
  intro j hj
  rcases c.jobs_step e with hsame | ⟨k, p, old, new, hk, hrank, hset⟩
  · exact h j (hsame ▸ hj)
  · rw [hset, List.getElem?_set] at hj
    by_cases hki : k = i
    · subst hki
      have hbound := (List.getElem?_eq_some_iff.mp hk).1
      simp only [if_true, hbound] at hj
      cases hj
      exact (h _ hk).trans hrank.le
    · rw [if_neg hki] at hj
      exact h j hj

theorem Course.Reaches.run {n : Nat} (h : c.Reaches i n) (schedule : List Event) :
    (c.run root markup schedule).Reaches i n := by
  induction schedule generalizing c with
  | nil => exact h
  | cons e schedule ih => exact ih (h.step e)

theorem Course.reaches_ends (c : Course) (i : Nat) :
    (c.step root markup (.ends i)).Reaches i 1 := by
  intro j hj
  rw [Course.step] at hj
  split at hj
  · rename_i hi
    have hbound := (List.getElem?_eq_some_iff.mp hi).1
    rw [List.getElem?_set_self hbound] at hj
    cases hj
    exact le_rfl
  · rename_i hno
    obtain ⟨p, stage⟩ := j
    cases stage with
    | running => exact absurd hj (hno p)
    | ended r => exact le_rfl
    | taken r => exact one_le_two

theorem Course.Reaches.takes (h : c.Reaches i 1) : (c.step root markup (.takes i)).Reaches i 2 := by
  intro j hj
  rw [Course.step] at hj
  split at hj
  · rename_i hi
    have hbound := (List.getElem?_eq_some_iff.mp hi).1
    simp only [Course.take, List.getElem?_set_self hbound] at hj
    cases hj
    exact le_rfl
  · rename_i hno
    obtain ⟨p, stage⟩ := j
    cases stage with
    | running => exact absurd (h _ hj) (Nat.not_succ_le_zero 0)
    | ended r => exact absurd hj (hno p r)
    | taken r => exact le_rfl

theorem Course.run_append (c : Course) (s t : List Event) :
    c.run root markup (s ++ t) = (c.run root markup s).run root markup t :=
  List.foldl_append

/-- In a schedule that is complete, the thread of every file comes to its end and is taken up later. -/
def Complete (n : Nat) (schedule : List Event) : Prop :=
  ∀ i < n, [Event.ends i, .takes i].Sublist schedule

theorem Complete.reaches {n : Nat} {schedule : List Event} (h : Complete n schedule) (c : Course)
    (hi : i < n) : (c.run root markup schedule).Reaches i 2 := by
  obtain ⟨first, second, rfl, hends, htakes⟩ := List.cons_sublist_iff.mp (h i hi)
  obtain ⟨a, b, rfl⟩ := List.append_of_mem hends
  obtain ⟨a', b', rfl⟩ := List.append_of_mem (List.singleton_sublist.mp htakes)
  have hended : (c.run root markup (a ++ .ends i :: b)).Reaches i 1 := by
    rw [Course.run_append]
    exact Course.Reaches.run (Course.reaches_ends _ i) b
  rw [Course.run_append, Course.run_append]
  exact (hended.run a').takes.run b'

theorem complete_inOrder (n : Nat) : Complete n (inOrder n) := by
  intro i hi
  obtain ⟨a, b, h⟩ := List.append_of_mem (List.mem_range.mpr hi)
  rw [inOrder, h, List.flatMap_append, List.flatMap_cons]
  exact (List.sublist_append_left _ _).trans (List.sublist_append_right _ _)

end Step

/-! ### Results -/

variable {c : Course}

/-- A job of a sound course that was taken up is that of a file whose analysis came to the same. -/
theorem Job.Sound.part {j : Job} {s : Statistic} (h : j.Sound root markup) (hs : j.part? = some s) :
    analyzeFile root markup j.file = .ok s := by
  unfold Job.part? at hs
  unfold Job.Sound at h
  split at hs
  · rename_i t hstage
    rw [hstage] at h
    cases hs
    exact h.symm
  · contradiction

/-- When the result is there, it is that of the files one after the other, and the reporter has heard
of each. -/
theorem Course.Sound.result {s : Statistic} (h : c.Sound root markup files)
    (hs : c.result? = some (.ok s)) :
    scanFiles root markup files = .ok s ∧ c.reports = List.replicate files.length .advance := by
  unfold Course.result? at hs
  split at hs
  · cases hs
  · split at hs
    · rename_i hall
      cases hs
      rw [List.all_eq_true] at hall
      constructor
      · refine Failing.bind_eq_ok.mpr ⟨_, Failing.mapM_eq_ok.mpr ?_, rfl⟩
        rw [← h.ofFiles]
        have hjobs := h.jobs
        clear h
        generalize c.jobs = jobs at hall hjobs
        induction jobs with
        | nil => exact .nil
        | cons j jobs ih =>
          obtain ⟨t, ht⟩ := Option.isSome_iff_exists.mp (hall j List.mem_cons_self)
          rw [List.map_cons, List.filterMap_cons_some ht]
          exact .cons ((hjobs j List.mem_cons_self).part ht)
            (ih (fun k hk => hall k (List.mem_cons_of_mem _ hk))
              fun k hk => hjobs k (List.mem_cons_of_mem _ hk))
      · rw [h.reports, List.countP_eq_length.mpr hall, ← h.ofFiles, List.length_map]
    · contradiction

/-- A failure comes from a file. -/
theorem Course.Sound.failed {e : Failure} (h : c.Sound root markup files)
    (he : c.result? = some (.error e)) : ∃ p ∈ files, analyzeFile root markup p = .error e := by
  unfold Course.result? at he
  split at he
  · rename_i hfailure
    cases he
    exact h.failure _ hfailure
  · split at he <;> cases he

/-- When every file was taken up, there is a result. -/
theorem Course.Sound.isSome_result (h : c.Sound root markup files)
    (hgo : ∀ p ∈ files, ∃ s, analyzeFile root markup p = .ok s)
    (hall : ∀ i < files.length, c.Reaches i 2) : c.result?.isSome = true := by
  unfold Course.result?
  split
  · rfl
  · rw [if_pos]
    · rfl
    rw [List.all_eq_true]
    intro j hj
    obtain ⟨i, hi, hget⟩ := List.mem_iff_getElem.mp hj
    have hrank := hall i (by rw [← h.ofFiles, List.length_map]; exact hi) j
      (List.getElem?_eq_some_iff.mpr ⟨hi, hget⟩)
    have hsound := h.jobs j hj
    obtain ⟨s, hs⟩ := hgo j.file (by rw [← h.ofFiles]; exact List.mem_map_of_mem hj)
    obtain ⟨p, stage⟩ := j
    cases stage with
    | running => exact absurd hrank (Nat.not_succ_le_zero 1)
    | ended r => exact absurd hrank (Nat.not_succ_le_self 1)
    | taken r =>
      obtain rfl : r = .ok s := Eq.trans hsound hs
      rfl

variable {o : Options} {patterns : List String}

/-- If the patterns can be expanded and none of the files brings the scan to a halt, and only then,
there is one statistic that accounts for all files, and every schedule comes to it: a complete one
comes to a result, and when there is one, it is this, and the reporter was told to advance once for
each file and nothing else. -/
theorem scan_accounts_iff :
    (∃ files, filesOf root o patterns = .ok files ∧ ∀ p ∈ files, ¬ Stops root markup p) ↔
      ∃ files s, filesOf root o patterns = .ok files ∧
        files.Pairwise (fun p q => p.before q = true) ∧ Accounts root markup files s ∧
        s.filesScanned + s.warnings.length = files.length ∧
        ∀ schedule, ∃ c, scan root o markup patterns schedule = .ok c ∧
          (Complete files.length schedule → c.result?.isSome = true) ∧
          ∀ r, c.result? = some r →
            r = .ok s ∧ c.reports = List.replicate files.length .advance := by
  constructor
  · rintro ⟨files, hfiles, hgo⟩
    have hok := fun p hp => Inference.analyzeFile_ok_iff.mpr (hgo p hp)
    obtain ⟨parts, hparts⟩ := Failing.mapM_ok_of_forall hok
    have hs : scanFiles root markup files = .ok (parts.foldl Statistic.merge {}) :=
      Failing.bind_eq_ok.mpr ⟨parts, hparts, rfl⟩
    have haccounts := accounts_of_scanFiles hs
    refine ⟨files, _, hfiles, Files.increasing_expand (Failing.mapError_eq_ok.mp hfiles),
      haccounts, haccounts.total, fun schedule => ?_⟩
    have hsound : ((Course.start files).run root markup schedule).Sound root markup files :=
      Course.sound_run schedule
    refine ⟨_, Failing.bind_eq_ok.mpr ⟨files, hfiles, rfl⟩, fun hcomplete => ?_, fun r hr => ?_⟩
    · exact hsound.isSome_result hok fun i hi => hcomplete.reaches _ hi
    · cases r with
      | ok t =>
        obtain ⟨ht, hreports⟩ := hsound.result hr
        exact ⟨ht.symm.trans hs, hreports⟩
      | error e =>
        obtain ⟨p, hp, he⟩ := hsound.failed hr
        obtain ⟨t, ht⟩ := hok p hp
        exact absurd (he.symm.trans ht) (by simp)
  · rintro ⟨files, s, hfiles, -, -, -, hrun⟩
    refine ⟨files, hfiles, fun p hp => Inference.analyzeFile_ok_iff.mp ?_⟩
    obtain ⟨c, hc, hsome, hresult⟩ := hrun (inOrder files.length)
    obtain ⟨r, hr⟩ := Option.isSome_iff_exists.mp (hsome (complete_inOrder _))
    obtain ⟨rfl, -⟩ := hresult r hr
    obtain ⟨found, hfound, hc⟩ := Failing.bind_eq_ok.mp hc
    obtain rfl : found = files := Except.ok.inj (hfound.symm.trans hfiles)
    cases hc
    obtain ⟨hs, -⟩ := (Course.sound_run _).result hr
    obtain ⟨parts, hparts, -⟩ := Failing.bind_eq_ok.mp hs
    exact Failing.forall_of_mapM_ok hparts hp

/-- An empty substitution is no syntax error to the parser, and no schedule gets past its file. -/
theorem scan_halted :
    filesOf (Inference.projectOf "`$\x7b\x7d`") {} ["."] = .ok [⟨"", ["a.js"]⟩] ∧
      (∀ schedule c s, scan (Inference.projectOf "`$\x7b\x7d`") {} false ["."] schedule = .ok c →
        c.result? ≠ some (.ok s)) ∧
      ∃ c, scan (Inference.projectOf "`$\x7b\x7d`") {} false ["."] (inOrder 1) = .ok c ∧
        (c.result?.any fun r => !r.toBool) = true := by
  have hfiles : filesOf (Inference.projectOf "`$\x7b\x7d`") {} ["."] = .ok [⟨"", ["a.js"]⟩] := by
    decide +kernel
  refine ⟨hfiles, fun schedule c s hc hs => ?_, Failing.exists_ok_of_any (by decide +kernel)⟩
  obtain ⟨files, hfound, hc⟩ := Failing.bind_eq_ok.mp hc
  obtain rfl := Except.ok.inj (hfiles.symm.trans hfound)
  cases hc
  obtain ⟨hs, -⟩ := (Course.sound_run schedule).result hs
  exact Failing.not_ok_of_isNone (by decide +kernel) s hs

end LintConfig.Scan
