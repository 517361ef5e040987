import LintConfig.Proofs.Majority

/-! # In what order statistics are merged does not matter

Merged counters hold the sums of the counts, whichever counters held a candidate and whichever did
not; a rule without a counter is one whose counter is empty. So merging is a commutative monoid, if
counters are compared by their counts and warnings without their order: a total is the sum over the
statistics that went into it, however they were grouped. Settings are justified by counts alone, so
they are the same too. What the grouping can change is the order of the entries in a counter, which
would decide between candidates of equal counts and equal texts; but such candidates have no more
than half of the observations each. -/
namespace LintConfig.Style
open Number (Double)

@[simp] theorem Counts.of_build (f : Rule → Tally) (r : Rule) : (build f).of r = f r := by
  cases r <;> rfl

namespace Statistic

/-- The counters have each candidate once, with counts that are not below zero. -/
def Natural (s : Statistic) : Prop := ∀ r, (s.counts.of r).Natural

/-- How often a statistic counts a candidate for a rule. -/
def count (s : Statistic) (r : Rule) (c : Candidate) : Int := (s.counts.of r).count c

/-- The same counts, and as many files. -/
structure SameCounts (s t : Statistic) : Prop where
  counts : ∀ r c, s.count r c = t.count r c
  filesScanned : s.filesScanned = t.filesScanned

/-- The same in all three parts. -/
structure Same (s t : Statistic) : Prop extends SameCounts s t where
  warnings : s.warnings = t.warnings

variable {s t u : Statistic}

/-! ### Two statistics -/

@[simp] theorem count_empty (r : Rule) (c : Candidate) : ({} : Statistic).count r c = 0 := by
  cases r <;> rfl

theorem natural_empty : ({} : Statistic).Natural := fun r => by
  cases r <;> exact Tally.proper_nil.natural

theorem Natural.merge (hs : s.Natural) (ht : t.Natural) : (s.merge t).Natural := by
  intro r
  rw [Statistic.merge, Counts.of_build]
  exact ((hs r).merge (ht r)).natural

theorem count_merge (hs : s.Natural) (ht : t.Natural) (r : Rule) (c : Candidate) :
    (s.merge t).count r c = s.count r c + t.count r c := by
  rw [count, Statistic.merge, Counts.of_build]
  exact Tally.count_merge (hs r) (ht r) c

theorem total_merge (hs : s.Natural) (ht : t.Natural) (r : Rule) :
    ((s.merge t).counts.of r).total = (s.counts.of r).total + (t.counts.of r).total := by
  rw [Statistic.merge, Counts.of_build]
  exact Tally.total_merge (hs r) (ht r)

theorem merge_assoc (hs : s.Natural) (ht : t.Natural) (hu : u.Natural) :
    ((s.merge t).merge u).Same (s.merge (t.merge u)) where
  counts r c := by
    rw [count_merge (hs.merge ht) hu, count_merge hs ht, count_merge hs (ht.merge hu),
      count_merge ht hu, add_assoc]
  filesScanned := add_assoc ..
  warnings := List.append_assoc ..

theorem merge_empty (hs : s.Natural) : (s.merge {}).Same s where
  counts r c := by rw [count_merge hs natural_empty, count_empty, add_zero]
  filesScanned := add_zero _
  warnings := List.append_nil _

theorem empty_merge (hs : s.Natural) : (Statistic.merge {} s).Same s where
  counts r c := by rw [count_merge natural_empty hs, count_empty, zero_add]
  filesScanned := zero_add _
  warnings := List.nil_append _

/-! ### The settings of a statistic -/

section Threshold
variable {x : Double}

/-- A statistic always has a configuration. It demands of each rule the candidate whose share
exceeds the threshold. -/
theorem Natural.resolve_spec (hs : s.Natural) (hx : Settings.isThreshold x = true)
    (hrep : x.Representable) :
    ∃ o : Rule → Option Candidate,
      s.resolve x = .ok { rules := Rule.all.map fun r => (r.name, settingOf (o r)),
                          base := some recommended } ∧
      ∀ r v, o r = some v ↔ Exceeds x (s.count r v) (s.counts.of r).total := by
  obtain ⟨m, e, rfl, hhalf⟩ := threshold_finite hx
  have h := fun r => settingFor_spec (hs r) hrep hhalf
  choose o hset hspec using h
  exact ⟨o, resolve_eq_ok hset, hspec⟩

end Threshold

/-! ### Many statistics -/

/-- A way of merging statistics. -/
inductive Grouping
  | empty
  | single (s : Statistic)
  | join (left right : Grouping)

namespace Grouping

/-- The statistics that are merged, from the left to the right. -/
def parts : Grouping → List Statistic
  | empty => []
  | single s => [s]
  | join g h => g.parts ++ h.parts

/-- What they come to. -/
def merged : Grouping → Statistic
  | empty => {}
  | single s => s
  | join g h => g.merged.merge h.merged

/-- The statistics of a list merged one after the other, as a scan merges those of its files. -/
def ofList (parts : List Statistic) : Grouping :=
  parts.foldl (fun g s => g.join (single s)) empty

variable {g h : Grouping}

theorem parts_ofList (l : List Statistic) : (ofList l).parts = l := by
  suffices hall : ∀ g : Grouping,
      (l.foldl (fun g s => g.join (single s)) g).parts = g.parts ++ l from hall empty
  induction l with
  | nil => exact fun g => (List.append_nil _).symm
  | cons s l ih =>
    intro g
    rw [List.foldl_cons, ih, parts, parts, List.append_assoc, List.singleton_append]

theorem merged_ofList (l : List Statistic) : (ofList l).merged = l.foldl Statistic.merge {} := by
  suffices hall : ∀ g : Grouping, (l.foldl (fun g s => g.join (single s)) g).merged =
      l.foldl Statistic.merge g.merged from hall empty
  induction l with
  | nil => exact fun g => rfl
  | cons s l ih =>
    intro g
    rw [List.foldl_cons, ih, List.foldl_cons, merged, merged]

theorem natural_merged (hg : ∀ s ∈ g.parts, s.Natural) : g.merged.Natural := by
  induction g with
  | empty => exact natural_empty
  | single s => exact hg s List.mem_cons_self
  | join g h ihg ihh =>
    exact (ihg fun s hs => hg s (List.mem_append_left _ hs)).merge
      (ihh fun s hs => hg s (List.mem_append_right _ hs))

/-- The counts of all statistics are added up. -/
theorem count_merged (hg : ∀ s ∈ g.parts, s.Natural) (r : Rule) (c : Candidate) :
    g.merged.count r c = (g.parts.map fun s => s.count r c).sum := by
  induction g with
  | empty => exact count_empty r c
  | single s => simp [merged, parts]
  | join g h ihg ihh =>
    have hleft := fun s hs => hg s (List.mem_append_left h.parts hs)
    have hright := fun s hs => hg s (List.mem_append_right g.parts hs)
    rw [merged, count_merge (natural_merged hleft) (natural_merged hright), ihg hleft, ihh hright,
      parts, List.map_append, List.sum_append]

theorem filesScanned_merged (g : Grouping) :
    g.merged.filesScanned = (g.parts.map (·.filesScanned)).sum := by
  induction g with
  | empty => rfl
  | single s => simp [merged, parts]
  | join g h ihg ihh =>
    rw [parts, List.map_append, List.sum_append, ← ihg, ← ihh]
    rfl

theorem warnings_merged (g : Grouping) : g.merged.warnings = g.parts.flatMap (·.warnings) := by
  induction g with
  | empty => rfl
  | single s => simp [merged, parts]
  | join g h ihg ihh =>
    rw [parts, List.flatMap_append, ← ihg, ← ihh]
    rfl

end Grouping

/-! ### One after the other -/

section Foldl
variable {l : List Statistic}

theorem natural_foldl (hl : ∀ s ∈ l, s.Natural) : (l.foldl Statistic.merge {}).Natural := by
  rw [← Grouping.parts_ofList l] at hl
  rw [← Grouping.merged_ofList]
  exact Grouping.natural_merged hl

theorem count_foldl (hl : ∀ s ∈ l, s.Natural) (r : Rule) (c : Candidate) :
    (l.foldl Statistic.merge {}).count r c = (l.map fun s => s.count r c).sum := by
  rw [← Grouping.parts_ofList l] at hl
  rw [← Grouping.merged_ofList, Grouping.count_merged hl, Grouping.parts_ofList]

theorem filesScanned_foldl (l : List Statistic) :
    (l.foldl Statistic.merge {}).filesScanned = (l.map (·.filesScanned)).sum := by
  rw [← Grouping.merged_ofList, Grouping.filesScanned_merged, Grouping.parts_ofList]

theorem warnings_foldl (l : List Statistic) :
    (l.foldl Statistic.merge {}).warnings = l.flatMap (·.warnings) := by
  rw [← Grouping.merged_ofList, Grouping.warnings_merged, Grouping.parts_ofList]

end Foldl

/-- Statistics with a count of zero, without some counters, and with two candidates of one text. -/
def mixed : List Statistic :=
  [{ counts := { indent := [(.number 4, 1)], quotes := [(.word "double", 0), (.word "single", 2)] }
     filesScanned := 2 },
   { counts := { indent := [(.word "4", 1)], semi := [(.word "always", 3)] }
     filesScanned := 1
     warnings := [⟨"b.js", "Line 1: Unexpected token )"⟩] },
   { counts := { quotes := [(.word "double", 1)] }
     filesScanned := 1
     warnings := [⟨"a.js", "Line 2: Unexpected end of input"⟩] }]

end Statistic

end LintConfig.Style
