import LintConfig.Proofs.Ecma.Programs
import LintConfig.Proofs.Failing
import LintConfig.Proofs.Tally

/-! # Which literals are counted by their quotes

Every string is to be counted once, by the quote it begins with, unless it is the value of an
attribute. What is looked at instead are the first character of a literal as it is written and the
kind of the node that holds it. Both tell the same: strings are the only literals that begin with a
quote, and of the literals in an attribute each is its value. -/
namespace LintConfig.Style.Quotes
open Ecma (Kind Node Program)

/-- A node and what holds it. -/
abbrev Occurrence := Node × Option Node.Holder

/-- Is a node a literal whose token is a string? -/
def isString (n : Node) : Bool := n.kind = .literal && n.last.any (·.isString)

/-- Is a node the value of an attribute of markup? -/
def isAttributeValue (o : Occurrence) : Bool := o.2 = some (.jsxAttribute, "value")

/-- The character that a literal begins with, as it is written. -/
def opening? (n : Node) : Option Char := (n.text? "raw").bind (·.toList.head?)

/-- The strings of a tree that are not values of attributes. -/
def strings (tree : Node) : List Occurrence :=
  (tree.occurrences none).filter fun o => isString o.1 && !isAttributeValue o

/-- How many strings of a tree begin with a character. -/
def openedBy (c : Char) (tree : Node) : Nat :=
  (strings tree).countP fun o => opening? o.1 = some c

def single : Candidate := .word "single"

def double : Candidate := .word "double"

/-- What a string is counted as. -/
def styleOf (n : Node) : Candidate := if opening? n = some '\'' then single else double

/-! ### What is looked at -/

variable {text : List Char} {tree : Node}

/-- Strings are the literals that begin with a quote. -/
theorem isString_iff {n : Node} (h : n.Plain text) (hkind : n.kind = .literal) :
    isString n = true ↔ opening? n = some '\'' ∨ opening? n = some '"' := by
  obtain ⟨t, hlast, hraw, hquoted⟩ := h.literal hkind
  simp only [isString, opening?, hkind, hlast, hraw, Option.any_some, Option.bind_some,
    decide_true, Bool.true_and]
  exact hquoted

theorem plain_of_mem (hgood : tree.Good text) {o : Occurrence} (ho : o ∈ tree.occurrences none) :
    o.1.Plain text :=
  hgood _ (List.mem_map_of_mem (Node.mem_preorder_of_mem_occurrences ho))

/-- A literal that an attribute holds is its value. -/
theorem isAttributeValue_iff (hgood : tree.Good text) {o : Occurrence}
    (ho : o ∈ tree.occurrences none) (hkind : o.1.kind = .literal) :
    isAttributeValue o = true ↔ o.2.map (·.1) = some .jsxAttribute := by
  rw [isAttributeValue, decide_eq_true_eq]
  refine ⟨fun h => by rw [h]; rfl, fun h => ?_⟩
  rcases Node.heldBy_of_mem_occurrences none tree o ho with rfl | ⟨m, holder, f, hm, hf, hnode, hheld⟩
  · contradiction
  · rw [hheld] at h ⊢
    have hattribute : m.kind = .jsxAttribute := Option.some.inj h
    have hlabel : f.label = "value" := by
      by_contra hne
      exact (plain_of_mem hgood hm).inAttribute hattribute f hf hne _ hnode hkind
    rw [hattribute, hlabel]

/-- A node is counted exactly if it is a string and no value of an attribute. -/
theorem quoteOf_eq (hgood : tree.Good text) {o : Occurrence} (ho : o ∈ tree.occurrences none) :
    quoteOf? o.1 (o.2.map (·.1)) =
      if isString o.1 && !isAttributeValue o then some (styleOf o.1) else none := by
  by_cases hkind : o.1.kind = .literal
  · have hvalue := isAttributeValue_iff hgood ho hkind
    have hstring := isString_iff (plain_of_mem hgood ho) hkind
    by_cases hparent : o.2.map (·.1) = some .jsxAttribute
    · simp [quoteOf?, hkind, hparent, hvalue.mpr hparent]
    · have hno : isAttributeValue o = false := Bool.eq_false_iff.mpr fun h => hparent (hvalue.mp h)
      have hopening : (o.1.text? "raw").bind (·.toList.head?) = opening? o.1 := rfl
      simp only [quoteOf?, hkind, hparent, ne_eq, not_false_eq_true, decide_true, Bool.and_self,
        if_true, hno, Bool.not_false, Bool.and_true, styleOf, hopening]
      split
      · rename_i h
        rw [if_pos (hstring.mpr (.inl h)), if_pos h, single]
      · rename_i h
        rw [if_pos (hstring.mpr (.inr h)), if_neg (by rw [h]; decide), double]
      · rename_i hsingle hdouble
        rw [if_neg fun h => (hstring.mp h).elim hsingle hdouble]
  · simp [quoteOf?, isString, hkind]

/-- What is counted are the strings of the tree, each once. -/
theorem perm_strings (hgood : tree.Good text) :
    (tree.visits.filterMap fun (n, parent) => quoteOf? n parent).Perm
      ((strings tree).map fun o => styleOf o.1) := by
  refine ((Node.visits_perm_occurrences tree).filterMap _).trans (.of_eq ?_)
  rw [List.filterMap_map, strings, ← List.filterMap_eq_map, List.filterMap_filter]
  refine List.filterMap_congr fun o ho => ?_
  exact quoteOf_eq hgood ho

/-- Every string begins with one of the two quotes. -/
theorem opening_of_mem (hgood : tree.Good text) {o : Occurrence} (ho : o ∈ strings tree) :
    opening? o.1 = some '\'' ∨ opening? o.1 = some '"' := by
  obtain ⟨hmem, hstring⟩ := List.mem_filter.mp ho
  obtain ⟨hstring, -⟩ := Bool.and_eq_true_iff.mp hstring
  have hkind : o.1.kind = .literal := of_decide_eq_true (Bool.and_eq_true_iff.mp hstring).1
  exact (isString_iff (plain_of_mem hgood hmem) hkind).mp hstring

/-! ### Counts -/

/-- For a text that is analysed, every string that is no value of an attribute begins with a quote and
is counted once by it, and nothing else is counted. -/
theorem analyze_quotes {markup : Bool} {text : String} {s : Statistic}
    (h : analyze markup text = .ok s) :
    ∃ p, Ecma.parse markup (withoutMark text.toList) = .ok p ∧
      (∀ o ∈ strings p.tree, opening? o.1 = some '\'' ∨ opening? o.1 = some '"') ∧
      s.counts.quotes.count single = openedBy '\'' p.tree ∧
      s.counts.quotes.count double = openedBy '"' p.tree ∧
      (∀ v, v ≠ single → v ≠ double → s.counts.quotes.count v = 0) ∧
      s.counts.quotes.total = (strings p.tree).length := by
  obtain ⟨p, hp, hs⟩ := Failing.bind_eq_ok.mp h
  cases hs
  have hgood := Ecma.parse_good hp
  have hopening := fun o (ho : o ∈ strings p.tree) => opening_of_mem hgood ho
  have hperm := perm_strings hgood
  have hcount : ∀ v, (countsOf (withoutMark text.toList) p.tree).quotes.count v =
      ((strings p.tree).countP fun o => styleOf o.1 == v : Nat) := by
    intro v
    rw [countsOf, Tally.count_ofList, hperm.count_eq, List.count_eq_countP, List.countP_map]
    rfl
  have hsingle : ∀ o ∈ strings p.tree, styleOf o.1 = single ↔ opening? o.1 = some '\'' := by
    intro o ho
    rcases hopening o ho with h | h <;> simp [styleOf, h, single, double]
  have hdouble : ∀ o ∈ strings p.tree, styleOf o.1 = double ↔ opening? o.1 = some '"' := by
    intro o ho
    rcases hopening o ho with h | h <;> simp [styleOf, h, single, double]
  refine ⟨p, hp, hopening, ?_, ?_, fun v hv hv' => ?_, ?_⟩
  · rw [hcount, openedBy]
    exact congrArg _ (List.countP_congr fun o ho => by simpa using hsingle o ho)
  · rw [hcount, openedBy]
    exact congrArg _ (List.countP_congr fun o ho => by simpa using hdouble o ho)
  · rw [hcount, Nat.cast_eq_zero, List.countP_eq_zero]
    intro o _ hstyle
    rw [beq_iff_eq, styleOf] at hstyle
    split at hstyle
    · exact hv hstyle.symm
    · exact hv' hstyle.symm
  · rw [countsOf, Tally.total_ofList, hperm.length_eq, List.length_map]

/-- A text with strings as a directive, as a key, in a template and in markup. -/
def quoting : String :=
  "'use strict';\nx = \x7b \"k\": 1, r: /'/ \x7d;\ny = <a b=\"v\" c=\x7b'w'\x7d>'t'</a>;\n"

theorem analyze_quotes_quoting :
    ∃ s p, analyze true quoting = .ok s ∧ Ecma.parse true quoting.toList = .ok p ∧
      s.counts.quotes.count single = 2 ∧ s.counts.quotes.count double = 1 ∧
      s.counts.quotes.total = (strings p.tree).length := by
  obtain ⟨s, hs⟩ := Failing.exists_ok_of_isSome (x := analyze true quoting) (by decide +kernel)
  obtain ⟨p, hp, -, hsingle, hdouble, -, htotal⟩ := analyze_quotes hs
  obtain ⟨q, hq, hopened⟩ := Failing.exists_ok_of_any (x := Ecma.parse true quoting.toList)
    (f := fun p => openedBy '\'' p.tree == 2 && openedBy '"' p.tree == 1) (by decide +kernel)
  obtain rfl : q = p := Except.ok.inj (hq.symm.trans hp)
  rw [Bool.and_eq_true, beq_iff_eq, beq_iff_eq] at hopened
  rw [hopened.1] at hsingle
  rw [hopened.2] at hdouble
  exact ⟨s, q, hs, hp, hsingle, hdouble, htotal⟩

end LintConfig.Style.Quotes
