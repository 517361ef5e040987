import LintConfig.Proofs.Ecma.Programs
import LintConfig.Proofs.Failing
import LintConfig.Proofs.Tally

/-! # Which statements are counted by the semicolon that ends them

A statement that takes a semicolon should be counted once, by its last token. What is looked at
instead are the kind of the node that holds it and the last character of its span. The first cannot
tell the head of a loop from its body; the second is only wrong at the end of the text, where a
comment may stand behind the last token. -/
namespace LintConfig.Style.Semicolons
open Ecma (Kind Node Program)
open Ecma.Cursor (SemicolonBefore)

/-- A node and what holds it. -/
abbrev Occurrence := Node × Option Node.Holder

/-- Does a loop hold a node in its head? -/
def inHead : Option Node.Holder → Bool
  | some (k, l) => isFor k && l != "body"
  | none => false

/-- Does a statement take a semicolon at its end? -/
def takesSemicolon (o : Occurrence) : Bool :=
  endsInSemicolon o.1.kind && !(o.1.kind = .variableDeclaration && inHead o.2)

/-- Is the last token of a node a semicolon? -/
def isClosed (n : Node) : Bool := n.last.any (·.isPunctuator .semicolon)

def vote (closed : Bool) : Candidate := .word (if closed then "always" else "never")

/-- The votes of the members of a list that have one. -/
def votes {α : Type} (has closed : α → Bool) (l : List α) : List Candidate :=
  l.filterMap fun a => if has a then some (vote (closed a)) else none

/-- The votes of all statements that take a semicolon, by their last tokens. -/
def statementVotes (tree : Node) : List Candidate :=
  votes takesSemicolon (fun o => isClosed o.1) (tree.occurrences none)

/-- No declaration of variables is the body of a loop, and a semicolon at the end of the text ends
all statements that end there. -/
structure Clear (text : List Char) (tree : Node) : Prop where
  bodies : ∀ o ∈ tree.occurrences none, o.1.kind = .variableDeclaration →
    o.2.any (fun h => isFor h.1) = true → inHead o.2 = true
  ends : text.getLast? = some ';' → ∀ o ∈ tree.occurrences none, takesSemicolon o = true →
    o.1.span.stop = text.length → isClosed o.1 = true

instance (text : List Char) (tree : Node) : Decidable (Clear text tree) :=
  decidable_of_iff
    ((∀ o ∈ tree.occurrences none, o.1.kind = .variableDeclaration →
        o.2.any (fun h => isFor h.1) = true → inHead o.2 = true) ∧
      (text.getLast? = some ';' → ∀ o ∈ tree.occurrences none, takesSemicolon o = true →
        o.1.span.stop = text.length → isClosed o.1 = true))
    ⟨fun h => ⟨h.1, h.2⟩, fun h => ⟨h.bodies, h.ends⟩⟩

/-! ### Comparing votes -/

theorem countP_eq_iff {α : Type} {p q : α → Bool} {l : List α}
    (h : ∀ a ∈ l, p a = true → q a = true) :
    l.countP p = l.countP q ↔ ∀ a ∈ l, q a = true → p a = true := by
  constructor
  · intro heq a ha hqa
    by_contra hpa
    have hlt : l.countP p + 1 ≤ l.countP q := by
      obtain ⟨before, after, rfl⟩ := List.append_of_mem ha
      have hb : before.countP p ≤ before.countP q :=
        List.countP_mono_left fun b hb => h b (by simp [hb])
      have ha : after.countP p ≤ after.countP q :=
        List.countP_mono_left fun b hb => h b (by simp [hb])
      simp only [List.countP_append, List.countP_cons, hqa, hpa, if_true, if_false]
      omega
    omega
  · exact fun hq => List.countP_congr fun a ha => ⟨h a ha, hq a ha⟩

theorem length_votes {α : Type} (has closed : α → Bool) (l : List α) :
    (votes has closed l).length = l.countP has := by
  induction l with
  | nil => rfl
  | cons a l ih => cases hhas : has a <;> simp [votes, hhas] <;> exact ih

theorem count_votes {α : Type} (has closed : α → Bool) (l : List α) :
    (votes has closed l).count (vote true) = l.countP fun a => has a && closed a := by
  rw [votes, List.count_filterMap]
  refine List.countP_congr fun a _ => ?_
  cases has a <;> cases closed a <;> simp [vote]

/-- If fewer have a vote in one way of counting, and fewer are closed in the other, then the two give
the same votes only if they are the same. -/
theorem votes_perm_iff {α : Type} {has has' closed closed' : α → Bool} {l : List α}
    (hhas : ∀ a ∈ l, has a = true → has' a = true)
    (hclosed : ∀ a ∈ l, has' a = true → closed' a = true → closed a = true) :
    (votes has closed l).Perm (votes has' closed' l) ↔
      ∀ a ∈ l, has' a = true → has a = true ∧ (closed a = true → closed' a = true) := by
  constructor
  · intro hperm
    have hsame : ∀ a ∈ l, has' a = true → has a = true := by
      rw [← countP_eq_iff hhas, ← length_votes has closed, ← length_votes has' closed']
      exact hperm.length_eq
    have hcount : l.countP (fun a => has' a && closed' a) = l.countP fun a => has a && closed a := by
      rw [← count_votes, ← count_votes]
      exact (hperm.count_eq _).symm
    rw [countP_eq_iff] at hcount
    · intro a ha hhas'
      refine ⟨hsame a ha hhas', fun hc => ?_⟩
      have hboth := hcount a ha (by rw [hsame a ha hhas', hc]; rfl)
      exact (Bool.and_eq_true_iff.mp hboth).2
    · intro a ha hboth
      obtain ⟨hhas', hc⟩ := Bool.and_eq_true_iff.mp hboth
      rw [hsame a ha hhas', hclosed a ha hhas' hc]
      rfl
  · intro h
    suffices heq : votes has closed l = votes has' closed' l by rw [heq]
    refine List.filterMap_congr fun a ha => ?_
    cases hhas' : has' a with
    | false =>
      have hno : has a = false := by
        by_contra hno
        simp [hhas a ha (by simpa using hno)] at hhas'
      rw [hno]
      rfl
    | true =>
      obtain ⟨hyes, hc⟩ := h a ha hhas'
      have hsame : closed a = closed' a := Bool.eq_iff_iff.mpr ⟨hc, hclosed a ha hhas'⟩
      rw [hyes, hsame]

/-! ### What is looked at -/

/-- A statement that is counted, by the kind of the node that holds it. -/
def isCounted (o : Occurrence) : Bool :=
  endsInSemicolon o.1.kind &&
    !(o.1.kind = .variableDeclaration && o.2.any fun h => isFor h.1)

theorem takesSemicolon_of_isCounted {o : Occurrence} (h : isCounted o = true) :
    takesSemicolon o = true := by
  obtain ⟨n, holder⟩ := o
  cases holder with
  | none => simpa [isCounted, takesSemicolon, inHead] using h
  | some holder =>
    simp only [isCounted, takesSemicolon, inHead, Option.any_some, Bool.and_eq_true,
      Bool.not_eq_true', Bool.and_eq_false_iff] at h ⊢
    refine ⟨h.1, h.2.imp_right fun hfor => .inl hfor⟩

/-- A statement that takes a semicolon goes uncounted if it is a declaration in a loop that is not in
its head. -/
theorem isCounted_iff {o : Occurrence} (h : takesSemicolon o = true) :
    isCounted o = true ↔
      (o.1.kind = .variableDeclaration → o.2.any (fun h => isFor h.1) = true →
        inHead o.2 = true) := by
  simp only [takesSemicolon, isCounted, Bool.and_eq_true, Bool.not_eq_true', Bool.and_eq_false_iff,
    decide_eq_false_iff_not] at h ⊢
  obtain ⟨hends, hhead⟩ := h
  constructor
  · rintro ⟨-, hno | hno⟩ hdeclaration hfor
    · exact absurd hdeclaration hno
    · simp [hfor] at hno
  · intro hbody
    refine ⟨hends, ?_⟩
    by_contra hnot
    obtain ⟨hdeclaration, hfor⟩ := not_or.mp hnot
    have hdeclaration := not_not.mp hdeclaration
    have hin := hbody hdeclaration (by simpa using hfor)
    simp [hdeclaration, hin] at hhead

theorem endsWithSemicolon_iff {text : List Char} {s : Ecma.Span} :
    endsWithSemicolon text.toArray s = true ↔ SemicolonBefore text s.stop := by
  simp [endsWithSemicolon, SemicolonBefore]

theorem semicolonBefore_length {text : List Char} :
    SemicolonBefore text text.length ↔ text.getLast? = some ';' := by
  rw [SemicolonBefore, List.getLast?_eq_getElem?]
  refine ⟨fun h => h.2, fun h => ⟨?_, h⟩⟩
  cases text with
  | nil => simp at h
  | cons c text => simp

/-- The votes that are counted. -/
theorem perm_votes (text : List Char) (tree : Node) :
    (tree.visits.filterMap fun (n, parent) => semicolonOf? text.toArray n parent).Perm
      (votes isCounted (fun o => endsWithSemicolon text.toArray o.1.span)
        (tree.occurrences none)) := by
  refine ((Node.visits_perm_occurrences tree).filterMap _).trans (.of_eq ?_)
  rw [List.filterMap_map, votes]
  refine List.filterMap_congr fun o _ => ?_
  simp only [Function.comp_apply, Node.visitOf, semicolonOf?, isCounted, Option.any_map]
  rfl

/-- In a good tree the character before the end of a statement is no semicolon if its last token is
none, except at the end of the text. -/
theorem closed_iff {text : List Char} {tree : Node} (hgood : tree.Good text) {o : Occurrence}
    (ho : o ∈ tree.occurrences none) (htakes : takesSemicolon o = true) :
    (isClosed o.1 = true → SemicolonBefore text o.1.span.stop) ∧
      ((SemicolonBefore text o.1.span.stop → isClosed o.1 = true) ↔
        (text.getLast? = some ';' → o.1.span.stop = text.length → isClosed o.1 = true)) := by
  have hplain : o.1.Plain text :=
    hgood _ (List.mem_map_of_mem (Node.mem_preorder_of_mem_occurrences ho))
  obtain ⟨t, hlast, htold⟩ := hplain.statement (Bool.and_eq_true_iff.mp htakes).1
  have hclosed : isClosed o.1 = t.isPunctuator .semicolon := by rw [isClosed, hlast]; rfl
  rw [hclosed]
  refine ⟨htold.1, fun h hend hstop => h (hstop ▸ semicolonBefore_length.mpr hend), ?_⟩
  intro h hbefore
  by_contra hnot
  rcases htold.2 (by simpa using hnot) with hno | hstop
  · exact hno hbefore
  · exact hnot (h (semicolonBefore_length.mp (hstop ▸ hbefore)) hstop)

/-- For a text that is analysed, the counts are those of the statements by their last tokens exactly
if the text is clear. -/
theorem analyze_semi_iff {markup : Bool} {text : String} {s : Statistic}
    (h : analyze markup text = .ok s) :
    ∃ p, Ecma.parse markup (withoutMark text.toList) = .ok p ∧
      ((∀ v, s.counts.semi.count v = (statementVotes p.tree).count v) ↔
        Clear (withoutMark text.toList) p.tree) := by
  obtain ⟨p, hp, hs⟩ := Failing.bind_eq_ok.mp h
  cases hs
  refine ⟨p, hp, ?_⟩
  generalize withoutMark text.toList = text at hp ⊢
  have hgood := Ecma.parse_good hp
  have hcount : ∀ v, (countsOf text p.tree).semi.count v =
      ((votes isCounted (fun o => endsWithSemicolon text.toArray o.1.span)
        (p.tree.occurrences none)).count v : Int) := by
    intro v
    rw [countsOf, Tally.count_ofList, (perm_votes text p.tree).count_eq]
  have hperm : (∀ v, (countsOf text p.tree).semi.count v = (statementVotes p.tree).count v) ↔
      (votes isCounted (fun o => endsWithSemicolon text.toArray o.1.span)
        (p.tree.occurrences none)).Perm (statementVotes p.tree) := by
    rw [List.perm_iff_count]
    exact forall_congr' fun v => by rw [hcount, Int.natCast_inj]
  rw [hperm, statementVotes, votes_perm_iff]
  · constructor
    · intro hall
      refine ⟨fun o ho hdeclaration hfor => ?_, fun hend o ho htakes hstop => ?_⟩
      · by_contra hout
        have htakes : takesSemicolon o = true := by
          simp [takesSemicolon, hdeclaration, endsInSemicolon, Bool.eq_false_iff.mpr hout]
        exact hout ((isCounted_iff htakes).mp (hall o ho htakes).1 hdeclaration hfor)
      · have hclosed := fun hbefore => (hall o ho htakes).2 (endsWithSemicolon_iff.mpr hbefore)
        exact (closed_iff hgood ho htakes).2.mp hclosed hend hstop
    · intro hclear o ho htakes
      refine ⟨(isCounted_iff htakes).mpr (hclear.bodies o ho), fun hends => ?_⟩
      have hclosed := (closed_iff hgood ho htakes).2.mpr
        fun hend hstop => hclear.ends hend o ho htakes hstop
      exact hclosed (endsWithSemicolon_iff.mp hends)
  · exact fun o _ => takesSemicolon_of_isCounted
  · exact fun o ho htakes hclosed =>
      endsWithSemicolon_iff.mpr ((closed_iff hgood ho htakes).1 hclosed)

/-- A text with a loop that declares a variable in its head. -/
def looping : String := "for (var i = 0; i < 9; i++) \x7b f(i); \x7d\nvar x = i // all;\n"

theorem analyze_semi_looping :
    ∃ s p, analyze false looping = .ok s ∧ Ecma.parse false looping.toList = .ok p ∧
      ∀ v, s.counts.semi.count v = (statementVotes p.tree).count v := by
  obtain ⟨s, hs⟩ := Failing.exists_ok_of_isSome (x := analyze false looping) (by decide +kernel)
  obtain ⟨p, hp, hiff⟩ := analyze_semi_iff hs
  obtain ⟨q, hq, hclear⟩ := Failing.exists_ok_of_any
    (x := Ecma.parse false looping.toList)
    (f := fun p => decide (Clear looping.toList p.tree)) (by decide +kernel)
  obtain rfl : q = p := Except.ok.inj (hq.symm.trans hp)
  exact ⟨s, q, hs, hp, hiff.mpr (of_decide_eq_true hclear)⟩

/-- A loop whose body is a declaration. -/
def looped : String := "for (;;) var x = 1;\n"

/-- A declaration that is the body of a loop goes uncounted. -/
theorem analyze_semi_looped :
    ∃ s p, analyze false looped = .ok s ∧ Ecma.parse false looped.toList = .ok p ∧
      s.counts.semi.count (vote true) = 0 ∧ (statementVotes p.tree).count (vote true) = 1 := by
  obtain ⟨s, hs, hcount⟩ := Failing.exists_ok_of_any (x := analyze false looped)
    (f := fun s => s.counts.semi.count (vote true) == 0) (by decide +kernel)
  obtain ⟨p, hp, hvotes⟩ := Failing.exists_ok_of_any (x := Ecma.parse false looped.toList)
    (f := fun p => (statementVotes p.tree).count (vote true) == 1) (by decide +kernel)
  exact ⟨s, p, hs, hp, beq_iff_eq.mp hcount, beq_iff_eq.mp hvotes⟩

/-- A call that only a comment puts a semicolon behind. -/
def commented : String := "f() //;"

/-- A comment at the end of the text decides for the statement before it. -/
theorem analyze_semi_commented :
    ∃ s p, analyze false commented = .ok s ∧ Ecma.parse false commented.toList = .ok p ∧
      s.counts.semi.count (vote true) = 1 ∧ (statementVotes p.tree).count (vote true) = 0 := by
  obtain ⟨s, hs, hcount⟩ := Failing.exists_ok_of_any (x := analyze false commented)
    (f := fun s => s.counts.semi.count (vote true) == 1) (by decide +kernel)
  obtain ⟨p, hp, hvotes⟩ := Failing.exists_ok_of_any (x := Ecma.parse false commented.toList)
    (f := fun p => (statementVotes p.tree).count (vote true) == 0) (by decide +kernel)
  exact ⟨s, p, hs, hp, beq_iff_eq.mp hcount, beq_iff_eq.mp hvotes⟩

end LintConfig.Style.Semicolons
