import LintConfig.Proofs.Quotes
import LintConfig.Style.Analysis

/-! # Other line ends change the vote on line ends only

A text without carriage returns is analysed once more with one before each of its line feeds. A
place in the text moves on by the number of line feeds before it. This keeps the order of places,
the lines and what they begin with, and the character before a place; so quotes, semicolons and
indentation are counted as before if the tree is the same but for its places. -/
namespace LintConfig.Style.LineEnds
open Ecma (Field Item Kind Node Span)
open Indentation (Indent indents isIndent isInside isSignificant numbered)

/-- A text with a carriage return before each of its line feeds. -/
def withReturns (text : List Char) : List Char :=
  text.flatMap fun c => if c = '\n' then ['\r', '\n'] else [c]

/-- Where a place of a text is once it has these carriage returns. -/
def moved (text : List Char) (place : Nat) : Nat := place + (text.take place).count '\n'

/-- The vote for plain line ends as one for those with a carriage return. -/
def asWindows (c : Candidate) : Candidate := if c = .word "unix" then .word "windows" else c

def movedSpan (f : Nat → Nat) (s : Span) : Span := ⟨f s.start, f s.stop⟩

mutual

/-- Is a tree the same as another one but for its places, which are moved, and for plain values, of
which literals keep the first character? -/
def isMoved (f : Nat → Nat) : Node → Node → Bool
  | .mk k s t fields, .mk k' s' t' fields' =>
    k' == k && s' == movedSpan f s &&
      (k != .literal ||
        Quotes.opening? (.mk k' s' t' fields') == Quotes.opening? (.mk k s t fields)) &&
      areMoved f fields fields'

def areMoved (f : Nat → Nat) : List Field → List Field → Bool
  | [], [] => true
  | .plain l _ :: rest, .plain l' _ :: rest' => l' == l && areMoved f rest rest'
  | .child l n :: rest, .child l' n' :: rest' => l' == l && isMoved f n n' && areMoved f rest rest'
  | .children l items :: rest, .children l' items' :: rest' =>
    l' == l && itemsMoved f items items' && areMoved f rest rest'
  | _, _ => false

def itemsMoved (f : Nat → Nat) : List Item → List Item → Bool
  | [], [] => true
  | .plain _ :: rest, .plain _ :: rest' => itemsMoved f rest rest'
  | .node n :: rest, .node n' :: rest' => isMoved f n n' && itemsMoved f rest rest'
  | _, _ => false

end

/-! ### Trees -/

section Trees
variable {f : Nat → Nat}

/-- What a node and the one in its place have in common. -/
structure Counterpart (f : Nat → Nat) (n n' : Node) : Prop where
  kind : n'.kind = n.kind
  span : n'.span = movedSpan f n.span
  opening : n.kind = .literal → Quotes.opening? n' = Quotes.opening? n
  nodes : List.Forall₂ (isMoved f · ·) n.nodes n'.nodes

theorem forall₂_items : (items items' : List Item) → itemsMoved f items items' = true →
    List.Forall₂ (isMoved f · ·) (items.filterMap Item.node?) (items'.filterMap Item.node?)
  | [], [], _ => .nil
  | .plain _ :: rest, .plain _ :: rest', h => by
    rw [itemsMoved] at h
    exact forall₂_items rest rest' h
  | .node _ :: rest, .node _ :: rest', h => by
    rw [itemsMoved, Bool.and_eq_true] at h
    exact .cons h.1 (forall₂_items rest rest' h.2)

theorem forall₂_nodes : (fields fields' : List Field) → areMoved f fields fields' = true →
    List.Forall₂ (isMoved f · ·) (fields.flatMap Field.nodes) (fields'.flatMap Field.nodes)
  | [], [], _ => .nil
  | .plain _ _ :: rest, .plain _ _ :: rest', h => by
    rw [areMoved, Bool.and_eq_true] at h
    exact forall₂_nodes rest rest' h.2
  | .child _ _ :: rest, .child _ _ :: rest', h => by
    simp only [areMoved, Bool.and_eq_true] at h
    exact .cons h.1.2 (forall₂_nodes rest rest' h.2)
  | .children _ items :: rest, .children _ items' :: rest', h => by
    simp only [areMoved, Bool.and_eq_true] at h
    exact List.rel_append (forall₂_items items items' h.1.2) (forall₂_nodes rest rest' h.2)

theorem Counterpart.of_isMoved {n n' : Node} (h : isMoved f n n' = true) : Counterpart f n n' := by
  obtain ⟨k, s, t, fields⟩ := n
  obtain ⟨k', s', t', fields'⟩ := n'
  simp only [isMoved, Bool.and_eq_true, Bool.or_eq_true, beq_iff_eq, bne_iff_ne] at h
  obtain ⟨⟨⟨hkind, hspan⟩, hopening⟩, hfields⟩ := h
  exact ⟨hkind, hspan, hopening.resolve_left ∘ not_not.mpr, forall₂_nodes fields fields' hfields⟩

mutual

theorem size_eq_of_isMoved : (n n' : Node) → isMoved f n n' = true → n'.size = n.size
  | .mk _ _ _ fields, .mk _ _ _ fields', h => by
    rw [isMoved, Bool.and_eq_true] at h
    rw [Node.size, Node.size, fieldsSize_eq_of_areMoved fields fields' h.2]

theorem fieldsSize_eq_of_areMoved : (fields fields' : List Field) →
    areMoved f fields fields' = true → Node.fieldsSize fields' = Node.fieldsSize fields
  | [], [], _ => rfl
  | .plain _ _ :: rest, .plain _ _ :: rest', h => by
    rw [areMoved, Bool.and_eq_true] at h
    exact fieldsSize_eq_of_areMoved rest rest' h.2
  | .child _ n :: rest, .child _ n' :: rest', h => by
    simp only [areMoved, Bool.and_eq_true] at h
    rw [Node.fieldsSize, Node.fieldsSize, size_eq_of_isMoved n n' h.1.2,
      fieldsSize_eq_of_areMoved rest rest' h.2]
  | .children _ items :: rest, .children _ items' :: rest', h => by
    simp only [areMoved, Bool.and_eq_true] at h
    rw [Node.fieldsSize, Node.fieldsSize, itemsSize_eq_of_itemsMoved items items' h.1.2,
      fieldsSize_eq_of_areMoved rest rest' h.2]

theorem itemsSize_eq_of_itemsMoved : (items items' : List Item) →
    itemsMoved f items items' = true → Node.itemsSize items' = Node.itemsSize items
  | [], [], _ => rfl
  | .plain _ :: rest, .plain _ :: rest', h => by
    rw [itemsMoved] at h
    exact itemsSize_eq_of_itemsMoved rest rest' h
  | .node n :: rest, .node n' :: rest', h => by
    rw [itemsMoved, Bool.and_eq_true] at h
    rw [Node.itemsSize, Node.itemsSize, size_eq_of_isMoved n n' h.1,
      itemsSize_eq_of_itemsMoved rest rest' h.2]

end

/-- The two visits of a node and the one in its place. -/
def VisitMoved (f : Nat → Nat) (v v' : Node.Visit) : Prop :=
  isMoved f v.1 v'.1 = true ∧ v'.2 = v.2

theorem forall₂_visitsBelow {n n' : Node} (h : isMoved f n n' = true) :
    List.Forall₂ (VisitMoved f) n.visitsBelow n'.visitsBelow := by
  have hn := Counterpart.of_isMoved h
  rw [Node.visitsBelow, Node.visitsBelow, hn.kind, List.forall₂_map_left_iff,
    List.forall₂_map_right_iff]
  exact hn.nodes.imp fun _ _ hc => ⟨hc, rfl⟩

theorem forall₂_visitStack {fuel : Nat} {stack stack' : List Node.Visit}
    (h : List.Forall₂ (VisitMoved f) stack stack') :
    List.Forall₂ (VisitMoved f) (Node.visitStack fuel stack) (Node.visitStack fuel stack') := by
  induction fuel generalizing stack stack' with
  | zero => exact .nil
  | succ fuel ih =>
    cases h with
    | nil => exact .nil
    | cons hv hstack =>
      exact .cons hv (ih (List.rel_append (List.rel_reverse (forall₂_visitsBelow hv.1)) hstack))

/-- The same nodes are visited in the same order. -/
theorem forall₂_visits {tree tree' : Node} (h : isMoved f tree tree' = true) :
    List.Forall₂ (VisitMoved f) tree.visits tree'.visits := by
  rw [Node.visits, Node.visits, size_eq_of_isMoved tree tree' h]
  exact forall₂_visitStack (.cons ⟨h, rfl⟩ .nil)

theorem filterMap_eq_of_forall₂ {α β : Type} {R : α → α → Prop} {l l' : List α} {g g' : α → Option β}
    (h : List.Forall₂ R l l') (hg : ∀ a a', R a a' → g' a' = g a) :
    l'.filterMap g' = l.filterMap g := by
  induction h with
  | nil => rfl
  | cons ha _ ih => rw [List.filterMap_cons, List.filterMap_cons, hg _ _ ha, ih]

theorem quoteOf?_eq {n n' : Node} {parent : Option Kind} (h : isMoved f n n' = true) :
    quoteOf? n' parent = quoteOf? n parent := by
  have hn := Counterpart.of_isMoved h
  by_cases hliteral : n.kind = .literal
  · have hopening : (n'.text? "raw").bind (·.toList.head?) = (n.text? "raw").bind (·.toList.head?) :=
      hn.opening hliteral
    simp only [quoteOf?, hn.kind, hopening]
  · simp [quoteOf?, hn.kind, hliteral]

/-- The stretches of templates are moved. -/
theorem templateSpans_eq {tree tree' : Node} (h : isMoved f tree tree' = true) :
    templateSpans tree'.visits = (templateSpans tree.visits).map (movedSpan f) := by
  rw [templateSpans, templateSpans, List.map_filterMap]
  refine filterMap_eq_of_forall₂ (forall₂_visits h) fun v v' hv => ?_
  have hn := Counterpart.of_isMoved hv.1
  by_cases htemplate : v.1.kind = .templateLiteral <;> simp [hn.kind, hn.span, htemplate]

end Trees

/-! ### Places -/

section Places
variable {text : List Char}

@[simp] theorem withReturns_nil : withReturns [] = [] := rfl

theorem withReturns_cons (c : Char) (text : List Char) :
    withReturns (c :: text) = (if c = '\n' then ['\r', '\n'] else [c]) ++ withReturns text := rfl

@[simp] theorem withReturns_feed (text : List Char) :
    withReturns ('\n' :: text) = '\r' :: '\n' :: withReturns text := rfl

@[simp] theorem withReturns_of_ne {c : Char} (h : c ≠ '\n') (text : List Char) :
    withReturns (c :: text) = c :: withReturns text := by
  rw [withReturns_cons, if_neg h]
  rfl

theorem length_withReturns (text : List Char) :
    (withReturns text).length = text.length + text.count '\n' := by
  induction text with
  | nil => rfl
  | cons c text ih =>
    rw [withReturns_cons, List.length_append, ih, List.count_cons]
    by_cases hc : c = '\n' <;> simp [hc] <;> omega

theorem moved_cons (c : Char) (text : List Char) (place : Nat) :
    moved (c :: text) (place + 1) = moved text place + if c = '\n' then 2 else 1 := by
  by_cases hc : c = '\n' <;> simp [moved, hc] <;> omega

theorem withReturns_append (before after : List Char) :
    withReturns (before ++ after) = withReturns before ++ withReturns after := by
  rw [withReturns, List.flatMap_append]
  rfl

/-- A place goes where the text before it ends. -/
theorem moved_length (before after : List Char) :
    moved (before ++ after) before.length = (withReturns before).length := by
  rw [moved, List.take_left, length_withReturns]

theorem moved_strictMono (text : List Char) : StrictMono (moved text) := by
  intro a b hab
  have hle : (text.take a).count '\n' ≤ (text.take b).count '\n' :=
    (List.take_sublist_take_left hab.le).count_le _
  rw [moved, moved]
  omega

theorem isInside_moved (start : Nat) (s : Span) :
    isInside (moved text start) (movedSpan (moved text) s) = isInside start s := by
  simp only [isInside, movedSpan, (moved_strictMono text).lt_iff_lt]

/-- The character before a place stays before it. -/
theorem getElem?_moved (place : Nat) :
    (withReturns text)[moved text (place + 1) - 1]? = text[place]? := by
  induction text generalizing place with
  | nil => rfl
  | cons c text ih =>
    rw [withReturns_cons, moved_cons]
    cases place with
    | zero => by_cases hc : c = '\n' <;> simp [moved, hc]
    | succ place =>
      -- What became of the first character is as long as the place has moved for it.
      have hpos : 0 < moved text (place + 1) := by rw [moved]; omega
      have hlen : (if c = '\n' then ['\r', '\n'] else [c]).length = if c = '\n' then 2 else 1 := by
        split <;> rfl
      rw [List.getElem?_cons_succ, ← ih, ← hlen, List.getElem?_append_right (by omega)]
      congr 1
      omega

theorem endsWithSemicolon_moved (s : Span) :
    endsWithSemicolon (withReturns text).toArray (movedSpan (moved text) s) =
      endsWithSemicolon text.toArray s := by
  obtain ⟨start, stop⟩ := s
  cases stop with
  | zero => rfl
  | succ stop =>
    have hpos : 0 < moved text (stop + 1) := by rw [moved]; omega
    simp [endsWithSemicolon, movedSpan, hpos, getElem?_moved]

theorem semicolonOf?_eq {n n' : Node} {parent : Option Kind}
    (h : isMoved (moved text) n n' = true) :
    semicolonOf? (withReturns text).toArray n' parent = semicolonOf? text.toArray n parent := by
  have hn := Counterpart.of_isMoved h
  rw [semicolonOf?, semicolonOf?, hn.kind, hn.span, endsWithSemicolon_moved]

end Places

/-! ### Lines -/

section Lines
variable {text : List Char}

theorem flatten_lines (text : List Char) : (Text.lines text).flatten = text := by
  fun_induction Text.lines text with
  | case1 => rfl
  | case2 rest ih => simp [ih]
  | case3 c rest _ hbreak ih => simp [ih]
  | case4 c rest _ hbreak hnil ih => simpa [hnil] using ih
  | case5 c rest _ hbreak line later hcons ih => simpa [hcons] using ih

/-- Only a carriage return has to be read together with what follows. -/
theorem lines_cons {c : Char} (hc : '\r' ≠ c) (rest : List Char) :
    Text.lines (c :: rest) = if Text.isLineBreak c then [c] :: Text.lines rest
      else match Text.lines rest with
        | [] => [[c]]
        | line :: later => (c :: line) :: later :=
  Text.lines.eq_3 c rest fun _ hreturn _ => hc hreturn.symm

/-- The lines are as before, each with the carriage return that its end has now. -/
theorem lines_withReturns (h : '\r' ∉ text) :
    Text.lines (withReturns text) = (Text.lines text).map withReturns := by
  induction text with
  | nil => rfl
  | cons c text ih =>
    obtain ⟨hc, htext⟩ := not_or.mp (mt List.mem_cons.mpr h)
    rw [lines_cons hc]
    by_cases hfeed : c = '\n'
    · subst hfeed
      have hbreak : Text.isLineBreak '\n' = true := rfl
      rw [if_pos hbreak, List.map_cons, ← ih htext]
      exact Text.lines.eq_2 _
    · rw [withReturns_of_ne hfeed, lines_cons hc, ih htext]
      by_cases hbreak : Text.isLineBreak c = true
      · simp [hbreak, hfeed]
      · cases Text.lines text <;> simp [hbreak, hfeed]

/-- The lines that come after a text start at the places that its places go to. -/
theorem numbered_withReturns (before : List Char) (lines : List (List Char)) :
    numbered (moved (before ++ lines.flatten) before.length) (lines.map withReturns) =
      (numbered before.length lines).map fun e =>
        (moved (before ++ lines.flatten) e.1, withReturns e.2) := by
  induction lines generalizing before with
  | nil => rfl
  | cons line lines ih =>
    have hnext : moved (before ++ (line :: lines).flatten) before.length + (withReturns line).length =
        moved ((before ++ line) ++ lines.flatten) (before ++ line).length := by
      rw [moved_length, moved_length, withReturns_append, List.length_append]
    have hrest := ih (before ++ line)
    rw [← hnext, List.append_assoc, List.length_append] at hrest
    rw [List.map_cons, numbered, numbered, List.map_cons, hrest]
    rfl

theorem takeWhile_withReturns (line : List Char) :
    (withReturns line).takeWhile isIndent = line.takeWhile isIndent := by
  induction line with
  | nil => rfl
  | cons c line ih =>
    by_cases hc : c = '\n'
    · subst hc
      rfl
    · rw [withReturns_of_ne hc, List.takeWhile_cons, ih, List.takeWhile_cons]

theorem dropWhile_withReturns (line : List Char) :
    (withReturns line).dropWhile isIndent = withReturns (line.dropWhile isIndent) := by
  induction line with
  | nil => rfl
  | cons c line ih =>
    by_cases hc : c = '\n'
    · subst hc
      rfl
    · rw [withReturns_of_ne hc, List.dropWhile_cons, ih, List.dropWhile_cons, apply_ite withReturns,
        withReturns_of_ne hc]

theorem isAllBlank_withReturns (line : List Char) :
    Text.isAllBlank (withReturns line) = Text.isAllBlank line := by
  rw [Text.isAllBlank, Text.isAllBlank, withReturns, List.all_flatMap]
  refine congrArg (line.all ·) (funext fun c => ?_)
  by_cases hc : c = '\n'
  · subst hc
    rfl
  · simp [hc]

theorem star_withReturns (line : List Char) :
    ((withReturns line).head? != some '*') = (line.head? != some '*') := by
  cases line with
  | nil => rfl
  | cons c line =>
    by_cases hc : c = '\n'
    · subst hc
      rfl
    · rw [withReturns_of_ne hc]
      rfl

theorem ofLine_withReturns (line : List Char) :
    Indent.ofLine (withReturns line) = Indent.ofLine line := by
  rw [Indent.ofLine, Indent.ofLine, takeWhile_withReturns]

theorem isSignificant_moved (skipped : List Span) (start : Nat) (line : List Char) :
    isSignificant (skipped.map (movedSpan (moved text))) (moved text start) (withReturns line) =
      isSignificant skipped start line := by
  have hinside : (skipped.map (movedSpan (moved text))).any (isInside (moved text start)) =
      skipped.any (isInside start) := by
    rw [List.any_map]
    exact congrArg _ (funext fun s => isInside_moved start s)
  simp only [isSignificant, dropWhile_withReturns, isAllBlank_withReturns, star_withReturns, hinside]

/-- The same steps are shown. -/
theorem tally_moved (h : '\r' ∉ text) (skipped : List Span) :
    Indentation.tally (skipped.map (movedSpan (moved text))) (withReturns text) =
      Indentation.tally skipped text := by
  have hnumbered : numbered 0 (Text.lines (withReturns text)) =
      (numbered 0 (Text.lines text)).map fun e => (moved text e.1, withReturns e.2) := by
    rw [lines_withReturns h]
    simpa [flatten_lines, moved] using numbered_withReturns [] (Text.lines text)
  have hindents : indents (skipped.map (movedSpan (moved text))) (withReturns text) =
      indents skipped text := by
    rw [indents, indents, hnumbered, List.filter_map, List.map_map]
    have hsame : (fun e : Nat × List Char => isSignificant (skipped.map (movedSpan (moved text)))
        (moved text e.1) (withReturns e.2)) = fun e => isSignificant skipped e.1 e.2 :=
      funext fun e => isSignificant_moved skipped e.1 e.2
    have hofLine : (fun e : Nat × List Char => Indent.ofLine (withReturns e.2)) =
        fun e => Indent.ofLine e.2 := funext fun e => ofLine_withReturns e.2
    exact congrArg₂ (fun g k => ((numbered 0 (Text.lines text)).filter k).map g) hofLine hsame
  rw [Indentation.tally, Indentation.tally, hindents]

theorem lineEnds_cons {c : Char} (hreturn : '\r' ≠ c) (hfeed : c ≠ '\n') (rest : List Char) :
    lineEnds (c :: rest) = lineEnds rest := by
  rw [lineEnds]
  · exact fun _ h _ => hreturn h.symm
  · exact hfeed

theorem lineEnds_eq (h : '\r' ∉ text) : lineEnds text = (0, text.count '\n') := by
  induction text with
  | nil => rfl
  | cons c text ih =>
    obtain ⟨hc, htext⟩ := not_or.mp (mt List.mem_cons.mpr h)
    by_cases hfeed : c = '\n'
    · subst hfeed
      simp [lineEnds, ih htext]
    · rw [lineEnds_cons hc hfeed, ih htext, List.count_cons_of_ne hfeed]

theorem lineEnds_withReturns (h : '\r' ∉ text) :
    lineEnds (withReturns text) = (text.count '\n', 0) := by
  induction text with
  | nil => rfl
  | cons c text ih =>
    obtain ⟨hc, htext⟩ := not_or.mp (mt List.mem_cons.mpr h)
    by_cases hfeed : c = '\n'
    · subst hfeed
      simp [lineEnds, ih htext]
    · rw [withReturns_of_ne hfeed, lineEnds_cons hc hfeed, ih htext, List.count_cons_of_ne hfeed]

theorem linebreakTally_eq (h : '\r' ∉ text) :
    linebreakTally text = if '\n' ∈ text then [(.word "unix", 1)] else [] := by
  by_cases hfeed : '\n' ∈ text
  · have hcount : text.count '\n' ≠ 0 := (List.count_pos_iff.mpr hfeed).ne'
    simp [linebreakTally, lineEnds_eq h, hfeed, hcount]
  · simp [linebreakTally, lineEnds_eq h, hfeed, List.count_eq_zero_of_not_mem]

theorem linebreakTally_withReturns (h : '\r' ∉ text) :
    linebreakTally (withReturns text) = (linebreakTally text).map (Prod.map asWindows id) := by
  rw [linebreakTally_eq h]
  by_cases hfeed : '\n' ∈ text
  · have hcount : 0 < text.count '\n' := List.count_pos_iff.mpr hfeed
    simp [linebreakTally, lineEnds_withReturns h, hfeed, hcount, hcount.ne', asWindows]
  · simp [linebreakTally, lineEnds_withReturns h, hfeed, List.count_eq_zero_of_not_mem]

end Lines

/-! ### All together -/

theorem withoutMark_of_ne {c : Char} (h : c ≠ '\ufeff') (text : List Char) :
    withoutMark (c :: text) = c :: text := by
  rw [withoutMark]
  exact fun _ hmark => h (List.cons.inj hmark).1

theorem withoutMark_withReturns (text : List Char) :
    withoutMark (withReturns text) = withReturns (withoutMark text) := by
  cases text with
  | nil => rfl
  | cons c text =>
    by_cases hmark : c = '\ufeff'
    · subst hmark
      rfl
    · rw [withoutMark_of_ne hmark]
      by_cases hfeed : c = '\n'
      · subst hfeed
        rfl
      · rw [withReturns_of_ne hfeed, withoutMark_of_ne hmark]

theorem mem_withoutMark {c : Char} (hc : c ≠ '\ufeff') (text : List Char) :
    c ∈ withoutMark text ↔ c ∈ text := by
  cases text with
  | nil => rfl
  | cons d text =>
    by_cases hmark : d = '\ufeff'
    · subst hmark
      rw [withoutMark, List.mem_cons, or_iff_right hc]
    · rw [withoutMark_of_ne hmark]

/-- Of what a text shows, only the vote on line ends is another one. -/
theorem countsOf_withReturns {text : List Char} {tree tree' : Node} (h : '\r' ∉ text)
    (hmoved : isMoved (moved text) tree tree' = true) :
    countsOf (withReturns text) tree' = { countsOf text tree with
      linebreak := (countsOf text tree).linebreak.map (Prod.map asWindows id) } := by
  have hvisits := forall₂_visits hmoved
  have hquotes : (tree'.visits.filterMap fun v => quoteOf? v.1 v.2) =
      tree.visits.filterMap fun v => quoteOf? v.1 v.2 :=
    filterMap_eq_of_forall₂ hvisits fun v v' hv => by rw [hv.2, quoteOf?_eq hv.1]
  have hsemi : (tree'.visits.filterMap fun v => semicolonOf? (withReturns text).toArray v.1 v.2) =
      tree.visits.filterMap fun v => semicolonOf? text.toArray v.1 v.2 :=
    filterMap_eq_of_forall₂ hvisits fun v v' hv => by rw [hv.2, semicolonOf?_eq hv.1]
  simp only [countsOf, hquotes, hsemi, templateSpans_eq hmoved, tally_moved h,
    linebreakTally_withReturns h]

/-- With the other line ends and a tree that differs in its places only, a text that is analysed shows
the same but for its vote on line ends, which is for the other ones; without a line feed there is
no vote. -/
theorem analyze_withReturns {markup : Bool} {text : String} {s : Statistic} {p p' : Ecma.Program}
    (hreturns : '\r' ∉ text.toList) (h : analyze markup text = .ok s)
    (hp : Ecma.parse markup (withoutMark text.toList) = .ok p)
    (hp' : Ecma.parse markup (withReturns (withoutMark text.toList)) = .ok p')
    (hmoved : isMoved (moved (withoutMark text.toList)) p.tree p'.tree = true) :
    analyze markup (.ofList (withReturns text.toList)) = .ok { s with
        counts := { s.counts with
          linebreak := s.counts.linebreak.map (Prod.map asWindows id) } } ∧
      s.counts.linebreak = if '\n' ∈ text.toList then [(.word "unix", 1)] else [] := by
  obtain ⟨q, hq, hs⟩ := Failing.bind_eq_ok.mp h
  obtain rfl : q = p := Except.ok.inj (hq.symm.trans hp)
  cases hs
  have hplain : '\r' ∉ withoutMark text.toList := (mem_withoutMark (by decide) _).not.mpr hreturns
  constructor
  · rw [analyze, String.toList_ofList, withoutMark_withReturns]
    refine Failing.bind_eq_ok.mpr ⟨p', hp', ?_⟩
    rw [countsOf_withReturns hplain hmoved]
    rfl
  · have hvote : (countsOf (withoutMark text.toList) q.tree).linebreak = _ := linebreakTally_eq hplain
    simpa only [mem_withoutMark (show '\n' ≠ '\ufeff' by decide)] using hvote

/-- A text whose comment, template and string go over line ends. -/
def spread : String :=
  "/*\n * a\n */\nif (x) \x7b\n    f('a\\\nb');\n  g(\"b\", `\n      c`)\n\x7d\n"

/-- The same text with carriage returns. -/
def returned : String :=
  "/*\r\n * a\r\n */\r\nif (x) \x7b\r\n    f('a\\\r\nb');\r\n  g(\"b\", `\r\n      c`)\r\n\x7d\r\n"

theorem analyze_withReturns_spread :
    ∃ s s', analyze false spread = .ok s ∧ analyze false returned = .ok s' ∧
      s.counts.indent = [(.number 4, 1), (.number 2, 1)] ∧
      s'.counts = { s.counts with linebreak := [(.word "windows", 1)] } := by
  have hspread : returned = .ofList (withReturns spread.toList) := by decide +kernel
  obtain ⟨s, hs, hindent⟩ := Failing.exists_ok_of_any (x := analyze false spread)
    (f := fun s => s.counts.indent == [(.number 4, 1), (.number 2, 1)]) (by decide +kernel)
  obtain ⟨p, hp, hparsed⟩ := Failing.exists_ok_of_any (x := Ecma.parse false spread.toList)
    (f := fun p => (Ecma.parse false (withReturns spread.toList)).toOption.any fun p' =>
      isMoved (moved spread.toList) p.tree p'.tree) (by decide +kernel)
  obtain ⟨p', hp', hmoved⟩ := Failing.exists_ok_of_any hparsed
  obtain ⟨hs', hvote⟩ := analyze_withReturns (by decide) hs hp hp' hmoved
  refine ⟨s, _, hs, hspread ▸ hs', beq_iff_eq.mp hindent, ?_⟩
  rw [hvote]
  rfl

end LintConfig.Style.LineEnds
