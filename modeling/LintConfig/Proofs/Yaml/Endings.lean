import LintConfig.Yaml.Parser

/-! # Parsing to the end

A document is only complete when the end of the text has been seen behind it. So nothing is parsed
from tokens that an error comes behind, if none of them is the end. -/
namespace LintConfig.Yaml.Parser

/-- An error is all that comes behind the tokens. -/
structure Unending (s : State) : Prop where
  error : s.error ≠ none
  tokens : ∀ t ∈ s.tokens, t.lexeme ≠ .streamEnd

/-- What is parsed has a property, and no end is made up. -/
def Ensures {α : Type} (P : α → Prop) (m : Parse α) : Prop :=
  ∀ s x s', Unending s → m s = .ok (x, s') → P x ∧ Unending s'

/-- No end is made up, whatever is parsed. -/
abbrev Keeps {α : Type} (m : Parse α) : Prop := Ensures (fun _ => True) m

/-! ### Steps -/

section Steps
variable {α β : Type}

theorem Ensures.bind {P : α → Prop} {Q : β → Prop} {m : Parse α} {f : α → Parse β} (hm : Ensures P m)
    (hf : ∀ x, P x → Ensures Q (f x)) : Ensures Q (m >>= f) := by
  intro s y s'' hs h
  change (m s >>= fun r => f r.1 r.2) = _ at h
  cases hms : m s with
  | error e =>
    rw [hms] at h
    cases h
  | ok r =>
    rw [hms] at h
    obtain ⟨hx, hs'⟩ := hm s r.1 r.2 hs hms
    exact hf r.1 hx r.2 y s'' hs' h

theorem Keeps.bind {Q : β → Prop} {m : Parse α} {f : α → Parse β} (hm : Keeps m)
    (hf : ∀ x, Ensures Q (f x)) : Ensures Q (m >>= f) :=
  Ensures.bind hm fun x _ => hf x

theorem Ensures.ite {P : α → Prop} {b : Bool} {m m' : Parse α} (hm : Ensures P m) (hm' : Ensures P m') :
    Ensures P (if b then m else m') := by
  cases b
  · exact hm'
  · exact hm

theorem ensures_pure {P : α → Prop} {x : α} (hx : P x) : Ensures P (pure x : Parse α) := by
  rintro s _ _ hs ⟨⟩
  exact ⟨hx, hs⟩

theorem ensures_fault (P : α → Prop) (stage : Stage) (context : Option String) (contextMark : Option Mark)
    (problem : String) (mark : Mark) : Ensures P (fault stage context contextMark problem mark) := by
  intro s x s' _ h
  cases h

theorem keeps_pure (x : α) : Keeps (pure x : Parse α) := ensures_pure trivial

theorem Keeps.map {m : Parse α} (hm : Keeps m) (f : α → β) : Keeps (f <$> m) :=
  hm.bind fun x => keeps_pure (f x)

theorem keeps_get : Keeps (get : Parse State) := by
  rintro s _ _ hs ⟨⟩
  exact ⟨trivial, hs⟩

theorem keeps_modify {f : State → State} (hf : ∀ s, (f s).error = s.error ∧ (f s).tokens ⊆ s.tokens) :
    Keeps (modify f : Parse PUnit) := by
  rintro s _ _ hs ⟨⟩
  exact ⟨trivial, (hf s).1 ▸ hs.error, fun t ht => hs.tokens t ((hf s).2 ht)⟩

/-- A token that is looked at is one of those there are. -/
theorem ensures_peek : Ensures (fun t => t.lexeme ≠ .streamEnd) peek := by
  intro s t s' hs h
  unfold peek at h
  split at h
  · rename_i heq
    cases h
    exact ⟨hs.tokens t (heq ▸ List.mem_cons_self), hs⟩
  · split at h
    · cases h
    · rename_i heq
      exact absurd heq hs.error

theorem keeps_peek : Keeps peek := fun s t s' hs h => ⟨trivial, (ensures_peek s t s' hs h).2⟩

theorem keeps_advance : Keeps advance := by
  refine keeps_peek.bind fun _ => (keeps_modify ?_).bind fun _ => keeps_pure _
  exact fun s => ⟨rfl, List.drop_subset 1 s.tokens⟩

theorem keeps_sees (lexemes : List Lexeme) : Keeps (sees lexemes) :=
  keeps_peek.bind fun _ => keeps_pure _

theorem keeps_accept (lexeme : Lexeme) : Keeps (accept lexeme) :=
  (keeps_sees _).bind fun _ => (keeps_advance.bind fun _ => keeps_pure _).ite (keeps_pure _)

theorem ensures_unexpected (P : α → Prop) (context : String) (start : Mark) (expected verb : String) :
    Ensures P (unexpected context start expected verb) :=
  keeps_peek.bind fun _ => ensures_fault _ _ _ _ _ _

theorem keeps_addNode (n : Node) : Keeps (addNode n) := by
  rintro s _ _ hs ⟨⟩
  exact ⟨trivial, hs.error, hs.tokens⟩

theorem keeps_emptyNode (m : Mark) : Keeps (emptyNode m) := keeps_addNode _

end Steps

/-! ### Anchors and tags -/

theorem keeps_parseAnchor (p : Properties) : Keeps (parseAnchor? p) := by
  refine keeps_peek.bind fun t => ?_
  split
  · exact keeps_advance.bind fun _ => keeps_pure _
  · exact keeps_pure _

theorem keeps_parseTag (p : Properties) : Keeps (parseTag? p) := by
  refine keeps_peek.bind fun t => ?_
  split
  · exact keeps_advance.bind fun _ => keeps_pure _
  · exact keeps_pure _

theorem keeps_parseProperties : Keeps parseProperties :=
  (keeps_parseAnchor _).bind fun _ => (keeps_parseTag _).bind fun _ =>
    (keeps_parseAnchor _).ite (keeps_pure _)

theorem keeps_fullTag (p : Properties) : Keeps (fullTag p) := by
  unfold fullTag
  split
  · exact keeps_pure _
  · exact keeps_pure _
  · refine keeps_get.bind fun s => ?_
    split
    · exact keeps_pure _
    · exact ensures_fault _ _ _ _ _ _

theorem keeps_checkAnchor (anchor : Option String) (start : Mark) : Keeps (checkAnchor anchor start) := by
  unfold checkAnchor
  split
  · exact keeps_pure _
  · refine keeps_get.bind fun s => ?_
    split
    · exact keeps_get.bind fun _ => ensures_fault _ _ _ _ _ _
    · exact keeps_pure _

theorem keeps_setAnchor (anchor : Option String) (id : NodeId) : Keeps (setAnchor anchor id) := by
  unfold setAnchor
  split
  · exact keeps_modify fun s => ⟨rfl, List.Subset.refl _⟩
  · exact keeps_pure _

theorem keeps_resolveAlias (name : String) (m : Mark) : Keeps (resolveAlias name m) := by
  refine keeps_get.bind fun s => ?_
  split
  · exact keeps_pure _
  · exact ensures_fault _ _ _ _ _ _

/-! ### Collections -/

section Collections
variable {node : Parse NodeId}

theorem keeps_parseCollection {content : Parse Content} (h : Keeps content) (anchor : Option String)
    (empty : Node) : Keeps (parseCollection anchor empty content) := by
  refine (keeps_checkAnchor _ _).bind fun _ => (keeps_addNode _).bind fun _ => (keeps_setAnchor _ _).bind fun _ =>
    h.bind fun _ => (keeps_modify ?_).bind fun _ => keeps_pure _
  exact fun s => ⟨rfl, List.Subset.refl _⟩

theorem keeps_parsePart (h : Keeps node) (followers : List Lexeme) (t : Token) :
    Keeps (parsePart node followers t) :=
  (keeps_sees _).bind fun _ => (keeps_emptyNode _).ite h

theorem keeps_parseValue (h : Keeps node) (followers : List Lexeme) : Keeps (parseValue node followers) :=
  (keeps_sees _).bind fun _ => (keeps_advance.bind fun t => keeps_parsePart h followers t).ite
    (keeps_peek.bind fun _ => keeps_emptyNode _)

theorem keeps_parseBlockItems (h : Keeps node) (start : Option Mark) (fuel : Nat) :
    Keeps (parseBlockItems node start fuel) := by
  induction fuel with
  | zero => exact keeps_pure _
  | succ fuel ih =>
    refine (keeps_sees _).bind fun _ => Ensures.ite ?_ ?_
    · exact keeps_advance.bind fun _ => (keeps_sees _).bind fun _ =>
        ((keeps_emptyNode _).bind fun _ => ih.bind fun _ => keeps_pure _).ite
          (h.bind fun _ => ih.bind fun _ => keeps_pure _)
    · split
      · exact keeps_pure _
      · exact (keeps_accept _).bind fun _ => (keeps_pure _).ite (ensures_unexpected _ _ _ _ _)

theorem keeps_parseBlockEntries (h : Keeps node) (start : Mark) (fuel : Nat) :
    Keeps (parseBlockEntries node start fuel) := by
  induction fuel with
  | zero => exact keeps_pure _
  | succ fuel ih =>
    refine (keeps_sees _).bind fun _ => Ensures.ite ?_ ?_
    · exact keeps_advance.bind fun _ => (keeps_parsePart h _ _).bind fun _ => (keeps_parseValue h _).bind fun _ =>
        ih.bind fun _ => keeps_pure _
    · exact (keeps_accept _).bind fun _ => (keeps_pure _).ite (ensures_unexpected _ _ _ _ _)

theorem keeps_parseSeparator (first : Bool) (context : String) (start : Mark) (expected : String) :
    Keeps (parseSeparator first context start expected) := by
  unfold parseSeparator
  exact Ensures.ite (keeps_pure _) ((keeps_accept _).bind fun _ =>
    (keeps_pure _).ite (ensures_unexpected _ _ _ _ _))

theorem keeps_parseFlowItems (h : Keeps node) (start : Mark) (fuel : Nat) (first : Bool) :
    Keeps (parseFlowItems node start fuel first) := by
  induction fuel generalizing first with
  | zero => exact keeps_pure _
  | succ fuel ih =>
    have hmore : ∀ n, Keeps (do return n :: (← parseFlowItems node start fuel false)) :=
      fun _ => (ih false).bind fun _ => keeps_pure _
    refine (keeps_accept _).bind fun _ => (keeps_pure _).ite ?_
    refine (keeps_parseSeparator _ _ _ _).bind fun _ => (keeps_sees _).bind fun _ => Ensures.ite ?_ ?_
    · exact keeps_advance.bind fun _ => (keeps_parsePart h _ _).bind fun _ => (keeps_parseValue h _).bind fun _ =>
        (keeps_addNode _).bind hmore
    · exact (keeps_accept _).bind fun _ => (keeps_pure _).ite (h.bind hmore)

theorem keeps_parseFlowEntries (h : Keeps node) (start : Mark) (fuel : Nat) (first : Bool) :
    Keeps (parseFlowEntries node start fuel first) := by
  induction fuel generalizing first with
  | zero => exact keeps_pure _
  | succ fuel ih =>
    have hmore : ∀ key value, Keeps (do return (key, value) :: (← parseFlowEntries node start fuel false)) :=
      fun _ _ => (ih false).bind fun _ => keeps_pure _
    refine (keeps_accept _).bind fun _ => (keeps_pure _).ite ?_
    refine (keeps_parseSeparator _ _ _ _).bind fun _ => (keeps_sees _).bind fun _ => Ensures.ite ?_ ?_
    · exact keeps_advance.bind fun _ => (keeps_parsePart h _ _).bind fun _ => (keeps_parseValue h _).bind fun _ =>
        hmore _ _
    · exact (keeps_accept _).bind fun _ => (keeps_pure _).ite (h.bind fun _ => keeps_peek.bind fun _ =>
        (keeps_emptyNode _).bind fun _ => hmore _ _)

end Collections

/-! ### Nodes -/

theorem keeps_tokensLeft : Keeps tokensLeft := keeps_get.bind fun _ => keeps_pure _

theorem keeps_parseContent {below : Position → Parse NodeId} (h : ∀ position, Keeps (below position))
    (position : Position) (p : Properties) (tag : Option String) : Keeps (parseContent below position p tag) := by
  have hsequence : ∀ {items : Parse (List NodeId)}, Keeps items → ∀ empty : Node,
      Keeps (parseCollection p.anchor empty (.sequence <$> items)) :=
    fun hitems empty => keeps_parseCollection (hitems.map _) _ empty
  have hmapping : ∀ {entries : Parse (List (NodeId × NodeId))}, Keeps entries → ∀ empty : Node,
      Keeps (parseCollection p.anchor empty (.mapping <$> entries)) :=
    fun hentries empty => keeps_parseCollection (hentries.map _) _ empty
  refine keeps_peek.bind fun t => keeps_tokensLeft.bind fun fuel => ?_
  dsimp only
  split
  · exact keeps_advance.bind fun _ => (keeps_checkAnchor _ _).bind fun _ => (keeps_addNode _).bind fun _ =>
      (keeps_setAnchor _ _).bind fun _ => keeps_pure _
  · exact keeps_advance.bind fun _ => hsequence (keeps_parseFlowItems (h _) _ _ _) _
  · exact keeps_advance.bind fun _ => hmapping (keeps_parseFlowEntries (h _) _ _ _) _
  · refine Ensures.ite (hsequence (keeps_parseBlockItems (h _) _ _) _) (Ensures.ite ?_ (Ensures.ite ?_
      (Ensures.ite ?_ ?_)))
    · exact keeps_advance.bind fun _ => hsequence (keeps_parseBlockItems (h _) _ _) _
    · exact keeps_advance.bind fun _ => hmapping (keeps_parseBlockEntries (h _) _ _) _
    · exact (keeps_checkAnchor _ _).bind fun _ => (keeps_addNode _).bind fun _ =>
        (keeps_setAnchor _ _).bind fun _ => keeps_pure _
    · exact ensures_unexpected _ _ _ _ _

theorem keeps_parseNode (levels : Nat) (position : Position) : Keeps (parseNode levels position) := by
  induction levels generalizing position with
  | zero => exact keeps_peek.bind fun _ => ensures_fault _ _ _ _ _ _
  | succ levels ih =>
    refine keeps_peek.bind fun t => ?_
    split
    · exact keeps_advance.bind fun _ => keeps_resolveAlias _ _
    · exact keeps_parseProperties.bind fun _ => (keeps_fullTag _).bind fun _ => keeps_parseContent ih _ _ _

/-! ### Documents -/

theorem keeps_parseDirectives (fuel : Nat) (versioned : Bool) (handles : List (String × String)) :
    Keeps (parseDirectives fuel versioned handles) := by
  induction fuel generalizing versioned handles with
  | zero => exact keeps_pure _
  | succ fuel ih =>
    refine keeps_peek.bind fun t => ?_
    split
    · refine keeps_advance.bind fun _ => ?_
      split
      · refine Ensures.ite ((ensures_fault (fun _ => True) _ _ _ _ _).bind fun _ _ => ?_) ?_
        all_goals exact Ensures.ite ((ensures_fault (fun _ => True) _ _ _ _ _).bind fun _ _ => ih _ _) (ih _ _)
      · exact Ensures.ite ((ensures_fault (fun _ => True) _ _ _ _ _).bind fun _ _ => ih _ _) (ih _ _)
      · exact ih _ _
    · exact keeps_pure _

theorem keeps_skipDocumentEnds (fuel : Nat) : Keeps (skipDocumentEnds fuel) := by
  induction fuel with
  | zero => exact keeps_pure _
  | succ fuel ih => exact (keeps_accept _).bind fun _ => ih.ite (keeps_pure _)

/-- The end of the text is not seen, so another document would have to begin. -/
theorem ensures_parseDocumentStart : Ensures (· ≠ none) parseDocumentStart := by
  refine keeps_tokensLeft.bind fun _ => (keeps_skipDocumentEnds _).bind fun _ => ensures_peek.bind fun t ht => ?_
  rw [if_neg (by simpa using ht)]
  refine keeps_tokensLeft.bind fun _ => (keeps_parseDirectives _ _ _).bind fun _ =>
    (keeps_modify ?_).bind fun _ => ?_
  · exact fun s => ⟨rfl, List.Subset.refl _⟩
  · exact (keeps_accept _).bind fun _ => Ensures.ite (ensures_pure (Option.some_ne_none _))
      (keeps_peek.bind fun _ => ensures_fault _ _ _ _ _ _)

/-- So no document is complete. -/
theorem ensures_parseDocument : Ensures (fun _ => False) parseDocument := by
  refine keeps_get.bind fun _ => keeps_peek.bind fun t => ?_
  extract_lets _ read begun
  have hread : ∀ id, Ensures (fun _ => False) (read id) := by
    intro id
    refine (keeps_accept _).bind fun _ => ensures_parseDocumentStart.bind fun start hstart => ?_
    cases start with
    | none => exact absurd rfl hstart
    | some another => exact keeps_get.bind fun _ => ensures_fault _ _ _ _ _ _
  have hbegun : ∀ start, start ≠ none → Ensures (fun _ => False) (begun start) := by
    intro start hstart
    cases start with
    | none => exact absurd rfl hstart
    | some start =>
      refine keeps_peek.bind fun t => ?_
      exact Ensures.ite ((keeps_emptyNode _).bind hread) ((keeps_parseNode _ _).bind hread)
  have hstart : Ensures (· ≠ none) (pure (some t.start) : Parse (Option Mark)) :=
    ensures_pure (Option.some_ne_none t.start)
  exact Ensures.ite (ensures_parseDocumentStart.bind hbegun) (hstart.bind hbegun)

/-- Where an error comes before the end of the text, nothing is parsed. -/
theorem parse_unending {ts : List Token} (h : ∀ t ∈ ts, t.lexeme ≠ .streamEnd) (e : Error)
    (r : Option NodeId × Nodes) : parse ⟨ts, some e⟩ ≠ .ok r := by
  intro hr
  change (parseDocument { tokens := ts, error := some e, handles := defaultHandles } >>= fun r =>
    Except.ok (r.1, r.2.nodes)) = _ at hr
  cases hparse : parseDocument { tokens := ts, error := some e, handles := defaultHandles } with
  | error e' =>
    rw [hparse] at hr
    cases hr
  | ok r' => exact (ensures_parseDocument _ r'.1 r'.2 ⟨Option.some_ne_none e, h⟩ hparse).1

end LintConfig.Yaml.Parser
