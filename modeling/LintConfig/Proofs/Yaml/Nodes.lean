import LintConfig.Proofs.Yaml.Blocks

/-! # From tokens to nodes

The tokens of a value become nodes that stand for it: each node is added behind those there are, and a
collection in front of its members. -/
namespace LintConfig.Yaml
open Construction (types)

/-! ### What a node stands for -/

/-- A scalar is read as a value in the type of its tag; numbers with a point are left aside. -/
def IsScalar (n : Node) (v : Value) : Prop :=
  ∃ content type, n.content = .scalar content ∧ types.lookup n.tag = some (.scalar type) ∧
    type ≠ .float ∧ ∀ start, type.read start content = .ok v

theorem IsScalar.unique {n : Node} {v w : Value} (h : IsScalar n v) (h' : IsScalar n w) : v = w := by
  obtain ⟨content, type, hcontent, htype, -, hread⟩ := h
  obtain ⟨content', type', hcontent', htype', -, hread'⟩ := h'
  rw [hcontent'] at hcontent
  rw [htype'] at htype
  cases hcontent
  cases htype
  have hsame := hread' n.start
  rw [hread] at hsame
  cases hsame
  rfl

theorem IsScalar.not_collection {n : Node} {v : Value} (h : IsScalar n v)
    (type : Construction.CollectionType) : types.lookup n.tag ≠ some (.collection type) := by
  obtain ⟨content, type', -, htype, -⟩ := h
  rw [htype]
  nofun

/-- A node stands for a value. It and the nodes below it have numbers from a bound on. -/
inductive Denotes (ns : Nodes) (bound : Nat) : NodeId → Value → Prop
  | leaf {id : NodeId} {v : Value} (hid : bound ≤ id ∧ id < ns.size) (h : IsScalar (ns.node id) v) :
    Denotes ns bound id v
  | list {id : NodeId} {ids : List NodeId} {items : List Value} (hid : bound ≤ id ∧ id < ns.size)
    (hcontent : (ns.node id).content = .sequence ids) (htag : (ns.node id).tag = Tag.seq)
    (hlength : ids.length = items.length) (hitems : ∀ p ∈ ids.zip items, Denotes ns bound p.1 p.2) :
    Denotes ns bound id (.list items)
  | map {id : NodeId} {es : List (NodeId × NodeId)} {entries : Entries Value}
    (hid : bound ≤ id ∧ id < ns.size) (hcontent : (ns.node id).content = .mapping es)
    (htag : (ns.node id).tag = Tag.map) (hnames : (Entries.names entries).Nodup)
    (hlength : es.length = entries.length)
    (hkeys : ∀ p ∈ es.zip entries, Denotes ns bound p.1.1 (.text p.2.1))
    (hvalues : ∀ p ∈ es.zip entries, Denotes ns bound p.1.2 p.2.2) :
    Denotes ns bound id (Fragment.entriesValue entries)

/-- Nodes that a value does not hang on can change, and others can be added. -/
theorem Denotes.mono {ns ns' : Nodes} {bound bound' : Nat} {id : NodeId} {v : Value}
    (h : Denotes ns bound id v) (hsame : ∀ i, bound ≤ i → i < ns.size → ns'.node i = ns.node i)
    (hsize : ns.size ≤ ns'.size) (hbound : bound' ≤ bound) : Denotes ns' bound' id v := by
  induction h with
  | leaf hid h =>
    rw [← hsame _ hid.1 hid.2] at h
    exact .leaf ⟨hbound.trans hid.1, hid.2.trans_le hsize⟩ h
  | list hid hcontent htag hlength hitems ih =>
    rw [← hsame _ hid.1 hid.2] at hcontent htag
    exact .list ⟨hbound.trans hid.1, hid.2.trans_le hsize⟩ hcontent htag hlength ih
  | map hid hcontent htag hnames hlength hkeys hvalues ihkeys ihvalues =>
    rw [← hsame _ hid.1 hid.2] at hcontent htag
    exact .map ⟨hbound.trans hid.1, hid.2.trans_le hsize⟩ hcontent htag hnames hlength ihkeys ihvalues

theorem Denotes.lt_size {ns : Nodes} {bound : Nat} {id : NodeId} {v : Value} (h : Denotes ns bound id v) :
    id < ns.size := by
  cases h with
  | leaf hid => exact hid.2
  | list hid => exact hid.2
  | map hid => exact hid.2

theorem Denotes.weaken {ns : Nodes} {bound bound' : Nat} {id : NodeId} {v : Value}
    (h : Denotes ns bound id v) (hbound : bound' ≤ bound) : Denotes ns bound' id v :=
  h.mono (fun _ _ _ => rfl) (Nat.le_refl _) hbound

theorem node_append {ns new : Nodes} {i : NodeId} (h : i < ns.size) : (ns ++ new).node i = ns.node i := by
  simp [Nodes.node, Array.getElem?_append_left h]

theorem Denotes.append {ns : Nodes} {bound : Nat} {id : NodeId} {v : Value} (h : Denotes ns bound id v)
    (new : Nodes) : Denotes (ns ++ new) bound id v :=
  h.mono (fun _ _ hi => node_append hi) (by simp) (Nat.le_refl bound)

theorem setContent_push (ns new : Nodes) (n : Node) (c : Content) :
    Nodes.setContent (ns.push n ++ new) ns.size c = ns.push { n with content := c } ++ new := by
  refine Array.ext_getElem? fun i => ?_
  rw [Nodes.setContent, Array.getElem?_modify]
  grind

theorem node_collection (ns new : Nodes) (n : Node) : Nodes.node (ns.push n ++ new) ns.size = n := by
  simp [Nodes.node, Array.getElem?_append_left]

theorem size_collection (ns new : Nodes) (n : Node) : ns.size < Array.size (ns.push n ++ new) := by
  simp
  omega

/-- The content of a collection does not matter to the nodes behind it. -/
theorem Denotes.setContent {ns new : Nodes} {n : Node} {id : NodeId} {v : Value} (c : Content)
    (h : Denotes (ns.push n ++ new) (ns.size + 1) id v) :
    Denotes (ns.push { n with content := c } ++ new) ns.size id v := by
  refine h.mono (fun i hi _ => ?_) (by simp) (Nat.le_succ _)
  have hpush : ∀ m : Node, (ns.push m ++ new)[i]? = new[i - (ns.size + 1)]? := by
    intro m
    rw [Array.getElem?_append_right (by simpa using hi), Array.size_push]
  rw [Nodes.node, Nodes.node, Array.getD_eq_getD_getElem?, Array.getD_eq_getD_getElem?, hpush, hpush]

namespace Parser

section Tokens
variable {s : State} {t : Token} {more : List Token}

theorem peek_eq (h : s.tokens = t :: more) : peek s = .ok (t, s) := by
  rw [peek, h]

theorem advance_eq (h : s.tokens = t :: more) : advance s = .ok (t, { s with tokens := more }) := by
  rw [advance, bind_of_ok (peek_eq h)]
  have hdrop : s.tokens.drop 1 = more := by rw [h]; rfl
  rw [← hdrop]
  rfl

theorem sees_eq (h : s.tokens = t :: more) (lexemes : List Lexeme) :
    sees lexemes s = .ok (lexemes.contains t.lexeme, s) := by
  rw [sees, bind_of_ok (peek_eq h)]
  rfl

theorem accept_eq (h : s.tokens = t :: more) (lexeme : Lexeme) : accept lexeme s =
    .ok (if t.lexeme = lexeme then (true, { s with tokens := more }) else (false, s)) := by
  have hsees := sees_eq h [lexeme]
  rw [accept, bind_of_ok hsees]
  by_cases ht : t.lexeme = lexeme
  · rw [if_pos ht, if_pos (by simp [ht]), bind_of_ok (advance_eq h)]
    rfl
  · rw [if_neg ht, if_neg (by simp [ht])]
    rfl

/-- A token that a node can have in front of its content. -/
def isProperty : Lexeme → Bool
  | .repetition _ | .anchor _ | .tag _ => true
  | _ => false

theorem parseProperties_eq (h : s.tokens = t :: more) (ht : isProperty t.lexeme = false) :
    parseProperties s = .ok ({}, s) := by
  have hanchor : parseAnchor? {} s = .ok ({}, s) := by
    rw [parseAnchor?, bind_of_ok (peek_eq h)]
    generalize t.lexeme = lexeme at ht
    cases lexeme <;> first | rfl | cases ht
  have htag : parseTag? {} s = .ok ({}, s) := by
    rw [parseTag?, bind_of_ok (peek_eq h)]
    generalize t.lexeme = lexeme at ht
    cases lexeme <;> first | rfl | cases ht
  rw [parseProperties, bind_of_ok hanchor, bind_of_ok htag]
  rfl

/-- Where no anchor and no tag stands, a node is its content. -/
theorem parseNode_eq (h : s.tokens = t :: more) (ht : isProperty t.lexeme = false) (levels : Nat)
    (position : Position) :
    parseNode (levels + 1) position s = parseContent (parseNode levels) position {} none s := by
  have hcontent := bind_of_ok (g := fun p => fullTag p >>= parseContent (parseNode levels) position p)
    (parseProperties_eq h ht)
  rw [parseNode, bind_of_ok (peek_eq h)]
  generalize t.lexeme = lexeme at ht
  cases lexeme <;> first | exact hcontent | cases ht

theorem tokensLeft_eq (s : State) : tokensLeft s = .ok (s.tokens.length + 1, s) := rfl

/-! ### Content -/

variable {below : Position → Parse NodeId} {position : Position}

theorem parseContent_scalar {content : Text.Spelled} {style : ScalarStyle} (h : s.tokens = t :: more)
    (ht : t.lexeme = .scalar content style) :
    parseContent below position {} none s = .ok (s.nodes.size, { s with
      tokens := more
      nodes := s.nodes.push ⟨scalarTag none content style, .scalar content, t.start⟩ }) := by
  rw [parseContent, bind_of_ok (peek_eq h), bind_of_ok (tokensLeft_eq s), ht]
  exact (bind_of_ok (advance_eq h)).trans rfl

theorem parseCollection_eq {empty : Node} {content : Parse Content} {c : Content} {s' : State}
    (h : content { s with nodes := s.nodes.push empty } = .ok (c, s')) :
    parseCollection none empty content s =
      .ok (s.nodes.size, { s' with nodes := s'.nodes.setContent s.nodes.size c }) := by
  have hcheck : checkAnchor none empty.start s = .ok ((), s) := rfl
  have hadd : addNode empty s = .ok (s.nodes.size, { s with nodes := s.nodes.push empty }) := rfl
  have hset : setAnchor none s.nodes.size { s with nodes := s.nodes.push empty } =
      .ok ((), { s with nodes := s.nodes.push empty }) := rfl
  rw [parseCollection, bind_of_ok hcheck, bind_of_ok hadd, bind_of_ok hset, bind_of_ok h]
  rfl

theorem parseContent_list (h : s.tokens = t :: more) (ht : t.lexeme = .blockEntry)
    (hposition : position.indentless = true) {ids : List NodeId} {s' : State}
    (hitems : parseBlockItems (below { inBlock := true }) none (s.tokens.length + 1)
      { s with nodes := s.nodes.push ⟨Tag.seq, .sequence [], t.start⟩ } = .ok (ids, s')) :
    parseContent below position {} none s =
      .ok (s.nodes.size, { s' with nodes := s'.nodes.setContent s.nodes.size (.sequence ids) }) := by
  rw [parseContent, bind_of_ok (peek_eq h), bind_of_ok (tokensLeft_eq s), ht, hposition]
  exact parseCollection_eq (map_of_ok hitems Content.sequence)

theorem parseContent_map (h : s.tokens = t :: more) (ht : t.lexeme = .blockMappingStart)
    (hposition : position.inBlock = true) {es : List (NodeId × NodeId)} {s' : State}
    (hentries : parseBlockEntries (below { inBlock := true, indentless := true }) t.start (s.tokens.length + 1)
      { s with tokens := more, nodes := s.nodes.push ⟨Tag.map, .mapping [], t.start⟩ } = .ok (es, s')) :
    parseContent below position {} none s =
      .ok (s.nodes.size, { s' with nodes := s'.nodes.setContent s.nodes.size (.mapping es) }) := by
  rw [parseContent, bind_of_ok (peek_eq h), bind_of_ok (tokensLeft_eq s), ht, hposition]
  have hcollection := parseCollection_eq (s := { s with tokens := more })
    (map_of_ok hentries Content.mapping)
  have hno : ¬ (position.indentless && Lexeme.blockMappingStart == .blockEntry) = true := by
    rw [Bool.and_eq_true]
    exact fun hand => absurd hand.2 (by decide)
  dsimp only
  rw [if_neg hno, if_neg (by decide), if_pos (by decide), bind_of_ok (advance_eq h)]
  exact hcollection

end Tokens

/-! ### Leaves -/

/-- The node of a leaf. -/
def leafNode (v : Value) (start : Mark) : Node :=
  ⟨leafTag v, .scalar (.text (String.ofList (Writer.content v))), start⟩

section Leaves
variable {s : State} {t : Token} {more : List Token} {v : Value}

theorem parseNode_leaf (h : s.tokens = t :: more) (ht : t.lexeme = leafLexeme v) (levels : Nat)
    (position : Position) : parseNode (levels + 1) position s =
      .ok (s.nodes.size, { s with tokens := more, nodes := s.nodes.push (leafNode v t.start) }) := by
  rw [parseNode_eq h (by rw [ht]; rfl)]
  exact parseContent_scalar h ht

theorem denotes_leaf (hleaf : Leaf v) (ns : Nodes) (start : Mark) (new : Nodes) :
    Denotes (ns.push (leafNode v start) ++ new) ns.size ns.size v := by
  obtain ⟨type, htype, hfloat, hread⟩ := read_leaf hleaf
  have hnode : Nodes.node (ns.push (leafNode v start)) ns.size = leafNode v start := by
    simp [Nodes.node]
  refine Denotes.append (.leaf ⟨Nat.le_refl _, by simp⟩ ?_) new
  rw [hnode]
  exact ⟨_, type, rfl, htype, hfloat, hread⟩

end Leaves

/-! ### Lists -/

theorem push_append (ns : Nodes) (n : Node) (new : Nodes) : ns.push n ++ new = ns ++ (#[n] ++ new) := by
  rw [← Array.append_assoc]
  rfl

section Collections
variable {s : State} {ts more : List Token} {t : Token} {levels : Nat} {v : Value}

/-- The items of a list, up to a token that does not begin another one. -/
theorem parseBlockItems_eq {items : List Value} (hleaf : ∀ v ∈ items, Leaf v)
    (h : s.tokens = ts ++ t :: more)
    (hts : ts.map Token.lexeme = items.flatMap fun v => [.blockEntry, leafLexeme v])
    (ht : t.lexeme ≠ .blockEntry) {fuel : Nat} (hfuel : items.length < fuel) (levels : Nat)
    (position : Position) :
    ∃ ids new, parseBlockItems (parseNode (levels + 1) position) none fuel s =
        .ok (ids, { s with tokens := t :: more, nodes := s.nodes ++ new }) ∧
      ids.length = items.length ∧
      ∀ p ∈ ids.zip items, Denotes (s.nodes ++ new) s.nodes.size p.1 p.2 := by
  induction items generalizing s ts fuel with
  | nil =>
    obtain rfl := List.map_eq_nil_iff.mp hts
    obtain ⟨fuel, rfl⟩ : ∃ n, fuel = n + 1 := ⟨fuel - 1, by omega⟩
    refine ⟨[], #[], ?_, rfl, nofun⟩
    rw [List.nil_append] at h
    rw [parseBlockItems, bind_of_ok (sees_eq h _), if_neg (by simpa using ht), ← h, Array.append_empty]
    rfl
  | cons v items ih =>
    rw [List.flatMap_cons] at hts
    obtain ⟨dash, ts, rfl, hdash, hts⟩ := List.map_eq_cons_iff.mp hts
    obtain ⟨scalar, ts, rfl, hscalar, hts⟩ := List.map_eq_cons_iff.mp hts
    obtain ⟨fuel, rfl⟩ : ∃ n, fuel = n + 1 := ⟨fuel - 1, by omega⟩
    rw [List.cons_append, List.cons_append] at h
    obtain ⟨ids, new, hmore, hlength, hids⟩ := ih (fun x hx => hleaf x (List.mem_cons_of_mem _ hx))
      (s := { s with tokens := ts ++ t :: more, nodes := s.nodes.push (leafNode v scalar.start) }) rfl hts
      (by simpa using hfuel)
    refine ⟨s.nodes.size :: ids, #[leafNode v scalar.start] ++ new, ?_, congrArg (· + 1) hlength, ?_⟩
    · have hnode := parseNode_leaf (s := { s with tokens := scalar :: (ts ++ t :: more) }) rfl hscalar levels
        position
      rw [parseBlockItems, bind_of_ok (sees_eq h _), hdash, if_pos (by decide), bind_of_ok (advance_eq h)]
      dsimp only
      rw [bind_of_ok (sees_eq rfl _), hscalar,
        if_neg (by simp [leafLexeme, Lexer.scalarLexeme]), bind_of_ok hnode, bind_of_ok hmore]
      rw [← push_append]
      rfl
    · rw [← push_append, List.zip_cons_cons, List.forall_mem_cons]
      have hbelow : s.nodes.size ≤ (s.nodes.push (leafNode v scalar.start)).size := by simp
      exact ⟨denotes_leaf (hleaf v List.mem_cons_self) _ _ _,
        fun p hp => (hids p hp).weaken hbelow⟩

/-! ### Maps -/

/-- A part that is not left out is a node. -/
theorem parsePart_eq {node : Parse NodeId} {followers : List Lexeme} (h : s.tokens = t :: more)
    (hno : followers.contains t.lexeme = false) (u : Token) : parsePart node followers u s = node s := by
  rw [parsePart, bind_of_ok (sees_eq h _), hno]
  rfl

theorem parseValue_eq {node : Parse NodeId} {followers : List Lexeme} {u : Token}
    (h : s.tokens = u :: t :: more) (hu : u.lexeme = .value) (hno : followers.contains t.lexeme = false) :
    parseValue node followers s = node { s with tokens := t :: more } := by
  rw [parseValue, bind_of_ok (sees_eq h _), hu, if_pos (by decide), bind_of_ok (advance_eq h)]
  exact parsePart_eq rfl hno u

/-- The tokens of a value behind its key become nodes, up to a token that is no item of a list. -/
def IsParsed (v : Value) : Prop :=
  ∀ (levels : Nat) {s : State} {ts : List Token} {t : Token} {more : List Token},
    (lexemes v).length ≤ levels → s.tokens = ts ++ t :: more → ts.map Token.lexeme = lexemes v →
    t.lexeme ≠ .blockEntry → ∃ new,
      parseNode levels { inBlock := true, indentless := true } s =
        .ok (s.nodes.size, { s with tokens := t :: more, nodes := s.nodes ++ new }) ∧
      Denotes (s.nodes ++ new) s.nodes.size s.nodes.size v

/-- A value has no anchor and no tag, and is not left out. -/
theorem lexemes_first {depth : Nat} (h : Tidy depth v) :
    ∃ x rest, lexemes v = x :: rest ∧ isProperty x = false ∧
      [Lexeme.key, .value, .blockEnd].contains x = false := by
  cases h with
  | leaf h => cases h <;> exact ⟨_, [], rfl, rfl, by simp [leafLexeme, Lexer.scalarLexeme]⟩
  | list h hne =>
    obtain ⟨v, items, rfl⟩ := List.exists_cons_of_ne_nil hne
    exact ⟨.blockEntry, _, rfl, rfl, by decide⟩
  | map => exact ⟨.blockMappingStart, _, rfl, rfl, by decide⟩

theorem parseBlockEntries_eq {entries : Entries Value} {depth : Nat}
    (htidy : ∀ e ∈ entries, Tidy depth e.2) (hparsed : ∀ e ∈ entries, IsParsed e.2)
    (h : s.tokens = ts ++ t :: more)
    (hts : ts.map Token.lexeme = entryLexemes (entries.map fun e => (.text e.1, e.2)))
    (hlevels : ts.length ≤ levels) (ht : t.lexeme = .blockEnd) {fuel : Nat} (hfuel : entries.length < fuel)
    (start : Mark) : ∃ es new,
      parseBlockEntries (parseNode levels { inBlock := true, indentless := true }) start fuel s =
        .ok (es, { s with tokens := more, nodes := s.nodes ++ new }) ∧
      es.length = entries.length ∧
      (∀ p ∈ es.zip entries, Denotes (s.nodes ++ new) s.nodes.size p.1.1 (.text p.2.1)) ∧
      ∀ p ∈ es.zip entries, Denotes (s.nodes ++ new) s.nodes.size p.1.2 p.2.2 := by
  induction entries generalizing s ts fuel with
  | nil =>
    obtain rfl := List.map_eq_nil_iff.mp hts
    obtain ⟨fuel, rfl⟩ : ∃ n, fuel = n + 1 := ⟨fuel - 1, by omega⟩
    refine ⟨[], #[], ?_, rfl, nofun, nofun⟩
    have haccept := accept_eq h .blockEnd
    rw [if_pos ht] at haccept
    rw [parseBlockEntries, bind_of_ok (sees_eq h _), ht, if_neg (by decide), bind_of_ok haccept,
      Array.append_empty]
    rfl
  | cons e entries ih =>
    obtain ⟨name, v⟩ := e
    rw [List.map_cons, entryLexemes] at hts
    obtain ⟨key, ts, rfl, hkey, hts⟩ := List.map_eq_cons_iff.mp hts
    obtain ⟨scalar, ts, rfl, hscalar, hts⟩ := List.map_eq_cons_iff.mp hts
    obtain ⟨value, ts, rfl, hvalue, hts⟩ := List.map_eq_cons_iff.mp hts
    obtain ⟨below, ts, rfl, hbelow, hts⟩ := List.map_eq_append_iff.mp hts
    obtain ⟨fuel, rfl⟩ : ∃ n, fuel = n + 1 := ⟨fuel - 1, by omega⟩
    simp only [List.length_cons, List.length_append] at hlevels hfuel
    obtain ⟨levels, rfl⟩ : ∃ n, levels = n + 1 := ⟨levels - 1, by omega⟩
    -- What follows the value is another entry, or the end of the map.
    obtain ⟨u, us, hu, hnext⟩ : ∃ u us, u.lexeme ≠ .blockEntry ∧ ts ++ t :: more = u :: us := by
      cases ts with
      | nil => exact ⟨t, more, by rw [ht]; decide, rfl⟩
      | cons u ts =>
        refine ⟨u, _, ?_, rfl⟩
        cases entries with
        | nil => cases hts
        | cons e entries =>
          have hlexeme : u.lexeme = .key := (List.cons.inj hts).1
          rw [hlexeme]
          decide
    simp only [List.cons_append, List.append_assoc, hnext] at h
    have hname := parseNode_leaf (s := { s with tokens := scalar :: value :: (below ++ u :: us) }) rfl hscalar levels
      { inBlock := true, indentless := true }
    obtain ⟨new, hnode, hdenotes⟩ := hparsed _ List.mem_cons_self (levels + 1)
      (s := { s with tokens := below ++ u :: us, nodes := s.nodes.push (leafNode (.text name) scalar.start) })
      (by rw [← hbelow, List.length_map]; omega) rfl hbelow hu
    obtain ⟨es, new', hmore, hlength, hkeys, hvalues⟩ := ih (fun x hx => htidy x (List.mem_cons_of_mem _ hx))
      (fun x hx => hparsed x (List.mem_cons_of_mem _ hx))
      (s := { s with tokens := u :: us, nodes := s.nodes.push (leafNode (.text name) scalar.start) ++ new })
      hnext.symm hts (by omega) (show entries.length < fuel by omega)
    obtain ⟨x, rest, hfirst, -, hno⟩ := lexemes_first (htidy _ List.mem_cons_self)
    rw [hfirst] at hbelow
    obtain ⟨w, below, rfl, rfl, -⟩ := List.map_eq_cons_iff.mp hbelow
    have hno' : ([Lexeme.key, .value, .blockEnd].contains scalar.lexeme) = false := by
      rw [hscalar]
      simp [leafLexeme, Lexer.scalarLexeme]
    refine ⟨(s.nodes.size, (s.nodes.push (leafNode (.text name) scalar.start)).size) :: es,
      #[leafNode (.text name) scalar.start] ++ (new ++ new'), ?_, congrArg (· + 1) hlength, ?_⟩
    · rw [parseBlockEntries, bind_of_ok (sees_eq h _), hkey, if_pos (by decide), bind_of_ok (advance_eq h)]
      have hpart := (parsePart_eq (s := { s with tokens := scalar :: value :: (w :: below ++ u :: us) }) rfl hno' key).trans hname
      have hvalue' := (parseValue_eq (s := { s with tokens := value :: (w :: below ++ u :: us), nodes := s.nodes.push (leafNode (.text name) scalar.start) }) rfl hvalue hno).trans hnode
      rw [bind_of_ok hpart, bind_of_ok hvalue', bind_of_ok hmore]
      rw [← push_append, Array.append_assoc]
      rfl
    · rw [← push_append, ← Array.append_assoc, List.zip_cons_cons, List.forall_mem_cons, List.forall_mem_cons]
      have hbelow : s.nodes.size ≤ (s.nodes.push (leafNode (.text name) scalar.start) ++ new).size := by
        simp
        omega
      have hleaf := denotes_leaf (.text name) s.nodes scalar.start new
      exact ⟨⟨hleaf.append new', fun p hp => (hkeys p hp).weaken hbelow⟩,
        (hdenotes.append new').weaken (by simp), fun p hp => (hvalues p hp).weaken hbelow⟩

/-! ### Values -/

theorem isParsed_leaf (h : Leaf v) : IsParsed v := by
  intro levels s ts t more hlevels hs hts ht
  have hlexemes : lexemes v = [leafLexeme v] := by cases h <;> rfl
  rw [hlexemes] at hlevels hts
  obtain ⟨scalar, ts, rfl, hscalar, hnil⟩ := List.map_eq_cons_iff.mp hts
  obtain rfl := List.map_eq_nil_iff.mp hnil
  obtain ⟨levels, rfl⟩ : ∃ n, levels = n + 1 := ⟨levels - 1, by simp at hlevels; omega⟩
  refine ⟨#[leafNode v scalar.start], parseNode_leaf hs hscalar _ _, ?_⟩
  have hdenotes := denotes_leaf h s.nodes scalar.start #[]
  rwa [push_append] at hdenotes

theorem isParsed_list {items : List Value} (hleaf : ∀ v ∈ items, Leaf v) (hne : items ≠ []) :
    IsParsed (.list items) := by
  intro levels s ts t more hlevels hs hts ht
  rw [lexemes] at hlevels hts
  obtain ⟨dash, ts', hdash, hrest⟩ : ∃ dash ts', dash.lexeme = .blockEntry ∧ ts = dash :: ts' := by
    obtain ⟨v, items, rfl⟩ := List.exists_cons_of_ne_nil hne
    obtain ⟨dash, ts', rfl, hdash, -⟩ := List.map_eq_cons_iff.mp hts
    exact ⟨dash, ts', hdash, rfl⟩
  have hlength : items.length + items.length = ts.length := by
    rw [← List.length_map (f := Token.lexeme), hts]
    simp [List.length_flatMap]
    omega
  have hpos := List.length_pos_iff.mpr hne
  rw [← hts, List.length_map] at hlevels
  obtain ⟨levels, rfl⟩ : ∃ n, levels = n + 2 := ⟨levels - 2, by omega⟩
  obtain ⟨ids, new, hitems, hids, hdenotes⟩ := parseBlockItems_eq hleaf
    (s := { s with nodes := s.nodes.push ⟨Tag.seq, .sequence [], dash.start⟩ }) hs hts ht
    (show items.length < s.tokens.length + 1 by rw [hs]; simp; omega) levels { inBlock := true }
  dsimp only at hdenotes
  refine ⟨#[⟨Tag.seq, .sequence ids, dash.start⟩] ++ new, ?_, ?_⟩
  · rw [hrest] at hs
    rw [parseNode_eq hs (by rw [hdash]; rfl), parseContent_list hs hdash rfl hitems]
    dsimp only
    rw [setContent_push, ← push_append]
  · rw [← push_append]
    have hnode := node_collection s.nodes new ⟨Tag.seq, .sequence ids, dash.start⟩
    refine .list ⟨Nat.le_refl _, size_collection ..⟩ (by rw [hnode]) (by rw [hnode]) hids fun p hp => ?_
    exact ((hdenotes p hp).weaken (by simp)).setContent (.sequence ids)

theorem length_le_entryLexemes (entries : List (Value × Value)) :
    entries.length ≤ (entryLexemes entries).length := by
  induction entries with
  | nil => exact Nat.le_refl 0
  | cons e entries ih =>
    rw [entryLexemes]
    simp only [List.length_cons, List.length_append]
    omega

theorem parseNode_map {entries : Entries Value} {depth : Nat} (htidy : ∀ e ∈ entries, Tidy depth e.2)
    (hparsed : ∀ e ∈ entries, IsParsed e.2) (hnames : (Entries.names entries).Nodup)
    (h : s.tokens = ts ++ t :: more)
    (hts : ts.map Token.lexeme = lexemes (Fragment.entriesValue entries)) (hlevels : ts.length ≤ levels)
    (position : Position) (hposition : position.inBlock = true) : ∃ new,
      parseNode levels position s =
        .ok (s.nodes.size, { s with tokens := t :: more, nodes := s.nodes ++ new }) ∧
      Denotes (s.nodes ++ new) s.nodes.size s.nodes.size (Fragment.entriesValue entries) := by
  rw [entriesValue_eq, lexemes] at hts
  obtain ⟨start, ts, rfl, hstart, hrest⟩ := List.map_eq_cons_iff.mp hts
  obtain ⟨ts, last, rfl, hinside, hlast⟩ := List.map_eq_append_iff.mp hrest
  obtain ⟨stop, last, rfl, hstop, hnil⟩ := List.map_eq_cons_iff.mp hlast
  obtain rfl := List.map_eq_nil_iff.mp hnil
  simp only [List.cons_append, List.append_assoc, List.nil_append] at h
  simp only [List.length_cons, List.length_append] at hlevels
  obtain ⟨levels, rfl⟩ : ∃ n, levels = n + 1 := ⟨levels - 1, by omega⟩
  have hfuel : entries.length < s.tokens.length + 1 := by
    have hfew := length_le_entryLexemes (entries.map fun e => (.text e.1, e.2))
    rw [← hinside, List.length_map, List.length_map] at hfew
    rw [h]
    simp only [List.length_cons, List.length_append]
    omega
  obtain ⟨es, new, hentries, hlength, hkeys, hvalues⟩ := parseBlockEntries_eq htidy hparsed
    (s := { s with tokens := ts ++ stop :: t :: more, nodes := s.nodes.push ⟨Tag.map, .mapping [], start.start⟩ })
    rfl hinside (show ts.length ≤ levels by omega) hstop hfuel start.start
  dsimp only at hkeys hvalues
  refine ⟨#[⟨Tag.map, .mapping es, start.start⟩] ++ new, ?_, ?_⟩
  · rw [parseNode_eq h (by rw [hstart]; rfl), parseContent_map h hstart hposition hentries]
    dsimp only
    rw [setContent_push, ← push_append]
  · rw [← push_append]
    have hnode := node_collection s.nodes new ⟨Tag.map, .mapping es, start.start⟩
    refine .map ⟨Nat.le_refl _, size_collection ..⟩ (by rw [hnode]) (by rw [hnode]) hnames hlength
      (fun p hp => ?_) (fun p hp => ?_)
    · exact ((hkeys p hp).weaken (by simp)).setContent (.mapping es)
    · exact ((hvalues p hp).weaken (by simp)).setContent (.mapping es)

theorem isParsed_tidy {depth : Nat} (h : Tidy depth v) : IsParsed v := by
  induction h with
  | leaf h => exact isParsed_leaf h
  | list h hne => exact isParsed_list h hne
  | map hvalues _ hnames _ ih =>
    intro levels s ts t more hlevels hs hts ht
    rw [← hts, List.length_map] at hlevels
    exact parseNode_map hvalues ih hnames hs hts hlevels _ rfl

end Collections

/-! ### Documents -/

/-- Behind a document the text is at its end. -/
theorem parseDocumentStart_eq {s : State} {t : Token} {more : List Token} (h : s.tokens = t :: more)
    (ht : t.lexeme = .streamEnd) : parseDocumentStart s = .ok (none, s) := by
  have hskip : skipDocumentEnds (s.tokens.length + 1) s = .ok ((), s) := by
    have haccept := accept_eq h .documentEnd
    rw [ht, if_neg (by decide)] at haccept
    rw [skipDocumentEnds, bind_of_ok haccept]
    rfl
  rw [parseDocumentStart, bind_of_ok (tokensLeft_eq s), bind_of_ok hskip, bind_of_ok (peek_eq h), ht]
  rfl

/-- The tokens of a map that is a document of its own become nodes that stand for it. -/
theorem parse_document {ts : List Token} {entries : Entries Value} {depth : Nat}
    (htidy : ∀ e ∈ entries, Tidy depth e.2) (hnames : (Entries.names entries).Nodup)
    (hts : ts.map Token.lexeme = lexemes (Fragment.entriesValue entries) ++ [.streamEnd]) :
    ∃ nodes, parse ⟨ts, none⟩ = .ok (some 0, nodes) ∧ Denotes nodes 0 0 (Fragment.entriesValue entries) := by
  obtain ⟨ts, last, rfl, hinside, hlast⟩ := List.map_eq_append_iff.mp hts
  obtain ⟨stop, last, rfl, hstop, hnil⟩ := List.map_eq_cons_iff.mp hlast
  obtain rfl := List.map_eq_nil_iff.mp hnil
  obtain ⟨s, hs⟩ : ∃ s : State, s = { tokens := ts ++ [stop], error := none, handles := defaultHandles } :=
    ⟨_, rfl⟩
  have htokens : s.tokens = ts ++ [stop] := by rw [hs]
  have hnodes : s.nodes = #[] := by rw [hs]
  obtain ⟨new, hnode, hdenotes⟩ := parseNode_map htidy (fun e he => isParsed_tidy (htidy e he)) hnames htokens
    hinside (show ts.length ≤ s.tokens.length + 2 by rw [htokens]; simp; omega)
    { inBlock := true } rfl
  rw [hnodes] at hnode hdenotes
  have hend := parseDocumentStart_eq (s := { s with tokens := [stop], nodes := #[] ++ new }) rfl hstop
  have haccept := accept_eq (s := { s with tokens := [stop], nodes := #[] ++ new }) rfl .documentEnd
  rw [hstop, if_neg (by decide)] at haccept
  obtain ⟨t, more, hfirst, ht⟩ : ∃ t more, s.tokens = t :: more ∧ t.lexeme = .blockMappingStart := by
    rw [entriesValue_eq, lexemes] at hinside
    obtain ⟨t, more, rfl, ht, -⟩ := List.map_eq_cons_iff.mp hinside
    exact ⟨t, _, htokens, ht⟩
  have hdocument : parseDocument s = .ok (some 0, { s with tokens := [stop], nodes := #[] ++ new }) := by
    rw [parseDocument, bind_of_ok (get_eq s), bind_of_ok (peek_eq hfirst), ht]
    have hstart : (pure (some t.start) : Parse (Option Mark)) s = .ok (some t.start, s) := rfl
    refine (bind_of_ok hstart).trans ?_
    refine (bind_of_ok (peek_eq hfirst)).trans ?_
    refine (bind_of_ok hnode).trans ?_
    exact (bind_of_ok haccept).trans ((bind_of_ok hend).trans rfl)
  refine ⟨#[] ++ new, ?_, hdenotes⟩
  rw [parse, ← hs]
  change (parseDocument s >>= _) = _
  rw [hdocument]
  rfl

end Parser

end LintConfig.Yaml
