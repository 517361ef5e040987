import LintConfig.Proofs.Yaml.Objects

/-! # Collections are filled

Every node becomes an object of its own. A collection is empty until its turn comes; then its object gets
what its members have become, and keeps it. -/
namespace LintConfig.Yaml.Construction

/-- The object that a node has become. -/
def Made (s : State) (id : NodeId) (o : ObjectId) : Prop := s.made.getD id none = some o

/-- The objects that a key and its value have become. -/
def MadeBoth (s : State) (e : NodeId × NodeId) (f : ObjectId × ObjectId) : Prop :=
  Made s e.1 f.1 ∧ Made s e.2 f.2

/-- An object has the objects of what is in a collection. -/
inductive Gathers (s : State) (n : Node) : Object → Prop
  | list {ids : List NodeId} {os : List ObjectId} (hnode : n.content = .sequence ids)
    (hmembers : List.Forall₂ (Made s) ids os) : Gathers s n (.list os)
  | map {es : List (NodeId × NodeId)} {os : List (ObjectId × ObjectId)} (hnode : n.content = .mapping es)
    (hmembers : List.Forall₂ (MadeBoth s) es os) : Gathers s n (.map os)

/-- What holds while collections are filled, up to the next one. -/
structure Good (ns : Nodes) (next : Nat) (s : State) : Prop where
  nodes : s.nodes = ns
  size : s.made.size = ns.size
  inside : ∀ id o, Made s id o → o < s.objects.size
  /-- No two nodes become the same object. -/
  apart : ∀ id id' o, Made s id o → Made s id' o → id = id'
  scalar : ∀ id o v, Made s id o → IsScalar (ns.node id) v → s.objects.object o = .scalar v
  /-- The collections among the nodes are met, and no others are. -/
  collection : ∀ id o type, Made s id o → types.lookup (ns.node id).tag = some (.collection type) →
    (id, type) ∈ s.met
  met : ∀ id type, (id, type) ∈ s.met → types.lookup (ns.node id).tag = some (.collection type) ∧
    (∃ v, Denotes ns 0 id v) ∧ ∃ o, Made s id o
  nodup : (s.met.toList.map Prod.fst).Nodup
  bounded : next ≤ s.met.size
  filled : ∀ i < next, ∀ id type o, s.met[i]? = some (id, type) → Made s id o →
    Gathers s (ns.node id) (s.objects.object o)

section Making
variable {ns : Nodes} {next : Nat} {s s' : State} {id : NodeId} {o : ObjectId} {v : Value}

/-- What nodes have become they stay, and what is met is met in its turn. -/
structure Extends (s s' : State) : Prop where
  made : ∀ {id : NodeId} {o : ObjectId}, Made s id o → Made s' id o
  met : ∀ {i : Nat} {e : NodeId × CollectionType}, s.met[i]? = some e → s'.met[i]? = some e

theorem Extends.refl (s : State) : Extends s s := ⟨id, id⟩

theorem Extends.trans {s'' : State} (h : Extends s s') (h' : Extends s' s'') : Extends s s'' :=
  ⟨fun hmade => h'.made (h.made hmade), fun hmet => h'.met (h.met hmet)⟩

theorem Gathers.mono {n : Node} {object : Object} (h : Gathers s n object) (hextends : Extends s s') :
    Gathers s' n object := by
  cases h with
  | list hnode hmembers => exact .list hnode (hmembers.imp fun _ _ hmade => hextends.made hmade)
  | map hnode hmembers =>
    exact .map hnode (hmembers.imp fun _ _ hboth => ⟨hextends.made hboth.1, hextends.made hboth.2⟩)

/-- A node that is no object yet becomes the next one. -/
def State.add (s : State) (id : NodeId) (object : Object) (met : Array (NodeId × CollectionType)) : State :=
  { s with
    objects := s.objects.push object
    made := s.made.setIfInBounds id (some s.objects.size)
    met }

theorem made_add (hid : id < s.made.size) (hnew : s.made.getD id none = none) (object : Object)
    (met : Array (NodeId × CollectionType)) (i : NodeId) (o : ObjectId) :
    Made (s.add id object met) i o ↔ (i = id ∧ o = s.objects.size) ∨ Made s i o := by
  rw [Made, State.add, Array.getD_eq_getD_getElem?, Array.getElem?_setIfInBounds]
  by_cases hi : id = i
  · subst hi
    simp [hid, Made, hnew, eq_comm]
  · simp [hi, Made, Ne.symm hi]

theorem object_add_of_lt (h : o < s.objects.size) (object : Object) (met : Array (NodeId × CollectionType)) :
    (s.add id object met).objects.object o = s.objects.object o := by
  simp [State.add, Objects.object, Array.getElem?_push, Nat.ne_of_lt h]

theorem object_add_self (object : Object) (met : Array (NodeId × CollectionType)) :
    (s.add id object met).objects.object s.objects.size = object := by
  simp [State.add, Objects.object]

/-- The state stays good when a node becomes a scalar, or a collection that is met now. -/
theorem Good.add (h : Good ns next s) (hid : id < ns.size) (hnew : s.made.getD id none = none)
    {object : Object} {met : Array (NodeId × CollectionType)}
    (hscalar : ∀ v, IsScalar (ns.node id) v → object = .scalar v)
    (hcollection : ∀ type, types.lookup (ns.node id).tag = some (.collection type) → (id, type) ∈ met)
    (hmet : met = s.met ∨ ∃ type, met = s.met.push (id, type) ∧
      types.lookup (ns.node id).tag = some (.collection type) ∧ ∃ v, Denotes ns 0 id v) :
    Good ns next (s.add id object met) ∧ Made (s.add id object met) id s.objects.size ∧
      Extends s (s.add id object met) := by
  have hmade := made_add (h.size ▸ hid) hnew object met
  have hnone : ∀ o, ¬ Made s id o := fun o ho => by
    rw [Made, hnew] at ho
    cases ho
  have hkept : ∀ e ∈ s.met, e ∈ met := by
    intro e he
    obtain rfl | ⟨type, rfl, -⟩ := hmet
    · exact he
    · exact Array.mem_push.mpr (.inl he)
  have hobjects : (s.add id object met).objects.size = s.objects.size + 1 := Array.size_push _
  have hfirst : ∀ i < s.met.size, met[i]? = s.met[i]? := by
    intro i hi
    obtain rfl | ⟨type, rfl, -⟩ := hmet
    · rfl
    · rw [Array.getElem?_push, if_neg (Nat.ne_of_lt hi)]
  have hextends : Extends s (s.add id object met) := by
    refine ⟨fun hi => (hmade _ _).mpr (.inr hi), fun hget => ?_⟩
    exact (hfirst _ (Array.getElem?_eq_some_iff.mp hget).1).trans hget
  refine ⟨{
    nodes := h.nodes
    size := (Array.size_setIfInBounds ..).trans h.size
    inside := fun i o hi => ?_
    apart := fun i i' o hi hi' => ?_
    scalar := fun i o v hi hv => ?_
    collection := fun i o type hi htype => ?_
    met := fun i type hi => ?_
    nodup := ?_
    bounded := ?_
    filled := fun i hi i' type o hget ho => ?_ }, (hmade _ _).mpr (.inl ⟨rfl, rfl⟩), hextends⟩
  · rw [hobjects]
    obtain ⟨-, rfl⟩ | hi := (hmade i o).mp hi
    · exact Nat.lt_succ_self _
    · exact Nat.lt_succ_of_lt (h.inside i o hi)
  · obtain ⟨rfl, rfl⟩ | hold := (hmade i o).mp hi <;> obtain ⟨rfl, hsize⟩ | hold' := (hmade i' _).mp hi'
    · rfl
    · exact absurd (h.inside _ _ hold') (Nat.lt_irrefl _)
    · exact absurd (hsize ▸ h.inside _ _ hold) (Nat.lt_irrefl _)
    · exact h.apart i i' o hold hold'
  · obtain ⟨rfl, rfl⟩ | hi := (hmade i o).mp hi
    · rw [object_add_self, hscalar v hv]
    · rw [object_add_of_lt (h.inside i o hi), h.scalar i o v hi hv]
  · obtain ⟨rfl, rfl⟩ | hi := (hmade i o).mp hi
    · exact hcollection type htype
    · exact hkept _ (h.collection i o type hi htype)
  · have hbefore : (i, type) ∈ s.met → types.lookup (ns.node i).tag = some (.collection type) ∧
        (∃ v, Denotes ns 0 i v) ∧ ∃ o, Made (s.add id object met) i o := fun hi =>
      (h.met i type hi).imp_right fun hrest => hrest.imp_right fun ⟨o, ho⟩ => ⟨o, hextends.made ho⟩
    obtain rfl | ⟨type', rfl, htype, hdenotes⟩ := hmet
    · exact hbefore hi
    · rcases Array.mem_push.mp hi with hi | hi
      · exact hbefore hi
      · obtain ⟨rfl, rfl⟩ := Prod.mk.inj hi
        exact ⟨htype, hdenotes, _, (hmade _ _).mpr (.inl ⟨rfl, rfl⟩)⟩
  · change (met.toList.map Prod.fst).Nodup
    obtain rfl | ⟨type, rfl, -⟩ := hmet
    · exact h.nodup
    · rw [Array.toList_push, List.map_append, List.nodup_append]
      refine ⟨h.nodup, List.nodup_singleton _, ?_⟩
      rintro i hi _ hid rfl
      obtain rfl := List.mem_singleton.mp hid
      obtain ⟨⟨i, type⟩, hmem, rfl⟩ := List.mem_map.mp hi
      obtain ⟨-, -, o, ho⟩ := h.met _ _ (Array.mem_toList_iff.mp hmem)
      exact hnone o ho
  · refine h.bounded.trans ?_
    change s.met.size ≤ met.size
    obtain rfl | ⟨type, rfl, -⟩ := hmet
    · exact Nat.le_refl _
    · rw [Array.size_push]
      exact Nat.le_succ _
  · have hget : met[i]? = some (i', type) := hget
    rw [hfirst i (Nat.lt_of_lt_of_le hi h.bounded)] at hget
    obtain ⟨-, -, o', ho'⟩ := h.met i' type (Array.mem_of_getElem? hget)
    obtain ⟨rfl, -⟩ | ho := (hmade i' o).mp ho
    · exact absurd ho' (hnone o')
    · rw [object_add_of_lt (h.inside i' o ho)]
      exact (h.filled i hi i' type o hget ho).mono hextends

theorem node_eq (h : s.nodes = ns) (id : NodeId) : node id s = .ok (ns.node id, s) := by
  rw [← h]
  rfl

theorem makeScalar_eq (h : s.nodes = ns) {content : Text.Spelled} {type : ScalarType}
    (hcontent : (ns.node id).content = .scalar content) (hfloat : type ≠ .float)
    (hread : ∀ start, type.read start content = .ok v) :
    makeScalar type id s = .ok (s.objects.size, { s with objects := s.objects.push (.scalar v) }) := by
  subst h
  have htext : textOf s.nodes (s.nodes.size + 1) id = .ok content := by
    rw [textOf, hcontent]
  rw [makeScalar, bind_of_ok (get_eq s)]
  rw [bind_of_ok (lift_of_ok htext s), hcontent]
  cases type with
  | float => exact absurd rfl hfloat
  | _ => exact (bind_of_ok (lift_of_ok (hread _) s)).trans rfl

theorem make_scalar (h : s.nodes = ns) (hnew : s.made.getD id none = none)
    (hscalar : IsScalar (ns.node id) v) :
    make id s = .ok (s.objects.size, s.add id (.scalar v) s.met) := by
  obtain ⟨content, type, hcontent, htype, hfloat, hread⟩ := hscalar
  rw [make, bind_of_ok (get_eq s), hnew]
  dsimp only
  rw [bind_of_ok (node_eq h id), htype]
  exact (bind_of_ok (makeScalar_eq h hcontent hfloat hread)).trans rfl

theorem make_collection (h : s.nodes = ns) (hnew : s.made.getD id none = none) {type : CollectionType}
    (htype : types.lookup (ns.node id).tag = some (.collection type)) :
    make id s = .ok (s.objects.size, s.add id type.empty (s.met.push (id, type))) := by
  rw [make, bind_of_ok (get_eq s), hnew]
  dsimp only
  rw [bind_of_ok (node_eq h id), htype]
  rfl

theorem lookup_seq : types.lookup Tag.seq = some (.collection .seq) := by decide +kernel

theorem lookup_map : types.lookup Tag.map = some (.collection .map) := by decide +kernel

/-- A node that stands for a value becomes an object. -/
theorem make_eq (h : Good ns next s) (hv : Denotes ns 0 id v) : ∃ o s', make id s = .ok (o, s') ∧
    Good ns next s' ∧ Made s' id o ∧ Extends s s' := by
  cases hmade : s.made.getD id none with
  | some o =>
    refine ⟨o, s, ?_, h, hmade, .refl s⟩
    rw [make, bind_of_ok (get_eq s), hmade]
    rfl
  | none =>
    have hcollection : ∀ {type}, id < ns.size → types.lookup (ns.node id).tag = some (.collection type) →
        ∃ o s', make id s = .ok (o, s') ∧ Good ns next s' ∧ Made s' id o ∧ Extends s s' := by
      intro type hid htype
      refine ⟨_, _, make_collection h.nodes hmade htype, h.add hid hmade ?_ ?_ (.inr ⟨type, rfl, htype, v, hv⟩)⟩
      · exact fun w hw => absurd htype (hw.not_collection type)
      · intro type' htype'
        rw [htype] at htype'
        cases htype'
        exact Array.mem_push_self
    cases hv with
    | leaf hid hscalar =>
      refine ⟨_, _, make_scalar h.nodes hmade hscalar, h.add hid.2 hmade ?_ ?_ (.inl rfl)⟩
      · exact fun w hw => congrArg Object.scalar (hscalar.unique hw)
      · exact fun type htype => absurd htype (hscalar.not_collection type)
    | list hid hcontent htag hlength hitems => exact hcollection hid.2 (htag ▸ lookup_seq)
    | map hid hcontent htag hnames hlength hkeys hvalues => exact hcollection hid.2 (htag ▸ lookup_map)

/-! ### Members -/

theorem makeEach_eq {ids : List NodeId} {items : List Value} (h : Good ns next s)
    (hlength : ids.length = items.length) (hitems : ∀ p ∈ ids.zip items, Denotes ns 0 p.1 p.2) :
    ∃ os s', ids.mapM make s = .ok (os, s') ∧ Good ns next s' ∧ List.Forall₂ (Made s') ids os ∧
      Extends s s' := by
  induction ids generalizing items s with
  | nil => exact ⟨[], s, rfl, h, .nil, .refl s⟩
  | cons id ids ih =>
    obtain ⟨v, items, rfl⟩ := List.exists_cons_of_length_eq_add_one hlength.symm
    rw [List.zip_cons_cons, List.forall_mem_cons] at hitems
    obtain ⟨o, s', hmake, hgood, hmade, hextends⟩ := make_eq h hitems.1
    obtain ⟨os, s'', hmore, hgood', hmembers, hextends'⟩ := ih hgood (Nat.succ.inj hlength) hitems.2
    refine ⟨o :: os, s'', ?_, hgood', .cons (hextends'.made hmade) hmembers, hextends.trans hextends'⟩
    rw [List.mapM_cons, bind_of_ok hmake, bind_of_ok hmore]
    rfl

/-- Keys that ask for no merge and stand for no default value are left as they are. -/
theorem flatten_eq (h : s.nodes = ns) {es : List (NodeId × NodeId)}
    (hcontent : (ns.node id).content = .mapping es)
    (hkeys : ∀ e ∈ es, (ns.node e.1).tag ≠ Tag.merge ∧ (ns.node e.1).tag ≠ Tag.value) (fuel : Nat) :
    flatten fuel id s = .ok ((), s) := by
  subst h
  have hentries : s.nodes.entries id = es := by
    rw [Nodes.entries, hcontent]
  have hcount : (s.nodes.entries id).countP (fun e => (s.nodes.node e.1).tag == Tag.merge) = 0 := by
    rw [hentries, List.countP_eq_zero]
    intro e he
    simpa using (hkeys e he).1
  have hdefaults : settleDefaults id s = .ok ((), s) := by
    have hkept : ∀ keys : List NodeId, (∀ k ∈ keys, (s.nodes.node k).tag ≠ Tag.value) →
        keys.foldl (fun ns k => if (ns.node k).tag == Tag.value then ns.setTag k Tag.str else ns) s.nodes = s.nodes := by
      intro keys hkeys
      induction keys with
      | nil => rfl
      | cons k keys ih =>
        rw [List.foldl_cons, if_neg (by simpa using hkeys k List.mem_cons_self)]
        exact ih fun k hk => hkeys k (List.mem_cons_of_mem _ hk)
    have hnone := hkept ((s.nodes.entries id).map (·.1)) fun k hk => by
      obtain ⟨e, he, rfl⟩ := List.mem_map.mp hk
      exact (hkeys e (hentries ▸ he)).2
    change Except.ok ((), { s with nodes := _ }) = _
    rw [hnone]
  have hsame : s.nodes.setContent id (.mapping es) = s.nodes := by
    refine Array.ext_getElem? fun i => ?_
    rw [Nodes.setContent, Array.getElem?_modify]
    split_ifs with hi
    · subst hi
      rw [Nodes.node, Array.getD_eq_getD_getElem?] at hcontent
      cases hget : s.nodes[id]? with
      | none => rfl
      | some n =>
        rw [hget, Option.getD_some] at hcontent
        rw [Option.map_some, ← hcontent]
    · rfl
  cases fuel with
  | zero => rfl
  | succ fuel =>
    rw [flatten, bind_of_ok (get_eq s)]
    dsimp only
    generalize hmerges : List.countP _ _ = merges
    obtain rfl : merges = 0 := hmerges.symm.trans hcount
    rw [List.range_zero, List.mapM_nil, pure_bind, bind_of_ok hdefaults]
    change Except.ok ((), { s with
      nodes := s.nodes.setContent id (.mapping (List.flatten [] ++ s.nodes.entries id)) }) = _
    rw [List.flatten_nil, List.nil_append, hentries, hsame]

/-- A key that is not there yet is put at the end. -/
theorem assign_fresh {os : Objects} {key value : ObjectId} {acc : List (ObjectId × ObjectId)}
    (h : ∀ e ∈ acc, os.sameKey e.1 key = false) : os.assign key value acc = acc ++ [(key, value)] := by
  induction acc with
  | nil => rfl
  | cons e acc ih =>
    rw [Objects.assign, h e List.mem_cons_self, ih fun f hf => h f (List.mem_cons_of_mem _ hf)]
    rfl

/-- Objects that hold different texts are different keys. -/
theorem sameKey_texts {os : Objects} {a b : ObjectId} {name name' : String}
    (ha : os.object a = .scalar (.text name)) (hb : os.object b = .scalar (.text name')) (hne : name ≠ name') :
    os.sameKey a b = false := by
  have hdifferent : a ≠ b := by
    rintro rfl
    rw [ha] at hb
    cases hb
    exact hne rfl
  have htexts : (Value.text name).sameScalar (.text name') = (name == name') := rfl
  rw [Objects.sameKey, ha, hb]
  dsimp only
  rw [htexts, beq_eq_false_iff_ne.mpr hdifferent, beq_eq_false_iff_ne.mpr hne]
  rfl

theorem exists_of_forall₂ {α β : Type} {r : α → β → Prop} {xs : List α} {ys : List β}
    (h : List.Forall₂ r xs ys) {y : β} (hy : y ∈ ys) : ∃ x ∈ xs, r x y := by
  induction h with
  | nil => cases hy
  | cons hr _ ih =>
    rcases List.mem_cons.mp hy with rfl | hy
    · exact ⟨_, List.mem_cons_self, hr⟩
    · obtain ⟨x, hx, hr'⟩ := ih hy
      exact ⟨x, List.mem_cons_of_mem _ hx, hr'⟩

/-- The entries of a map, one after the other. -/
theorem addEntries_eq {es done : List (NodeId × NodeId)} {entries : Entries Value} {seen : List String}
    {acc : List (ObjectId × ObjectId)} (start : Mark) (h : Good ns next s)
    (hlength : es.length = entries.length)
    (hkeys : ∀ p ∈ es.zip entries, IsScalar (ns.node p.1.1) (.text p.2.1) ∧ Denotes ns 0 p.1.1 (.text p.2.1))
    (hvalues : ∀ p ∈ es.zip entries, Denotes ns 0 p.1.2 p.2.2)
    (hacc : List.Forall₂ (MadeBoth s) done acc)
    (hdone : ∀ e ∈ done, ∃ name ∈ seen, IsScalar (ns.node e.1) (.text name))
    (hnames : (seen ++ Entries.names entries).Nodup) :
    ∃ os s', es.foldlM (addEntry start) acc s = .ok (os, s') ∧
      Good ns next s' ∧ List.Forall₂ (MadeBoth s') (done ++ es) os ∧ Extends s s' := by
  induction es generalizing entries done seen acc s with
  | nil => exact ⟨acc, s, rfl, h, by rwa [List.append_nil], .refl s⟩
  | cons e es ih =>
    obtain ⟨⟨name, v⟩, entries, rfl⟩ := List.exists_cons_of_length_eq_add_one hlength.symm
    rw [List.zip_cons_cons, List.forall_mem_cons] at hkeys hvalues
    obtain ⟨key, s₁, hkey, hgood₁, hmadeKey, hextends₁⟩ := make_eq h hkeys.1.2
    obtain ⟨value, s₂, hvalue, hgood₂, hmadeValue, hextends₂⟩ := make_eq hgood₁ hvalues.1
    have hextends := hextends₁.trans hextends₂
    have hmembers : List.Forall₂ (MadeBoth s₂) (done ++ [e]) (acc ++ [(key, value)]) :=
      List.rel_append (hacc.imp fun _ _ hboth => ⟨hextends.made hboth.1, hextends.made hboth.2⟩)
        (.cons ⟨hextends₂.made hmadeKey, hmadeValue⟩ .nil)
    have hobject : s₁.objects.object key = .scalar (.text name) := hgood₁.scalar _ _ _ hmadeKey hkeys.1.1
    have hfresh : ∀ f ∈ acc, s₂.objects.sameKey f.1 key = false := by
      intro f hf
      obtain ⟨d, hd, hboth⟩ := exists_of_forall₂ hacc hf
      obtain ⟨name', hseen, hscalar⟩ := hdone d hd
      refine sameKey_texts (hgood₂.scalar _ _ _ (hextends.made hboth.1) hscalar)
        (hgood₂.scalar _ _ _ (hextends₂.made hmadeKey) hkeys.1.1) ?_
      rintro rfl
      exact (List.nodup_append.mp hnames).2.2 name' hseen name' List.mem_cons_self rfl
    have hadd : addEntry start acc e s = .ok (acc ++ [(key, value)], s₂) := by
      rw [addEntry, bind_of_ok hkey, bind_of_ok (get_eq s₁), hobject]
      refine (bind_of_ok hvalue).trans ((bind_of_ok (get_eq s₂)).trans ?_)
      rw [assign_fresh hfresh]
      rfl
    have hdone' : ∀ f ∈ done ++ [e], ∃ name' ∈ seen ++ [name], IsScalar (ns.node f.1) (.text name') := by
      intro f hf
      rcases List.mem_append.mp hf with hf | hf
      · obtain ⟨name', hseen, hscalar⟩ := hdone f hf
        exact ⟨name', List.mem_append_left _ hseen, hscalar⟩
      · obtain rfl := List.mem_singleton.mp hf
        exact ⟨name, List.mem_append_right _ List.mem_cons_self, hkeys.1.1⟩
    have hnames' : (seen ++ [name] ++ Entries.names entries).Nodup := by
      rw [List.append_assoc]
      exact hnames
    obtain ⟨os, s₃, hmore, hgood₃, hall, hextends₃⟩ := ih hgood₂ (Nat.succ.inj hlength) hkeys.2 hvalues.2
      hmembers hdone' hnames'
    refine ⟨os, s₃, ?_, hgood₃, by simpa using hall, hextends.trans hextends₃⟩
    rw [List.foldlM_cons, bind_of_ok hadd, hmore]

/-! ### One collection -/

/-- A text is a scalar. -/
theorem isScalar_of_text {name : String} (h : Denotes ns 0 id v) (hv : v = .text name) :
    IsScalar (ns.node id) v := by
  cases h with
  | leaf _ h => exact h
  | list => cases hv
  | map => cases hv

theorem not_merge_of_isScalar {n : Node} (h : IsScalar n v) : n.tag ≠ Tag.merge ∧ n.tag ≠ Tag.value := by
  obtain ⟨content, type, -, htype, -⟩ := h
  have hnone : types.lookup Tag.merge = none ∧ types.lookup Tag.value = none := by decide +kernel
  constructor
  · intro htag
    rw [htag, hnone.1] at htype
    cases htype
  · intro htag
    rw [htag, hnone.2] at htype
    cases htype

/-- A collection that is met gets its members. -/
theorem filled_eq (h : Good ns next s) {type : CollectionType} (hv : Denotes ns 0 id v)
    (htype : types.lookup (ns.node id).tag = some (.collection type)) : ∃ object s',
      filled type id s = .ok (object, s') ∧ Good ns next s' ∧ Gathers s' (ns.node id) object ∧ Extends s s' := by
  have hnode := node_eq h.nodes id
  cases hv with
  | leaf _ hscalar => exact absurd htype (hscalar.not_collection type)
  | list hid hcontent htag hlength hitems =>
    rw [htag, lookup_seq] at htype
    cases htype
    obtain ⟨os, s', hmake, hgood, hmembers, hextends⟩ := makeEach_eq h hlength hitems
    refine ⟨.list os, s', ?_, hgood, .list hcontent hmembers, hextends⟩
    rw [filled, bind_of_ok hnode, hcontent]
    exact (bind_of_ok hmake).trans rfl
  | @map _ es entries hid hcontent htag hnames hlength hkeys hvalues =>
    rw [htag, lookup_map] at htype
    cases htype
    have hscalars : ∀ p ∈ es.zip entries, IsScalar (ns.node p.1.1) (.text p.2.1) ∧ Denotes ns 0 p.1.1 (.text p.2.1) :=
      fun p hp => ⟨isScalar_of_text (hkeys p hp) rfl, hkeys p hp⟩
    have hflatten : flatten (entryCount ns + 1) id s = .ok ((), s) := by
      refine flatten_eq h.nodes hcontent (fun e he => ?_) _
      rw [← List.map_fst_zip (Nat.le_of_eq hlength)] at he
      obtain ⟨p, hp, rfl⟩ := List.mem_map.mp he
      exact not_merge_of_isScalar (hscalars p hp).1
    have hentries : ns.entries id = es := by
      rw [Nodes.entries, hcontent]
    have hnone : ∀ e ∈ ([] : List (NodeId × NodeId)), ∃ name ∈ ([] : List String),
        IsScalar (ns.node e.1) (.text name) := nofun
    obtain ⟨os, s', hadd, hgood, hmembers, hextends⟩ := addEntries_eq (ns.node id).start h hlength hscalars
      hvalues .nil hnone hnames
    refine ⟨.map os, s', ?_, hgood, .map hcontent hmembers, hextends⟩
    have hfill : fillMapping id s = .ok (os, s') := by
      rw [fillMapping, bind_of_ok hnode, hcontent]
      refine (bind_of_ok (get_eq s)).trans ?_
      rw [h.nodes]
      refine (bind_of_ok hflatten).trans ((bind_of_ok (get_eq s)).trans ?_)
      rw [h.nodes, hentries, hadd]
    exact (bind_of_ok hfill).trans rfl

/-! ### All collections -/

/-- The object of the next collection gets its members. -/
def State.fill (s : State) (o : ObjectId) (object : Object) : State :=
  { s with objects := s.objects.setIfInBounds o object }

theorem extends_fill (s : State) (o : ObjectId) (object : Object) : Extends s (s.fill o object) := ⟨id, id⟩

theorem object_fill_of_ne {o' : ObjectId} (h : o' ≠ o) (object : Object) :
    (s.fill o object).objects.object o' = s.objects.object o' := by
  simp [State.fill, Objects.object, h.symm]

theorem object_fill_self (h : o < s.objects.size) (object : Object) :
    (s.fill o object).objects.object o = object := by
  simp [State.fill, Objects.object, h]

/-- Filling a collection changes no other object. -/
theorem Good.fill (h : Good ns next s) {type : CollectionType} {object : Object}
    (hget : s.met[next]? = some (id, type)) (ho : Made s id o) (hobject : Gathers s (ns.node id) object) :
    Good ns (next + 1) (s.fill o object) := by
  obtain ⟨htype, -, -⟩ := h.met id type (Array.mem_of_getElem? hget)
  have hsame := extends_fill s o object
  refine {
    nodes := h.nodes
    size := h.size
    inside := fun i x hi => (Array.size_setIfInBounds ..).symm ▸ h.inside i x hi
    apart := h.apart
    scalar := fun i x w hi hw => ?_
    collection := h.collection
    met := h.met
    nodup := h.nodup
    bounded := (Array.getElem?_eq_some_iff.mp hget).1
    filled := fun i hi i' type' x hget' hx => ?_ }
  · have hne : x ≠ o := by
      rintro rfl
      obtain rfl := h.apart _ _ _ hi ho
      exact hw.not_collection type htype
    rw [object_fill_of_ne hne, h.scalar i x w hi hw]
  · rcases Nat.lt_succ_iff_lt_or_eq.mp hi with hi | rfl
    · have hne : x ≠ o := by
        rintro rfl
        obtain rfl := h.apart _ _ _ hx ho
        have hlist : (s.met.toList.map Prod.fst)[i]? = (s.met.toList.map Prod.fst)[next]? := by
          rw [List.getElem?_map, List.getElem?_map, Array.getElem?_toList, Array.getElem?_toList]
          exact (congrArg (Option.map Prod.fst) hget').trans (congrArg (Option.map Prod.fst) hget).symm
        have hbound : i < (s.met.toList.map Prod.fst).length := by
          rw [List.length_map, Array.length_toList]
          exact (Array.getElem?_eq_some_iff.mp hget').1
        exact absurd ((List.getElem?_inj hbound h.nodup).mp hlist) (Nat.ne_of_lt hi)
      rw [object_fill_of_ne hne]
      exact (h.filled i hi i' type' x hget' hx).mono hsame
    · have hfound : s.met[i]? = some (i', type') := hget'
      rw [hget] at hfound
      cases hfound
      obtain rfl : x = o := Option.some.inj (hx.symm.trans ho)
      rw [object_fill_self (h.inside _ _ ho)]
      exact hobject.mono hsame

/-- There are no more collections than nodes. -/
theorem Good.met_le (h : Good ns next s) : s.met.size ≤ ns.size := by
  have hsub : s.met.toList.map Prod.fst ⊆ List.range ns.size := by
    intro i hi
    obtain ⟨e, he, rfl⟩ := List.mem_map.mp hi
    obtain ⟨-, ⟨v, hv⟩, -⟩ := h.met e.1 e.2 (Array.mem_toList_iff.mp he)
    exact List.mem_range.mpr hv.lt_size
  have hle := (h.nodup.subperm hsub).length_le
  rwa [List.length_map, List.length_range, Array.length_toList] at hle

theorem fillFrom_eq {fuel : Nat} (h : Good ns next s) (hfuel : ns.size < fuel + next) :
    ∃ s', fillFrom fuel next s = .ok ((), s') ∧ Good ns s'.met.size s' ∧ Extends s s' := by
  induction fuel generalizing next s with
  | zero =>
    have hle := h.met_le
    have hbounded := h.bounded
    omega
  | succ fuel ih =>
    rw [fillFrom, bind_of_ok (get_eq s)]
    cases hget : s.met[next]? with
    | none =>
      refine ⟨s, rfl, ?_, .refl s⟩
      have hsize : s.met.size = next :=
        Nat.le_antisymm (Array.getElem?_eq_none_iff.mp hget) h.bounded
      rw [hsize]
      exact h
    | some e =>
      obtain ⟨id, type⟩ := e
      obtain ⟨htype, ⟨v, hv⟩, o, ho⟩ := h.met id type (Array.mem_of_getElem? hget)
      obtain ⟨object, s₁, hfilled, hgood, hobject, hextends⟩ := filled_eq h hv htype
      have hown := hextends.made ho
      have hmake : make id s₁ = .ok (o, s₁) := by
        rw [make, bind_of_ok (get_eq s₁)]
        rw [Made] at hown
        rw [hown]
        rfl
      have hnext := hgood.fill (hextends.met hget) hown hobject
      obtain ⟨s₂, hmore, hgood₂, hextends₂⟩ := ih hnext (by omega)
      refine ⟨s₂, ?_, hgood₂, (hextends.trans (extends_fill s₁ o object)).trans hextends₂⟩
      refine (bind_of_ok hfilled).trans ((bind_of_ok hmake).trans ?_)
      exact hmore

/-! ### The value of a document -/

/-- What holds for partners of partners holds for what is paired. -/
theorem forall_zip_of_forall₂ {α β γ : Type} {r : α → β → Prop} {q : β → γ → Prop} {xs : List α} {ys : List β}
    {zs : List γ} (hxy : List.Forall₂ r xs ys) (hlength : xs.length = zs.length)
    (h : ∀ p ∈ xs.zip zs, ∀ y, r p.1 y → q y p.2) : ys.length = zs.length ∧ ∀ p ∈ ys.zip zs, q p.1 p.2 := by
  induction hxy generalizing zs with
  | nil => exact ⟨hlength, nofun⟩
  | cons hr _ ih =>
    obtain ⟨z, zs, rfl⟩ := List.exists_cons_of_length_eq_add_one hlength.symm
    rw [List.zip_cons_cons, List.forall_mem_cons] at h
    obtain ⟨hlength', hmore⟩ := ih (Nat.succ.inj hlength) h.2
    exact ⟨congrArg (· + 1) hlength', List.forall_mem_cons.mpr ⟨h.1 _ hr, hmore⟩⟩

/-- When all collections are filled, objects hold what their nodes stand for. -/
theorem holds_of_good (h : Good ns s.met.size s) (hv : Denotes ns 0 id v) (ho : Made s id o) :
    Holds s.objects o v := by
  have hgathers : ∀ {id o} {type : CollectionType}, Made s id o →
      types.lookup (ns.node id).tag = some (.collection type) →
      Gathers s (ns.node id) (s.objects.object o) := by
    intro id o type ho htype
    obtain ⟨i, hi, hget⟩ := Array.mem_iff_getElem.mp (h.collection id o type ho htype)
    exact h.filled i hi id type o (Array.getElem?_eq_some_iff.mpr ⟨hi, hget⟩) ho
  induction hv generalizing o with
  | leaf hid hscalar => exact .scalar (h.inside _ _ ho) (h.scalar _ _ _ ho hscalar)
  | list hid hcontent htag hlength hitems ih =>
    have hobject := hgathers ho (htag ▸ lookup_seq)
    generalize hat : s.objects.object o = object at hobject
    cases hobject with
    | list hnode hmembers =>
      rw [hcontent] at hnode
      cases hnode
      obtain ⟨hlength', hheld⟩ := forall_zip_of_forall₂ hmembers hlength fun p hp y hy => ih p hp hy
      exact .list (h.inside _ _ ho) hat hlength' hheld
    | map hnode =>
      rw [hcontent] at hnode
      cases hnode
  | map hid hcontent htag hnames hlength hkeys hvalues ihkeys ihvalues =>
    have hobject := hgathers ho (htag ▸ lookup_map)
    generalize hat : s.objects.object o = object at hobject
    cases hobject with
    | list hnode =>
      rw [hcontent] at hnode
      cases hnode
    | map hnode hmembers =>
      rw [hcontent] at hnode
      cases hnode
      obtain ⟨hlength', hheld⟩ := forall_zip_of_forall₂
        (q := fun f e => Holds s.objects f.1 (.text e.1) ∧ Holds s.objects f.2 e.2) hmembers hlength
        fun p hp y hy => ⟨ihkeys p hp hy.1, ihvalues p hp hy.2⟩
      rw [entriesValue_eq]
      refine .map (h.inside _ _ ho) hat (by rw [hlength', List.length_map]) (fun p hp => ?_) fun p hp => ?_
      · rw [List.zip_map_right] at hp
        obtain ⟨q, hq, rfl⟩ := List.mem_map.mp hp
        exact (hheld q hq).1
      · rw [List.zip_map_right] at hp
        obtain ⟨q, hq, rfl⟩ := List.mem_map.mp hp
        exact (hheld q hq).2

/-- A document's value is what its root stands for. -/
theorem construct_eq (hv : Denotes ns 0 id v) : construct id ns = .ok v := by
  obtain ⟨s, hs⟩ : ∃ s : State, s = { nodes := ns, made := Array.replicate ns.size none } := ⟨_, rfl⟩
  have hnone : ∀ i o, ¬ Made s i o := by
    intro i o ho
    rw [Made, hs, Array.getD_eq_getD_getElem?, Array.getElem?_replicate] at ho
    split_ifs at ho <;> cases ho
  have hempty : s.met = #[] := by rw [hs]
  have hgood : Good ns 0 s := {
    nodes := by rw [hs]
    size := by rw [hs, Array.size_replicate]
    inside := fun i o ho => absurd ho (hnone i o)
    apart := fun i i' o ho => absurd ho (hnone i o)
    scalar := fun i o _ ho => absurd ho (hnone i o)
    collection := fun i o _ ho => absurd ho (hnone i o)
    met := fun i type hi => by simp [hempty] at hi
    nodup := by rw [hempty]; exact List.nodup_nil
    bounded := Nat.zero_le _
    filled := nofun }
  obtain ⟨o, s₁, hmake, hgood₁, ho, hextends⟩ := make_eq hgood hv
  obtain ⟨s₂, hfill, hgood₂, hextends₂⟩ := fillFrom_eq hgood₁ (show ns.size < (ns.size + 1) + 0 by omega)
  have hall : makeAll id s = .ok (o, s₂) := by
    rw [makeAll, bind_of_ok hmake, bind_of_ok (get_eq s₁), hgood₁.nodes]
    exact (bind_of_ok hfill).trans rfl
  have hvalue := value_eq (holds_of_good hgood₂ hv (hextends₂.made ho))
  rw [construct, ← hs]
  change (makeAll id s >>= fun r => Except.ok (r.2.objects.value r.1)) = _
  rw [hall]
  exact congrArg Except.ok hvalue

end Making

end LintConfig.Yaml.Construction
