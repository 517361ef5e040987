import LintConfig.Proofs.Yaml.Nodes

/-! # From nodes to objects, and to their value

A node becomes an object once, and the collections are filled in the order in which they are met. When
all of them are filled, the object of a node holds the value that the node stands for. -/
namespace LintConfig.Yaml

/-! ### What an object holds -/

/-- An object holds a value. -/
inductive Holds (os : Objects) : ObjectId → Value → Prop
  | scalar {id : ObjectId} {v : Value} (hid : id < os.size) (h : os.object id = .scalar v) : Holds os id v
  | list {id : ObjectId} {ids : List ObjectId} {items : List Value} (hid : id < os.size)
    (h : os.object id = .list ids) (hlength : ids.length = items.length)
    (hitems : ∀ p ∈ ids.zip items, Holds os p.1 p.2) : Holds os id (.list items)
  | map {id : ObjectId} {es : List (ObjectId × ObjectId)} {entries : List (Value × Value)}
    (hid : id < os.size) (h : os.object id = .map es) (hlength : es.length = entries.length)
    (hkeys : ∀ p ∈ es.zip entries, Holds os p.1.1 p.2.1)
    (hvalues : ∀ p ∈ es.zip entries, Holds os p.1.2 p.2.2) : Holds os id (.map entries)

section Zips
variable {α β : Type} {xs : List α} {ys zs : List β}

/-- What is paired with the same things, each of which has one partner, is the same. -/
theorem eq_of_zip {r : α → β → Prop} (hlength : xs.length = ys.length) (hlength' : xs.length = zs.length)
    (h : ∀ p ∈ xs.zip ys, ∀ z, r p.1 z → p.2 = z) (h' : ∀ p ∈ xs.zip zs, r p.1 p.2) : ys = zs := by
  induction xs generalizing ys zs with
  | nil =>
    rw [List.length_nil, eq_comm, List.length_eq_zero_iff] at hlength hlength'
    rw [hlength, hlength']
  | cons x xs ih =>
    obtain ⟨y, ys, rfl⟩ := List.exists_cons_of_length_eq_add_one hlength.symm
    obtain ⟨z, zs, rfl⟩ := List.exists_cons_of_length_eq_add_one hlength'.symm
    rw [List.zip_cons_cons, List.forall_mem_cons] at h h'
    exact congrArg₂ List.cons (h.1 z h'.1) (ih (Nat.succ.inj hlength) (Nat.succ.inj hlength') h.2 h'.2)

end Zips

/-- An object holds one value. -/
theorem Holds.unique {os : Objects} {id : ObjectId} {v w : Value} (h : Holds os id v) (h' : Holds os id w) :
    v = w := by
  induction h generalizing w with
  | scalar hid h =>
    cases h' with
    | scalar _ h' =>
      rw [h] at h'
      cases h'
      rfl
    | list _ h' | map _ h' =>
      rw [h] at h'
      cases h'
  | list hid h hlength hitems ih =>
    cases h' with
    | list _ h' hlength' hitems' =>
      rw [h] at h'
      cases h'
      rw [eq_of_zip hlength hlength' (fun p hp z hz => ih p hp hz) hitems']
    | scalar _ h' | map _ h' =>
      rw [h] at h'
      cases h'
  | map hid h hlength hkeys hvalues ihkeys ihvalues =>
    cases h' with
    | map _ h' hlength' hkeys' hvalues' =>
      rw [h] at h'
      cases h'
      have hsame := eq_of_zip (r := fun e f => Holds os e.1 f.1 ∧ Holds os e.2 f.2) hlength hlength'
        (fun p hp z hz => Prod.ext (ihkeys p hp hz.1) (ihvalues p hp hz.2))
        (fun p hp => ⟨hkeys' p hp, hvalues' p hp⟩)
      rw [hsame]
    | scalar _ h' | list _ h' =>
      rw [h] at h'
      cases h'

/-! ### The value of an object -/

section Values
variable {os : Objects}

/-- What is known of objects is what they hold. -/
def Sound (os : Objects) (known : Objects.Known) : Prop :=
  ∀ id v, known.getD id none = some v → Holds os id v

theorem Sound.set {known : Objects.Known} {id : ObjectId} {v : Value} (h : Sound os known)
    (hv : Holds os id v) : Sound os (known.setIfInBounds id (some v)) := by
  intro i w hw
  rw [Array.getD_eq_getD_getElem?, Array.getElem?_setIfInBounds] at hw
  split_ifs at hw with hi hsize
  · obtain rfl := Option.some.inj hw
    exact hi ▸ hv
  · cases hw
  · rw [← Array.getD_eq_getD_getElem?] at hw
    exact h i w hw

/-- Things are worked through one after the other, and what is kept true stays true. -/
theorem mapM_state {σ α β γ : Type} {f : α → StateM σ β} {g : γ → β} {p : σ → Prop} {xs : List α} {ys : List γ}
    (hlength : xs.length = ys.length)
    (h : ∀ x ∈ xs.zip ys, ∀ s, p s → ∃ s', f x.1 s = (g x.2, s') ∧ p s') :
    ∀ s, p s → ∃ s', xs.mapM f s = (ys.map g, s') ∧ p s' := by
  induction xs generalizing ys with
  | nil =>
    intro s hs
    rw [List.length_nil, eq_comm, List.length_eq_zero_iff] at hlength
    subst hlength
    exact ⟨s, rfl, hs⟩
  | cons x xs ih =>
    intro s hs
    obtain ⟨y, ys, rfl⟩ := List.exists_cons_of_length_eq_add_one hlength.symm
    rw [List.zip_cons_cons, List.forall_mem_cons] at h
    obtain ⟨s', hfirst, hs'⟩ := h.1 s hs
    obtain ⟨s'', hmore, hs''⟩ := ih (Nat.succ.inj hlength) h.2 s' hs'
    refine ⟨s'', ?_, hs''⟩
    rw [List.mapM_cons]
    change ((f x s).1 :: (xs.mapM f (f x s).2).1, (xs.mapM f (f x s).2).2) = _
    rw [hfirst, hmore]
    rfl

/-- The objects around another one are larger than it, so that it is none of them. -/
structure Around (os : Objects) (around : List ObjectId) (v : Value) : Prop where
  nodup : around.Nodup
  larger : ∀ a ∈ around, a < os.size ∧ ∃ w, Holds os a w ∧ sizeOf v < sizeOf w

theorem Around.cons {around : List ObjectId} {id : ObjectId} {v w : Value} (h : Around os around v)
    (hv : Holds os id v) (hid : id < os.size) (hless : sizeOf w < sizeOf v) : Around os (id :: around) w where
  nodup := List.nodup_cons.mpr ⟨fun hmem => by
    obtain ⟨-, u, hu, hlarger⟩ := h.larger id hmem
    rw [hv.unique hu] at hlarger
    exact Nat.lt_irrefl _ hlarger, h.nodup⟩
  larger a ha := by
    rcases List.mem_cons.mp ha with rfl | ha
    · exact ⟨hid, v, hv, hless⟩
    · obtain ⟨hsize, u, hu, hlarger⟩ := h.larger a ha
      exact ⟨hsize, u, hu, hless.trans hlarger⟩

theorem Around.length_le {around : List ObjectId} {v : Value} (h : Around os around v) :
    around.length ≤ os.size := by
  have hsub : around ⊆ List.range os.size := fun a ha => List.mem_range.mpr (h.larger a ha).1
  have hle := (h.nodup.subperm hsub).length_le
  rwa [List.length_range] at hle

theorem Holds.lt_size {id : ObjectId} {v : Value} (h : Holds os id v) : id < os.size := by
  cases h <;> assumption

theorem state_bind {σ α β : Type} {f : StateM σ α} {s s' : σ} {x : α} (h : f s = (x, s')) (g : α → StateM σ β) :
    (f >>= g) s = g x s' := by
  change g (f s).1 (f s).2 = _
  rw [h]

theorem map_value (items : List Value) :
    (items.map fun w => Objects.Untied.mk w true).map (fun u => u.value) = items := by
  rw [List.map_map]
  exact List.map_id items

theorem all_isFree (items : List Value) :
    (items.map fun w => Objects.Untied.mk w true).all (fun u => u.isFree) = true := by
  simp

theorem get_state {σ : Type} (s : σ) : (get : StateM σ σ) s = (s, s) := rfl

/-- An object that is not around itself is known, or it is looked into. -/
theorem valueIn_known {id : ObjectId} {v : Value} {fuel : Nat} {around : List ObjectId} {known : Objects.Known}
    (h : Holds os id v) (haround : Around os around v) (hfuel : os.size < fuel + around.length)
    (hknown : Sound os known) :
    (∃ known', os.valueIn fuel around id known = (⟨v, true⟩, known') ∧ Sound os known') ∨
      ∃ n, fuel = n + 1 ∧ around.contains id = false ∧ known.getD id none = none := by
  have hlength := haround.length_le
  obtain ⟨fuel, rfl⟩ : ∃ n, fuel = n + 1 := ⟨fuel - 1, by omega⟩
  have hnot : around.contains id = false := by
    rw [← Bool.not_eq_true, List.contains_iff_mem]
    intro hmem
    obtain ⟨-, w, hw, hlarger⟩ := haround.larger id hmem
    rw [h.unique hw] at hlarger
    exact Nat.lt_irrefl _ hlarger
  cases hget : known.getD id none with
  | none => exact .inr ⟨fuel, rfl, hnot, rfl⟩
  | some w =>
    refine .inl ⟨known, ?_, hknown⟩
    unfold Objects.valueIn
    rw [hnot, if_neg Bool.false_ne_true, state_bind (get_state known), hget, h.unique (hknown _ _ hget)]
    rfl

/-- The value of an object is what it holds. -/
theorem valueIn_eq {id : ObjectId} {v : Value} (h : Holds os id v) : ∀ {fuel : Nat} {around : List ObjectId},
    Around os around v → os.size < fuel + around.length → ∀ known, Sound os known →
      ∃ known', os.valueIn fuel around id known = (⟨v, true⟩, known') ∧ Sound os known' := by
  induction h with
  | @scalar id v hid hobject =>
    intro fuel around haround hfuel known hknown
    have hholds : Holds os id v := .scalar hid hobject
    obtain hdone | ⟨fuel, rfl, hnot, hnone⟩ := valueIn_known hholds haround hfuel hknown
    · exact hdone
    · refine ⟨known.setIfInBounds id (some v), ?_, hknown.set hholds⟩
      unfold Objects.valueIn
      rw [hnot, if_neg Bool.false_ne_true, state_bind (get_state known), hnone, hobject]
      rfl
  | @list id ids items hid hobject hlength hitems ih =>
    intro fuel around haround hfuel known hknown
    have hholds : Holds os id (.list items) := .list hid hobject hlength hitems
    obtain hdone | ⟨fuel, rfl, hnot, hnone⟩ := valueIn_known hholds haround hfuel hknown
    · exact hdone
    · obtain ⟨known', hmembers, hknown'⟩ : ∃ known', ids.mapM (os.valueIn fuel (id :: around)) known =
          (items.map fun w => ⟨w, true⟩, known') ∧ Sound os known' := by
        refine mapM_state hlength (fun p hp known hknown => ?_) known hknown
        have hless : sizeOf p.2 < sizeOf (Value.list items) := by
          have hmem := List.sizeOf_lt_of_mem (List.of_mem_zip hp).2
          rw [Value.list.sizeOf_spec]
          omega
        exact ih p hp (haround.cons hholds hid hless) (by rw [List.length_cons]; omega) known hknown
      refine ⟨known'.setIfInBounds id (some (.list items)), ?_, hknown'.set hholds⟩
      unfold Objects.valueIn
      rw [hnot, if_neg Bool.false_ne_true, state_bind (get_state known), hnone, hobject]
      dsimp only
      rw [bind_assoc, state_bind hmembers, pure_bind, map_value, all_isFree]
      rfl
  | @map id es entries hid hobject hlength hkeys hvalues ihkeys ihvalues =>
    intro fuel around haround hfuel known hknown
    have hholds : Holds os id (.map entries) := .map hid hobject hlength hkeys hvalues
    obtain hdone | ⟨fuel, rfl, hnot, hnone⟩ := valueIn_known hholds haround hfuel hknown
    · exact hdone
    · obtain ⟨known', hmembers, hknown'⟩ : ∃ known', (es.mapM fun e : ObjectId × ObjectId => do
          return (← os.valueIn fuel (id :: around) e.1, ← os.valueIn fuel (id :: around) e.2)) known =
          (entries.map fun e => (⟨e.1, true⟩, ⟨e.2, true⟩), known') ∧ Sound os known' := by
        refine mapM_state hlength (fun p hp known hknown => ?_) known hknown
        have hless : sizeOf p.2.1 < sizeOf (Value.map entries) ∧ sizeOf p.2.2 < sizeOf (Value.map entries) := by
          obtain ⟨e, key, value⟩ := p
          have hmem := List.sizeOf_lt_of_mem (List.of_mem_zip hp).2
          rw [Prod.mk.sizeOf_spec] at hmem
          rw [Value.map.sizeOf_spec]
          dsimp only
          omega
        have hfuel' : os.size < fuel + (id :: around).length := by rw [List.length_cons]; omega
        obtain ⟨known₁, hkey, hknown₁⟩ := ihkeys p hp (haround.cons hholds hid hless.1) hfuel' known hknown
        obtain ⟨known₂, hvalue, hknown₂⟩ := ihvalues p hp (haround.cons hholds hid hless.2) hfuel' known₁ hknown₁
        refine ⟨known₂, ?_, hknown₂⟩
        rw [state_bind hkey, state_bind hvalue]
        rfl
      refine ⟨known'.setIfInBounds id (some (.map entries)), ?_, hknown'.set hholds⟩
      unfold Objects.valueIn
      rw [hnot, if_neg Bool.false_ne_true, state_bind (get_state known), hnone, hobject]
      dsimp only
      refine (state_bind hmembers _).trans ?_
      rw [pure_bind]
      have htrue : (entries.all fun _ => true) = true := List.all_eq_true.mpr fun _ _ => rfl
      simp only [List.all_map, List.map_map, Function.comp_def, Bool.and_self, htrue, if_true, Prod.mk.eta,
        List.map_id_fun', id_eq]
      rfl

/-- The value of an object is what it holds. -/
theorem value_eq {id : ObjectId} {v : Value} (h : Holds os id v) : os.value id = v := by
  have haround : Around os [] v := ⟨List.nodup_nil, nofun⟩
  have hsound : Sound os (Array.replicate os.size none) := by
    intro i w hw
    rw [Array.getD_eq_getD_getElem?, Array.getElem?_replicate] at hw
    split_ifs at hw <;> cases hw
  obtain ⟨known', hvalue, -⟩ := valueIn_eq h haround (Nat.lt_succ_self _) _ hsound
  rw [Objects.value]
  exact congrArg (fun r => r.1.value) hvalue

end Values

end LintConfig.Yaml
