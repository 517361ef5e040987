import LintConfig.Proofs.Ecma.Traversal
import Mathlib.Data.List.Infix
import Mathlib.Data.List.Nodup

/-! # A stack of nodes comes to each position once

Trees that are alike can stand in many places of one tree, so that nodes are told apart by where they
stand: the fields, and the items in lists, that lead down to them. The roots on the stack stand in places
of which none lies below another one, and what is still to be visited is what lies below them. Both stay
true when a node is taken off and those that it holds are put on. So no place comes twice, and none
after one that lies below it. -/
namespace LintConfig.Ecma

/-- Where a node directly holds another one: in which of its fields and, if that is a list, at which
item. -/
structure Slot where
  field : Nat
  item : Option Nat
  deriving DecidableEq, Repr

/-- The node in a field, or at an item of a field that is a list. -/
def Field.node? : Field → Option Nat → Option Node
  | .child _ n, none => some n
  | .children _ items, some j => items[j]?.bind Item.node?
  | _, _ => none

/-- The slots of a field that hold nodes; it is the field of a number. -/
def Field.slots (i : Nat) : Field → List (Slot × Node)
  | .plain _ _ => []
  | .child _ n => [(⟨i, none⟩, n)]
  | .children _ items => items.zipIdx.filterMap fun (item, j) => item.node?.map (⟨i, some j⟩, ·)

namespace Node

/-- The slots that lead from the root of a tree down to a node. -/
abbrev Position := List Slot

def held? (n : Node) (s : Slot) : Option Node := n.fields[s.field]?.bind (·.node? s.item)

/-- The slots of a node that hold nodes, in the order of its fields. -/
def slots (n : Node) : List (Slot × Node) := n.fields.zipIdx.flatMap fun (f, i) => f.slots i

/-- The node at a position, with the kind of the node that holds it; `parent` is what holds the
root. -/
def visitAt? (parent : Option Kind) : Node → Position → Option Visit
  | n, [] => some (n, parent)
  | n, s :: rest => (n.held? s).bind (visitAt? (some n.kind) · rest)

/-! ### The slots of a node -/

theorem mem_fieldSlots {i : Nat} {f : Field} {s : Slot} {m : Node} :
    (s, m) ∈ f.slots i ↔ s.field = i ∧ f.node? s.item = some m := by
  obtain ⟨j, item⟩ := s
  cases f with
  | plain l a => simp [Field.slots, Field.node?]
  | child l n => cases item <;> simp [Field.slots, Field.node?, eq_comm]
  | children l items =>
    cases item with
    | none => simp [Field.slots, Field.node?]
    | some k =>
      simp only [Field.slots, Field.node?, List.mem_filterMap, Prod.exists, List.mk_mem_zipIdx_iff_getElem?,
        Option.map_eq_some_iff, Option.bind_eq_some_iff, Prod.mk.injEq, Slot.mk.injEq, Option.some.injEq]
      constructor
      · rintro ⟨held, k', hget, n, hnode, ⟨rfl, rfl⟩, rfl⟩
        exact ⟨rfl, held, hget, hnode⟩
      · rintro ⟨rfl, held, hget, hnode⟩
        exact ⟨held, k, hget, m, hnode, ⟨rfl, rfl⟩, rfl⟩

theorem mem_slots {n : Node} {s : Slot} {m : Node} : (s, m) ∈ n.slots ↔ n.held? s = some m := by
  simp only [slots, held?, List.mem_flatMap, Prod.exists, List.mk_mem_zipIdx_iff_getElem?,
    mem_fieldSlots, Option.bind_eq_some_iff]
  constructor
  · rintro ⟨f, i, hget, rfl, hnode⟩
    exact ⟨f, hget, hnode⟩
  · rintro ⟨f, hget, hnode⟩
    exact ⟨f, s.field, hget, rfl, hnode⟩

/-- Slots in different places of a list have different numbers. -/
theorem pairwise_zipIdx {α : Type} (l : List α) : l.zipIdx.Pairwise fun a b => a.2 ≠ b.2 := by
  rw [← List.pairwise_map, List.zipIdx_map_snd]
  exact List.nodup_range'

theorem pairwise_fieldSlots (i : Nat) (f : Field) : (f.slots i).Pairwise fun a b => a.1 ≠ b.1 := by
  cases f with
  | plain l a => exact .nil
  | child l n => exact List.pairwise_singleton _ _
  | children l items =>
    refine List.pairwise_filterMap.mpr ((pairwise_zipIdx items).imp ?_)
    intro e e' hne a ha b hb hsame
    obtain ⟨m, -, hm⟩ := Option.map_eq_some_iff.mp ha
    obtain ⟨m', -, hm'⟩ := Option.map_eq_some_iff.mp hb
    rw [← hm, ← hm', Slot.mk.injEq, Option.some.injEq] at hsame
    exact hne hsame.2

theorem pairwise_slots (n : Node) : n.slots.Pairwise fun a b => a.1 ≠ b.1 := by
  refine List.pairwise_flatMap.mpr ⟨fun e _ => pairwise_fieldSlots e.2 e.1, ?_⟩
  refine (pairwise_zipIdx n.fields).imp ?_
  rintro ⟨f, i⟩ ⟨f', i'⟩ hne ⟨s, m⟩ hs ⟨s', m'⟩ hs' rfl
  exact hne ((mem_fieldSlots.mp hs).1.symm.trans (mem_fieldSlots.mp hs').1)

theorem fieldSlots_map (i : Nat) (f : Field) : (f.slots i).map (·.2) = f.nodes := by
  cases f with
  | plain l a => rfl
  | child l n => rfl
  | children l items =>
    rw [Field.slots, Field.nodes, List.map_filterMap]
    nth_rewrite 2 [← List.zipIdx_map_fst 0 items]
    rw [List.filterMap_map]
    refine List.filterMap_congr fun e _ => ?_
    cases h : e.1.node? <;> simp [h]

/-- The nodes in the slots are those that a node holds. -/
theorem slots_map (n : Node) : n.slots.map (·.2) = n.nodes := by
  rw [slots, nodes, List.map_flatMap]
  nth_rewrite 2 [← List.zipIdx_map_fst 0 n.fields]
  rw [List.flatMap_map]
  exact List.flatMap_congr fun e _ => fieldSlots_map e.2 e.1

/-! ### Taking nodes off the stack -/

/-- What is visited, from a stack on, until the stack is empty: the uppermost node is taken off, and
those that it holds are put on, the last of them uppermost. -/
inductive Empties : List Visit → List Visit → Prop
  | done : Empties [] []
  | turn {v : Visit} {stack visited : List Visit}
      (rest : Empties (v.1.visitsBelow.reverse ++ stack) visited) : Empties (v :: stack) (v :: visited)

theorem Empties.unique {stack visited visited' : List Visit} (h : Empties stack visited)
    (h' : Empties stack visited') : visited = visited' := by
  induction h generalizing visited' with
  | done =>
    cases h'
    rfl
  | turn _ ih =>
    cases h' with
    | turn rest => rw [ih rest]

/-- With a visit for each node below it, a stack is emptied. -/
theorem empties_visitStack {fuel : Nat} {stack : List Visit} (hfuel : stackSize stack ≤ fuel) :
    Empties stack (visitStack fuel stack) := by
  induction fuel generalizing stack with
  | zero =>
    cases stack with
    | nil => exact .done
    | cons v stack => rw [stackSize_cons] at hfuel; omega
  | succ fuel ih =>
    cases stack with
    | nil => exact .done
    | cons v stack =>
      rw [stackSize_cons] at hfuel
      exact .turn (ih (by omega))

/-! ### Positions on the stack -/

/-- A visit with the position that it is paid to. -/
abbrev Place := Position × Visit

/-- What lies directly below a place. -/
def placesBelow (place : Place) : List Place :=
  place.2.1.slots.map fun (s, m) => (place.1 ++ [s], (m, some place.2.1.kind))

/-- A place is the other one, or lies below it. -/
def IsWithin (inner outer : Place) : Prop :=
  ∃ rest, inner.1 = outer.1 ++ rest ∧ outer.2.1.visitAt? outer.2.2 rest = some inner.2

/-- Neither of two places lies below the other one. -/
def Apart (a b : Place) : Prop := ¬ a.1 <+: b.1 ∧ ¬ b.1 <+: a.1

theorem placesBelow_map (place : Place) :
    (placesBelow place).map (·.2) = place.2.1.visitsBelow := by
  rw [placesBelow, visitsBelow, ← slots_map, List.map_map, List.map_map]
  rfl

/-- What lies within a place is the place itself, or lies within one directly below it. -/
theorem isWithin_iff {inner outer : Place} :
    IsWithin inner outer ↔ inner = outer ∨ ∃ below ∈ placesBelow outer, IsWithin inner below := by
  obtain ⟨p, n, parent⟩ := outer
  obtain ⟨q, w⟩ := inner
  constructor
  · rintro ⟨rest, rfl, hvisit⟩
    cases rest with
    | nil =>
      left
      rw [List.append_nil, Option.some.inj hvisit]
    | cons s rest =>
      right
      obtain ⟨m, hheld, hvisit⟩ := Option.bind_eq_some_iff.mp hvisit
      exact ⟨_, List.mem_map.mpr ⟨(s, m), mem_slots.mpr hheld, rfl⟩, rest, by simp, hvisit⟩
  · rintro (h | ⟨below, hbelow, rest, rfl, hvisit⟩)
    · cases h
      exact ⟨[], (List.append_nil _).symm, rfl⟩
    · obtain ⟨⟨s, m⟩, hslot, rfl⟩ := List.mem_map.mp hbelow
      exact ⟨s :: rest, by simp, Option.bind_eq_some_iff.mpr ⟨m, mem_slots.mp hslot, hvisit⟩⟩

theorem Apart.symm {a b : Place} (h : Apart a b) : Apart b a := And.symm h

/-- What lies within one of two places that are apart is apart from the other one. -/
theorem Apart.of_isWithin {a b inner : Place} (h : Apart a b) (hinner : IsWithin inner a) :
    Apart inner b := by
  obtain ⟨rest, hposition, -⟩ := hinner
  refine ⟨fun hup => ?_, fun hdown => ?_⟩
  · exact h.1 ((hposition ▸ List.prefix_append a.1 rest).trans hup)
  · rcases List.prefix_or_prefix_of_prefix hdown (hposition ▸ List.prefix_append a.1 rest) with hb | ha
    · exact h.2 hb
    · exact h.1 ha

theorem isWithin_of_below {place below : Place} (h : below ∈ placesBelow place) :
    IsWithin below place :=
  isWithin_iff.mpr (.inr ⟨below, h, [], (List.append_nil _).symm, rfl⟩)

theorem pairwise_placesBelow (place : Place) : (placesBelow place).Pairwise Apart := by
  have hsingle : ∀ (p : Position) {s s' : Slot}, s ≠ s' → ¬ p ++ [s] <+: p ++ [s'] := by
    intro p s s' hne hprefix
    rw [List.prefix_append_right_inj, List.cons_prefix_cons] at hprefix
    exact hne hprefix.1
  refine List.pairwise_map.mpr ((pairwise_slots place.2.1).imp ?_)
  intro a b hne
  exact ⟨hsingle _ hne, hsingle _ hne.symm⟩

/-- Places that are taken off and put on. -/
theorem pairwise_turn {place : Place} {stack : List Place} (h : (place :: stack).Pairwise Apart) :
    ((placesBelow place).reverse ++ stack).Pairwise Apart := by
  obtain ⟨hplace, hstack⟩ := List.pairwise_cons.mp h
  refine List.pairwise_append.mpr ⟨?_, hstack, ?_⟩
  · exact List.pairwise_reverse.mpr ((pairwise_placesBelow place).imp Apart.symm)
  · intro below hbelow other hother
    exact (hplace other hother).of_isWithin (isWithin_of_below (List.mem_reverse.mp hbelow))

/-- From places that are apart, what lies within them is visited, and no place comes after one that it
lies above, or is. -/
theorem Empties.exists_places {places : List Place} {visited : List Visit}
    (h : Empties (places.map (·.2)) visited) (happart : places.Pairwise Apart) :
    ∃ found : List Place, found.map (·.2) = visited ∧
      (∀ inner, inner ∈ found ↔ ∃ place ∈ places, IsWithin inner place) ∧
      found.Pairwise fun a b => ¬ b.1 <+: a.1 := by
  generalize hstack : places.map (·.2) = stack at h
  induction h generalizing places with
  | done =>
    rw [List.map_eq_nil_iff] at hstack
    subst hstack
    exact ⟨[], rfl, by simp, .nil⟩
  | @turn v stack visited _ ih =>
    obtain ⟨place, later, rfl, rfl, rfl⟩ := List.map_eq_cons_iff.mp hstack
    obtain ⟨hplace, -⟩ := List.pairwise_cons.mp happart
    obtain ⟨found, hfound, hmem, horder⟩ := ih (pairwise_turn happart)
      (by rw [List.map_append, List.map_reverse, placesBelow_map])
    refine ⟨place :: found, by rw [List.map_cons, hfound], fun inner => ?_, ?_⟩
    · simp only [List.mem_cons, hmem, List.mem_append, List.mem_reverse, or_and_right, exists_or,
        exists_eq_left, @isWithin_iff _ place, or_assoc]
    · refine List.pairwise_cons.mpr ⟨fun inner hinner hup => ?_, horder⟩
      obtain ⟨outer, houter, hwithin⟩ := (hmem inner).mp hinner
      rcases List.mem_append.mp houter with hbelow | hlater
      · obtain ⟨⟨s, m⟩, -, rfl⟩ := List.mem_map.mp (List.mem_reverse.mp hbelow)
        obtain ⟨rest, hposition, -⟩ := hwithin
        have hlength := hup.length_le
        rw [hposition] at hlength
        simp only [List.length_append, List.length_singleton] at hlength
        omega
      · exact ((hplace outer hlater).symm.of_isWithin hwithin).1 hup

/-- The stack is emptied in one way. Every node of the tree is visited at each position that it has,
with the kind of the node that holds it there, and at no other; no position comes twice, or after one
that lies below it. So the visits are those of plain recursion, in another order. -/
theorem visits_once (tree : Node) :
    (∀ visited, Empties [(tree, none)] visited ↔ visited = tree.visits) ∧
    tree.visits.Perm (tree.preorder none) ∧
    ∃ positions : List Position,
      List.Forall₂ (fun p v => tree.visitAt? none p = some v) positions tree.visits ∧
      (∀ p, p ∈ positions ↔ (tree.visitAt? none p).isSome) ∧ positions.Nodup ∧
      positions.Pairwise fun earlier later => ¬ later <+: earlier := by
  have hempties : Empties [(tree, none)] tree.visits := empties_visitStack (by simp [stackSize])
  obtain ⟨found, hfound, hmem, horder⟩ :=
    @Empties.exists_places [([], (tree, none))] _ hempties (List.pairwise_singleton _ _)
  have hat : ∀ place, place ∈ found ↔ tree.visitAt? none place.1 = some place.2 := by
    intro place
    simp [hmem, IsWithin]
  refine ⟨fun visited => ⟨fun h => h.unique hempties, fun h => h ▸ hempties⟩, visits_perm tree,
    found.map (·.1), ?_, fun p => ?_, ?_, List.pairwise_map.mpr horder⟩
  · rw [← hfound, List.forall₂_map_left_iff, List.forall₂_map_right_iff, List.forall₂_same]
    exact fun place hplace => (hat place).mp hplace
  · rw [List.mem_map, Option.isSome_iff_exists]
    constructor
    · rintro ⟨place, hplace, rfl⟩
      exact ⟨_, (hat place).mp hplace⟩
    · rintro ⟨v, hv⟩
      exact ⟨(p, v), (hat (p, v)).mpr hv, rfl⟩
  · refine List.pairwise_map.mpr (horder.imp ?_)
    intro a b hnot hsame
    exact hnot (hsame ▸ List.prefix_rfl)

end Node

end LintConfig.Ecma
