import LintConfig.Ecma.Traversal
import Mathlib.Algebra.Ring.Nat
import Mathlib.Data.List.Perm.Basic

/-! # A stack of nodes visits the whole tree

What is on the stack are the roots of the trees that are not visited yet, so the visits still to
come are those of plain recursion, in another order. The fuel that is needed is the number of nodes
in these trees. Plain recursion can also tell which field holds a node. -/
namespace LintConfig.Ecma.Node

/-! ### Plain recursion, level by level -/

theorem itemsPreorder_eq (parent : Kind) (items : List Item) :
    itemsPreorder parent items = (items.filterMap Item.node?).flatMap (preorder (some parent)) := by
  induction items with
  | nil => rfl
  | cons i items ih =>
    cases i with
    | plain a => rw [itemsPreorder, ih]; rfl
    | node n => simp [itemsPreorder, Item.node?, ih]

theorem fieldsPreorder_eq (parent : Kind) (fields : List Field) :
    fieldsPreorder parent fields =
      (fields.flatMap Field.nodes).flatMap (preorder (some parent)) := by
  induction fields with
  | nil => rfl
  | cons f fields ih =>
    cases f with
    | plain l a => simpa [fieldsPreorder, Field.nodes] using ih
    | child l n => simp [fieldsPreorder, Field.nodes, ih]
    | children l items => simp [fieldsPreorder, Field.nodes, ih, itemsPreorder_eq]

/-- A tree is its root and the trees below it. -/
theorem preorder_eq (parent : Option Kind) (n : Node) :
    n.preorder parent = (n, parent) :: n.visitsBelow.flatMap fun v => v.1.preorder v.2 := by
  cases n with
  | mk k s t fields =>
    rw [preorder, fieldsPreorder_eq, visitsBelow, List.flatMap_map]
    rfl

theorem itemsSize_eq (items : List Item) :
    itemsSize items = ((items.filterMap Item.node?).map size).sum := by
  induction items with
  | nil => rfl
  | cons i items ih =>
    cases i with
    | plain a => rw [itemsSize, ih]; rfl
    | node n => simp [itemsSize, Item.node?, ih]

theorem fieldsSize_eq (fields : List Field) :
    fieldsSize fields = ((fields.flatMap Field.nodes).map size).sum := by
  induction fields with
  | nil => rfl
  | cons f fields ih =>
    cases f with
    | plain l a => simpa [fieldsSize, Field.nodes] using ih
    | child l n => simp [fieldsSize, Field.nodes, ih]
    | children l items => simp [fieldsSize, Field.nodes, ih, itemsSize_eq]

/-- How many nodes the trees have whose roots are on a stack. -/
def stackSize (stack : List Visit) : Nat := (stack.map fun v => v.1.size).sum

theorem stackSize_append (stack below : List Visit) :
    stackSize (stack ++ below) = stackSize stack + stackSize below := by
  simp [stackSize]

theorem size_eq (n : Node) : n.size = stackSize n.visitsBelow.reverse + 1 := by
  obtain ⟨k, s, t, fields⟩ := n
  have hbelow : stackSize (mk k s t fields).visitsBelow.reverse =
      ((fields.flatMap Field.nodes).map size).sum := by
    simp [stackSize, visitsBelow, nodes, Node.fields, Function.comp_def]
  rw [hbelow, size, fieldsSize_eq, Nat.add_comm]

/-- A visit takes one node off the stack. -/
theorem stackSize_cons (v : Visit) (stack : List Visit) :
    stackSize (v :: stack) = stackSize (v.1.visitsBelow.reverse ++ stack) + 1 := by
  have hcons : stackSize (v :: stack) = v.1.size + stackSize stack := by simp [stackSize]
  rw [hcons, size_eq, stackSize_append]
  omega

/-! ### The stack -/

/-- With a visit for each node, the trees on a stack are visited as plain recursion visits them, but
in another order. -/
theorem visitStack_perm {fuel : Nat} {stack : List Visit} (hfuel : stackSize stack ≤ fuel) :
    (visitStack fuel stack).Perm (stack.flatMap fun v => v.1.preorder v.2) := by
  induction fuel generalizing stack with
  | zero =>
    cases stack with
    | nil => exact .refl _
    | cons v stack => rw [stackSize_cons] at hfuel; omega
  | succ fuel ih =>
    cases stack with
    | nil => exact .refl _
    | cons v stack =>
      have hrest : stackSize (v.1.visitsBelow.reverse ++ stack) ≤ fuel := by
        rw [stackSize_cons] at hfuel
        omega
      rw [visitStack, List.flatMap_cons, preorder_eq, List.cons_append]
      refine .cons v ((ih hrest).trans ?_)
      rw [List.flatMap_append]
      exact ((List.reverse_perm _).flatMap_right _).append_right _

theorem visits_perm (tree : Node) : tree.visits.Perm (tree.preorder none) := by
  have hfuel : stackSize [(tree, none)] ≤ tree.size := by simp [stackSize]
  simpa [visits] using visitStack_perm hfuel

/-! ### Which field holds a node -/

/-- The kind of the node that holds another one, and the label of the field it does so in. -/
abbrev Holder := Kind × String

mutual

/-- All nodes of a tree, each with what holds it. -/
def occurrences (holder : Option Holder) : Node → List (Node × Option Holder)
  | .mk kind span last fields =>
    (.mk kind span last fields, holder) :: fieldsOccurrences kind fields

def fieldsOccurrences (kind : Kind) : List Field → List (Node × Option Holder)
  | [] => []
  | .plain _ _ :: rest => fieldsOccurrences kind rest
  | .child l n :: rest => occurrences (some (kind, l)) n ++ fieldsOccurrences kind rest
  | .children l items :: rest => itemsOccurrences (kind, l) items ++ fieldsOccurrences kind rest

def itemsOccurrences (holder : Holder) : List Item → List (Node × Option Holder)
  | [] => []
  | .plain _ :: rest => itemsOccurrences holder rest
  | .node n :: rest => occurrences (some holder) n ++ itemsOccurrences holder rest

end

/-- An occurrence without the label. -/
def visitOf (o : Node × Option Holder) : Visit := (o.1, o.2.map (·.1))

mutual

theorem occurrences_map (holder : Option Holder) :
    (n : Node) → (n.occurrences holder).map visitOf = n.preorder (holder.map (·.1))
  | .mk kind span last fields => by
    rw [occurrences, preorder, List.map_cons, fieldsOccurrences_map]
    rfl

theorem fieldsOccurrences_map (kind : Kind) :
    (fields : List Field) → (fieldsOccurrences kind fields).map visitOf = fieldsPreorder kind fields
  | [] => rfl
  | .plain _ _ :: rest => by
    rw [fieldsOccurrences, fieldsPreorder, fieldsOccurrences_map kind rest]
  | .child l n :: rest => by
    rw [fieldsOccurrences, fieldsPreorder, List.map_append, occurrences_map (some (kind, l)) n,
      fieldsOccurrences_map kind rest]
    rfl
  | .children l items :: rest => by
    rw [fieldsOccurrences, fieldsPreorder, List.map_append, itemsOccurrences_map (kind, l) items,
      fieldsOccurrences_map kind rest]

theorem itemsOccurrences_map (holder : Holder) :
    (items : List Item) → (itemsOccurrences holder items).map visitOf = itemsPreorder holder.1 items
  | [] => rfl
  | .plain _ :: rest => by
    rw [itemsOccurrences, itemsPreorder, itemsOccurrences_map holder rest]
  | .node n :: rest => by
    rw [itemsOccurrences, itemsPreorder, List.map_append, occurrences_map (some holder) n,
      itemsOccurrences_map holder rest]
    rfl

end

/-- The visits of a tree are its occurrences, in another order. -/
theorem visits_perm_occurrences (tree : Node) :
    tree.visits.Perm ((tree.occurrences none).map visitOf) := by
  rw [occurrences_map]
  exact visits_perm tree

theorem mem_preorder_of_mem_occurrences {tree : Node} {o : Node × Option Holder}
    (h : o ∈ tree.occurrences none) : visitOf o ∈ tree.preorder none := by
  have hmap := occurrences_map none tree
  rw [Option.map_none] at hmap
  rw [← hmap]
  exact List.mem_map_of_mem h

/-- One of the nodes in a list holds a node in the field that is told. -/
def HeldBy (os : List (Node × Option Holder)) (o : Node × Option Holder) : Prop :=
  ∃ m h f, (m, h) ∈ os ∧ f ∈ m.fields ∧ o.1 ∈ f.nodes ∧ o.2 = some (m.kind, f.label)

theorem HeldBy.mono {os os' : List (Node × Option Holder)} {o : Node × Option Holder}
    (h : HeldBy os o) (hos : os ⊆ os') : HeldBy os' o := by
  obtain ⟨m, hm, f, hmem, hf⟩ := h
  exact ⟨m, hm, f, hos hmem, hf⟩

mutual

/-- What an occurrence tells of its holder is true: below the root there is a node of that kind, and
it holds the node in a field of that label. -/
theorem heldBy_of_mem_occurrences (holder : Option Holder) :
    (n : Node) → ∀ o ∈ n.occurrences holder, o = (n, holder) ∨ HeldBy (n.occurrences holder) o
  | .mk kind span last fields, o, ho => by
    rw [occurrences] at ho ⊢
    rcases List.mem_cons.mp ho with rfl | ho
    · exact .inl rfl
    · right
      rcases heldBy_of_mem_fieldsOccurrences kind fields o ho with ⟨f, hf, hnode, hholder⟩ | h
      · exact ⟨_, _, f, List.mem_cons_self, hf, hnode, hholder⟩
      · exact h.mono (List.subset_cons_self _ _)

theorem heldBy_of_mem_fieldsOccurrences (kind : Kind) :
    (fields : List Field) → ∀ o ∈ fieldsOccurrences kind fields,
      (∃ f ∈ fields, o.1 ∈ f.nodes ∧ o.2 = some (kind, f.label)) ∨
        HeldBy (fieldsOccurrences kind fields) o
  | [], o, ho => absurd ho List.not_mem_nil
  | .plain _ _ :: rest, o, ho => by
    rw [fieldsOccurrences] at ho ⊢
    rcases heldBy_of_mem_fieldsOccurrences kind rest o ho with ⟨f, hf, h⟩ | h
    · exact .inl ⟨f, List.mem_cons_of_mem _ hf, h⟩
    · exact .inr h
  | .child l n :: rest, o, ho => by
    rw [fieldsOccurrences] at ho ⊢
    rcases List.mem_append.mp ho with ho | ho
    · rcases heldBy_of_mem_occurrences (some (kind, l)) n o ho with rfl | h
      · exact .inl ⟨_, List.mem_cons_self, List.mem_singleton.mpr rfl, rfl⟩
      · exact .inr (h.mono (List.subset_append_left _ _))
    · rcases heldBy_of_mem_fieldsOccurrences kind rest o ho with ⟨f, hf, h⟩ | h
      · exact .inl ⟨f, List.mem_cons_of_mem _ hf, h⟩
      · exact .inr (h.mono (List.subset_append_right _ _))
  | .children l items :: rest, o, ho => by
    rw [fieldsOccurrences] at ho ⊢
    rcases List.mem_append.mp ho with ho | ho
    · rcases heldBy_of_mem_itemsOccurrences (kind, l) items o ho with ⟨hnode, hholder⟩ | h
      · exact .inl ⟨_, List.mem_cons_self, hnode, hholder⟩
      · exact .inr (h.mono (List.subset_append_left _ _))
    · rcases heldBy_of_mem_fieldsOccurrences kind rest o ho with ⟨f, hf, h⟩ | h
      · exact .inl ⟨f, List.mem_cons_of_mem _ hf, h⟩
      · exact .inr (h.mono (List.subset_append_right _ _))

theorem heldBy_of_mem_itemsOccurrences (holder : Holder) :
    (items : List Item) → ∀ o ∈ itemsOccurrences holder items,
      (o.1 ∈ items.filterMap Item.node? ∧ o.2 = some holder) ∨
        HeldBy (itemsOccurrences holder items) o
  | [], o, ho => absurd ho List.not_mem_nil
  | .plain _ :: rest, o, ho => by
    rw [itemsOccurrences] at ho ⊢
    exact heldBy_of_mem_itemsOccurrences holder rest o ho
  | .node n :: rest, o, ho => by
    rw [itemsOccurrences] at ho ⊢
    rcases List.mem_append.mp ho with ho | ho
    · rcases heldBy_of_mem_occurrences (some holder) n o ho with rfl | h
      · exact .inl ⟨List.mem_cons_self, rfl⟩
      · exact .inr (h.mono (List.subset_append_left _ _))
    · rcases heldBy_of_mem_itemsOccurrences holder rest o ho with ⟨hnode, hholder⟩ | h
      · exact .inl ⟨List.mem_cons_of_mem _ hnode, hholder⟩
      · exact .inr (h.mono (List.subset_append_right _ _))

end

end LintConfig.Ecma.Node
