import LintConfig.Proofs.Ecma.Lexing
import LintConfig.Proofs.Ecma.Traversal
import LintConfig.Style.Analysis

/-! # Nodes whose last token can be read off the text

What a tree says about semicolons and quotes is taken from the text: the character before the end of
a statement, and the first character of a literal. A tree is good if these characters tell what the
tokens are. The one doubtful place is the end of the text, where a comment may stand behind the last
token. Which literals are values of attributes is taken from the kind of the node that holds them; in
a good tree an attribute holds no other ones. -/
namespace LintConfig.Ecma
open Cursor (SemicolonBefore)
open Lexer (Quoted)

/-- The character before an offset tells whether the last token before it is a semicolon; at the
end of the text it may be something else that ends there. -/
def Told (text : List Char) (t : Token) (i : Nat) : Prop :=
  (t.isPunctuator .semicolon = true → SemicolonBefore text i) ∧
    (t.isPunctuator .semicolon = false → ¬ SemicolonBefore text i ∨ i = text.length)

namespace Node

/-- What holds of a single node, whatever is below it. -/
structure Plain (text : List Char) (n : Node) : Prop where
  /-- The end of a statement tells its last token. -/
  statement : Style.endsInSemicolon n.kind = true →
    ∃ t, n.last = some t ∧ Told text t n.span.stop
  /-- A literal is written as its one token is. -/
  literal : n.kind = .literal → ∃ t, n.last = some t ∧ n.text? "raw" = some t.raw ∧ Quoted t
  /-- Of what an attribute holds, only its value can be a literal. -/
  inAttribute : n.kind = .jsxAttribute → ∀ f ∈ n.fields, f.label ≠ "value" →
    ∀ m ∈ f.nodes, m.kind ≠ .literal

/-- The node and all nodes below it. -/
def subnodes (n : Node) : List Node := (n.preorder none).map (·.1)

def Good (text : List Char) (n : Node) : Prop := ∀ m ∈ n.subnodes, m.Plain text

theorem preorder_fst (parent : Option Kind) (n : Node) :
    (n.preorder parent).map (·.1) = n.subnodes := by
  cases n
  rfl

theorem subnodes_mk (k : Kind) (s : Span) (t : Option Token) (fields : List Field) :
    (mk k s t fields).subnodes = mk k s t fields :: (fields.flatMap Field.nodes).flatMap subnodes := by
  rw [subnodes, preorder, fieldsPreorder_eq, List.map_cons, List.map_flatMap]
  simp only [preorder_fst]

end Node

/-! ### Values that hold nodes -/

/-- The nodes that a result of the parser holds. -/
class Holds (α : Type) where
  nodes : α → List Node

instance (priority := low) noNodes {α : Type} : Holds α := ⟨fun _ => []⟩

instance : Holds Node := ⟨fun n => [n]⟩

instance : Holds Item := ⟨fun i => i.node?.toList⟩

instance : Holds Field := ⟨Field.nodes⟩

instance {α : Type} [Holds α] : Holds (List α) := ⟨fun xs => xs.flatMap Holds.nodes⟩

instance {α : Type} [Holds α] : Holds (Option α) := ⟨fun x => x.toList.flatMap Holds.nodes⟩

instance {α β : Type} [Holds α] [Holds β] : Holds (α × β) :=
  ⟨fun x => Holds.nodes x.1 ++ Holds.nodes x.2⟩

/-- The values of a type hold no nodes. -/
class Bare (α : Type) [Holds α] : Prop where
  nodes_eq : ∀ a : α, Holds.nodes a = []

instance (priority := low) {α : Type} : Bare α := ⟨fun _ => rfl⟩

instance {α : Type} [Holds α] [Bare α] : Bare (List α) :=
  ⟨fun _ => List.flatMap_eq_nil_iff.mpr fun a _ => Bare.nodes_eq a⟩

instance {α : Type} [Holds α] [Bare α] : Bare (Option α) :=
  ⟨fun _ => List.flatMap_eq_nil_iff.mpr fun a _ => Bare.nodes_eq a⟩

instance {α β : Type} [Holds α] [Holds β] [Bare α] [Bare β] : Bare (α × β) :=
  ⟨fun a => List.append_eq_nil_iff.mpr ⟨Bare.nodes_eq a.1, Bare.nodes_eq a.2⟩⟩

/-- All nodes that a value holds are good. -/
def Good {α : Type} [Holds α] (text : List Char) (a : α) : Prop :=
  ∀ n ∈ Holds.nodes a, n.Good text

namespace Good
variable {text : List Char} {α β : Type} [Holds α] [Holds β]

@[simp] theorem nil : Good text ([] : List α) := List.forall_mem_nil _

@[simp] theorem cons {a : α} {as : List α} :
    Good text (a :: as) ↔ Good text a ∧ Good text as := List.forall_mem_append

@[simp] theorem append {as bs : List α} :
    Good text (as ++ bs) ↔ Good text as ∧ Good text bs := by
  have hnodes : Holds.nodes (as ++ bs) = Holds.nodes as ++ Holds.nodes bs := List.flatMap_append
  rw [Good, hnodes, List.forall_mem_append]
  rfl

@[simp] theorem of_none : Good text (none : Option α) := List.forall_mem_nil _

@[simp] theorem of_some {a : α} : Good text (some a) ↔ Good text a := by
  have hnodes : Holds.nodes (some a) = Holds.nodes a := List.append_nil _
  rw [Good, hnodes]
  rfl

@[simp] theorem of_pair {a : α} {b : β} : Good text (a, b) ↔ Good text a ∧ Good text b :=
  List.forall_mem_append

@[simp] theorem of_bare [Bare α] (a : α) : Good text a := by
  rw [Good, Bare.nodes_eq]
  exact List.forall_mem_nil _

theorem of_mem {as : List α} {a : α} (h : Good text as) (ha : a ∈ as) : Good text a :=
  fun n hn => h n (List.mem_flatMap.mpr ⟨a, ha, hn⟩)

theorem of_forall {as : List α} (h : ∀ a ∈ as, Good text a) : Good text as := by
  intro n hn
  obtain ⟨a, ha, hn⟩ := List.mem_flatMap.mp hn
  exact h a ha n hn

theorem map {as : List α} {f : α → β} (hf : ∀ a, Good text a → Good text (f a))
    (h : Good text as) : Good text (as.map f) := by
  refine of_forall fun b hb => ?_
  obtain ⟨a, ha, rfl⟩ := List.mem_map.mp hb
  exact hf a (h.of_mem ha)

/-- A node is good if it is so by itself and all its fields are. -/
theorem mk {k : Kind} {s : Span} {t : Option Token} {fields : List Field} :
    Good text (Node.mk k s t fields) ↔ (Node.mk k s t fields).Plain text ∧ Good text fields := by
  have hnode : Good text (Node.mk k s t fields) ↔ (Node.mk k s t fields).Good text :=
    List.forall_mem_singleton
  rw [hnode, Node.Good, Node.subnodes_mk]
  constructor
  · intro h
    refine ⟨h _ List.mem_cons_self, fun n hn m hm => h m (List.mem_cons_of_mem _ ?_)⟩
    exact List.mem_flatMap.mpr ⟨n, hn, hm⟩
  · rintro ⟨hplain, h⟩ m hm
    rcases List.mem_cons.mp hm with rfl | hm
    · exact hplain
    · obtain ⟨n, hn, hm⟩ := List.mem_flatMap.mp hm
      exact h n hn m hm

/-! ### Fields -/

@[simp] theorem field_plain (l : String) (a : Atom) : Good text (Field.plain l a) :=
  List.forall_mem_nil _

@[simp] theorem field_child {l : String} {n : Node} :
    Good text (Field.child l n) ↔ Good text n := Iff.rfl

@[simp] theorem item_plain (a : Atom) : Good text (Item.plain a) :=
  List.forall_mem_nil _

@[simp] theorem item_node {n : Node} : Good text (Item.node n) ↔ Good text n := Iff.rfl

@[simp] theorem field_children {l : String} {is : List Item} :
    Good text (Field.children l is) ↔ Good text is := by
  have hnodes : Holds.nodes (Field.children l is) = Holds.nodes is := List.filterMap_eq_flatMap_toList _ _
  rw [Good, hnodes]
  rfl

end Good

end LintConfig.Ecma
