import LintConfig.Proofs.Ecma.Steps

/-! # Nodes and repetitions

A node is good if the stage at its end says enough about its last token. Repetitions and changes of
the context lead wherever the steps within them do. -/
namespace LintConfig.Ecma

namespace Good
variable {text : List Char}

@[simp] theorem many {l : String} {ns : List Node} :
    Good text (Parser.many l ns) ↔ Good text ns := by
  simp [Parser.many, Good, Holds.nodes, Field.nodes, Item.node?]

@[simp] theorem optional {l : String} {n : Option Node} :
    Good text (Parser.optional l n) ↔ Good text n := by
  cases n <;> simp [Parser.optional]

@[simp] theorem child {l : String} {n : Node} : Good text (Parser.field l n) ↔ Good text n :=
  Iff.rfl

@[simp] theorem flag (l : String) (b : Bool) : Good text (Parser.flag l b) := by
  simp [Parser.flag]

@[simp] theorem text_field (l s : String) : Good text (Parser.text l s) := by
  simp [Parser.text]

end Good

/-- Nodes of these kinds are good whatever they end with. -/
def Kind.isPlain (k : Kind) : Bool :=
  !Style.endsInSemicolon k && k != .literal && k != .jsxAttribute

theorem Kind.plain_of_isPlain {text : List Char} {k : Kind} (hk : k.isPlain = true) {s : Span}
    {t : Option Token} {fields : List Field} : (Node.mk k s t fields).Plain text := by
  simp only [Kind.isPlain, Bool.and_eq_true, Bool.not_eq_true', bne_iff_ne, ne_eq] at hk
  obtain ⟨⟨hstatement, hliteral⟩, hattribute⟩ := hk
  refine ⟨fun h => ?_, fun h => absurd h hliteral, fun h => absurd h hattribute⟩
  rw [Node.kind, hstatement] at h
  contradiction

namespace Parser
open Lexer (Quoted)

variable {text : List Char} {α β : Type} [Holds α] [Holds β]
variable {σ υ ρ : Stage} {τ : α → Stage} {p : Parse α} {start : Nat}

/-! ### Nodes -/

theorem finish_ok {s s' : State} {k : Kind} {fields : List Field} {n : Node} :
    finish start k fields s = .ok (n, s') ↔
      Node.mk k ⟨start, s.lastStop⟩ s.last fields = n ∧ s = s' := by
  refine bind_ok.trans ⟨?_, fun h => ⟨s, s, rfl, pure_ok.mpr h⟩⟩
  rintro ⟨a, s₁, h₁, h⟩
  obtain ⟨rfl, rfl⟩ := get_ok.mp h₁
  exact pure_ok.mp h

theorem finish_gives {P : Node → Prop} {k : Kind} {fields : List Field}
    (h : ∀ {span t}, P (Node.mk k span t fields)) : Gives P (finish start k fields) := by
  intro s n s' hn
  obtain ⟨rfl, -⟩ := finish_ok.mp hn
  exact h

theorem finish_plain {k : Kind} {fields : List Field} (hfields : Good text fields)
    (hk : k.isPlain = true) :
    Leads text σ (finish start k fields) fun _ => σ := by
  intro s n s' hs hn
  obtain ⟨rfl, rfl⟩ := finish_ok.mp hn
  exact ⟨Good.mk.mpr ⟨Kind.plain_of_isPlain hk, hfields⟩, hs⟩

theorem finish_statement [σ.Implies .begun] {k : Kind} {fields : List Field}
    (hfields : Good text fields) (hk : k ≠ .literal ∧ k ≠ .jsxAttribute) :
    Leads text σ (finish start k fields) fun _ => σ := by
  intro s n s' hs hn
  obtain ⟨rfl, rfl⟩ := finish_ok.mp hn
  exact ⟨Good.mk.mpr ⟨⟨fun _ => hs.consumed, fun h => absurd h hk.1, fun h => absurd h hk.2⟩,
    hfields⟩, hs⟩

theorem identifier_leads {name : String} :
    Leads text σ (identifier start name) fun _ => σ :=
  finish_plain (by simp) rfl

/-- A literal is good right behind its token. -/
theorem finish_literal {t : Token} {value : Atom} :
    Leads text (.behind t)
      (finish start .literal [.plain "value" value, Parser.text "raw" t.raw])
      fun _ => .behind t := by
  intro s n s' hs hn
  obtain ⟨rfl, rfl⟩ := finish_ok.mp hn
  obtain ⟨hreads, hlast, hquoted⟩ := hs
  exact ⟨Good.mk.mpr ⟨⟨nofun, fun _ => ⟨t, hlast, rfl, hquoted⟩, nofun⟩, by simp⟩,
    hreads, hlast, hquoted⟩

theorem literal_leads {t : Token} :
    Leads text (.behind t) (literal start t) fun _ => .behind t := by
  unfold literal
  dsimp only
  split
  · exact finish_literal
  · exact finish_literal

/-! ### Repetitions -/

theorem untilDone_leads [σ.Implies ρ] [υ.Implies σ] {done : Parse Bool} {item : Parse α}
    (hdone : Looks text done) (hitem : Leads text ρ item fun _ => υ) (fuel : Nat) :
    Leads text σ (untilDone done item fuel) fun _ => σ := by
  induction fuel with
  | zero => exact tooDeep_fails.leads
  | succ fuel ih =>
    unfold untilDone
    refine hdone.bind fun b _ => .ite (fun _ => ?_) fun _ => ?_
    · exact .pure (by simp)
    · exact hitem.bind fun x hx => ih.bind fun xs hxs => .pure (by simp [hx, hxs])

/-- A list of items each of which can end with a semicolon. -/
theorem untilDone_goes {done : Parse Bool} {item : Parse α} (hdone : Looks text done)
    (hitem : Goes text item) (fuel : Nat) :
    Leads text .reading (untilDone done item fuel) fun _ => .reading :=
  untilDone_leads hdone hitem fuel

/-- A list of items none of which ends with a semicolon, behind something else that does not. -/
theorem untilDone_ends {done : Parse Bool} {item : Parse α} (hdone : Looks text done)
    (hitem : Ends text item) (fuel : Nat) :
    Leads text .ended (untilDone done item fuel) fun _ => .ended :=
  untilDone_leads hdone hitem fuel

theorem iterate_leads {step : α → Parse (Option α)}
    (hstep : ∀ x, Good text x → Leads text σ (step x) fun _ => σ) (fuel : Nat) {x : α}
    (hx : Good text x) : Leads text σ (iterate step fuel x) fun _ => σ := by
  induction fuel generalizing x with
  | zero => exact tooDeep_fails.leads
  | succ fuel ih =>
    unfold iterate
    intro s a s' hs ha
    obtain ⟨y, s₁, hy, ha⟩ := bind_ok.mp ha
    obtain ⟨hgood, hs₁⟩ := hstep x hx hs hy
    cases y with
    | none =>
      obtain ⟨rfl, rfl⟩ := pure_ok.mp ha
      exact ⟨hx, hs₁⟩
    | some y => exact ih (Good.of_some.mp hgood) hs₁ ha

/-- A mark that has to follow unless another does. -/
theorem Leads.separated {p q : Punctuator} {k : Unit → Parse α} (hk : Leads text .ended (k ()) τ)
    (hp : p ≠ .semicolon) :
    Leads text .ended
      (sees q >>= fun b => if b = true then k () else expect p >>= k) τ :=
  (sees_looks q).bind fun _ _ => .ite (fun _ => hk) fun _ => (expect_ends p hp).bind fun _ _ => hk

/-! ### Changes of the context -/

theorem isolated_leads (hp : Leads text σ p τ) : Leads text σ (isolated p) τ := by
  refine context_looks.bind fun before _ => (modifyContext_looks _).bind fun _ _ => ?_
  refine hp.andThen fun x hx => context_looks.bind fun c _ => ?_
  split
  · exact (unexpected_fails _).leads
  · exact (modifyContext_looks _).bind fun _ _ => .pure hx

theorem inherited_leads (hp : Leads text σ p τ) : Leads text σ (inherited p) τ :=
  context_looks.bind fun _ _ => (modifyContext_looks _).bind fun _ _ =>
    hp.andThen fun _ hx => (modifyContext_looks _).bind fun _ _ => .pure hx

theorem withFunctionContext_leads (hp : Leads text σ p τ) :
    Leads text σ (withFunctionContext p) τ :=
  context_looks.bind fun _ _ =>
    hp.andThen fun _ hx => (modifyContext_looks _).bind fun _ _ => .pure hx

theorem insideLoop_leads (hp : Leads text σ p τ) : Leads text σ (insideLoop p) τ :=
  context_looks.bind fun _ _ => (modifyContext_looks _).bind fun _ _ =>
    hp.andThen fun _ hx => (modifyContext_looks _).bind fun _ _ => .pure hx

theorem withoutIn_leads (hp : Leads text σ p τ) : Leads text σ (withoutIn p) τ :=
  context_looks.bind fun _ _ => (modifyContext_looks _).bind fun _ _ =>
    hp.andThen fun _ hx => (modifyContext_looks _).bind fun _ _ => .pure hx

theorem collecting_leads (hp : Leads text σ p τ) :
    Leads text σ (collecting p) fun x => τ x.1 :=
  get_looks.bind fun _ _ => (modify_looks (by intro; rfl)).bind fun _ _ =>
    hp.andThen fun _ hx => get_looks.bind fun _ _ => (modify_looks (by intro; rfl)).bind fun _ _ =>
      .pure (by simp [hx])

theorem discarding_leads (hp : Leads text σ p τ) : Leads text σ (discarding p) τ :=
  (collecting_leads hp).andThen fun _ hx => .pure (Good.of_pair.mp hx).1

/-! ### The grammar's recursion -/

/-- Where a nonterminal is read from. -/
def Rule.before : Rule → Stage
  | .markupElement => .tag
  | _ => .reading

/-- What is known after a nonterminal. Statements can end with a semicolon, nothing else can. -/
def Rule.after : Rule → Stage
  | .statement | .statementItem => .begun
  | .markupElement => .tagEnded
  | _ => .ended

/-- Each nonterminal of a grammar gives good nodes. -/
def Sound (text : List Char) (g : Grammar) : Prop :=
  ∀ rule, Leads text rule.before (g rule) fun _ => rule.after

namespace Sound
variable {g : Grammar}

theorem expression (hg : Sound text g) : Ends text (g .expression) := hg .expression

theorem assignment (hg : Sound text g) : Ends text (g .assignment) := hg .assignment

theorem member (hg : Sound text g) : Ends text (g .member) := hg .member

theorem unary (hg : Sound text g) : Ends text (g .unary) := hg .unary

theorem exponentiation (hg : Sound text g) : Ends text (g .exponentiation) := hg .exponentiation

theorem call (hg : Sound text g) : Ends text (g .call) := hg .call

theorem pattern (hg : Sound text g) (kind : BindingKind) : Ends text (g (.pattern kind)) := hg (.pattern kind)

theorem functionBody (hg : Sound text g) : Ends text (g .functionBody) := hg .functionBody

theorem statement (hg : Sound text g) : Goes text (g .statement) := hg .statement

theorem statementItem (hg : Sound text g) : Goes text (g .statementItem) := hg .statementItem

theorem markupElement (hg : Sound text g) :
    Leads text .tag (g .markupElement) fun _ => .tagEnded := hg .markupElement

end Sound

end Parser

end LintConfig.Ecma
