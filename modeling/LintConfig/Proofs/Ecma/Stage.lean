import LintConfig.Ecma.Parser
import LintConfig.Proofs.Ecma.Good

/-! # Stages of a parse

Between its steps the parser stands at a place of the text, with one token read in advance. What is
known of the last token that it consumed is the stage of the parse: nothing, that there is one, or
that it is no semicolon. Each step of the grammar starts from one stage and, if it succeeds, ends at
another with good nodes as its result; how the steps are put together decides which. -/
namespace LintConfig.Ecma.Parser
open Cursor (At SemicolonBefore)
open Lexer (Lexes Quoted)

/-- What a state tells about the tokens around the cursor. -/
structure Place where
  cursor : Cursor
  start : Cursor
  lookahead : Token
  lastStop : Nat
  last : Option Token

def State.place (s : State) : Place := ⟨s.cursor, s.start, s.lookahead, s.lastStop, s.last⟩

/-- The lookahead is read, and the end of the last token before it tells which token that is. -/
structure Reads (text : List Char) (p : Place) : Prop where
  start : At text p.start
  lexes : Lexes p.start p.lookahead p.cursor
  last : ∀ t, p.last = some t → Told text t p.lastStop
  /-- Between the last token and the lookahead only a comment at the end ends with a semicolon. -/
  gap : SemicolonBefore text p.start.index →
    p.start.index = text.length ∨ p.start.index = p.lastStop

/-- What is known at a place. Inside of a tag there is no lookahead, and the last token ends at the
cursor. -/
inductive Stage
  | reading
  /-- Some token has been consumed. -/
  | begun
  /-- The last token is no semicolon. -/
  | ended
  | behind (t : Token)
  | facing (t : Token)
  | tag
  /-- In a tag or between two, the last token being no semicolon. -/
  | tagBegun
  /-- In a tag, at the end of a token that is no semicolon. -/
  | tagEnded
  | tagBehind (t : Token)

namespace Stage

def Holds (text : List Char) : Stage → Place → Prop
  | reading, p => Reads text p
  | begun, p => Reads text p ∧ p.last.isSome = true
  | ended, p => Reads text p ∧ ∃ t, p.last = some t ∧ t.isPunctuator .semicolon = false
  | behind t, p => Reads text p ∧ p.last = some t ∧ Quoted t
  | facing t, p => Reads text p ∧ p.lookahead = t
  | tag, p => At text p.cursor
  | tagBegun, p => At text p.cursor ∧ ∃ t, p.last = some t ∧ t.isPunctuator .semicolon = false
  | tagEnded, p => At text p.cursor ∧ ∃ t, p.last = some t ∧
      t.isPunctuator .semicolon = false ∧ Told text t p.cursor.index
  | tagBehind t, p => At text p.cursor ∧ p.last = some t ∧ Quoted t ∧
      (t.isPunctuator .semicolon = false → Told text t p.cursor.index)

/-- One stage says at least what the other does, whatever the tokens are. -/
class Implies (σ τ : Stage) : Prop where
  mono : ∀ {text : List Char} {p : Place}, σ.Holds text p → τ.Holds text p

variable {text : List Char} {σ τ : Stage} {p : Place} {t : Token}

theorem Holds.mono [σ.Implies τ] (h : σ.Holds text p) : τ.Holds text p := Implies.mono h

instance : σ.Implies σ := ⟨id⟩

instance : begun.Implies reading := ⟨And.left⟩

instance : ended.Implies reading := ⟨And.left⟩

instance : ended.Implies begun := ⟨fun ⟨hreads, _, ht, _⟩ => ⟨hreads, by simp [ht]⟩⟩

instance : (behind t).Implies reading := ⟨And.left⟩

instance : (behind t).Implies begun := ⟨fun ⟨hreads, ht, _⟩ => ⟨hreads, by simp [ht]⟩⟩

instance : (facing t).Implies reading := ⟨And.left⟩

instance : tagBegun.Implies tag := ⟨And.left⟩

instance : tagEnded.Implies tag := ⟨And.left⟩

instance : tagEnded.Implies tagBegun := ⟨fun ⟨hat, t, ht, hne, _⟩ => ⟨hat, t, ht, hne⟩⟩

instance : (tagBehind t).Implies tag := ⟨And.left⟩

instance {υ : Stage} {b : Bool} [σ.Implies υ] [τ.Implies υ] : (bif b then σ else τ).Implies υ :=
  match b with
  | true => inferInstanceAs (σ.Implies υ)
  | false => inferInstanceAs (τ.Implies υ)

theorem Holds.reads [σ.Implies reading] (h : σ.Holds text p) : Reads text p :=
  h.mono (τ := reading)

theorem Holds.consumed [σ.Implies begun] (h : σ.Holds text p) :
    ∃ t, p.last = some t ∧ Told text t p.lastStop := by
  obtain ⟨hreads, hlast⟩ := h.mono (τ := begun)
  obtain ⟨t, ht⟩ := Option.isSome_iff_exists.mp hlast
  exact ⟨t, ht, hreads.last t ht⟩

theorem Holds.ended_of_behind (h : (behind t).Holds text p)
    (ht : t.isPunctuator .semicolon = false) : ended.Holds text p :=
  ⟨h.1, t, h.2.1, ht⟩

theorem Holds.tagEnded_of_tagBehind (h : (tagBehind t).Holds text p)
    (ht : t.isPunctuator .semicolon = false) : tagEnded.Holds text p :=
  ⟨h.1, t, h.2.1, ht, h.2.2.2 ht⟩

end Stage

/-! ### Steps -/

/-- From one stage a step leads to another if it succeeds, which can depend on its result, and its
result is good. -/
def Leads {α : Type} [Holds α] (text : List Char) (σ : Stage) (p : Parse α) (τ : α → Stage) : Prop :=
  ∀ ⦃s a s'⦄, σ.Holds text s.place → p s = .ok (a, s') → Good text a ∧ (τ a).Holds text s'.place

/-- A step that stays where it is. -/
def Looks {α : Type} [Holds α] (text : List Char) (p : Parse α) : Prop :=
  ∀ ⦃s a s'⦄, p s = .ok (a, s') → Good text a ∧ s'.place = s.place

/-- A step that never succeeds. -/
def Fails {α : Type} (p : Parse α) : Prop := ∀ s r, p s ≠ .ok r

/-- A step whose result has a property, from whatever stage it starts. -/
def Gives {α : Type} (P : α → Prop) (p : Parse α) : Prop := ∀ ⦃s a s'⦄, p s = .ok (a, s') → P a

/-- A part of the grammar that consumes tokens, the last of which is no semicolon. -/
abbrev Ends {α : Type} [Holds α] (text : List Char) (p : Parse α) : Prop :=
  Leads text .reading p fun _ => .ended

/-- A part of the grammar that consumes tokens. -/
abbrev Goes {α : Type} [Holds α] (text : List Char) (p : Parse α) : Prop :=
  Leads text .reading p fun _ => .begun

theorem bind_ok {α β : Type} {p : Parse α} {k : α → Parse β} {s s' : State} {b : β} :
    (p >>= k) s = .ok (b, s') ↔ ∃ a t, p s = .ok (a, t) ∧ k a t = .ok (b, s') := by
  show Except.bind (p s) _ = _ ↔ _
  cases p s with
  | error e => exact ⟨nofun, fun ⟨_, _, h, _⟩ => nomatch h⟩
  | ok r =>
    constructor
    · exact fun h => ⟨r.1, r.2, rfl, h⟩
    · rintro ⟨a, t, ⟨⟩, h⟩
      exact h

section
variable {text : List Char} {α β : Type} [Holds α] [Holds β]
variable {σ σ' : Stage} {τ : α → Stage} {τ' : β → Stage}
variable {p : Parse α} {k : α → Parse β} {c : Prop} [Decidable c] {x y : Parse α}

/-! ### Putting steps together -/

theorem Leads.andThen (hp : Leads text σ p τ)
    (hk : ∀ a, Good text a → Leads text (τ a) (k a) τ') : Leads text σ (p >>= k) τ' := by
  intro s b s' hs hb
  obtain ⟨a, t, ha, hb⟩ := bind_ok.mp hb
  obtain ⟨hgood, ht⟩ := hp hs ha
  exact hk a hgood ht hb

theorem Leads.bind [σ.Implies σ'] (hp : Leads text σ' p τ)
    (hk : ∀ a, Good text a → Leads text (τ a) (k a) τ') : Leads text σ (p >>= k) τ' :=
  Leads.andThen (fun _ _ _ hs ha => hp hs.mono ha) hk

/-- After a step whose result has a property wherever it starts. -/
theorem Leads.knowing {P : α → Prop} (hp : Leads text σ p τ) (hP : Gives P p)
    (hk : ∀ a, Good text a → P a → Leads text (τ a) (k a) τ') : Leads text σ (p >>= k) τ' := by
  intro s b s' hs hb
  obtain ⟨a, t, ha, hb⟩ := bind_ok.mp hb
  obtain ⟨hgood, ht⟩ := hp hs ha
  exact hk a hgood (hP ha) ht hb

theorem Leads.pure {a : α} [σ.Implies (τ a)] (ha : Good text a) :
    Leads text σ (Pure.pure a) τ := by
  intro s b s' hs hb
  cases hb
  exact ⟨ha, hs.mono⟩

/-- Going on with a result that is there already. -/
theorem Leads.returning {γ : Type} {a : γ} {k : γ → Parse β} (hk : Leads text σ (k a) τ') :
    Leads text σ (Pure.pure a >>= k) τ' :=
  fun _ _ _ hs hb => hk hs hb

theorem Leads.mono {υ : α → Stage} [σ.Implies σ'] [∀ a, (υ a).Implies (τ a)]
    (hp : Leads text σ' p υ) : Leads text σ p τ := by
  intro s a s' hs ha
  obtain ⟨hgood, ht⟩ := hp hs.mono ha
  exact ⟨hgood, ht.mono⟩

theorem Leads.ite (hx : c → Leads text σ x τ) (hy : ¬ c → Leads text σ y τ) :
    Leads text σ (if c then x else y) τ := by
  split
  · exact hx ‹_›
  · exact hy ‹_›

/-- After a step that tells whether something was consumed. -/
theorem Leads.cond {b : Bool} (hx : Leads text σ x τ) (hy : Leads text σ' y τ) :
    Leads text (bif b then σ else σ') (if b = true then x else y) τ := by
  cases b
  · exact hy
  · exact hx

theorem Leads.of_behind {t : Token} (ht : t.isPunctuator .semicolon = false)
    (hp : Leads text .ended p τ) : Leads text (.behind t) p τ :=
  fun _ _ _ hs => hp (Stage.Holds.ended_of_behind hs ht)

theorem Leads.of_tagBehind {t : Token} (ht : t.isPunctuator .semicolon = false)
    (hp : Leads text .tagEnded p τ) : Leads text (.tagBehind t) p τ :=
  fun _ _ _ hs => hp (Stage.Holds.tagEnded_of_tagBehind hs ht)

/-! ### Staying -/

theorem Looks.leads (hp : Looks text p) : Leads text σ p fun _ => σ := by
  intro s a s' hs ha
  obtain ⟨hgood, hplace⟩ := hp ha
  exact ⟨hgood, hplace ▸ hs⟩

theorem Looks.bind (hp : Looks text p) (hk : ∀ a, Good text a → Leads text σ (k a) τ') :
    Leads text σ (p >>= k) τ' := by
  intro s b s' hs hb
  obtain ⟨a, t, ha, hb⟩ := bind_ok.mp hb
  obtain ⟨hgood, hplace⟩ := hp ha
  exact hk a hgood (hplace ▸ hs) hb

theorem Looks.andThen (hp : Looks text p) (hk : ∀ a, Good text a → Looks text (k a)) :
    Looks text (p >>= k) := by
  intro s b s' hb
  obtain ⟨a, t, ha, hb⟩ := bind_ok.mp hb
  obtain ⟨hgood, hplace⟩ := hp ha
  obtain ⟨hgood', hplace'⟩ := hk a hgood hb
  exact ⟨hgood', hplace'.trans hplace⟩

theorem Looks.pure {a : α} (ha : Good text a) : Looks text (Pure.pure a) := by
  intro s b s' hb
  cases hb
  exact ⟨ha, rfl⟩

theorem Looks.ite (hx : Looks text x) (hy : Looks text y) :
    Looks text (if c then x else y) := by
  split
  · exact hx
  · exact hy

/-! ### Failing -/

theorem Fails.leads (hp : Fails p) : Leads text σ p τ :=
  fun _ _ _ _ ha => absurd ha (hp _ _)

theorem Fails.looks (hp : Fails p) : Looks text p :=
  fun _ _ _ ha => absurd ha (hp _ _)

theorem Fails.bind {γ δ : Type} {q : Parse γ} {k : γ → Parse δ} (hq : Fails q) :
    Fails (q >>= k) := by
  intro s r h
  obtain ⟨b, s'⟩ := r
  obtain ⟨a, t, ha, -⟩ := bind_ok.mp h
  exact hq _ _ ha

/-- A check that fails if a condition holds. -/
theorem Leads.unless {γ : Type} {q : Parse γ} {k : γ → Parse α} (hq : Fails q)
    (hx : ¬ c → Leads text σ x τ) : Leads text σ (if c then q >>= k else x) τ :=
  .ite (fun _ => hq.bind.leads) hx

/-- A check that fails if a condition does not hold. -/
theorem Leads.when {γ : Type} {q : Parse γ} {k : γ → Parse α} (hq : Fails q)
    (hx : c → Leads text σ x τ) : Leads text σ (if c then x else q >>= k) τ :=
  .ite hx fun _ => hq.bind.leads

end

/-! ### Results alone -/

section
variable {α β : Type} {P : α → Prop} {Q : β → Prop} {q : Parse β} {k : β → Parse α}

theorem Gives.andThen (hq : Gives Q q) (hk : ∀ b, Q b → Gives P (k b)) : Gives P (q >>= k) := by
  intro s a s' ha
  obtain ⟨b, t, hb, ha⟩ := bind_ok.mp ha
  exact hk b (hq hb) ha

theorem Gives.bind (hk : ∀ b, Gives P (k b)) : Gives P (q >>= k) :=
  Gives.andThen (Q := fun _ => True) (fun _ _ _ _ => trivial) fun b _ => hk b

theorem Gives.pure {a : α} (ha : P a) : Gives P (Pure.pure a) := by
  intro s b s' hb
  cases hb
  exact ha

theorem Fails.gives {p : Parse α} (hp : Fails p) : Gives P p :=
  fun _ _ _ ha => absurd ha (hp _ _)

end

end LintConfig.Ecma.Parser
