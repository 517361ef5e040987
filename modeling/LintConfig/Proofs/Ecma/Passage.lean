import LintConfig.Ecma.Lexer
import Mathlib.Data.List.TakeWhile

/-! # Passing over text

A cursor only moves forward, over the characters that stand at it. What matters about a passage is
the character it ends with: that is the one before the place it leads to, and the semicolon is the
only one that anything depends on. Between two tokens no passage ends with a semicolon unless the
text ends there, because only a comment at the end of the text can stop behind one. -/
namespace LintConfig.Ecma.Cursor
open Character

/-- The way from one place to another leads over some characters. -/
structure Passes (c : Cursor) (u : List Char) (d : Cursor) : Prop where
  rest : c.rest = u ++ d.rest
  index : d.index = c.index + u.length

/-- One place is reached from another. -/
def Reaches (c d : Cursor) : Prop := ∃ u, c.Passes u d

/-- The way to a place ends with no semicolon; it may be empty. -/
def Trails (c d : Cursor) : Prop := ∃ u, c.Passes u d ∧ u.getLast? ≠ some ';'

/-- The way to a place is not empty and ends with no semicolon. -/
def Closes (c d : Cursor) : Prop := ∃ u, c.Passes u d ∧ u ≠ [] ∧ u.getLast? ≠ some ';'

variable {c d e : Cursor} {u v : List Char}

theorem Passes.refl (c : Cursor) : c.Passes [] c := ⟨rfl, rfl⟩

theorem Passes.trans (h : c.Passes u d) (h' : d.Passes v e) : c.Passes (u ++ v) e := by
  refine ⟨?_, ?_⟩
  · rw [h.rest, h'.rest, List.append_assoc]
  · rw [h'.index, h.index, List.length_append, Nat.add_assoc]

theorem Reaches.refl (c : Cursor) : c.Reaches c := ⟨[], .refl c⟩

theorem Reaches.trans (h : c.Reaches d) (h' : d.Reaches e) : c.Reaches e := by
  obtain ⟨u, hu⟩ := h
  obtain ⟨v, hv⟩ := h'
  exact ⟨u ++ v, hu.trans hv⟩

theorem Trails.reaches (h : c.Trails d) : c.Reaches d := by
  obtain ⟨u, hu, -⟩ := h
  exact ⟨u, hu⟩

theorem Closes.trails (h : c.Closes d) : c.Trails d := by
  obtain ⟨u, hu, -, hlast⟩ := h
  exact ⟨u, hu, hlast⟩

theorem Closes.reaches (h : c.Closes d) : c.Reaches d := h.trails.reaches

theorem Trails.refl (c : Cursor) : c.Trails c := ⟨[], .refl c, by simp⟩

theorem Trails.trans (h : c.Trails d) (h' : d.Trails e) : c.Trails e := by
  obtain ⟨u, hu, hulast⟩ := h
  obtain ⟨v, hv, hvlast⟩ := h'
  refine ⟨u ++ v, hu.trans hv, ?_⟩
  cases v with
  | nil => simpa using hulast
  | cons a v => simpa [List.getLast?_append] using hvlast

/-- However a place is reached, only the last stretch of the way matters. -/
theorem Reaches.closes (h : c.Reaches d) (h' : d.Closes e) : c.Closes e := by
  obtain ⟨u, hu⟩ := h
  obtain ⟨v, hv, hne, hlast⟩ := h'
  refine ⟨u ++ v, hu.trans hv, by simp [hne], ?_⟩
  cases v with
  | nil => contradiction
  | cons a v => simpa [List.getLast?_append] using hlast

theorem Closes.trans_trails (h : c.Closes d) (h' : d.Trails e) : c.Closes e := by
  obtain ⟨u, hu, hne, hulast⟩ := h
  obtain ⟨v, hv, hvlast⟩ := h'
  refine ⟨u ++ v, hu.trans hv, by simp [hne], ?_⟩
  cases v with
  | nil => simpa using hulast
  | cons a v => simpa [List.getLast?_append] using hvlast

/-! ### Steps -/

theorem passes_move {n : Nat} (h : n ≤ c.rest.length) : c.Passes (c.rest.take n) (c.move n) :=
  ⟨(List.take_append_drop n c.rest).symm, by simp [move, h]⟩

theorem reaches_move {n : Nat} (h : n ≤ c.rest.length) : c.Reaches (c.move n) :=
  ⟨_, passes_move h⟩

theorem passes_move_append {w rest : List Char} {n : Nat} (h : c.rest = w ++ rest)
    (hn : n = w.length) : c.Passes w (c.move n) :=
  ⟨by simp [move, h, hn], by simp [move, hn]⟩

theorem closes_move_append {w rest : List Char} {n : Nat} (h : c.rest = w ++ rest)
    (hn : n = w.length) (hne : w ≠ []) (hlast : w.getLast? ≠ some ';') : c.Closes (c.move n) :=
  ⟨w, passes_move_append h hn, hne, hlast⟩

theorem closes_move_one {ch : Char} {rest : List Char} (h : c.rest = ch :: rest) (hch : ch ≠ ';') :
    c.Closes (c.move 1) :=
  closes_move_append (w := [ch]) h rfl (by simp) (by simpa using hch)

theorem closes_move_two {a b : Char} {rest : List Char} (h : c.rest = a :: b :: rest)
    (hb : b ≠ ';') : c.Closes (c.move 2) :=
  closes_move_append (w := [a, b]) h rfl (by simp) (by simpa using hb)

theorem passes_moveWhile (c : Cursor) (p : Char → Bool) :
    c.Passes (c.rest.takeWhile p) (c.moveWhile p).2 :=
  have hlength : (c.rest.takeWhile p).length ≤ c.rest.length := (List.takeWhile_prefix p).length_le
  have htake : c.rest.take (c.rest.takeWhile p).length = c.rest.takeWhile p :=
    List.prefix_iff_eq_take.mp (List.takeWhile_prefix p) ▸ rfl
  htake ▸ passes_move hlength

theorem getLast_takeWhile {p : Char → Bool} (hp : p ';' = false) (text : List Char) :
    (text.takeWhile p).getLast? ≠ some ';' := by
  intro h
  have := List.mem_takeWhile_imp (List.mem_of_getLast? h)
  rw [hp] at this
  contradiction

theorem trails_moveWhile {p : Char → Bool} (hp : p ';' = false) (c : Cursor) :
    c.Trails (c.moveWhile p).2 :=
  ⟨_, passes_moveWhile c p, getLast_takeWhile hp _⟩

theorem reaches_newline (c : Cursor) : c.Reaches c.newline := by
  unfold newline
  split
  · rename_i h
    exact ⟨['\r', '\n'], by simp [h], rfl⟩
  · rename_i ch rest _ h
    exact ⟨[ch], by simp [h], rfl⟩
  · exact .refl c

/-! ### Gaps -/

/-- Is a comment being skipped, so that at least one more character is passed over? -/
def Gap.isComment : Gap → Bool
  | .blank _ => false
  | .lineComment _ | .blockComment _ _ => true

/-- What a gap passes over ends with no semicolon, unless the text ends with it. -/
def GapEnds (g : Gap) (rest : List Char) (index : Nat) (k : Skipped) : Prop :=
  ∃ u, rest = u ++ k.next.rest ∧ k.next.index = index + u.length ∧
    (k.next.rest = [] ∨ u.getLast? ≠ some ';' ∧ (g.isComment = true → u ≠ []))

theorem GapEnds.step {g g' : Gap} {w rest : List Char} {index n : Nat} {k : Skipped}
    (h : GapEnds g' rest (index + n) k) (hn : n = w.length) (hw : w ≠ [])
    (hlast : g'.isComment = true ∨ w.getLast? ≠ some ';') : GapEnds g (w ++ rest) index k := by
  obtain ⟨u, hu, hindex, hends⟩ := h
  refine ⟨w ++ u, by rw [hu, List.append_assoc], ?_, hends.imp_right fun ⟨hulast, hne⟩ => ?_⟩
  · rw [hindex, hn, List.length_append, Nat.add_assoc]
  · refine ⟨?_, by simp [hw]⟩
    cases u with
    | nil => simpa using hlast.resolve_left fun hg => hne hg rfl
    | cons a u => simpa [List.getLast?_append] using hulast

theorem GapEnds.stop {g : Gap} (hg : g.isComment = false) (rest : List Char) (index line : Nat) :
    GapEnds g rest index { next := ⟨rest, index, line⟩ } :=
  ⟨[], rfl, rfl, Or.inr ⟨by simp, by simp [hg]⟩⟩

theorem ne_semicolon {p : Char → Bool} (hp : p ';' = false) {c : Char} (h : p c = true) :
    c ≠ ';' := by
  rintro rfl
  rw [hp] at h
  contradiction

theorem gap_ends {isModule : Bool} {g : Gap} {rest : List Char} {index line : Nat} {k : Skipped}
    (h : gap isModule g rest index line = .ok k) : GapEnds g rest index k := by
  fun_induction gap isModule g rest index line generalizing k with
  | case1 => contradiction
  | case2 g index line hg =>
    cases h
    exact ⟨[], rfl, rfl, Or.inl rfl⟩
  | case3 o start rest index line ih =>
    -- the characters are those of the gap behind the comment
    cases hlater : gap isModule (.blank o) rest (index + 2) line with
    | error e => simp [hlater, bind, Except.bind] at h
    | ok later =>
      simp only [hlater, bind, Except.bind, pure, Except.pure, Except.ok.injEq] at h
      subst h
      exact (ih hlater).step (w := ['*', '/']) rfl (by simp) (by simp)
  | case4 o start rest index line ih =>
    exact (ih h).step (w := ['\r', '\n']) rfl (by simp) (by simp)
  | case5 o start c rest index line _ _ ih =>
    exact (ih h).step (w := [c]) rfl (by simp) (Or.inl rfl)
  | case6 o rest index line ih =>
    exact (ih h).step (w := ['\r', '\n']) rfl (by simp) (by simp)
  | case7 o c rest index line _ hc ih =>
    exact (ih h).step (w := [c]) rfl (by simp) (Or.inr (by simpa using ne_semicolon (by decide) hc))
  | case8 o c rest index line _ _ ih =>
    exact (ih h).step (w := [c]) rfl (by simp) (Or.inl rfl)
  | case9 o rest index line ih =>
    exact (ih h).step (w := ['\r', '\n']) rfl (by simp) (by simp)
  | case10 o rest index line ih =>
    exact (ih h).step (w := ['/', '/']) rfl (by simp) (by simp)
  | case11 o rest index line ih =>
    exact (ih h).step (w := ['/', '*']) rfl (by simp) (by simp)
  | case12 rest index line ih =>
    exact (ih h).step (w := ['-', '-', '>']) rfl (by simp) (by simp)
  | case13 o rest index line =>
    cases h
    exact .stop rfl _ _ _
  | case14 o rest index line _ ih =>
    exact (ih h).step (w := ['<', '!', '-', '-']) rfl (by simp) (by simp)
  | case15 o c rest index line _ _ _ _ _ hc ih =>
    exact (ih h).step (w := [c]) rfl (by simp) (Or.inr (by simpa using ne_semicolon (by decide) hc))
  | case16 o c rest index line _ _ _ _ _ _ hc ih =>
    exact (ih h).step (w := [c]) rfl (by simp) (Or.inr (by simpa using ne_semicolon (by decide) hc))
  | case17 o c rest index line =>
    cases h
    exact .stop rfl _ _ _

/-- The next token is reached over a gap that ends with no semicolon, or the text ends. -/
theorem skipGap_ends {isModule : Bool} {k : Skipped} (h : c.skipGap isModule = .ok k) :
    c.Reaches k.next ∧ (k.next.rest = [] ∨ c.Trails k.next) := by
  obtain ⟨u, hrest, hindex, hends⟩ := gap_ends h
  exact ⟨⟨u, hrest, hindex⟩, hends.imp_right fun hu => ⟨u, ⟨hrest, hindex⟩, hu.1⟩⟩

/-! ### Places of a text -/

/-- The cursor stands in a text, behind as many characters as its index tells. -/
def At (text : List Char) (c : Cursor) : Prop := ∃ v, text = v ++ c.rest ∧ c.index = v.length

/-- Is the character before an offset a semicolon? -/
def SemicolonBefore (text : List Char) (i : Nat) : Prop := 0 < i ∧ text[i - 1]? = some ';'

variable {text : List Char}

theorem at_start (text : List Char) : At text (start text) := ⟨[], rfl, rfl⟩

theorem At.reaches (h : At text c) (hd : c.Reaches d) : At text d := by
  obtain ⟨v, htext, hindex⟩ := h
  obtain ⟨u, hu⟩ := hd
  refine ⟨v ++ u, by rw [htext, hu.rest, List.append_assoc], ?_⟩
  rw [hu.index, hindex, List.length_append]

theorem At.index_eq_length (h : At text c) (hrest : c.rest = []) : c.index = text.length := by
  obtain ⟨v, htext, hindex⟩ := h
  rw [hindex, htext, hrest, List.append_nil]

theorem semicolonBefore_iff {v rest : List Char} :
    SemicolonBefore (v ++ rest) v.length ↔ v.getLast? = some ';' := by
  unfold SemicolonBefore
  cases v with
  | nil => simp
  | cons a v =>
    rw [List.getLast?_eq_getElem?, List.getElem?_append_left (by simp)]
    simp

/-- A passage that ends with no semicolon leads to a place behind none, unless it is empty and the
place was behind one before. -/
theorem At.trails (h : At text c) (hd : c.Trails d) (hs : SemicolonBefore text d.index) :
    d.index = c.index := by
  obtain ⟨v, rfl, hindex⟩ := h
  obtain ⟨u, hu, hlast⟩ := hd
  rw [hu.index, hindex, hu.rest, ← List.length_append, ← List.append_assoc,
    semicolonBefore_iff] at hs
  cases u with
  | nil => simpa using hu.index
  | cons a u => exact absurd (by simpa [List.getLast?_append] using hs) hlast

theorem At.closes (h : At text c) (hd : c.Closes d) : ¬ SemicolonBefore text d.index := by
  obtain ⟨v, rfl, hindex⟩ := h
  obtain ⟨u, hu, hne, hlast⟩ := hd
  rw [hu.index, hindex, hu.rest, ← List.length_append, ← List.append_assoc, semicolonBefore_iff]
  cases u with
  | nil => contradiction
  | cons a u => simpa [List.getLast?_append] using hlast

end LintConfig.Ecma.Cursor
