import LintConfig.Proofs.Yaml.Endings
import LintConfig.Proofs.Yaml.RoundTrip

/-! # Keys that are too wide

Whether a name is short enough for the line of its value is told by the characters of the name. But the
lexer counts those that are written for it. If there are too many, the place where the name began is
forgotten when its colon comes. Then no token is read any more, and nothing of the document. -/
namespace LintConfig.Yaml
open Scalar (Fits styled)
open Writer (Piece Style width)

namespace Lexer

/-! ### No further token -/

section Errors
variable {α β : Type} {s s' : State} {e : Error}

theorem bind_of_error {f : Lex α} (h : f s = .error e) (g : α → Lex β) : (f >>= g) s = .error e := by
  change (f s >>= fun r => g r.1 r.2) = _
  rw [h]
  rfl

theorem tokens_dropStaleKeys {u : Unit} (h : dropStaleKeys s = .ok (u, s')) : s'.tokens = s.tokens := by
  rw [dropStaleKeys, bind_of_ok (get_eq s)] at h
  dsimp only at h
  cases hfind : (s.keys.filter fun k => isStale s.cursor k.2).find? fun k => k.2.required with
  | some k =>
    rw [hfind] at h
    cases h
  | none =>
    rw [hfind] at h
    cases h
    rfl

/-- A turn that fails ends the tokens. -/
theorem lexAll_of_error (hdone : s.isDone = false) (h : step s = .error e) (fuel sure : Nat) :
    ∃ n, lexAll none (fuel + 1) sure s = ⟨s.tokens.toList.take n, some e⟩ := by
  cases hdrop : dropStaleKeys s with
  | error e' =>
    rw [step, bind_of_error hdrop] at h
    cases h
    have hdrop' : dropStaleKeys.run s = .error e := hdrop
    refine ⟨sure, ?_⟩
    rw [lexAll, hdone, hdrop']
    rfl
  | ok r =>
    obtain ⟨u, t⟩ := r
    rw [step, bind_of_ok hdrop] at h
    have hdrop' : dropStaleKeys.run s = .ok (u, t) := hdrop
    have htoken : lexToken.run t = .error e := h
    refine ⟨certain t, ?_⟩
    rw [lexAll, hdone, hdrop', ← tokens_dropStaleKeys hdrop]
    dsimp only
    rw [htoken]
    rfl

/-- No further token is read, and the end of the text has not been seen. -/
structure Stuck (s : State) : Prop where
  isDone : s.isDone = false
  tokens : ∀ t ∈ s.tokens.toList, t.lexeme ≠ .streamEnd
  error : ∃ e, step s = .error e

/-- From a stand the lexer comes to a place where it is stuck. -/
def Halts (p : Stand) : Prop := ∀ s, Ready p s → ∃ s', Leads s s' ∧ Stuck s'

theorem Goes.halts {p q : Stand} (h : Goes p q) (h' : Halts q) : Halts p := by
  intro s hs
  obtain ⟨s', hleads, hs'⟩ := h s hs
  obtain ⟨s'', hleads', hs''⟩ := h' s' hs'
  exact ⟨s'', hleads.trans hleads', hs''⟩

end Errors

/-! ### Wide keys -/

section Wide
variable {s t : State} {p : Stand} {style : Style} {text rest : List Char} {column : Nat} {y : Char}

theorem openBlockAt_error (hflow : t.flow = 0) (hkey : t.keyAllowed = false) (what : String) (lexeme : Lexeme) :
    ∃ e, openBlockAt what lexeme t = .error e := by
  rw [openBlockAt, bind_of_ok (inFlow_eq hflow), if_neg Bool.false_ne_true, bind_of_ok (get_eq t), hkey]
  exact ⟨_, rfl⟩

/-- A colon behind what is no key cannot stand in the line. -/
theorem lexValue_error (hkeys : t.keys = []) (hflow : t.flow = 0) (hkey : t.keyAllowed = false) :
    ∃ e, lexValue t = .error e := by
  obtain ⟨e, he⟩ := openBlockAt_error hflow hkey "mapping values" .blockMappingStart
  refine ⟨e, ?_⟩
  rw [lexValue, bind_of_ok (get_eq t), hkeys]
  exact bind_of_error he _

/-- Whether a key had to begin there or not, a place too far behind is none for a key. -/
theorem step_error {k : PossibleKey} (hkeys : s.keys = [(0, k)]) (hstale : isStale s.cursor k = true)
    (hflow : s.flow = 0) (hkey : s.keyAllowed = false) (hrest : s.cursor.rest = ':' :: y :: rest)
    (hy : isBlankOrEnd y = true) (hindent : s.indent ≤ s.cursor.column + 1) : ∃ e, step s = .error e := by
  cases hrequired : k.required with
  | true =>
    have hfind : (s.keys.filter fun k => isStale s.cursor k.2).find? (fun k => k.2.required) = some (0, k) := by
      simp [hkeys, hstale, hrequired]
    have hdrop : ∃ e, dropStaleKeys s = .error e := by
      rw [dropStaleKeys, bind_of_ok (get_eq s)]
      dsimp only
      rw [hfind]
      exact ⟨_, rfl⟩
    obtain ⟨e, he⟩ := hdrop
    exact ⟨e, bind_of_error he _⟩
  | false =>
    have hdrop := dropStaleKeys_eq (s := s) fun k' hk' _ => by
      rw [hkeys, List.mem_singleton] at hk'
      rw [hk', hrequired]
    have hnone : (s.keys.filter fun k => !isStale s.cursor k.2) = [] := by simp [hkeys, hstale]
    rw [hnone] at hdrop
    have hagain : dropStaleKeys { s with keys := [] } = .ok ((), { s with keys := [] }) :=
      dropStaleKeys_eq fun k hk => absurd hk List.not_mem_nil
    have hcolon := step_colon (s := { s with keys := [] }) hflow hrest hy
      (fun k hk => absurd hk List.not_mem_nil) hindent
    obtain ⟨e, he⟩ := lexValue_error (t := { s with keys := [] }) rfl hflow hkey
    refine ⟨e, ?_⟩
    calc step s
      _ = lexToken { s with keys := [] } := bind_of_ok hdrop
      _ = step { s with keys := [] } := by rw [step, bind_of_ok hagain]
      _ = .error e := hcolon.trans he

/-- At a key that is too wide the lexer is stuck when its colon comes. -/
theorem halts_wide (hfits : Fits style text) (hbreak : '\n' ∉ text)
    (hwide : 1024 < (styled none column style text).length) (hkey : p.keyAllowed = true)
    (hindent : p.indent ≤ p.column + 1) (hy : isBlankOrEnd y = true) (hend : .streamEnd ∉ p.lexemes)
    (h : p.rest = styled none column style text ++ ':' :: y :: rest) : Halts p := by
  intro s hs
  obtain ⟨t, stop, ht, hname⟩ := step_name hfits hbreak hindent hy h hs
  obtain ⟨between, hbetween⟩ : ∃ between, t.pastScalar (scalarLexeme style text) stop
      (along t.cursor (styled none column style text).length (':' :: y :: rest)) false = between := ⟨_, rfl⟩
  rw [hbetween] at hname
  have hkeys : between.keys = [(0, keyAt t)] := by
    rw [← hbetween, State.pastScalar, ht.keyAllowed, hkey]
    rfl
  have hstale : isStale between.cursor (keyAt t) = true := by
    rw [← hbetween]
    exact (isStale_along ..).trans (decide_eq_true hwide)
  have hopen : between.indent ≤ between.cursor.column + 1 := by
    rw [← hbetween]
    exact ht.indent_along hindent _ _
  refine ⟨between, leads_of_step hs.1 hname (Nat.lt_of_lt_of_le ?_ hs.2.1), ?_, ?_, ?_⟩
  · rw [h, ← hbetween, List.length_append]
    dsimp only [State.pastScalar, along]
    omega
  · rw [← hbetween]
    exact ht.isDone
  · rw [← hbetween, State.pastScalar, Array.toList_push]
    intro token htoken
    rcases List.mem_append.mp htoken with htoken | htoken
    · intro hlexeme
      exact hend (ht.lexemes ▸ hlexeme ▸ List.mem_map_of_mem htoken)
    · rw [List.mem_singleton.mp htoken, scalarLexeme]
      intro hlexeme
      cases hlexeme
  · exact step_error hkeys hstale (by rw [← hbetween]; exact ht.flow) (by rw [← hbetween]; rfl)
      (by rw [← hbetween]; rfl) hy hopen

end Wide

end Lexer

open Lexer

/-! ### Maps with wide keys -/

section Maps
variable {indent : Nat} {name : String} {v : Value} {p : Stand} {more : List Char}

theorem streamEnd_entryLexemes {entries : Entries Value} (hleaf : ∀ e ∈ entries, Leaf e.2) :
    Lexeme.streamEnd ∉ entryLexemes (entries.map fun e => (.text e.1, e.2)) := by
  induction entries with
  | nil => exact List.not_mem_nil
  | cons e entries ih =>
    obtain ⟨hv, hentries⟩ := List.forall_mem_cons.mp hleaf
    rw [List.map_cons, entryLexemes, lexemes_leaf hv]
    simp [leafLexeme, scalarLexeme, ih hentries]

theorem streamEnd_inMapping (hend : .streamEnd ∉ p.lexemes) : .streamEnd ∉ p.inMapping.lexemes := by
  rw [Stand.inMapping]
  split_ifs
  · simpa using hend
  · exact hend

theorem mapEntries_append (indent : Nat) {es : List (Value × Value)} (hne : es ≠ []) (f : Value × Value)
    (fs : List (Value × Value)) : Writer.mapEntries indent (es ++ f :: fs) =
      Writer.mapEntries indent es ++ Writer.newline indent ++ Writer.mapEntries indent (f :: fs) := by
  induction es with
  | nil => exact absurd rfl hne
  | cons e es ih =>
    cases es with
    | nil => exact mapEntries_cons indent e f fs
    | cons e' es =>
      rw [List.cons_append, List.cons_append, mapEntries_cons, ← List.cons_append, ih (List.cons_ne_nil _ _),
        mapEntries_cons]
      simp only [List.append_assoc]

/-- Where an entry begins, the lexer comes to a place where it is stuck. -/
def EntryHalts (indent : Nat) (name : String) (v : Value) : Prop :=
  ∀ {p : Stand} {more : List Char}, p.keyAllowed = true → p.column = indent → p.indent ≤ indent + 1 →
    .streamEnd ∉ p.lexemes → p.rest = Writer.mapEntries indent [(.text name, v)] ++ more → Halts p

/-- The entries before such an entry are read. -/
theorem halts_entries {before behind : Entries Value} (hlegible : ∀ e ∈ before, Legible e.1 e.2)
    (hleaf : ∀ e ∈ before, Leaf e.2) (hsimple : Writer.isSimpleKey (.text name) = true)
    (hhalts : EntryHalts indent name v) (hwidth : indent + 2 < width) (hkey : p.keyAllowed = true)
    (hcolumn : p.column = indent) (hindent : p.indent ≤ indent + 1) (hend : .streamEnd ∉ p.lexemes)
    (h : p.rest = Writer.mapEntries indent ((before ++ (name, v) :: behind).map fun e => (.text e.1, e.2)) ++
      more) : Halts p := by
  obtain ⟨rest, hrest⟩ := exists_mapEntries_cons indent (.text name, v)
    (behind.map fun e => (.text e.1, e.2))
  rw [List.map_append, List.map_cons] at h
  by_cases hne : before = []
  · rw [hne, List.map_nil, List.nil_append, hrest, List.append_assoc] at h
    exact hhalts hkey hcolumn hindent hend h
  · rw [mapEntries_append indent (by simpa using hne)] at h
    simp only [Writer.newline, Writer.spaces, List.append_assoc, List.cons_append] at h
    have hgoes := goes_entries hlegible (fun e he => isRead_leaf (hleaf e he) hwidth) hne hwidth hkey hcolumn
      hindent h (starts_entry (fun hmarked => by rw [hsimple] at hmarked; cases hmarked) _) (Nat.le_refl indent)
    have hinside : p.inMapping.indent = indent + 1 := by
      rw [indent_inMapping (by omega), hcolumn]
    exact hgoes.halts (hhalts rfl rfl (Nat.le_of_eq hinside)
      (List.not_mem_append (streamEnd_inMapping hend) (streamEnd_entryLexemes hleaf))
      ((congrArg (· ++ more) hrest).trans (List.append_assoc ..)))

/-- A name that stands on the line of its value, and is too wide there. -/
structure Wide (name : String) : Prop where
  simple : Writer.isSimpleKey (.text name) = true
  wide : 1024 < (Writer.text none 0 name.toList).length

instance (name : String) : Decidable (Wide name) :=
  decidable_of_iff (Writer.isSimpleKey (.text name) = true ∧ 1024 < (Writer.text none 0 name.toList).length)
    ⟨fun h => ⟨h.1, h.2⟩, fun h => ⟨h.simple, h.wide⟩⟩

theorem legible_of_not_wide (h : ¬ Wide name) (hleaf : Leaf v) : Legible name v :=
  ⟨fun hsimple => Nat.le_of_not_lt fun hwide => h ⟨hsimple, hwide⟩, fun _ => hleaf⟩

theorem Wide.halts (h : Wide name) : EntryHalts indent name v := by
  intro p more hkey hcolumn hindent hend hrest
  obtain ⟨y, behind, hy, hmember⟩ := member_cons indent
    (indent + (Writer.scalar none indent (.text name)).length + 1) v
  rw [mapEntries_simple h.simple, hmember, scalar_leaf (.text name)] at hrest
  simp only [List.append_assoc, List.cons_append] at hrest
  refine halts_wide (fits_leaf (.text name)) (no_break_of_simple h.simple) ?_ hkey (by omega) hy hend hrest
  rw [length_key]
  exact h.wide

/-- Before the first wide key there are only others. -/
theorem exists_first_wide {flags : Entries Bool} (h : ∃ name ∈ flags.names, Wide name) :
    ∃ before wide b behind, flags = before ++ (wide, b) :: behind ∧ Wide wide ∧
      ∀ e ∈ before, ¬ Wide e.1 := by
  obtain ⟨name, hname, hwide⟩ := h
  obtain ⟨e, he, rfl⟩ := List.mem_map.mp hname
  have hsome : (flags.find? fun e => decide (Wide e.1)).isSome :=
    List.find?_isSome.mpr ⟨e, he, by simpa using hwide⟩
  obtain ⟨⟨wide, b⟩, hfind⟩ := Option.isSome_iff_exists.mp hsome
  obtain ⟨hfirst, before, behind, hsplit, hbefore⟩ := List.find?_eq_some_iff_append.mp hfind
  exact ⟨before, wide, b, behind, hsplit, by simpa using hfirst, fun e he => by simpa using hbefore e he⟩

/-- A map with a wide key is not read either, where it stands in a block of its own. -/
theorem halts_flags {flags : Entries Bool} (h : ∃ name ∈ flags.names, Wide name) (hwidth : indent + 4 < width)
    (hsimple : Writer.isSimpleKey (.text name) = true)
    (hnarrow : (Writer.text none 0 name.toList).length ≤ 1024) :
    EntryHalts indent name (Fragment.flagsValue flags) := by
  intro p more hkey hcolumn hindent hend hrest
  obtain ⟨before, wide, b, behind, rfl, hfirst, hbefore⟩ := exists_first_wide h
  have hvalues : ∀ e ∈ (before ++ (wide, b) :: behind).map fun flag => (flag.1, Value.bool flag.2),
      Leaf e.2 := by
    intro e he
    obtain ⟨flag, -, rfl⟩ := List.mem_map.mp he
    exact .bool flag.2
  have hlegible : ∀ e ∈ before.map fun flag => (flag.1, Value.bool flag.2), Legible e.1 e.2 := by
    intro e he
    obtain ⟨flag, hflag, rfl⟩ := List.mem_map.mp he
    exact legible_of_not_wide (hbefore flag hflag) (.bool flag.2)
  rw [Fragment.flagsValue, entriesValue_eq, mapEntries_simple hsimple, Writer.member, if_neg (by simp),
    scalar_leaf (.text name)] at hrest
  simp only [Writer.newline, Writer.spaces, List.append_assoc, List.cons_append] at hrest
  have hreaches := reaches_key (fits_leaf (.text name)) (no_break_of_simple hsimple)
    (by rw [length_key]; exact hnarrow) hkey (by omega) rfl hrest
  have hline := hreaches.newline rfl (starts_mapEntries (fun e he _ => hvalues e he) (by simp))
  have hinside : p.inMapping.indent = indent + 1 := by
    rw [indent_inMapping (by omega), hcolumn]
  rw [List.map_append] at hvalues
  refine hline.halts (halts_entries hlegible (fun e he => hvalues e (List.mem_append_left _ he)) hfirst.simple
    hfirst.halts hwidth rfl rfl ?_ ?_ (by rw [List.map_append, List.map_cons]))
  · dsimp only [Stand.after]
    omega
  · exact List.not_mem_append (streamEnd_inMapping hend) (by simp [scalarLexeme])

end Maps

/-! ### Names of escaped characters -/

section Escaped
variable {name : String} {text : List Char}

/-- A character that takes more than four digits is none of those with a meaning of their own. -/
theorem ne_of_beyond {c d : Char} (h : 0x10000 ≤ c.toNat) (hd : d.toNat < 0x10000) : (c == d) = false := by
  rw [beq_eq_false_iff_ne]
  rintro rfl
  omega

theorem isSpecial_of_beyond {c : Char} (h : 0x10000 ≤ c.toNat) : Writer.isSpecial c = true := by
  have hlower : ¬ c ≤ '~' := by
    rw [Char.le_def, UInt32.le_iff_toNat_le]
    exact Nat.not_le_of_lt (Nat.lt_of_lt_of_le (by decide) h)
  simp [Writer.isSpecial, ne_of_beyond h (show '\n'.toNat < 0x10000 by decide), hlower, bne]

theorem isLineEnd_of_beyond {c : Char} (h : 0x10000 ≤ c.toNat) : Writer.isLineEnd c = false := by
  simp [Writer.isLineEnd, isBreak, ne_of_beyond h]

/-- It is written as an escape of ten characters. -/
theorem piece_of_beyond {c : Char} (h : 0x10000 ≤ c.toNat) :
    ∃ written, Piece.ofChar c = .escaped written ∧ written.length = 10 := by
  have hshort : Writer.shortEscape? c = none := by simp [Writer.shortEscape?, ne_of_beyond h]
  have hlower : ¬ c ≤ '~' := by
    rw [Char.le_def, UInt32.le_iff_toNat_le]
    exact Nat.not_le_of_lt (Nat.lt_of_lt_of_le (by decide) h)
  refine ⟨Writer.numericEscape c.toNat, ?_, ?_⟩
  · simp [Piece.ofChar, hshort, hlower]
  · rw [Writer.numericEscape, if_neg (by omega), if_neg (by omega), List.length_cons, List.length_cons,
      Scalar.length_upperHex]

theorem length_double_of_beyond (h : ∀ c ∈ text, 0x10000 ≤ c.toNat) (p : Writer.Place) :
    (Writer.doubleFrom none p (text.map .ofChar)).length = 10 * text.length := by
  induction text generalizing p with
  | nil => rfl
  | cons c text ih =>
    obtain ⟨hc, htext⟩ := List.forall_mem_cons.mp h
    obtain ⟨written, hwritten, hlength⟩ := piece_of_beyond hc
    rw [List.map_cons, hwritten, Writer.doubleFrom, breaksAt_none, ite_self]
    dsimp only
    rw [List.length_append, ih htext, hlength, List.length_cons]
    omega

theorem styleOf_beyond (h : ∀ c ∈ text, 0x10000 ≤ c.toNat) (hne : text ≠ []) :
    Writer.styleOf text = .doubleQuoted := by
  obtain ⟨c, hc⟩ := List.exists_mem_of_ne_nil text hne
  have hspecial : text.any Writer.isSpecial = true :=
    List.any_eq_true.mpr ⟨c, hc, isSpecial_of_beyond (h c hc)⟩
  have hplain : Writer.isPlain text = false := by simp [Writer.isPlain, hspecial]
  rw [Writer.styleOf, hplain, hspecial, Bool.and_false, Bool.true_or]
  rfl

theorem length_text_of_beyond (h : ∀ c ∈ text, 0x10000 ≤ c.toNat) (hne : text ≠ []) :
    (Writer.text none 0 text).length = 10 * text.length + 2 := by
  rw [Scalar.text_eq, styleOf_beyond h hne, styled, Writer.doubleQuoted, List.length_append, List.length_cons,
    length_double_of_beyond h, List.length_singleton]

/-- A name of a hundred and some characters that are escaped with ten each is too wide. -/
theorem wide_of_beyond (h : ∀ c ∈ name.toList, 0x10000 ≤ c.toNat) (hlong : 102 < name.length)
    (hshort : name.length < 123) : Wide name := by
  rw [← String.length_toList] at hlong hshort
  have hne : name.toList ≠ [] := List.ne_nil_of_length_pos (by omega)
  have hends : name.toList.any Writer.isLineEnd = false :=
    List.any_eq_false.mpr fun c hc => ne_true_of_eq_false (isLineEnd_of_beyond (h c hc))
  constructor
  · have hempty : name ≠ "" := fun hname => hne (hname ▸ rfl)
    simp [Writer.isSimpleKey, hends, hempty, ← String.length_toList, hshort]
  · rw [length_text_of_beyond h hne]
    omega

theorem wide_replicate {c : Char} {n : Nat} (h : 0x10000 ≤ c.toNat) (hlong : 102 < n) (hshort : n < 123) :
    Wide (String.ofList (List.replicate n c)) := by
  refine wide_of_beyond (fun d hd => ?_) ?_ ?_
  · rw [String.toList_ofList] at hd
    rwa [(List.mem_replicate.mp hd).2]
  · rwa [String.length_ofList, List.length_replicate]
  · rwa [String.length_ofList, List.length_replicate]

end Escaped
/-! ### Documents -/

theorem tokens_halts {text : List Char} (hstarts : Starts 0 text) (h : Halts ⟨[], text, 0, 0, [], true⟩) :
    ∃ ts e, Lexer.tokens text none = ⟨ts, some e⟩ ∧ ∀ t ∈ ts, t.lexeme ≠ .streamEnd := by
  have hready := ready_spaces (s := { cursor := { rest := text } }) (m := 0) rfl rfl rfl hstarts nofun
  obtain ⟨s, ⟨turns, hturns, hleads⟩, hs⟩ := h _ hready
  obtain ⟨e, he⟩ := hs.error
  have hfuel : 2 * text.length + 2 = turns + ((2 * text.length + 1 - turns) + 1) := by
    dsimp only at hturns
    omega
  obtain ⟨sure, hlex⟩ := hleads ((2 * text.length + 1 - turns) + 1) 0
  obtain ⟨n, hstop⟩ := lexAll_of_error hs.isDone he (2 * text.length + 1 - turns) sure
  refine ⟨s.tokens.toList.take n, e, ?_, fun t ht => hs.tokens t (List.mem_of_mem_take ht)⟩
  rw [Lexer.tokens, hfuel, hlex, hstop]

/-- Nothing is read of a document with a wide key in one of its maps. -/
theorem read_wide {before behind : Entries Value} {name : String} {flags : Entries Bool}
    (hlegible : ∀ e ∈ before, Legible e.1 e.2) (hleaf : ∀ e ∈ before, Leaf e.2)
    (hsimple : Writer.isSimpleKey (.text name) = true)
    (hnarrow : (Writer.text none 0 name.toList).length ≤ 1024) (h : ∃ name ∈ flags.names, Wide name)
    {portions : List (List Char)} (hportions : portions.flatten =
      Writer.document (Fragment.entriesValue (before ++ (name, Fragment.flagsValue flags) :: behind)))
    (v : Value) : read ⟨portions, none⟩ ≠ .ok v := by
  obtain ⟨text, htext⟩ : ∃ text, portions.flatten = text := ⟨_, rfl⟩
  have hacceptable : Acceptable portions.flatten := hportions ▸ acceptable_of_inked (inked_document _)
  have hwritten : text = Writer.mapEntries 0
      ((before ++ (name, Fragment.flagsValue flags) :: behind).map fun e => (.text e.1, e.2)) ++ ['\n'] := by
    rw [← htext, hportions, document_entries, entriesValue_eq, Writer.node, if_neg (by simp)]
  have hstarts : Starts 0 text := by
    rw [hwritten]
    cases before with
    | nil => exact starts_entry (fun hmarked => by rw [hsimple] at hmarked; cases hmarked) _
    | cons e before => exact starts_entry (hlegible e List.mem_cons_self).leaf _
  have hentry : EntryHalts 0 name (Fragment.flagsValue flags) := halts_flags h (by decide) hsimple hnarrow
  obtain ⟨ts, e, htokens, hend⟩ := tokens_halts hstarts
    (halts_entries hlegible hleaf hsimple hentry (by decide) rfl rfl (Nat.zero_le 1) List.not_mem_nil hwritten)
  intro hread
  rw [read, tokensOf_eq hacceptable, htext, htokens] at hread
  cases hparse : Parser.parse ⟨ts, some e⟩ with
  | error e' =>
    rw [hparse] at hread
    cases hread
  | ok r => exact Parser.parse_unending hend e r hparse

end LintConfig.Yaml
