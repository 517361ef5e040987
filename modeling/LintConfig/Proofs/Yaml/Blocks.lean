import LintConfig.Config.Fragment
import LintConfig.Proofs.Yaml.Leaves

/-! # Lists and maps in blocks

In a document that is tidy there are maps of named values, lists of leaves, and leaves. Such a document
is read as the tokens that its nesting asks for: the lexer opens a block where a map begins, and closes
it where a line is indented less. -/
namespace LintConfig.Yaml
open Lexer
open Scalar (styled Fits Solid Opens)
open Writer (Style width)

mutual

/-- The tokens of a value behind a key. The items of a list there are no block of their own. -/
def lexemes : Value → List Lexeme
  | .list items => items.flatMap fun v => [.blockEntry, leafLexeme v]
  | .map entries => .blockMappingStart :: (entryLexemes entries ++ [.blockEnd])
  | v => [leafLexeme v]

def entryLexemes : List (Value × Value) → List Lexeme
  | [] => []
  | (k, v) :: rest => .key :: leafLexeme k :: .value :: (lexemes v ++ entryLexemes rest)

end

/-- A name that stands on the line of its value is not too wide, and the value of one that does not is
a leaf. -/
structure Legible (name : String) (v : Value) : Prop where
  narrow : Writer.isSimpleKey (.text name) = true → (Writer.text none 0 name.toList).length ≤ 1024
  leaf : Writer.isSimpleKey (.text name) = false → Leaf v

/-- Maps of values, nested no deeper than a bound, that are read back as they are written. -/
inductive Tidy : (depth : Nat) → Value → Prop
  | leaf {depth : Nat} {v : Value} (h : Leaf v) : Tidy depth v
  | list {depth : Nat} {items : List Value} (h : ∀ v ∈ items, Leaf v) (hne : items ≠ []) :
    Tidy depth (.list items)
  | map {depth : Nat} {entries : Entries Value} (hvalues : ∀ e ∈ entries, Tidy depth e.2)
    (hlegible : ∀ e ∈ entries, Legible e.1 e.2) (hnames : (Entries.names entries).Nodup)
    (hne : entries ≠ []) : Tidy (depth + 1) (Fragment.entriesValue entries)

theorem entriesValue_eq (entries : Entries Value) :
    Fragment.entriesValue entries = .map (entries.map fun e => (.text e.1, e.2)) := rfl

/-! ### Leaves -/

section Leaves
variable {v : Value}

theorem lexemes_leaf (hleaf : Leaf v) : lexemes v = [leafLexeme v] := by
  cases hleaf <;> rfl

theorem node_leaf (hleaf : Leaf v) (indent : Nat) :
    Writer.node indent v = Writer.scalar (some indent) indent v := by
  cases hleaf <;> rfl

theorem member_leaf (hleaf : Leaf v) (indent column : Nat) :
    Writer.member indent column v = ' ' :: Writer.scalar (some (indent + 2)) (column + 1) v := by
  cases hleaf <;> rfl

end Leaves

/-! ### What lines begin with -/

section Starts
variable {indent : Nat} {more : List Char}

theorem starts_cons {x : Char} (hx : Printable x) (hspace : x ≠ ' ') (hcomment : x ≠ '#')
    (hseparator : (x :: more).take 3 ≠ ['-', '-', '-'] ∧ (x :: more).take 3 ≠ ['.', '.', '.']) :
    Starts indent (x :: more) :=
  ⟨⟨.inr ⟨x, more, rfl, hx, hspace⟩, fun _ => hseparator⟩, by simpa using hcomment⟩

theorem starts_mark {x : Char} (hx : x = '-' ∨ x = '?' ∨ x = ':') : Starts indent (x :: ' ' :: more) := by
  rcases hx with rfl | rfl | rfl <;>
    exact starts_cons (by decide) (by decide) (by decide) ⟨by simp, by simp⟩

theorem starts_nil : Starts indent [] := ⟨⟨.inl rfl, fun _ => ⟨by simp, by simp⟩⟩, by simp⟩

/-- A scalar is no comment, and no mark that separates documents. -/
theorem starts_styled {style : Style} {text : List Char} {y : Char} (hfits : Fits style text)
    (hy : y = ':' ∨ y = '\n') (margin : Option Nat) (column : Nat) :
    Starts indent (styled margin column style text ++ y :: more) := by
  cases style with
  | plain =>
    obtain ⟨htext, hne⟩ := hfits.plain rfl
    have hunmarked := Scalar.unmarked_of_isPlain htext
    obtain ⟨stretch, behind, z, rest, rfl, hstretch, -, hz, hwritten⟩ :=
      exists_first hunmarked.bare hne margin column y more
    have hz' : z ≠ '-' ∧ z ≠ '.' := by
      rcases hz with rfl | rfl | rfl
      · rcases hy with rfl | rfl <;> decide
      all_goals decide
    have hseparator : (stretch ++ z :: rest).take 3 ≠ ['-', '-', '-'] ∧
        (stretch ++ z :: rest).take 3 ≠ ['.', '.', '.'] :=
      ⟨take_three_stretch hz'.1 hunmarked.noDashes, take_three_stretch hz'.2 hunmarked.noDots⟩
    have hleading := hunmarked.leading
    rw [hwritten]
    obtain ⟨x, stretch, rfl⟩ := List.exists_cons_of_ne_nil hstretch
    refine starts_cons (hunmarked.bare.printable x List.mem_cons_self) ?_ ?_ hseparator
    · exact fun hx => hunmarked.bare.head (hx ▸ rfl)
    · rintro rfl
      cases hleading
  | singleQuoted | doubleQuoted =>
    exact starts_cons (by decide) (by decide) (by decide) ⟨by simp, by simp⟩

end Starts

/-! ### Keys -/

section Keys
variable {name : String} {v : Value}

theorem breaksAt_none (column : Nat) : Writer.breaksAt none column = none := ite_self none

/-- On one line it does not matter where a text begins. -/
theorem singleFrom_none (column column' : Nat) (before : Option Char) (text : List Char) :
    Writer.singleFrom none column before text = Writer.singleFrom none column' before text := by
  induction text generalizing column column' before with
  | nil => rfl
  | cons x text ih =>
    rw [Writer.singleFrom, Writer.singleFrom, breaksAt_none, breaksAt_none]
    dsimp only
    rw [ih (column + 1) (column' + 1), ih (column + 2) (column' + 2)]

theorem doubleFrom_none (p q : Writer.Place) (pieces : List Writer.Piece) :
    Writer.doubleFrom none p pieces = Writer.doubleFrom none q pieces := by
  induction pieces generalizing p q with
  | nil => rfl
  | cons piece pieces ih =>
    cases piece with
    | literal x =>
      rw [Writer.doubleFrom, Writer.doubleFrom, breaksAt_none, ite_self, breaksAt_none, ite_self]
      dsimp only
      rw [ih]
    | escaped written =>
      rw [Writer.doubleFrom, Writer.doubleFrom, breaksAt_none, ite_self, breaksAt_none, ite_self]
      dsimp only
      rw [ih]

theorem styled_none (column column' : Nat) (style : Style) (text : List Char) :
    styled none column style text = styled none column' style text := by
  cases style with
  | plain => rw [styled, styled, Scalar.writePlain_none, Scalar.writePlain_none]
  | singleQuoted => rw [styled, styled, singleFrom_none]
  | doubleQuoted =>
    rw [styled, styled, Writer.doubleQuoted, Writer.doubleQuoted, doubleFrom_none]

/-- A key that stands on the line of its value has no line breaks. -/
theorem no_break_of_simple (hsimple : Writer.isSimpleKey (.text name) = true) : '\n' ∉ name.toList := by
  intro hbreak
  rw [Writer.isSimpleKey, Bool.and_eq_true, Bool.and_eq_true, Bool.not_eq_true', List.any_eq_false] at hsimple
  exact hsimple.1.2 _ hbreak (by decide)

/-- The width of such a key does not depend on where it stands. -/
theorem length_key (name : String) (column : Nat) :
    (styled none column (Writer.style (.text name)) (Writer.content (.text name))).length =
      (Writer.text none 0 name.toList).length := by
  rw [Scalar.text_eq, styled_none column 0]
  rfl

/-- A place is kept for it. -/
theorem Legible.key (h : Legible name v) (hsimple : Writer.isSimpleKey (.text name) = true) (column : Nat) :
    (styled none column (Writer.style (.text name)) (Writer.content (.text name))).length ≤ 1024 := by
  rw [length_key]
  exact h.narrow hsimple

end Keys

/-! ### Values behind their keys -/

section Values
variable {p q : Stand} {indent m column : Nat} {name : String} {v : Value} {rest : List Char}

/-- A value of a map at an indentation is read behind its key, along with the end of its line, if the
next line is not indented further than the map. -/
def IsRead (indent : Nat) (v : Value) : Prop :=
  ∀ (column : Nat) {p q : Stand} {m : Nat} {rest : List Char}, Reaches p q → q.indent = indent + 1 →
    indent ≤ q.column → q.keyAllowed = false →
    q.rest = Writer.member indent column v ++ '\n' :: (List.replicate m ' ' ++ rest) →
    Starts m rest → m ≤ indent → Goes p (q.after (lexemes v) rest m true)

/-- A leaf is read behind a blank. -/
theorem goes_leaf {margin : Nat} (hleaf : Leaf v) (hreaches : Reaches p q)
    (hmargin : 0 < margin ∧ margin < width ∧ q.indent ≤ margin) (hcolumn : q.indent ≤ q.column + 2)
    (hkey : q.keyAllowed = true → q.indent ≠ q.column + 2)
    (h : q.rest = ' ' :: (Writer.scalar (some margin) column v ++ '\n' :: (List.replicate m ' ' ++ rest)))
    (hrest : Starts m rest) (hm : m < q.indent) : Goes p (q.after [leafLexeme v] rest m true) := by
  have hfits := fits_leaf hleaf
  rw [scalar_leaf hleaf] at h
  have hstarts : Starts 0 (styled (some margin) column (Writer.style v) (Writer.content v) ++
      '\n' :: (List.replicate m ' ' ++ rest)) := starts_styled hfits (.inr rfl) _ _
  have hspace := hreaches.spaces (m := 1) h hstarts
  have hmargin' : ∀ k ∈ some margin, 0 < k ∧ k < width ∧ q.indent ≤ k := by
    rintro _ ⟨⟩
    exact hmargin
  exact hspace.trans (goes_scalar hfits hmargin' nofun hcolumn hkey rfl hrest hm)

theorem isRead_leaf (hleaf : Leaf v) (hwidth : indent + 2 < width) : IsRead indent v := by
  intro column p q m rest hreaches hindent hcolumn hkey h hrest hm
  rw [member_leaf hleaf] at h
  rw [lexemes_leaf hleaf]
  refine goes_leaf hleaf hreaches ⟨by omega, hwidth, by omega⟩ (by omega) (fun hallowed => ?_) h hrest (by omega)
  rw [hkey] at hallowed
  cases hallowed

/-! ### Lists -/

theorem listItems_cons (indent : Nat) (v w : Value) (items : List Value) :
    Writer.listItems indent (v :: w :: items) =
      Writer.listItems indent [v] ++ Writer.newline indent ++ Writer.listItems indent (w :: items) := by
  simp [Writer.listItems]

theorem starts_listItems {items : List Value} (hne : items ≠ []) {k : Nat} {more : List Char} :
    Starts k (Writer.listItems indent items ++ more) := by
  obtain ⟨v, items, rfl⟩ := List.exists_cons_of_ne_nil hne
  rw [Writer.listItems]
  exact starts_mark (.inl rfl)

/-- The items of a list that stands as deep as the map it is in. -/
theorem goes_items {items : List Value} (hleaf : ∀ v ∈ items, Leaf v) (hne : items ≠ [])
    (hwidth : indent + 2 < width) (hkey : p.keyAllowed = true) (hcolumn : p.column = indent)
    (hindent : p.indent = indent + 1)
    (h : p.rest = Writer.listItems indent items ++ '\n' :: (List.replicate m ' ' ++ rest))
    (hrest : Starts m rest) (hm : m ≤ indent) :
    Goes p (p.after (items.flatMap fun v => [.blockEntry, leafLexeme v]) rest m true) := by
  -- One item and the end of its line.
  have hitem : ∀ {p : Stand} {m : Nat} {rest : List Char} {v : Value}, Leaf v → p.keyAllowed = true →
      p.column = indent → p.indent = indent + 1 → 
      p.rest = Writer.listItems indent [v] ++ '\n' :: (List.replicate m ' ' ++ rest) → Starts m rest →
      m ≤ indent → Goes p (p.after [.blockEntry, leafLexeme v] rest m true) := by
    intro p m rest v hv hkey hcolumn hindent h hrest hm
    rw [Writer.listItems, Writer.listItems, node_leaf hv] at h
    simp only [List.isEmpty_nil, if_true, List.append_nil, List.cons_append] at h
    have hentry := reaches_entry hkey (by omega) h
    have hgoes := goes_leaf hv hentry ⟨by omega, hwidth, ?_⟩ ?_ (fun _ => ?_) rfl hrest ?_
    · simpa using hgoes
    all_goals dsimp only [Stand.after]; omega
  induction items generalizing p with
  | nil => exact absurd rfl hne
  | cons v items ih =>
    cases items with
    | nil =>
      exact hitem (hleaf v List.mem_cons_self) hkey hcolumn hindent h hrest hm
    | cons w items =>
      rw [listItems_cons] at h
      simp only [Writer.newline, Writer.spaces, List.append_assoc, List.cons_append] at h
      have hfirst := hitem (hleaf v List.mem_cons_self) hkey hcolumn hindent h
        (starts_listItems (List.cons_ne_nil w items)) (Nat.le_refl indent)
      have hmore := ih (fun x hx => hleaf x (List.mem_cons_of_mem _ hx)) (List.cons_ne_nil w items)
        (p := p.after [.blockEntry, leafLexeme v] _ indent true) rfl rfl hindent rfl
      simpa using hfirst.trans hmore

theorem isRead_list {items : List Value} (hleaf : ∀ v ∈ items, Leaf v) (hne : items ≠ [])
    (hwidth : indent + 2 < width) : IsRead indent (.list items) := by
  intro column p q m rest hreaches hindent hcolumn hkey h hrest hm
  rw [Writer.member, if_neg (by simpa using hne)] at h
  simp only [Writer.newline, Writer.spaces, List.append_assoc, List.cons_append] at h
  have hline := hreaches.newline h (starts_listItems hne)
  rw [lexemes]
  exact hline.trans (goes_items hleaf hne hwidth rfl rfl hindent rfl hrest hm)

/-! ### Maps -/

theorem mapEntries_cons (indent : Nat) (e f : Value × Value) (entries : List (Value × Value)) :
    Writer.mapEntries indent (e :: f :: entries) =
      Writer.mapEntries indent [e] ++ Writer.newline indent ++ Writer.mapEntries indent (f :: entries) := by
  simp [Writer.mapEntries]

theorem member_cons (indent column : Nat) (v : Value) :
    ∃ y more, isBlankOrEnd y = true ∧ Writer.member indent column v = y :: more := by
  unfold Writer.member
  split
  all_goals first
    | exact ⟨' ', _, rfl, rfl⟩
    | split_ifs
      · exact ⟨' ', _, rfl, rfl⟩
      · exact ⟨'\n', _, rfl, rfl⟩

theorem mapEntries_simple (hsimple : Writer.isSimpleKey (.text name) = true) :
    Writer.mapEntries indent [(.text name, v)] =
      Writer.scalar none indent (.text name) ++ ':' ::
        Writer.member indent (indent + (Writer.scalar none indent (.text name)).length + 1) v := by
  simp [Writer.mapEntries, hsimple]

theorem mapEntries_marked (hsimple : Writer.isSimpleKey (.text name) = false) (hleaf : Leaf v) :
    Writer.mapEntries indent [(.text name, v)] =
      '?' :: ' ' :: (Writer.scalar (some (indent + 2)) (indent + 2) (.text name) ++ '\n' ::
        (List.replicate indent ' ' ++ ':' :: ' ' :: Writer.scalar (some (indent + 2)) (indent + 2) v)) := by
  simp [Writer.mapEntries, hsimple, Writer.newline, Writer.spaces, node_leaf hleaf]

theorem exists_mapEntries_cons (indent : Nat) (e : Value × Value) (entries : List (Value × Value)) :
    ∃ behind, Writer.mapEntries indent (e :: entries) = Writer.mapEntries indent [e] ++ behind := by
  cases entries with
  | nil => exact ⟨[], (List.append_nil _).symm⟩
  | cons f entries => exact ⟨_, (mapEntries_cons ..).trans (List.append_assoc ..)⟩

theorem starts_entry (hleaf : Writer.isSimpleKey (.text name) = false → Leaf v)
    (entries : List (Value × Value)) {k : Nat} {more : List Char} :
    Starts k (Writer.mapEntries indent ((.text name, v) :: entries) ++ more) := by
  obtain ⟨behind, hbehind⟩ := exists_mapEntries_cons indent (.text name, v) entries
  rw [hbehind]
  cases hsimple : Writer.isSimpleKey (.text name) with
  | true =>
    rw [mapEntries_simple hsimple, scalar_leaf (.text name)]
    simp only [List.append_assoc, List.cons_append]
    exact starts_styled (fits_leaf (.text name)) (.inl rfl) none indent
  | false =>
    rw [mapEntries_marked hsimple (hleaf hsimple)]
    exact starts_mark (.inr (.inl rfl))

theorem starts_mapEntries {entries : Entries Value}
    (hleaf : ∀ e ∈ entries, Writer.isSimpleKey (.text e.1) = false → Leaf e.2) (hne : entries ≠ [])
    {k : Nat} {more : List Char} :
    Starts k (Writer.mapEntries indent (entries.map fun e => (.text e.1, e.2)) ++ more) := by
  obtain ⟨⟨name, v⟩, entries, rfl⟩ := List.exists_cons_of_ne_nil hne
  exact starts_entry (hleaf _ List.mem_cons_self) _

/-- An entry of a map is read along with the end of its line. -/
theorem goes_entry (hlegible : Legible name v) (hread : IsRead indent v) (hwidth : indent + 2 < width)
    (hkey : p.keyAllowed = true) (hcolumn : p.column = indent) (hindent : p.indent ≤ indent + 1)
    (h : p.rest = Writer.mapEntries indent [(.text name, v)] ++ '\n' :: (List.replicate m ' ' ++ rest))
    (hrest : Starts m rest) (hm : m ≤ indent) :
    Goes p (p.inMapping.after (.key :: leafLexeme (.text name) :: .value :: lexemes v) rest m true) := by
  have hfits := fits_leaf (.text name)
  have hinside : p.inMapping.indent = indent + 1 := by
    rw [indent_inMapping (by omega), hcolumn]
  cases hsimple : Writer.isSimpleKey (.text name) with
  | true =>
    have hbreak := no_break_of_simple hsimple
    have hnarrow := hlegible.key hsimple indent
    obtain ⟨y, more, hy, hmember⟩ := member_cons indent
      (indent + (Writer.scalar none indent (.text name)).length + 1) v
    rw [mapEntries_simple hsimple, hmember, scalar_leaf (.text name)] at h
    simp only [List.append_assoc, List.cons_append] at h
    have hreaches := reaches_key hfits hbreak hnarrow hkey (by omega) hy h
    have hvalue := hread _ hreaches hinside (by dsimp only [Stand.after]; omega) rfl
      (by rw [hmember]; rfl) hrest hm
    simpa [leafLexeme] using hvalue
  | false =>
    have hleaf := hlegible.leaf hsimple
    rw [mapEntries_marked hsimple hleaf] at h
    simp only [List.append_assoc, List.cons_append] at h
    have hmark := reaches_keyMark hkey (by omega) h
    have hname := goes_leaf (.text name) hmark ⟨Nat.succ_pos (indent + 1), hwidth, by dsimp only [Stand.after]; omega⟩
      (by dsimp only [Stand.after]; omega) (fun _ => by dsimp only [Stand.after]; omega) rfl
      (starts_mark (.inr (.inr rfl))) (by dsimp only [Stand.after]; omega)
    have hmarked := hname.reaches (reaches_valueMark rfl (by dsimp only [Stand.after]; omega) rfl)
    have hvalue := goes_leaf hleaf hmarked ⟨Nat.succ_pos (indent + 1), hwidth, ?_⟩ ?_ (fun _ => ?_)
      rfl hrest ?_
    · simpa [lexemes_leaf hleaf] using hvalue
    all_goals dsimp only [Stand.after]; omega

theorem goes_entries {entries : Entries Value} (hlegible : ∀ e ∈ entries, Legible e.1 e.2)
    (hread : ∀ e ∈ entries, IsRead indent e.2) (hne : entries ≠ []) (hwidth : indent + 2 < width)
    (hkey : p.keyAllowed = true) (hcolumn : p.column = indent) (hindent : p.indent ≤ indent + 1)
    (h : p.rest = Writer.mapEntries indent (entries.map fun e => (.text e.1, e.2)) ++
      '\n' :: (List.replicate m ' ' ++ rest)) (hrest : Starts m rest) (hm : m ≤ indent) :
    Goes p (p.inMapping.after (entryLexemes (entries.map fun e => (.text e.1, e.2))) rest m true) := by
  induction entries generalizing p with
  | nil => exact absurd rfl hne
  | cons e entries ih =>
    have hfirst := hlegible e List.mem_cons_self
    have hvalue := hread e List.mem_cons_self
    cases entries with
    | nil =>
      have hgoes := goes_entry hfirst hvalue hwidth hkey hcolumn hindent h hrest hm
      simpa [entryLexemes] using hgoes
    | cons f entries =>
      have hlegible' := fun x hx => hlegible x (List.mem_cons_of_mem _ hx)
      rw [List.map_cons, List.map_cons, mapEntries_cons] at h
      simp only [Writer.newline, Writer.spaces, List.append_assoc, List.cons_append] at h
      have hgoes := goes_entry hfirst hvalue hwidth hkey hcolumn hindent h
        (starts_mapEntries (fun x hx => (hlegible' x hx).leaf) (List.cons_ne_nil f entries)) (Nat.le_refl indent)
      have hinside : p.inMapping.indent = indent + 1 := by
        rw [indent_inMapping (by omega), hcolumn]
      have hmore := ih hlegible' (fun x hx => hread x (List.mem_cons_of_mem _ hx)) (List.cons_ne_nil f entries)
        (p := p.inMapping.after (.key :: leafLexeme (.text e.1) :: .value :: lexemes e.2) _ indent true)
        rfl rfl (Nat.le_of_eq hinside) rfl
      have hopen : (p.inMapping.after (.key :: leafLexeme (.text e.1) :: .value :: lexemes e.2)
          (Writer.mapEntries indent ((f :: entries).map fun e => (.text e.1, e.2)) ++
            '\n' :: (List.replicate m ' ' ++ rest)) indent true).inMapping = _ :=
        if_neg (by dsimp only [Stand.after]; omega)
      rw [hopen] at hmore
      simpa [entryLexemes] using hgoes.trans hmore

/-- A map within another one is a block of its own, which ends before the next line. -/
theorem isRead_map {entries : Entries Value} (hlegible : ∀ e ∈ entries, Legible e.1 e.2)
    (hread : ∀ e ∈ entries, IsRead (indent + 2) e.2) (hne : entries ≠ []) (hwidth : indent + 4 < width) :
    IsRead indent (Fragment.entriesValue entries) := by
  intro column p q m rest hreaches hindent hcolumn hkey h hrest hm
  rw [entriesValue_eq, Writer.member, if_neg (by simpa using hne)] at h
  simp only [Writer.newline, Writer.spaces, List.append_assoc, List.cons_append] at h
  have hline := hreaches.newline h (starts_mapEntries (fun e he => (hlegible e he).leaf) hne)
  have hentries := goes_entries hlegible hread hne hwidth
    (p := { q with rest := _, column := indent + 2, keyAllowed := true }) rfl rfl
    (by dsimp only; omega) rfl hrest (by omega)
  have hopen : Stand.inMapping { q with
      rest := Writer.mapEntries (indent + 2) (entries.map fun e => (.text e.1, e.2)) ++
        '\n' :: (List.replicate m ' ' ++ rest)
      column := indent + 2, keyAllowed := true } = _ :=
    if_pos (by dsimp only; omega)
  rw [hopen] at hentries
  have hclosed := hentries.trans (goes_close rfl (by dsimp only [Stand.after]; omega))
  rw [entriesValue_eq, lexemes]
  simpa [Stand.after] using hline.trans hclosed

theorem isRead_tidy {depth : Nat} (h : Tidy depth v) (hwidth : indent + 2 * depth + 2 < width) :
    IsRead indent v := by
  induction h generalizing indent with
  | leaf h => exact isRead_leaf h (by omega)
  | list h hne => exact isRead_list h hne (by omega)
  | map hvalues hlegible hnames hne ih =>
    exact isRead_map hlegible (fun e he => ih e he (by omega)) hne (by omega)

end Values

/-- A map that is a document of its own is read as its tokens, and the text ends there. -/
theorem tokens_document {depth : Nat} {entries : Entries Value} (hvalues : ∀ e ∈ entries, Tidy depth e.2)
    (hlegible : ∀ e ∈ entries, Legible e.1 e.2) (hne : entries ≠ []) (hdepth : 2 * depth + 2 < width) :
    ∃ ts, Lexer.tokens (Writer.document (Fragment.entriesValue entries)) none = ⟨ts, none⟩ ∧
      ts.map Token.lexeme = lexemes (Fragment.entriesValue entries) ++ [.streamEnd] := by
  obtain ⟨text, htext⟩ : ∃ text, Writer.document (Fragment.entriesValue entries) = text := ⟨_, rfl⟩
  have hwritten : text = Writer.mapEntries 0 (entries.map fun e => (.text e.1, e.2)) ++ ['\n'] := by
    rw [← htext, Fragment.entriesValue, Writer.document, Writer.node, if_neg (by simpa using hne)]
  have hstarts : Starts 0 text := hwritten ▸ starts_mapEntries (fun e he => (hlegible e he).leaf) hne
  have hready := ready_spaces (s := { cursor := { rest := text } }) (m := 0) rfl rfl rfl hstarts
    (List.forall_mem_nil _)
  have hread : ∀ e ∈ entries, IsRead 0 e.2 := fun e he => isRead_tidy (hvalues e he) (by omega)
  have hgoes := goes_entries (p := ⟨[], text, 0, 0, [], true⟩) hlegible hread hne (by omega) rfl rfl
    (Nat.zero_le 1) hwritten starts_nil (Nat.le_refl 0)
  obtain ⟨s, ⟨turns, hturns, hleads⟩, hs⟩ := hgoes _ hready
  have hfuel : 2 * text.length + 2 = turns + ((2 * text.length - turns) + 2) := by
    dsimp only at hturns
    omega
  obtain ⟨sure, hlex⟩ := hleads ((2 * text.length - turns) + 2) 0
  obtain ⟨ts, hend, hlexemes⟩ := lexAll_end hs rfl rfl rfl (2 * text.length - turns) sure
  refine ⟨ts, ?_, ?_⟩
  · rw [htext, Lexer.tokens, hfuel, hlex, hend]
  · rw [hlexemes, Fragment.entriesValue, lexemes]
    simp [Stand.after, Stand.inMapping]

end LintConfig.Yaml
