import LintConfig.Proofs.Json.Scalars
import Mathlib.Data.List.TakeWhile

/-! # Written values are read back

A value begins with a mark that tells its kind, and behind it the reader finds what can only end it:
nothing, a comma, or the line break before a closing bracket. So it stops where the writer did, and
what is around the value does not matter. The text of a value is longer than the value is deep, so
that the reader, which goes at most as deep as the text is long, comes to its end. -/
namespace LintConfig.Json

mutual

/-- Is a value one that JSON has a form of its own for? The keys of a map are different texts. -/
def isJson : Value → Bool
  | .null | .bool _ | .integer _ | .text _ => true
  | .list items => areJson items
  | .map entries => entriesJson entries
  | _ => false

def areJson : List Value → Bool
  | [] => true
  | v :: rest => isJson v && areJson rest

def entriesJson : List (Value × Value) → Bool
  | [] => true
  | (.text k, v) :: rest =>
    rest.all (fun e => !(Value.text k).sameScalar e.1) && isJson v && entriesJson rest
  | _ => false

end

theorem text_of_entriesJson {k v : Value} {rest : List (Value × Value)}
    (h : entriesJson ((k, v) :: rest) = true) : ∃ s, k = .text s := by
  cases k with
  | text s => exact ⟨s, rfl⟩
  | null | bool | integer | double | halves | bytes | date | moment | list | tuple | set | map | knot
  | again => exact absurd h (by simp [entriesJson])

/-! ### Space -/

theorem toList_newline (level : Nat) :
    (newline level).toList = '\n' :: List.replicate (4 * level) ' ' := String.toList_ofList

theorem skipSpace_newline (level : Nat) (rest : List Char) :
    skipSpace ((newline level).toList ++ rest) = skipSpace rest := by
  have hspace : ∀ c ∈ (newline level).toList, isSpace c = true := by
    intro c hc
    rw [toList_newline] at hc
    rcases List.mem_cons.mp hc with rfl | hc
    · rfl
    · rw [List.eq_of_mem_replicate hc]
      rfl
  exact List.dropWhile_append_of_pos hspace

theorem skipSpace_cons {c : Char} (h : isSpace c = false) (rest : List Char) :
    skipSpace (c :: rest) = c :: rest := by
  rw [skipSpace, List.dropWhile_cons_of_neg (by simp [h])]

theorem endsNumber_space {rest : List Char} (h : ∀ c ∈ rest.head?, isSpace c = true) :
    EndsNumber rest := by
  intro c hc
  have hspace := h c hc
  simp only [isSpace, Bool.or_eq_true, beq_iff_eq] at hspace
  rcases hspace with ((rfl | rfl) | rfl) | rfl <;> decide

theorem endsNumber_newline (level : Nat) (rest : List Char) :
    EndsNumber ((newline level).toList ++ rest) := by
  refine endsNumber_space fun c hc => ?_
  rw [toList_newline, List.cons_append, List.head?_cons, Option.mem_some_iff] at hc
  exact hc ▸ rfl

theorem endsNumber_comma (rest : List Char) : EndsNumber (',' :: rest) := by
  intro c hc
  rw [List.head?_cons, Option.mem_some_iff] at hc
  subst hc
  decide

theorem value_newline (fuel level : Nat) (rest : List Char) :
    value? fuel ((newline level).toList ++ rest) = value? fuel rest := by
  cases fuel with
  | zero => rfl
  | succ fuel => rw [value?, value?, skipSpace_newline]

theorem items_newline (fuel level : Nat) (rest : List Char) :
    items? fuel ((newline level).toList ++ rest) = items? fuel rest := by
  cases fuel with
  | zero => rfl
  | succ fuel => rw [items?, items?, value_newline]

theorem entries_newline (fuel level : Nat) (rest : List Char) :
    entries? fuel ((newline level).toList ++ rest) = entries? fuel rest := by
  cases fuel with
  | zero => rfl
  | succ fuel => rw [entries?, entries?, skipSpace_newline]

/-! ### Marks -/

/-- A number begins with a digit or a minus. -/
theorem head_integer (n : Int) :
    ∃ c cs, (toString n).toList = c :: cs ∧ (isDigit c = true ∨ c = '-') := by
  cases n with
  | ofNat n =>
    obtain ⟨d, ds, hds⟩ := List.exists_cons_of_ne_nil (Nat.toDigits_ne_nil (n := n) (b := 10))
    rw [toList_natural, hds]
    exact ⟨d, ds, rfl, .inl (isDigit_of_mem_toDigits (hds ▸ List.mem_cons_self))⟩
  | negSucc n => exact ⟨_, _, toList_negative n, .inr rfl⟩

section Number
variable {c : Char}

theorem number_ne (h : isDigit c = true ∨ c = '-') {d : Char} (hd : isDigit d = false)
    (hminus : d ≠ '-') : c ≠ d := by
  rintro rfl
  rcases h with h | h
  · rw [h] at hd
    contradiction
  · exact hminus h

theorem isSpace_number (h : isDigit c = true ∨ c = '-') : isSpace c = false := by
  simp only [isSpace, Bool.or_eq_false_iff, beq_eq_false_iff_ne]
  exact ⟨⟨⟨number_ne h rfl (by decide), number_ne h rfl (by decide)⟩, number_ne h rfl (by decide)⟩,
    number_ne h rfl (by decide)⟩

/-- What begins with a digit or a minus is read as a number. -/
theorem value_number (fuel : Nat) (h : isDigit c = true ∨ c = '-') (cs : List Char) :
    value? (fuel + 1) (c :: cs) = number? (c :: cs) := by
  have hword : ∀ word d ds, word.toList = d :: ds → c ≠ d → word? word (c :: cs) = none := by
    intro word d ds hword hd
    rw [word?, hword, List.isPrefixOf, beq_eq_false_iff_ne.mpr (Ne.symm hd)]
    rfl
  have hconstant : constant? (c :: cs) = none := by
    rw [constant?, hword "null" 'n' _ rfl (number_ne h rfl (by decide)),
      hword "true" 't' _ rfl (number_ne h rfl (by decide)),
      hword "false" 'f' _ rfl (number_ne h rfl (by decide))]
    rfl
  rw [value?, skipSpace_cons (isSpace_number h)]
  split
  · exact absurd (List.cons.inj ‹_›).1 (number_ne h rfl (by decide))
  · exact absurd (List.cons.inj ‹_›).1 (number_ne h rfl (by decide))
  · exact absurd (List.cons.inj ‹_›).1 (number_ne h rfl (by decide))
  · rw [hconstant]
    rfl

end Number

/-! ### Texts -/

section Texts
variable (level : Nat)

/-- The text of items at a level, without the brackets. -/
def itemsText (items : List Value) : List Char :=
  (joined ("," ++ newline level) (itemsAt level items)).toList

def entriesText (entries : List (Value × Value)) : List Char :=
  (joined ("," ++ newline level) (entriesAt level entries)).toList

theorem valueAt_list (items : List Value) :
    valueAt level (.list items) = bracketed level "[" "]" (itemsAt (level + 1) items) := rfl

theorem valueAt_map (entries : List (Value × Value)) :
    valueAt level (.map entries) = bracketed level "\x7b" "\x7d" (entriesAt (level + 1) entries) := rfl

theorem text_null : (valueAt level .null).toList = ['n', 'u', 'l', 'l'] := by
  have hscalar : valueAt level .null = "null" := rfl
  rw [hscalar]
  rfl

theorem text_bool (b : Bool) : (valueAt level (.bool b)).toList =
    if b then ['t', 'r', 'u', 'e'] else ['f', 'a', 'l', 's', 'e'] := by
  have hscalar : valueAt level (.bool b) = if b then "true" else "false" := rfl
  rw [hscalar]
  cases b <;> rfl

theorem text_integer (n : Int) : (valueAt level (.integer n)).toList = (toString n).toList :=
  have hscalar : valueAt level (.integer n) = toString n := rfl
  congrArg String.toList hscalar

theorem text_text (s : String) : (valueAt level (.text s)).toList = (string s).toList :=
  have hscalar : valueAt level (.text s) = string s := rfl
  congrArg String.toList hscalar

theorem text_list_nil : (valueAt level (.list [])).toList = ['[', ']'] := by
  rw [valueAt_list, itemsAt, bracketed, if_pos List.isEmpty_nil, String.toList_append]
  rfl

theorem text_map_nil : (valueAt level (.map [])).toList = ['\x7b', '\x7d'] := by
  rw [valueAt_map, entriesAt, bracketed, if_pos List.isEmpty_nil, String.toList_append]
  rfl

theorem toList_bracketed {opening closing : String} {items : List String} (h : items ≠ []) :
    (bracketed level opening closing items).toList = opening.toList ++ ((newline (level + 1)).toList ++
      ((joined ("," ++ newline (level + 1)) items).toList ++
        ((newline level).toList ++ closing.toList))) := by
  rw [bracketed, if_neg (by simpa using h)]
  simp only [String.toList_append, List.append_assoc]

theorem text_list {items : List Value} (h : items ≠ []) :
    (valueAt level (.list items)).toList = '[' :: ((newline (level + 1)).toList ++
      (itemsText (level + 1) items ++ ((newline level).toList ++ [']']))) := by
  obtain ⟨v, rest, rfl⟩ := List.exists_cons_of_ne_nil h
  rw [valueAt_list, toList_bracketed level (by simp [itemsAt])]
  rfl

theorem text_map {entries : List (Value × Value)} (h : entries ≠ []) :
    (valueAt level (.map entries)).toList = '\x7b' :: ((newline (level + 1)).toList ++
      (entriesText (level + 1) entries ++ ((newline level).toList ++ ['\x7d']))) := by
  obtain ⟨e, rest, rfl⟩ := List.exists_cons_of_ne_nil h
  rw [valueAt_map, toList_bracketed level (by simp [entriesAt])]
  rfl

theorem toList_joined {a : String} {rest : List String} (h : rest ≠ []) :
    (joined ("," ++ newline level) (a :: rest)).toList =
      a.toList ++ ',' :: ((newline level).toList ++ (joined ("," ++ newline level) rest).toList) := by
  obtain ⟨b, rest, rfl⟩ := List.exists_cons_of_ne_nil h
  simp only [joined, String.toList_append, List.append_assoc]
  rfl

theorem itemsText_one (v : Value) : itemsText level [v] = (valueAt level v).toList := rfl

theorem itemsText_cons (v : Value) {rest : List Value} (h : rest ≠ []) :
    itemsText level (v :: rest) =
      (valueAt level v).toList ++ ',' :: ((newline level).toList ++ itemsText level rest) := by
  refine toList_joined level ?_
  obtain ⟨w, rest, rfl⟩ := List.exists_cons_of_ne_nil h
  exact List.cons_ne_nil _ _

/-- The text of an entry. -/
def entryText (k v : Value) : List Char := (key k).toList ++ ':' :: ' ' :: (valueAt level v).toList

theorem toList_entry (k v : Value) : (key k ++ ": " ++ valueAt level v).toList = entryText level k v := by
  simp only [String.toList_append, List.append_assoc, entryText]
  rfl

theorem entriesText_one (k v : Value) : entriesText level [(k, v)] = entryText level k v :=
  toList_entry level k v

theorem entriesText_cons (k v : Value) {rest : List (Value × Value)} (h : rest ≠ []) :
    entriesText level ((k, v) :: rest) =
      entryText level k v ++ ',' :: ((newline level).toList ++ entriesText level rest) := by
  rw [← toList_entry]
  refine toList_joined level ?_
  obtain ⟨e, rest, rfl⟩ := List.exists_cons_of_ne_nil h
  exact List.cons_ne_nil _ _

end Texts

/-- A value begins with a mark that is neither space nor a closing bracket. -/
theorem head_value (level : Nat) {v : Value} (h : isJson v = true) :
    ∃ c cs, (valueAt level v).toList = c :: cs ∧ isSpace c = false ∧ c ≠ ']' := by
  cases v with
  | null => exact ⟨_, _, text_null level, rfl, by decide⟩
  | bool b =>
    cases b
    · exact ⟨_, _, text_bool level false, rfl, by decide⟩
    · exact ⟨_, _, text_bool level true, rfl, by decide⟩
  | integer n =>
    obtain ⟨c, cs, hcs, hc⟩ := head_integer n
    refine ⟨c, cs, (text_integer level n).trans hcs, isSpace_number hc, ?_⟩
    rintro rfl
    exact hc.elim (by decide) (by decide)
  | text s => exact ⟨_, _, (text_text level s).trans (toList_string s), rfl, by decide⟩
  | list items =>
    by_cases hitems : items = []
    · exact ⟨_, _, hitems ▸ text_list_nil level, rfl, by decide⟩
    · exact ⟨_, _, text_list level hitems, rfl, by decide⟩
  | map entries =>
    by_cases hentries : entries = []
    · exact ⟨_, _, hentries ▸ text_map_nil level, rfl, by decide⟩
    · exact ⟨_, _, text_map level hentries, rfl, by decide⟩
  | double | halves | bytes | date | moment | tuple | set | knot | again => exact absurd h (by simp [isJson])

/-! ### Reading what is written -/

section Reading
variable {fuel level : Nat} {rest : List Char}

theorem value_string (fuel : Nat) (cs : List Char) :
    value? (fuel + 1) ('"' :: cs) = string? ('"' :: cs) := by
  rw [value?, skipSpace_cons rfl]
  rfl

theorem value_list (fuel : Nat) (rest : List Char) : value? (fuel + 1) ('[' :: rest) =
    match skipSpace rest with
    | ']' :: after => some (.list [], after)
    | cs => (items? fuel cs).map fun (items, after) => (.list items, after) := by
  rw [value?, skipSpace_cons rfl]
  rfl

theorem value_map (fuel : Nat) (rest : List Char) : value? (fuel + 1) ('\x7b' :: rest) =
    match skipSpace rest with
    | '\x7d' :: after => some (.map [], after)
    | cs => (entries? fuel cs).map fun (entries, after) => (.map entries, after) := by
  rw [value?, skipSpace_cons rfl]
  rfl

theorem items_last {cs : List Char} {v : Value}
    (h : value? fuel cs = some (v, (newline level).toList ++ ']' :: rest)) :
    items? (fuel + 1) cs = some ([v], rest) := by
  rw [items?, h]
  simp only [bind, Option.bind]
  rw [skipSpace_newline]
  rfl

theorem items_more {cs more : List Char} {v : Value} {items : List Value}
    (h : value? fuel cs = some (v, ',' :: ((newline level).toList ++ more)))
    (hmore : items? fuel more = some (items, rest)) :
    items? (fuel + 1) cs = some (v :: items, rest) := by
  rw [items?, h]
  simp only [bind, Option.bind]
  rw [skipSpace_cons rfl]
  simp only [items_newline, hmore, pure]

/-- The key of an entry is read up to its colon. -/
theorem string_entry (k : String) (v : Value) (rest : List Char) :
    string? (skipSpace (entryText level (.text k) v ++ rest)) =
      some (.text k, ':' :: ' ' :: ((valueAt level v).toList ++ rest)) := by
  have hread := string_read k (':' :: ' ' :: ((valueAt level v).toList ++ rest))
  have htext : entryText level (.text k) v ++ rest =
      (string k).toList ++ ':' :: ' ' :: ((valueAt level v).toList ++ rest) := by
    simp [entryText, key]
  rw [htext, ← hread, toList_string]
  exact congrArg string? (skipSpace_cons rfl _)

theorem value_space (fuel : Nat) (cs : List Char) : value? fuel (' ' :: cs) = value? fuel cs := by
  cases fuel with
  | zero => rfl
  | succ fuel =>
    rw [value?, value?]
    rfl

theorem entries_last {level' : Nat} {k : String} {v : Value} {after : List Char}
    (h : value? fuel ((valueAt level v).toList ++ after) =
      some (v, (newline level').toList ++ '\x7d' :: rest)) :
    entries? (fuel + 1) (entryText level (.text k) v ++ after) = some ([(.text k, v)], rest) := by
  rw [entries?, string_entry]
  simp only [bind, Option.bind]
  rw [skipSpace_cons rfl]
  simp only [value_space, h]
  rw [skipSpace_newline]
  rfl

theorem entries_more {k : String} {v : Value} {after more : List Char}
    {entries : List (Value × Value)}
    (h : value? fuel ((valueAt level v).toList ++ after) =
      some (v, ',' :: ((newline level).toList ++ more)))
    (hmore : entries? fuel more = some (entries, rest)) :
    entries? (fuel + 1) (entryText level (.text k) v ++ after) =
      some ((.text k, v) :: entries, rest) := by
  rw [entries?, string_entry]
  simp only [bind, Option.bind]
  rw [skipSpace_cons rfl]
  simp only [value_space, h]
  rw [skipSpace_cons rfl]
  simp only [entries_newline, hmore, pure]

theorem value_items {cs after : List Char} {items : List Value}
    (hhead : ∃ c ds, cs = c :: ds ∧ isSpace c = false ∧ c ≠ ']')
    (h : items? fuel cs = some (items, after)) :
    value? (fuel + 1) ('[' :: ((newline level).toList ++ cs)) = some (.list items, after) := by
  obtain ⟨c, ds, rfl, hspace, hbracket⟩ := hhead
  rw [value_list, skipSpace_newline, skipSpace_cons hspace]
  split
  · exact absurd (List.cons.inj ‹_›).1 hbracket
  · rw [h]
    rfl

theorem value_entries {cs after : List Char} {entries : List (Value × Value)}
    (hhead : ∃ ds, cs = '"' :: ds) (h : entries? fuel cs = some (entries, after)) :
    value? (fuel + 1) ('\x7b' :: ((newline level).toList ++ cs)) = some (.map entries, after) := by
  obtain ⟨ds, rfl⟩ := hhead
  rw [value_map, skipSpace_newline, skipSpace_cons rfl]
  exact congrArg (Option.map fun read => (Value.map read.1, read.2)) h

theorem head_items {items : List Value} (h : areJson items = true) (hne : items ≠ [])
    (after : List Char) :
    ∃ c cs, itemsText level items ++ after = c :: cs ∧ isSpace c = false ∧ c ≠ ']' := by
  obtain ⟨v, items, rfl⟩ := List.exists_cons_of_ne_nil hne
  rw [areJson, Bool.and_eq_true] at h
  obtain ⟨c, cs, hcs, hc⟩ := head_value level h.1
  by_cases hitems : items = []
  · exact ⟨c, cs ++ after, by rw [hitems, itemsText_one, hcs, List.cons_append], hc⟩
  · exact ⟨c, _, by rw [itemsText_cons level v hitems, hcs, List.cons_append, List.cons_append], hc⟩

theorem head_entries {entries : List (Value × Value)} (h : entriesJson entries = true)
    (hne : entries ≠ []) (after : List Char) :
    ∃ cs, entriesText level entries ++ after = '"' :: cs := by
  obtain ⟨⟨k, v⟩, entries, rfl⟩ := List.exists_cons_of_ne_nil hne
  obtain ⟨k, rfl⟩ := text_of_entriesJson h
  have hkey : (key (.text k)).toList = '"' :: (k.toList.flatMap stringChar ++ ['"']) := toList_string k
  by_cases hentries : entries = []
  · exact ⟨_, by rw [hentries, entriesText_one, entryText, hkey, List.cons_append, List.cons_append]⟩
  · exact ⟨_, by rw [entriesText_cons level _ v hentries, entryText, hkey, List.cons_append,
      List.cons_append, List.cons_append]⟩

end Reading

/-- The text of a line break is not empty. -/
theorem length_newline (level : Nat) : 0 < (newline level).toList.length := by
  rw [toList_newline]
  exact Nat.succ_pos _

mutual

/-- A value is read back, if no part of a number follows. -/
theorem value_read {level fuel : Nat} {rest : List Char} : (v : Value) → isJson v = true →
    (valueAt level v).toList.length < fuel + 1 → EndsNumber rest →
    value? (fuel + 1) ((valueAt level v).toList ++ rest) = some (v, rest)
  | .null => fun _ _ _ => by
    rw [text_null]
    rfl
  | .bool b => fun _ _ _ => by
    rw [text_bool]
    cases b <;> rfl
  | .integer n => fun _ _ hrest => by
    obtain ⟨c, cs, hcs, hc⟩ := head_integer n
    have hread := number_read n hrest
    rw [hcs, List.cons_append] at hread
    rw [text_integer, hcs, List.cons_append, value_number fuel hc, hread]
  | .text s => fun _ _ _ => by
    have hread := string_read s rest
    rw [toList_string, List.cons_append] at hread
    rw [text_text, toList_string, List.cons_append, value_string, hread]
  | .list items => fun h hfuel _ => by
    rw [isJson] at h
    by_cases hitems : items = []
    · rw [hitems, text_list_nil]
      rfl
    · rw [text_list level hitems] at hfuel ⊢
      simp only [List.length_cons, List.length_append] at hfuel
      simp only [List.cons_append, List.append_assoc, List.nil_append]
      exact value_items (head_items h hitems _) (items_read items hitems h (by omega))
  | .map entries => fun h hfuel _ => by
    rw [isJson] at h
    by_cases hentries : entries = []
    · rw [hentries, text_map_nil]
      rfl
    · rw [text_map level hentries] at hfuel ⊢
      simp only [List.length_cons, List.length_append] at hfuel
      simp only [List.cons_append, List.append_assoc, List.nil_append]
      exact value_entries (head_entries h hentries _) (entries_read entries hentries h (by omega))
  | .double _ | .halves _ | .bytes _ | .date _ | .moment _ | .tuple _ | .set _ | .knot _ _
  | .again _ => fun h => absurd h Bool.false_ne_true

/-- Items are read back up to the closing bracket. -/
theorem items_read {level fuel outer : Nat} {rest : List Char} : (items : List Value) →
    items ≠ [] → areJson items = true → (itemsText level items).length + 1 < fuel →
    items? fuel (itemsText level items ++ ((newline outer).toList ++ ']' :: rest)) =
      some (items, rest)
  | [] => fun hne => absurd rfl hne
  | v :: items => fun _ h hfuel => by
    obtain ⟨fuel, rfl⟩ : ∃ n, fuel = n + 2 := ⟨fuel - 2, by omega⟩
    rw [areJson, Bool.and_eq_true] at h
    by_cases hitems : items = []
    · rw [hitems, itemsText_one] at hfuel ⊢
      exact items_last (value_read v h.1 (by omega) (endsNumber_newline outer _))
    · rw [itemsText_cons level v hitems] at hfuel ⊢
      simp only [List.length_cons, List.length_append] at hfuel
      simp only [List.cons_append, List.append_assoc]
      have hbreak := length_newline level
      exact items_more (value_read v h.1 (by omega) (endsNumber_comma _))
        (items_read items hitems h.2 (by omega))

/-- Entries are read back up to the closing brace. -/
theorem entries_read {level fuel outer : Nat} {rest : List Char} : (entries : List (Value × Value)) →
    entries ≠ [] → entriesJson entries = true → (entriesText level entries).length + 1 < fuel →
    entries? fuel (entriesText level entries ++ ((newline outer).toList ++ '\x7d' :: rest)) =
      some (entries, rest)
  | [] => fun hne => absurd rfl hne
  | (k, v) :: entries => fun _ h hfuel => by
    obtain ⟨fuel, rfl⟩ : ∃ n, fuel = n + 2 := ⟨fuel - 2, by omega⟩
    obtain ⟨k, rfl⟩ := text_of_entriesJson h
    rw [entriesJson, Bool.and_eq_true, Bool.and_eq_true] at h
    by_cases hentries : entries = []
    · rw [hentries, entriesText_one] at hfuel ⊢
      simp only [entryText, List.length_cons, List.length_append] at hfuel
      exact entries_last (value_read v h.1.2 (by omega) (endsNumber_newline outer _))
    · rw [entriesText_cons level _ v hentries] at hfuel ⊢
      simp only [entryText, List.length_cons, List.length_append] at hfuel
      rw [List.append_assoc, List.cons_append, List.append_assoc]
      have hbreak := length_newline level
      exact entries_more (value_read v h.1.2 (by omega) (endsNumber_comma _))
        (entries_read entries hentries h.2 (by omega))

end

/-- What is written is read back, whatever space follows. -/
theorem read_write {v : Value} (h : isJson v = true) {space : String}
    (hspace : ∀ c ∈ space.toList, isSpace c = true) : read? (write v ++ space) = some v := by
  have hends : EndsNumber space.toList := endsNumber_space fun c hc => hspace c (List.mem_of_mem_head? hc)
  have hafter : skipSpace space.toList = [] := List.dropWhile_eq_nil_iff.mpr hspace
  have hfuel : (valueAt 0 v).toList.length < ((valueAt 0 v).toList ++ space.toList).length + 1 := by
    rw [List.length_append]
    omega
  rw [read?, write, String.toList_append]
  simp only [value_read v h hfuel hends, hafter]
  rfl

/-! ### Repeated keys -/

theorem assign_fresh {k v : Value} {es : List (Value × Value)}
    (h : ∀ e ∈ es, e.1.sameScalar k = false) : Value.assign k v es = es ++ [(k, v)] := by
  induction es with
  | nil => rfl
  | cons e es ih =>
    obtain ⟨he, hes⟩ := List.forall_mem_cons.mp h
    rw [Value.assign, if_neg (ne_true_of_eq_false he), ih hes]
    rfl

mutual

theorem settled_of_isJson : (v : Value) → isJson v = true → settled v = v
  | .null | .bool _ | .integer _ | .text _ => fun _ => rfl
  | .list items => fun h => by rw [settled, settledItems_of_areJson items h]
  | .map entries => fun h => by
    rw [settled, settledEntries_of_entriesJson entries h (by simp), List.nil_append]
  | .double _ | .halves _ | .bytes _ | .date _ | .moment _ | .tuple _ | .set _ | .knot _ _
  | .again _ => fun _ => rfl

theorem settledItems_of_areJson : (items : List Value) → areJson items = true →
    settledItems items = items
  | [] => fun _ => rfl
  | v :: rest => fun h => by
    rw [areJson, Bool.and_eq_true] at h
    rw [settledItems, settled_of_isJson v h.1, settledItems_of_areJson rest h.2]

theorem settledEntries_of_entriesJson {es : List (Value × Value)} : (entries : List (Value × Value)) →
    entriesJson entries = true → (∀ e ∈ es, ∀ f ∈ entries, e.1.sameScalar f.1 = false) →
    settledEntries es entries = es ++ entries
  | [] => fun _ _ => (List.append_nil es).symm
  | (k, v) :: rest => fun h hes => by
    obtain ⟨k, rfl⟩ := text_of_entriesJson h
    rw [entriesJson, Bool.and_eq_true, Bool.and_eq_true, List.all_eq_true] at h
    have hfresh : ∀ f ∈ rest, (Value.text k).sameScalar f.1 = false := fun f hf => by
      simpa using h.1.1 f hf
    rw [settledEntries, settled_of_isJson v h.1.2,
      assign_fresh fun e he => hes e he _ List.mem_cons_self,
      settledEntries_of_entriesJson rest h.2, List.append_assoc]
    · rfl
    · intro e he f hf
      rcases List.mem_append.mp he with he | he
      · exact hes e he f (List.mem_cons_of_mem _ hf)
      · rw [List.mem_singleton.mp he]
        exact hfresh f hf

end

theorem isSpace_nil : ∀ c ∈ "".toList, isSpace c = true := nofun

theorem isSpace_break : ∀ c ∈ "\n".toList, isSpace c = true := by
  have hlist : "\n".toList = ['\n'] := rfl
  rw [hlist, List.forall_mem_singleton]
  rfl

/-- What is written stands for the value. -/
theorem decode_write {v : Value} (h : isJson v = true) {space : String}
    (hspace : ∀ c ∈ space.toList, isSpace c = true) : decode? (write v ++ space) = some v := by
  rw [decode?, read_write h hspace, Option.map_some, settled_of_isJson v h]

end LintConfig.Json
