import LintConfig.Config.Fragment
import Mathlib.Data.List.Induction
import Mathlib.Data.List.Nodup

/-! # Configurations in layers

Entries that are merged layer by layer have the names of all layers in the order in which they first
occur, and for each name the value of the last layer that has it. Both say nothing of how the layers
were grouped, and together they determine the entries; so merging is associative, with the order of
the entries. Plugins are the first occurrences in all layers, which is why an empty layer tells
nothing only to a configuration that names no plugin twice. -/
namespace LintConfig

/-! ### First occurrences -/

section FirstOccurrences
variable {α : Type} [BEq α] [LawfulBEq α]

theorem filter_eraseDups (p : α → Bool) (l : List α) :
    l.eraseDups.filter p = (l.filter p).eraseDups := by
  induction l using List.reverseRecOn with
  | nil => rfl
  | append_singleton l x ih =>
    rw [List.eraseDups_append, List.filter_append, ih, List.filter_append, List.eraseDups_append]
    congr 1
    by_cases hp : p x = true <;> by_cases hx : x ∈ l <;> simp [List.removeAll, hp, hx]

theorem nodup_eraseDups (l : List α) : l.eraseDups.Nodup := by
  induction l with
  | nil => exact List.nodup_nil
  | cons x l ih =>
    rw [List.eraseDups_cons, ← filter_eraseDups]
    exact List.nodup_cons.mpr ⟨by simp, ih.filter _⟩

theorem eraseDups_of_nodup {l : List α} (h : l.Nodup) : l.eraseDups = l := by
  induction l with
  | nil => rfl
  | cons x l ih =>
    obtain ⟨hx, hl⟩ := List.nodup_cons.mp h
    rw [List.eraseDups_cons, ← filter_eraseDups, ih hl, List.filter_eq_self.mpr]
    intro y hy
    have hne : y ≠ x := fun h => hx (h ▸ hy)
    simp [hne]

theorem removeAll_eraseDups (l removed : List α) : l.removeAll removed.eraseDups = l.removeAll removed := by
  refine List.filter_congr fun y _ => ?_
  rw [Bool.eq_iff_iff]
  simp

/-- What occurs twice in one of two lists needs no second look in both together. -/
theorem eraseDups_append_eraseDups (l l' : List α) :
    (l.eraseDups ++ l'.eraseDups).eraseDups = (l ++ l').eraseDups := by
  have hremove : (l'.eraseDups.removeAll l).eraseDups = (l'.removeAll l).eraseDups := by
    rw [List.removeAll, filter_eraseDups, eraseDups_of_nodup (nodup_eraseDups _)]
    rfl
  rw [List.eraseDups_append, List.eraseDups_append, removeAll_eraseDups, hremove,
    eraseDups_of_nodup (nodup_eraseDups l)]

theorem eraseDups_append_left (l l' : List α) :
    (l.eraseDups ++ l').eraseDups = (l ++ l').eraseDups := by
  rw [← eraseDups_append_eraseDups, eraseDups_of_nodup (nodup_eraseDups l),
    eraseDups_append_eraseDups]

theorem eraseDups_append_right (l l' : List α) :
    (l ++ l'.eraseDups).eraseDups = (l ++ l').eraseDups := by
  rw [← eraseDups_append_eraseDups, eraseDups_of_nodup (nodup_eraseDups l'),
    eraseDups_append_eraseDups]

end FirstOccurrences

theorem firstOccurrences_eq (seen l : List String) :
    firstOccurrences seen l = (l.removeAll seen).eraseDups := by
  induction l generalizing seen with
  | nil => rfl
  | cons x l ih =>
    rw [firstOccurrences]
    by_cases hx : x ∈ seen
    · rw [if_pos (by simpa using hx), ih]
      simp [List.removeAll, hx]
    · rw [if_neg (by simpa using hx), ih]
      simp only [List.removeAll, List.filter_cons]
      rw [if_pos (by simpa using hx), List.eraseDups_cons, List.filter_filter]
      congr 2
      refine List.filter_congr fun y _ => ?_
      by_cases hy : y = x <;> simp [hy]

theorem firstOccurrences_nil (l : List String) : firstOccurrences [] l = l.eraseDups := by
  rw [firstOccurrences_eq]
  simp [List.removeAll]

/-! ### Entries -/

namespace Entries
variable {α : Type} {es fs : Entries α}

@[simp] theorem names_cons (name : String) (value : α) (es : Entries α) :
    names ((name, value) :: es) = name :: names es := rfl

theorem get?_eq_none {name : String} (h : name ∉ es.names) : es.get? name = none := by
  induction es with
  | nil => rfl
  | cons e es ih =>
    obtain ⟨k, v⟩ := e
    rw [names_cons, List.mem_cons, not_or] at h
    rw [get?, if_neg (Ne.symm h.1), ih h.2]

theorem names_put (name : String) (value : α) (es : Entries α) :
    (put name value es).names = if name ∈ es.names then es.names else es.names ++ [name] := by
  induction es with
  | nil => rfl
  | cons e es ih =>
    obtain ⟨k, v⟩ := e
    by_cases hk : k = name
    · simp [put, hk]
    · rw [put, if_neg hk, names_cons, ih]
      by_cases hname : name ∈ names es <;> simp [hname, Ne.symm hk]

theorem get?_put (name key : String) (value : α) (es : Entries α) :
    (put name value es).get? key = if name = key then some value else es.get? key := by
  induction es with
  | nil => rfl
  | cons e es ih =>
    obtain ⟨k, v⟩ := e
    by_cases hk : k = name
    · subst hk
      by_cases hkey : k = key <;> simp [put, get?, hkey]
    · rw [put, if_neg hk, get?, get?, ih]
      by_cases hkey : k = key
      · subst hkey
        rw [if_pos rfl, if_pos rfl, if_neg (Ne.symm hk)]
      · rw [if_neg hkey, if_neg hkey]

/-- The names that are new are put behind the others. -/
theorem names_merge (es news : Entries α) :
    (es.merge news).names = es.names ++ (news.names.removeAll es.names).eraseDups := by
  induction news generalizing es with
  | nil => exact (List.append_nil _).symm
  | cons e news ih =>
    obtain ⟨name, value⟩ := e
    have hstep : es.merge ((name, value) :: news) = (put name value es).merge news := rfl
    rw [hstep, ih, names_put, names_cons]
    by_cases hname : name ∈ es.names
    · rw [if_pos hname]
      simp [List.removeAll, hname]
    · rw [if_neg hname, List.append_assoc]
      congr 1
      simp only [List.removeAll, List.filter_cons]
      rw [if_pos (by simpa using hname), List.eraseDups_cons, List.filter_filter]
      refine congrArg (fun l => name :: List.eraseDups l) (List.filter_congr fun y _ => ?_)
      by_cases hy : y = name <;> simp [hy]

/-- What is put in last counts. -/
theorem get?_merge {news : Entries α} (hnews : news.names.Nodup) (es : Entries α) (key : String) :
    (es.merge news).get? key = (news.get? key).or (es.get? key) := by
  induction news generalizing es with
  | nil => rfl
  | cons e news ih =>
    obtain ⟨name, value⟩ := e
    obtain ⟨hname, hnews⟩ := List.nodup_cons.mp hnews
    have hstep : es.merge ((name, value) :: news) = (put name value es).merge news := rfl
    rw [hstep, ih hnews, get?_put, get?]
    by_cases hkey : name = key
    · subst hkey
      rw [if_pos rfl, if_pos rfl, get?_eq_none hname, Option.none_or, Option.some_or]
    · rw [if_neg hkey, if_neg hkey]

/-- The names in their order and the values determine the entries. -/
theorem ext_of_names (hes : es.names.Nodup) (hnames : es.names = fs.names)
    (hvalues : ∀ key, es.get? key = fs.get? key) : es = fs := by
  induction es generalizing fs with
  | nil =>
    cases fs with
    | nil => rfl
    | cons f fs => simp [names] at hnames
  | cons e es ih =>
    cases fs with
    | nil => simp [names] at hnames
    | cons f fs =>
      obtain ⟨k, v⟩ := e
      obtain ⟨k', w⟩ := f
      rw [names_cons, names_cons, List.cons.injEq] at hnames
      obtain ⟨rfl, hrest⟩ := hnames
      obtain ⟨hk, hes⟩ := List.nodup_cons.mp hes
      have hvalue := hvalues k
      rw [get?, get?, if_pos rfl, if_pos rfl, Option.some.injEq] at hvalue
      rw [hvalue, ih hes hrest fun key => ?_]
      by_cases hkey : k = key
      · subst hkey
        rw [get?_eq_none hk, get?_eq_none (hrest ▸ hk)]
      · have h := hvalues key
        rwa [get?, get?, if_neg hkey, if_neg hkey] at h

/-- Entries that come from layers: each name stands where it first occurs, with the value of the last
layer that has it. -/
structure Layered (layers : List (Entries α)) (es : Entries α) : Prop where
  names : es.names = (layers.flatMap Entries.names).eraseDups
  values : ∀ key, es.get? key = (layers.filterMap (get? key)).getLast?

variable {layers layers' : List (Entries α)}

theorem Layered.nodup (h : Layered layers es) : es.names.Nodup := by
  rw [h.names]
  exact nodup_eraseDups _

theorem Layered.unique (h : Layered layers es) (h' : Layered layers fs) : es = fs :=
  ext_of_names h.nodup (h.names.trans h'.names.symm) fun key =>
    (h.values key).trans (h'.values key).symm

theorem layered_single (h : es.names.Nodup) : Layered [es] es where
  names := by rw [List.flatMap_singleton, eraseDups_of_nodup h]
  values key := by cases hkey : es.get? key <;> simp [hkey]

theorem layered_nil : Layered [] ([] : Entries α) := ⟨rfl, fun _ => rfl⟩

/-- Layers over layers. -/
theorem Layered.merge (h : Layered layers es) (h' : Layered layers' fs) :
    Layered (layers ++ layers') (es.merge fs) where
  names := by
    rw [names_merge, List.flatMap_append, ← eraseDups_append_eraseDups, ← h.names, ← h'.names,
      List.eraseDups_append, eraseDups_of_nodup h.nodup]
  values key := by
    rw [get?_merge h'.nodup, h.values, h'.values, List.filterMap_append, List.getLast?_append]

theorem merge_assoc {gs : Entries α} (hes : es.names.Nodup) (hfs : fs.names.Nodup)
    (hgs : gs.names.Nodup) : (es.merge fs).merge gs = es.merge (fs.merge gs) :=
  (((layered_single hes).merge (layered_single hfs)).merge (layered_single hgs)).unique
    ((layered_single hes).merge ((layered_single hfs).merge (layered_single hgs)))

theorem nil_merge (hes : es.names.Nodup) : Entries.merge [] es = es :=
  (layered_nil.merge (layered_single hes)).unique (layered_single hes)

theorem merge_self (hes : es.names.Nodup) : es.merge es = es := by
  refine ext_of_names ((layered_single hes).merge (layered_single hes)).nodup ?_ fun key => ?_
  · have hnone : es.names.removeAll es.names = [] := by simp [List.removeAll]
    rw [names_merge, hnone, List.eraseDups_nil, List.append_nil]
  · rw [get?_merge hes, Option.or_self]

/-! ### Flags -/

theorem mem_of_mem_put {name : String} {value : α} {e : String × α} (h : e ∈ put name value es) :
    e = (name, value) ∨ e ∈ es := by
  induction es with
  | nil => exact .inl (List.mem_singleton.mp h)
  | cons d es ih =>
    obtain ⟨k, v⟩ := d
    by_cases hk : k = name
    · rw [put, if_pos hk] at h
      rcases List.mem_cons.mp h with rfl | h
      · exact .inl (by rw [hk])
      · exact .inr (List.mem_cons_of_mem _ h)
    · rw [put, if_neg hk] at h
      rcases List.mem_cons.mp h with rfl | h
      · exact .inr List.mem_cons_self
      · exact (ih h).imp_right (List.mem_cons_of_mem _)

theorem mem_of_mem_merge {news : Entries α} {e : String × α} (h : e ∈ es.merge news) :
    e ∈ es ∨ e ∈ news := by
  induction news generalizing es with
  | nil => exact .inl h
  | cons d news ih =>
    change e ∈ (put d.1 d.2 es).merge news at h
    rcases ih h with h | h
    · rcases mem_of_mem_put h with rfl | h
      · exact .inr List.mem_cons_self
      · exact .inl h
    · exact .inr (List.mem_cons_of_mem _ h)

/-- Names that are all switched on. -/
def switchedOn (names : List String) : Entries Bool := names.map (·, true)

@[simp] theorem names_switchedOn (names : List String) : (switchedOn names).names = names := by
  simp [switchedOn, Entries.names, Function.comp_def]

theorem mem_switchedOn {names : List String} {name : String} {value : Bool} :
    (name, value) ∈ switchedOn names ↔ value = true ∧ name ∈ names := by
  rw [switchedOn, List.mem_map]
  constructor
  · rintro ⟨_, hname, he⟩
    cases he
    exact ⟨rfl, hname⟩
  · rintro ⟨rfl, hname⟩
    exact ⟨name, hname, rfl⟩

/-- Names switched on one after the other stand once each, where they first come. -/
theorem ofList_switchedOn (names : List String) :
    ofList (switchedOn names) = switchedOn names.eraseDups := by
  have hnames : (ofList (switchedOn names)).names = names.eraseDups := by
    rw [ofList, names_merge, names_switchedOn]
    simp [Entries.names, List.removeAll]
  have hvalues : ∀ e ∈ ofList (switchedOn names), e = (e.1, true) := by
    rintro ⟨name, value⟩ he
    rcases mem_of_mem_merge he with he | he
    · cases he
    · rw [(mem_switchedOn.mp he).1]
  have hall : (ofList (switchedOn names)).map (fun e => (e.1, true)) = ofList (switchedOn names) :=
    (List.map_congr_left fun e he => (hvalues e he).symm).trans (List.map_id _)
  rw [← hnames, ← hall]
  simp [switchedOn, Entries.names, Function.comp_def]

end Entries

/-! ### Configurations -/

namespace Fragment
variable {a b c f : Fragment}

/-- No name stands twice in a section. -/
structure Keyed (f : Fragment) : Prop where
  rules : f.rules.names.Nodup
  env : f.env.names.Nodup
  ecmaFeatures : f.ecmaFeatures.names.Nodup

/-- A configuration that comes from layers. -/
structure Layered (layers : List Fragment) (f : Fragment) : Prop where
  rules : Entries.Layered (layers.map (·.rules)) f.rules
  env : Entries.Layered (layers.map (·.env)) f.env
  ecmaFeatures : Entries.Layered (layers.map (·.ecmaFeatures)) f.ecmaFeatures
  /-- The plugins are the first occurrences in all layers. -/
  plugins : f.plugins = (layers.flatMap (·.plugins)).eraseDups
  distinct : f.plugins.Nodup
  /-- The last layer that extends a configuration counts. -/
  base : f.base = (layers.filterMap (·.base)).getLast?

theorem plugins_merge (a b : Fragment) : (a.merge b).plugins = (a.plugins ++ b.plugins).eraseDups :=
  firstOccurrences_nil _

theorem nodup_plugins_merge (a b : Fragment) : (a.merge b).plugins.Nodup := by
  rw [plugins_merge]
  exact nodup_eraseDups _

theorem base_merge (a b : Fragment) : (a.merge b).base = b.base.or a.base := by
  cases hb : b.base <;> simp [merge, hb]

theorem layered_pair (ha : a.Keyed) (hb : b.Keyed) : Layered [a, b] (a.merge b) where
  rules := (Entries.layered_single ha.rules).merge (Entries.layered_single hb.rules)
  env := (Entries.layered_single ha.env).merge (Entries.layered_single hb.env)
  ecmaFeatures :=
    (Entries.layered_single ha.ecmaFeatures).merge (Entries.layered_single hb.ecmaFeatures)
  plugins := by simp [plugins_merge]
  distinct := nodup_plugins_merge a b
  base := by
    rw [base_merge]
    cases ha : a.base <;> cases hb : b.base <;> simp [ha, hb]

/-- One more layer. -/
theorem Layered.merge {layers : List Fragment} (h : Layered layers f) (hc : c.Keyed) :
    Layered (layers ++ [c]) (f.merge c) where
  rules := by
    rw [List.map_append]
    exact h.rules.merge (Entries.layered_single hc.rules)
  env := by
    rw [List.map_append]
    exact h.env.merge (Entries.layered_single hc.env)
  ecmaFeatures := by
    rw [List.map_append]
    exact h.ecmaFeatures.merge (Entries.layered_single hc.ecmaFeatures)
  plugins := by
    rw [plugins_merge, h.plugins, eraseDups_append_left, List.flatMap_append,
      List.flatMap_singleton]
  distinct := nodup_plugins_merge f c
  base := by
    rw [base_merge, h.base, List.filterMap_append, List.getLast?_append]
    cases hc : c.base <;> simp [hc]

theorem Layered.foldl_merge {layers rest : List Fragment} (h : Layered layers f)
    (hrest : ∀ g ∈ rest, g.Keyed) : Layered (layers ++ rest) (rest.foldl Fragment.merge f) := by
  induction rest generalizing layers f with
  | nil => rwa [List.append_nil]
  | cons g rest ih =>
    rw [List.append_cons]
    exact ih (h.merge (hrest g List.mem_cons_self)) fun g hg => hrest g (List.mem_cons_of_mem _ hg)

theorem eq_of_parts {f g : Fragment} (hrules : f.rules = g.rules) (henv : f.env = g.env)
    (hfeatures : f.ecmaFeatures = g.ecmaFeatures) (hplugins : f.plugins = g.plugins)
    (hbase : f.base = g.base) : f = g := by
  cases f
  cases g
  simp_all

theorem merge_assoc (ha : a.Keyed) (hb : b.Keyed) (hc : c.Keyed) :
    (a.merge b).merge c = a.merge (b.merge c) := by
  refine eq_of_parts (Entries.merge_assoc ha.rules hb.rules hc.rules)
    (Entries.merge_assoc ha.env hb.env hc.env)
    (Entries.merge_assoc ha.ecmaFeatures hb.ecmaFeatures hc.ecmaFeatures) ?_ ?_
  · simp only [plugins_merge, eraseDups_append_left, eraseDups_append_right, List.append_assoc]
  · simp only [base_merge, Option.or_assoc]

/-- What is merged names no plugin twice, so that it can be the same only as what does not either. -/
theorem nodup_of_merge_eq (h : a.merge b = f) : f.plugins.Nodup := h ▸ nodup_plugins_merge a b

theorem empty_merge (ha : a.Keyed) (hplugins : a.plugins.Nodup) : merge {} a = a :=
  eq_of_parts (Entries.nil_merge ha.rules) (Entries.nil_merge ha.env)
    (Entries.nil_merge ha.ecmaFeatures)
    ((plugins_merge {} a).trans (eraseDups_of_nodup hplugins))
    ((base_merge {} a).trans Option.or_none)

theorem merge_empty (hplugins : a.plugins.Nodup) : a.merge {} = a := by
  refine eq_of_parts rfl rfl rfl ?_ ((base_merge a {}).trans Option.none_or)
  rw [plugins_merge, List.append_nil, eraseDups_of_nodup hplugins]

theorem merge_self (ha : a.Keyed) (hplugins : a.plugins.Nodup) : a.merge a = a := by
  refine eq_of_parts (Entries.merge_self ha.rules) (Entries.merge_self ha.env)
    (Entries.merge_self ha.ecmaFeatures) ?_ ((base_merge a a).trans Option.or_self)
  have hnone : a.plugins.removeAll a.plugins = [] := by simp [List.removeAll]
  rw [plugins_merge, List.eraseDups_append, hnone, List.eraseDups_nil, List.append_nil,
    eraseDups_of_nodup hplugins]

/-- Merging is associative, with the order of everything. Each part of what layers come to is told by
the layers. The empty configuration is neutral on both sides, and a second time the same configuration
tells nothing, to exactly those that name no plugin twice. -/
theorem merge_layers (ha : a.Keyed) (hb : b.Keyed) (hc : c.Keyed) {rest : List Fragment}
    (hrest : ∀ f ∈ rest, f.Keyed) :
    (a.merge b).merge c = a.merge (b.merge c) ∧
    Layered (a :: b :: rest) (rest.foldl merge (a.merge b)) ∧
    (merge {} a = a ↔ a.plugins.Nodup) ∧ (a.merge {} = a ↔ a.plugins.Nodup) ∧
    (a.merge a = a ↔ a.plugins.Nodup) := by
  have hlayers : Layered (a :: b :: rest) (rest.foldl merge (a.merge b)) :=
    (layered_pair ha hb).foldl_merge hrest
  refine ⟨merge_assoc ha hb hc, hlayers, ?_, ?_, ?_⟩
  · exact ⟨nodup_of_merge_eq, empty_merge ha⟩
  · exact ⟨nodup_of_merge_eq, merge_empty⟩
  · exact ⟨nodup_of_merge_eq, merge_self ha⟩

/-- Layers that overlap in every section. -/
def lower : Fragment where
  rules := [("indent", .off), ("semi", .off)]
  env := [("node", true)]
  plugins := ["react"]
  base := some recommended

def middle : Fragment where
  rules := [("quotes", .off), ("indent", .error (.integer 2))]
  env := [("browser", true), ("node", false)]
  ecmaFeatures := [("jsx", true)]
  plugins := ["import", "react", "import"]

def upper : Fragment where
  rules := [("semi", .error (.text "always"))]
  ecmaFeatures := [("globalReturn", true)]
  plugins := ["import"]
  base := some "airbnb"

theorem merge_layers_overlapping :
    lower.Keyed ∧ middle.Keyed ∧ upper.Keyed ∧
    (lower.merge middle).merge upper = lower.merge (middle.merge upper) ∧
    Layered [lower, middle, upper] ((lower.merge middle).merge upper) ∧
    lower.merge lower = lower ∧ middle.merge {} ≠ middle := by
  have hlower : lower.Keyed := ⟨by decide, by decide, by decide⟩
  have hmiddle : middle.Keyed := ⟨by decide, by decide, by decide⟩
  have hupper : upper.Keyed := ⟨by decide, by decide, by decide⟩
  have hrest : ∀ f ∈ [upper], f.Keyed := fun f hf => List.mem_singleton.mp hf ▸ hupper
  obtain ⟨hassoc, hlayered, -, -, hself⟩ := merge_layers hlower hmiddle hupper hrest
  obtain ⟨-, -, -, hempty, -⟩ := merge_layers hmiddle hlower hupper hrest
  exact ⟨hlower, hmiddle, hupper, hassoc, hlayered, hself.mpr (by decide),
    fun h => absurd (hempty.mp h) (by decide)⟩

end Fragment

end LintConfig
