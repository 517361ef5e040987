import LintConfig.Proofs.Files.Writing
import LintConfig.Proofs.Majority
import LintConfig.Proofs.Values

/-! # Settings are valid or refused

A settings file can hold a document of any kind. The settings it gives obey it and the environment, or
it is refused for what it says. A third way out is left where a value is of a kind that nothing was
prepared for: a section that is no mapping, a folder that is no text, a threshold that is no number, and
instead of a list a value that cannot be gone through, or one that can, like the characters of a text. -/
namespace LintConfig.Settings
open Files (Path Tree)
open Number (Double)

/-! ### What a document says -/

/-- Can the value be looked into? -/
def IsMapping (v : Value) : Prop := ∃ es, v.unrolled = .map es

/-- The value that a mapping gives a name, if it does. -/
def given? (name : String) (v : Value) : Option Value :=
  match v.unrolled with
  | .map es => Value.lookup? name es
  | _ => none

section Document
variable (document : Value)

/-- The mapping that a document is. What is empty in any way stands for an empty one. -/
def content : Value := if document.isTruthy then document else .map []

def defaultsIn : Value := (given? "defaults" (content document)).getD (.map [])

def scanIn : Value := (given? "scan" (content document)).getD (.map [])

def folderIn : Value := (given? "output_dir" (defaultsIn document)).getD (.text ".")

def thresholdIn : Value :=
  (given? "dominance_threshold" (scanIn document)).getD (.double Style.defaultThreshold)

def extensionsIn : Value :=
  (given? "extensions" (scanIn document)).getD (.list [.text ".js", .text ".jsx"])

def excludeDirsIn : Value :=
  (given? "exclude_dirs" (scanIn document)).getD (.list [.text "node_modules", .text ".git"])

end Document

/-- The format that the environment names, without the blanks around it. -/
def override (v : Variables) : String := String.ofList (Text.strip v.format.toList)

/-- The name of the format: the environment comes first, then the document. -/
def formatName (v : Variables) (document : Value) : String :=
  if override v ≠ "" then override v
  else ((given? "output_format" (defaultsIn document)).getD (.text "JSON")).plain

/-- Names that are the texts of a list's items. -/
def Lists (v : Value) (names : List String) : Prop :=
  ∃ items, v.unrolled = .list items ∧ names = items.map Value.plain

/-- Settings that are what a document and the environment say. What the document leaves out is as it is
without a file. -/
structure Obeys (v : Variables) (document : Value) (s : Settings) : Prop where
  format : s.format.name = formatName v document
  folder : ∃ text, (folderIn document).text? = some text ∧ s.folder = .ofString text
  threshold : numberOf (thresholdIn document) = .ok s.scan.threshold ∧
    s.scan.threshold.isFinite = true ∧
    1 / 2 ≤ s.scan.threshold.value ∧ s.scan.threshold.value < 1
  extensions : Lists (extensionsIn document) s.scan.extensions
  excludeDirs : Lists (excludeDirsIn document) s.scan.excludeDirs

/-! ### Ways out -/

/-- A failure over what a value says, and not over what kind of value it is. -/
def Failure.isRefusal : Failure → Bool
  | unknownFormat _ | unreadableNumber _ | unreadableBytes _ | unreadableHalves _ | badThreshold _
  | longInteger _ => true
  | _ => false

/-- Settings of a certain kind, or a refusal. -/
def Settled {α : Type} (good : α → Prop) (x : Except Failure α) : Prop :=
  (∃ a, x = .ok a ∧ good a) ∨ ∃ e, x = .error e ∧ e.isRefusal = true

section Steps
variable {α β : Type} {good : β → Prop}

theorem settled_ok {b : β} : Settled good (.ok b) ↔ good b := by
  simp [Settled]

theorem settled_pure {b : β} : Settled good (pure b) ↔ good b := settled_ok

theorem settled_error {e : Failure} : Settled good (.error e) ↔ e.isRefusal = true := by
  simp [Settled]

/-- A computation is settled if its first step does, and what comes after each of its results. -/
theorem settled_bind {x : Except Failure α} {f : α → Except Failure β} :
    Settled good (x >>= f) ↔ Settled (fun a => Settled good (f a)) x := by
  cases x with
  | ok a => rw [settled_ok]; rfl
  | error e => rw [settled_error]; exact settled_error

/-- What is asked of the results can be asked apart from whether there is one. -/
theorem settled_iff {x : Except Failure β} :
    Settled good x ↔ Settled (fun _ => True) x ∧ ∀ b, x = .ok b → good b := by
  cases x with
  | ok b => simp [settled_ok]
  | error e => simp [settled_error]

theorem settled_member {good : Value → Prop} {name : String} {fallback v : Value} :
    Settled good (member name fallback v) ↔
      IsMapping v ∧ good ((given? name v).getD fallback) := by
  unfold member given? IsMapping
  split
  · rename_i es hes
    simp [settled_ok, hes]
  · rename_i hes
    rw [settled_error]
    refine ⟨nofun, ?_⟩
    rintro ⟨⟨es, h⟩, -⟩
    exact absurd h (hes es)

theorem settled_pathOf {good : Path → Prop} {v : Value} :
    Settled good (pathOf v) ↔ ∃ text, v.text? = some text ∧ good (.ofString text) := by
  unfold pathOf
  cases v.text? with
  | none => rw [settled_error]; simp [Failure.isRefusal]
  | some text => rw [settled_ok]; simp

/-- A value that a number can be read from, or that is refused as one. -/
def IsNumeric : Value → Prop
  | .double _ | .text _ | .bytes _ | .halves _ => True
  | v => ∃ n, v.integer? = some n ∧ ∀ s, Double.ofInt n ≠ .infinite s

theorem settled_readBytes {good : Double → Prop} {b : List UInt8} :
    Settled good (readBytes b) ↔ ∀ x, readBytes b = .ok x → good x := by
  unfold readBytes
  split
  · simp [settled_error, Failure.isRefusal]
  · cases Number.readDouble _ with
    | ok x => simp [settled_ok]
    | error e => simp [settled_error, Failure.isRefusal]

theorem settled_numberOf {good : Double → Prop} {v : Value} :
    Settled good (numberOf v) ↔ IsNumeric v ∧ ∀ x, numberOf v = .ok x → good x := by
  unfold numberOf
  split
  · simp [settled_ok, IsNumeric]
  · rename_i s
    cases Number.readDouble s <;> simp [settled_ok, settled_error, IsNumeric, Except.mapError,
      Failure.isRefusal]
  · rw [settled_readBytes]
    simp [IsNumeric]
  · simp [settled_error, IsNumeric, Failure.isRefusal]
  · rename_i h₁ h₂ h₃ h₄
    have hnumeric : IsNumeric v ↔ ∃ n, v.integer? = some n ∧ ∀ s, Double.ofInt n ≠ .infinite s := by
      cases v <;> simp_all [IsNumeric]
    rw [hnumeric]
    cases v.integer? with
    | none => simp [settled_error, Failure.isRefusal]
    | some n =>
      dsimp only
      cases hn : Double.ofInt n <;> simp [settled_ok, settled_error, Failure.isRefusal, hn]

theorem settled_checkThreshold {good : Double → Prop} {x : Double} :
    Settled good (checkThreshold x) ↔ (isThreshold x = true → good x) := by
  unfold checkThreshold
  split
  · rename_i h
    simp [settled_ok, h]
  · rename_i h
    simp [settled_error, h, Failure.isRefusal]

/-- The format with a name. -/
def named (name : String) : Except Failure Format :=
  match Format.ofName? name with
  | some f => .ok f
  | none => .error (.unknownFormat name)

/-- The document is asked for a format only if the environment names none. -/
theorem chooseFormat_eq (v : Variables) (defaults : Value) :
    chooseFormat v defaults =
      if override v = "" then do
        named (← (← member "output_format" (.text "JSON") defaults).told.mapError .longInteger)
      else named (override v) := by
  unfold chooseFormat
  by_cases hoverride : override v = ""
  · have hempty : (String.ofList (Text.strip v.format.toList) != "") = false := by
      simpa [override] using hoverride
    rw [if_pos hoverride]
    simp only [hempty, Bool.false_eq_true, if_false]
    rfl
  · have hgiven : (String.ofList (Text.strip v.format.toList) != "") = true := by
      simpa [override] using hoverride
    rw [if_neg hoverride]
    simp only [hgiven, if_true]
    rfl

theorem settled_named (name : String) : Settled (fun _ => True) (named name) := by
  unfold named
  split
  · exact settled_ok.mpr trivial
  · exact settled_error.mpr rfl

theorem settled_chooseFormat {v : Variables} {defaults : Value} :
    Settled (fun _ => True) (chooseFormat v defaults) ↔ (override v = "" → IsMapping defaults) := by
  rw [chooseFormat_eq]
  split
  · rename_i hoverride
    rw [settled_bind, settled_member]
    refine ⟨fun h _ => h.1, fun h => ⟨h hoverride, ?_⟩⟩
    rw [settled_bind]
    unfold Value.told
    split
    · exact settled_error.mpr rfl
    · exact settled_ok.mpr (settled_named _)
  · rename_i hoverride
    exact ⟨fun _ h => absurd h hoverride, fun _ => settled_named _⟩

theorem name_of_named {name : String} {f : Format} (h : named name = .ok f) : f.name = name := by
  unfold named at h
  split at h
  · rename_i g hg
    obtain rfl := Except.ok.inj h
    simpa using List.find?_some hg
  · cases h

/-- The format that is chosen has the name that comes first. -/
theorem name_of_chooseFormat {v : Variables} {document : Value} {f : Format}
    (h : chooseFormat v (defaultsIn document) = .ok f) : f.name = formatName v document := by
  rw [chooseFormat_eq] at h
  unfold formatName
  split at h
  · rename_i hoverride
    rw [if_neg (not_not.mpr hoverride)]
    obtain ⟨value, hvalue, h⟩ := Failing.bind_eq_ok.mp h
    obtain ⟨name, hname, h⟩ := Failing.bind_eq_ok.mp h
    rw [name_of_named h]
    unfold member at hvalue
    split at hvalue
    · rename_i es hes
      obtain rfl := Except.ok.inj hvalue
      rw [Failing.mapError_eq_ok, Value.told] at hname
      split at hname
      · cases hname
      · rw [given?, hes]
        exact (Except.ok.inj hname).symm
    · cases hvalue
  · rename_i hoverride
    rw [if_pos hoverride]
    exact name_of_named h

/-! ### Lists -/

def IsList (v : Value) : Prop := ∃ items, v.unrolled = .list items

/-- An integer among the items is too long to be told. -/
def IsOverlong (v : Value) : Prop := itemsOf v = .error (.longInteger {})

/-- A value is gone through, or an integer in it is too long, or it cannot be gone through. -/
theorem itemsOf_cases (v : Value) :
    (∃ names, itemsOf v = .ok names ∧ (Lists v names ↔ IsList v)) ∨ IsOverlong v ∨
      ¬ IsList v ∧ itemsOf v = .error (.wrongKind .items) := by
  unfold IsOverlong itemsOf IsList Lists
  cases v.unrolled
  case list items | tuple items | set items =>
    cases hlong : Value.areLong items <;> simp [Value.allTold, hlong, Except.mapError]
  case map entries =>
    cases hlong : Value.areLong (entries.map Prod.fst) <;>
      simp [Value.allTold, hlong, Except.mapError]
  all_goals simp

/-- Two values are gone through one after the other. -/
theorem settled_lists {v w : Value} :
    Settled (fun names => Settled (fun names' => Lists v names ∧ Lists w names') (itemsOf w))
      (itemsOf v) ↔
    (IsList v ∧ IsList w) ∨ IsOverlong v ∨ (∃ names, itemsOf v = .ok names) ∧ IsOverlong w := by
  rcases itemsOf_cases v with ⟨names, hok, hlist⟩ | hlong | ⟨hno, herror⟩
  · rw [hok, settled_ok, ← hlist]
    rcases itemsOf_cases w with ⟨names', hok', hlist'⟩ | hlong' | ⟨hno', herror'⟩
    · rw [hok', settled_ok, ← hlist']
      simp [IsOverlong, hok, hok']
    · rw [hlong', settled_error]
      exact ⟨fun _ => .inr (.inr ⟨⟨names, rfl⟩, hlong'⟩), fun _ => rfl⟩
    · rw [herror', settled_error]
      simp [IsOverlong, hok, herror', hno', Failure.isRefusal]
  · rw [hlong, settled_error]
    exact ⟨fun _ => .inr (.inl hlong), fun _ => rfl⟩
  · rw [herror, settled_error]
    simp [IsOverlong, hno, herror, Failure.isRefusal]

end Steps

/-- All values are of the kind that is asked for. What a value is matters only if nothing before it was
refused. -/
structure Orderly (v : Variables) (document : Value) : Prop where
  root : IsMapping (content document)
  format : override v = "" → IsMapping (defaultsIn document)
  defaults : ∀ f, chooseFormat v (defaultsIn document) = .ok f → IsMapping (defaultsIn document)
  folder : ∀ f, chooseFormat v (defaultsIn document) = .ok f →
    ∃ text, (folderIn document).text? = some text
  scan : ∀ f, chooseFormat v (defaultsIn document) = .ok f → IsMapping (scanIn document)
  threshold : ∀ f, chooseFormat v (defaultsIn document) = .ok f → IsNumeric (thresholdIn document)
  lists : ∀ f x, chooseFormat v (defaultsIn document) = .ok f →
    numberOf (thresholdIn document) = .ok x → isThreshold x = true →
    (IsList (extensionsIn document) ∧ IsList (excludeDirsIn document)) ∨
      IsOverlong (extensionsIn document) ∨
      (∃ names, itemsOf (extensionsIn document) = .ok names) ∧ IsOverlong (excludeDirsIn document)

theorem value_one : (Double.ofInt 1).isFinite = true ∧ (Double.ofInt 1).value = 1 := by
  have hone : Double.ofInt 1 = .finite false (2 ^ 52) (-52) := by decide +kernel
  rw [hone]
  exact ⟨rfl, by norm_num [Double.value]⟩

/-- A threshold that passes is at least one half and below one. -/
theorem value_of_isThreshold {x : Double} (h : isThreshold x = true) :
    x.isFinite = true ∧ 1 / 2 ≤ x.value ∧ x.value < 1 := by
  obtain ⟨m, e, rfl, hhalf⟩ := Style.threshold_finite h
  have hlt := (Bool.and_eq_true_iff.mp h).2
  rw [Double.lt_iff_value_lt rfl value_one.1, value_one.2] at hlt
  exact ⟨rfl, hhalf, hlt⟩

/-- Once a format, a folder and a threshold are there, what is left are the two lists. -/
theorem obeys_iff {v : Variables} {document : Value} {f : Format} {text : String} {x : Double}
    {extensions excludeDirs : List String} (hformat : chooseFormat v (defaultsIn document) = .ok f)
    (hfolder : (folderIn document).text? = some text)
    (hnumber : numberOf (thresholdIn document) = .ok x) (hthreshold : isThreshold x = true) :
    Obeys v document ⟨f, .ofString text, ⟨extensions, excludeDirs, x⟩⟩ ↔
      Lists (extensionsIn document) extensions ∧ Lists (excludeDirsIn document) excludeDirs :=
  ⟨fun h => ⟨h.extensions, h.excludeDirs⟩, fun h => {
    format := name_of_chooseFormat hformat
    folder := ⟨text, hfolder, rfl⟩
    threshold := ⟨hnumber, value_of_isThreshold hthreshold⟩
    extensions := h.1
    excludeDirs := h.2 }⟩

theorem settled_ofValue_iff (v : Variables) (document : Value) :
    Settled (Obeys v document) (ofValue v document) ↔ Orderly v document := by
  have hchain : Settled (Obeys v document) (ofValue v document) ↔
      IsMapping (content document) ∧
      Settled (fun f => IsMapping (defaultsIn document) ∧
        ∃ text, (folderIn document).text? = some text ∧
        IsMapping (content document) ∧ IsMapping (scanIn document) ∧
        IsNumeric (thresholdIn document) ∧
        ∀ x, numberOf (thresholdIn document) = .ok x → isThreshold x = true →
          IsMapping (scanIn document) ∧
          Settled (fun extensions => IsMapping (scanIn document) ∧
            Settled (fun excludeDirs =>
              Obeys v document ⟨f, .ofString text, ⟨extensions, excludeDirs, x⟩⟩)
              (itemsOf (excludeDirsIn document))) (itemsOf (extensionsIn document)))
        (chooseFormat v (defaultsIn document)) := by
    unfold ofValue
    simp only [settled_bind, settled_member, settled_pathOf, settled_numberOf,
      settled_checkThreshold, settled_pure]
    rfl
  rw [hchain, settled_iff, settled_chooseFormat]
  constructor
  · rintro ⟨hroot, hgiven, hrest⟩
    refine ⟨hroot, hgiven, fun f hf => (hrest f hf).1, fun f hf => ?_, fun f hf => ?_,
      fun f hf => ?_, fun f x hf hx hthreshold => ?_⟩
    all_goals obtain ⟨-, text, htext, -, hscan, hnumeric, hlists⟩ := hrest f hf
    · exact ⟨text, htext⟩
    · exact hscan
    · exact hnumeric
    · have h := (hlists x hx hthreshold).2
      simp only [hscan, true_and, obeys_iff hf htext hx hthreshold] at h
      exact settled_lists.mp h
  · intro h
    refine ⟨h.root, h.format, fun f hf => ?_⟩
    obtain ⟨text, htext⟩ := h.folder f hf
    refine ⟨h.defaults f hf, text, htext, h.root, h.scan f hf, h.threshold f hf,
      fun x hx hthreshold => ⟨h.scan f hf, ?_⟩⟩
    simp only [h.scan f hf, true_and, obeys_iff hf htext hx hthreshold]
    exact settled_lists.mpr (h.lists f x hf hx hthreshold)

/-! ### Files -/

/-- The file that settings are read from: the one that is given, or else the one that the environment
names. -/
def fileOf? (v : Variables) : Option Path → Option Path
  | some p => some p
  | none =>
    let name := String.ofList (Text.strip v.path.toList)
    if name = "" then none else some (.ofString name)

theorem load_eq_ofValue {root : Tree} {v : Variables} {given : Option Path} {p : Path}
    {document : Value} (hfile : fileOf? v given = some p)
    (hread : Document.read root p = .ok document) : load root v given = ofValue v document := by
  obtain ⟨bytes, hbytes, -⟩ := Failing.bind_eq_ok.mp hread
  rw [Failing.mapError_eq_ok] at hbytes
  have heq : read root v p = ofValue v document := by
    unfold read
    rw [Tree.probe_of_read hbytes, hread]
    rfl
  cases given with
  | some q =>
    obtain rfl := Option.some.inj hfile
    exact heq
  | none =>
    simp only [fileOf?] at hfile
    split at hfile
    · cases hfile
    · rename_i hname
      obtain rfl := Option.some.inj hfile
      simp only [load]
      rw [if_neg (by simpa using hname)]
      exact heq

/-- The settings that a file gives obey it, or are refused, exactly if its values are of the kind that is
asked for. -/
theorem load_settled_iff {root : Tree} {v : Variables} {given : Option Path} {p : Path}
    {document : Value} (hfile : fileOf? v given = some p)
    (hread : Document.read root p = .ok document) :
    Settled (Obeys v document) (load root v given) ↔ Orderly v document := by
  rw [load_eq_ofValue hfile hread]
  exact settled_ofValue_iff v document

/-- A folder with a settings file. -/
def settingsIn (text : String) : Tree := .folder [("lint.yaml", .file (Text.Utf8.encode text))]

/-- An environment that names the file, and a format to use in place of the one in it. -/
def overriding : Variables := { path := "lint.yaml", format := " JavaScript " }

/-- What is given is taken, the format comes from the environment, and what is left out is as it is
without a file. -/
theorem load_settled_overriding :
    ∃ document,
      fileOf? overriding none = some (.ofString "lint.yaml") ∧
      Document.read (settingsIn "defaults:\n  output_format: XML\nscan:\n  extensions: [.ts, 1]\n")
        (.ofString "lint.yaml") = .ok document ∧
      Settled (Obeys overriding document) (load
        (settingsIn "defaults:\n  output_format: XML\nscan:\n  extensions: [.ts, 1]\n")
        overriding none) := by
  refine ⟨.map [(.text "defaults", .map [(.text "output_format", .text "XML")]),
    (.text "scan", .map [(.text "extensions", .list [.text ".ts", .integer 1])])],
    by decide +kernel, by decide +kernel, ?_⟩
  refine (load_settled_iff (p := .ofString "lint.yaml") (by decide +kernel)
    (by decide +kernel)).mpr ?_
  exact {
    root := ⟨_, rfl⟩
    format := fun _ => ⟨_, rfl⟩
    defaults := fun _ _ => ⟨_, rfl⟩
    folder := fun _ _ => ⟨".", rfl⟩
    scan := fun _ _ => ⟨_, rfl⟩
    threshold := fun _ _ => trivial
    lists := fun _ _ _ _ _ => .inl ⟨⟨_, rfl⟩, ⟨_, rfl⟩⟩ }

/-- A text in place of a list is taken apart into its characters. -/
theorem not_settled_extensions :
    ∃ document,
      Document.read (settingsIn "scan:\n  extensions: .js\n") (.ofString "lint.yaml")
        = .ok document ∧
      (load (settingsIn "scan:\n  extensions: .js\n") {} (some (.ofString "lint.yaml"))).map
        (·.scan.extensions) = .ok [".", "j", "s"] ∧
      ¬ Settled (Obeys {} document) (load (settingsIn "scan:\n  extensions: .js\n") {}
        (some (.ofString "lint.yaml"))) := by
  have hread : Document.read (settingsIn "scan:\n  extensions: .js\n") (.ofString "lint.yaml") =
      .ok (.map [(.text "scan", .map [(.text "extensions", .text ".js")])]) := by
    decide +kernel
  refine ⟨_, hread, ?_, ?_⟩
  · rw [load_eq_ofValue rfl hread]
    decide +kernel
  · rw [load_eq_ofValue rfl hread, settled_ofValue_iff]
    intro h
    have hlists := h.lists .json Style.defaultThreshold (by decide +kernel) (by decide +kernel)
      (by decide +kernel)
    rcases hlists with ⟨⟨items, hitems⟩, -⟩ | hlong | ⟨-, hlong⟩
    · cases hitems
    · exact absurd hlong (by unfold IsOverlong; decide +kernel)
    · exact absurd hlong (by unfold IsOverlong; decide +kernel)

end LintConfig.Settings
