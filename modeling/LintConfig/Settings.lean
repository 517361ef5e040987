import LintConfig.Config.Format
import LintConfig.Document
import LintConfig.Number.Reading
import LintConfig.Scan
import LintConfig.Value.Length

/-! Settings: what holds for all runs unless a run says otherwise. They come from a file, or are
built in; the process environment names the file and may override the format. -/

namespace LintConfig
open Files (Path Tree)
open Number (Double)

structure Settings where
  format : Format := .json
  /-- The folder that configurations are written to. -/
  folder : Path := {}
  scan : Scan.Options := { excludeDirs := ["node_modules", ".git", "bower_components"] }
  deriving DecidableEq, Repr, Inhabited

namespace Settings

/-- The variables of the process environment that matter; the empty text stands for none. -/
structure Variables where
  /-- Where the settings file is. -/
  path : String := ""
  /-- The format, whatever the settings say. -/
  format : String := ""
  deriving DecidableEq, Repr, Inhabited

/-- What a setting has to be. -/
inductive Expected
  | path
  | number
  | items
  deriving DecidableEq, Repr

/-- Why there are no settings. -/
inductive Failure
  | noFile (path : Path)
  | document (f : Document.Failure)
  /-- A value that is to be looked into is no mapping. -/
  | notMapping
  | unknownFormat (name : String)
  | wrongKind (expected : Expected)
  | unreadableNumber (e : Number.ReadError)
  | unreadableBytes (bytes : List UInt8)
  | unreadableHalves (codes : List Nat)
  /-- An integer with no double near it. -/
  | hugeNumber
  | badThreshold (x : Double)
  /-- An integer is too long to be taken as text. -/
  | longInteger (e : LongInteger)
  deriving DecidableEq, Repr

/-- The wording of failures that are about what the settings say. -/
def Failure.message : Failure → String
  | noFile p => "Settings file not found: " ++ p.text
  | document f => f.message
  | notMapping => "settings must be mappings"
  | unknownFormat name =>
    "Unknown output format " ++ Text.quotation name ++ ", expected one of " ++
      joined ", " Format.names
  | wrongKind .path => "output_dir must be a path"
  | wrongKind .number => "dominance_threshold must be a number"
  | wrongKind .items => "extensions and exclude_dirs must be lists"
  | unreadableNumber e => e.message
  | unreadableBytes b => "could not convert string to float: " ++ Text.byteQuotation b
  | unreadableHalves codes => "could not convert string to float: " ++ Text.codeQuotation codes
  | hugeNumber => "int too large to convert to float"
  | badThreshold x => "dominance_threshold must be in [0.5, 1), got " ++ x.text
  | longInteger e => e.message

/-- A value of a mapping. -/
def member (name : String) (fallback v : Value) : Except Failure Value :=
  match v.unrolled with
  | .map entries => .ok ((Value.lookup? name entries).getD fallback)
  | _ => .error .notMapping

/-- The format that the environment names, or else the settings. -/
def chooseFormat (v : Variables) (defaults : Value) : Except Failure Format := do
  let override := String.ofList (Text.strip v.format.toList)
  let name ←
    if override != "" then pure override
    else (← member "output_format" (.text "JSON") defaults).told.mapError .longInteger
  match Format.ofName? name with
  | some f => return f
  | none => throw (.unknownFormat name)

def pathOf (v : Value) : Except Failure Path :=
  match v.text? with
  | some s => .ok (.ofString s)
  | none => .error (.wrongKind .path)

/-- The number that ASCII bytes spell. -/
def readBytes (b : List UInt8) : Except Failure Double :=
  if b.any (0x80 ≤ ·) then .error (.unreadableBytes b)
  else match Number.readDouble (String.ofList (b.map fun x => Char.ofNat x.toNat)) with
    | .ok x => .ok x
    | .error _ => .error (.unreadableBytes b)

def numberOf : Value → Except Failure Double
  | .double x => .ok x
  | .text s => (Number.readDouble s).mapError .unreadableNumber
  | .bytes b => readBytes b
  | .halves codes => .error (.unreadableHalves codes)
  | v =>
    match v.integer? with
    | some n =>
      match Double.ofInt n with
      | .infinite _ => .error .hugeNumber
      | x => .ok x
    | none => .error (.wrongKind .number)

/-- A share of observations that only a majority reaches. -/
def isThreshold (x : Double) : Bool := Style.defaultThreshold.le x && x.lt (.ofInt 1)

def checkThreshold (x : Double) : Except Failure Double :=
  if isThreshold x then .ok x else .error (.badThreshold x)

/-- The texts of a value's items. The items of a text are its characters, those of a mapping its
keys. -/
def itemsOf (v : Value) : Except Failure (List String) :=
  match v.unrolled with
  | .list items | .tuple items | .set items => (Value.allTold items).mapError .longInteger
  | .text s => .ok (s.toList.map fun c => String.ofList [c])
  | .halves codes => .ok (codes.map fun n => String.ofList (Text.characters [n]))
  | .bytes b => .ok (b.map fun x => toString x.toNat)
  | .map entries => (Value.allTold (entries.map Prod.fst)).mapError .longInteger
  | _ => .error (.wrongKind .items)

/-- Names as a value. -/
def namesValue (names : List String) : Value := .list (names.map .text)

/-- The settings a document spells. -/
def ofValue (v : Variables) (document : Value) : Except Failure Settings := do
  let document := if document.isTruthy then document else .map []
  let defaults ← member "defaults" (.map []) document
  let format ← chooseFormat v defaults
  let folder ← pathOf (← member "output_dir" (.text ".") defaults)
  let scan ← member "scan" (.map []) document
  let standard : Scan.Options := {}
  let threshold ← checkThreshold
    (← numberOf (← member "dominance_threshold" (.double standard.threshold) scan))
  let extensions ← itemsOf (← member "extensions" (namesValue standard.extensions) scan)
  let excludeDirs ← itemsOf (← member "exclude_dirs" (namesValue standard.excludeDirs) scan)
  return { format, folder, scan := { extensions, excludeDirs, threshold } }

/-- The settings in a file. -/
def read (root : Tree) (v : Variables) (p : Path) : Except Failure Settings :=
  match root.probe p with
  | .error e => .error (.document (.unreadable e))
  | .ok none => .error (.noFile p)
  | .ok (some _) => do ofValue v (← (Document.read root p).mapError .document)

/-- The settings that are built in. -/
def builtIn (v : Variables) : Except Failure Settings := do
  return { format := ← chooseFormat v (.map []) }

/-- The settings in a given file, or in the one that the environment names, or those built in. -/
def load (root : Tree) (v : Variables) (given : Option Path) : Except Failure Settings :=
  let named := String.ofList (Text.strip v.path.toList)
  match given with
  | some p => read root v p
  | none => if named == "" then builtIn v else read root v (.ofString named)

end Settings

end LintConfig
