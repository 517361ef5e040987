import LintConfig.Text.Quotation
import LintConfig.Value

/-! Values as text, for messages: `display` spells a value so that its kind can be told, `plain`
gives a text as it is. -/

namespace LintConfig

/-- A number with at least `width` digits. -/
def padded (width n : Nat) : String :=
  let digits := toString n
  String.ofList (List.replicate (width - digits.length) '0') ++ digits

/-- Texts with a separator between them. -/
def joined (separator : String) : List String → String
  | [] => ""
  | [s] => s
  | s :: rest => s ++ separator ++ joined separator rest

def Date.plain (d : Date) : String :=
  padded 4 d.year ++ "-" ++ padded 2 d.month ++ "-" ++ padded 2 d.day

/-- The distance from universal time as a span of days and seconds. -/
def offsetSpan (minutes : Int) : String :=
  let days := minutes / (24 * 60)
  let seconds := minutes % (24 * 60) * 60
  let parts := (if days = 0 then [] else ["days=" ++ toString days]) ++
    (if seconds = 0 then [] else ["seconds=" ++ toString seconds])
  "datetime.timedelta(" ++ (if parts.isEmpty then "0" else joined ", " parts) ++ ")"

namespace Moment

def offsetPlain (minutes : Int) : String :=
  let n := minutes.natAbs
  (if minutes < 0 then "-" else "+") ++ padded 2 (n / 60) ++ ":" ++ padded 2 (n % 60)

def plain (m : Moment) : String :=
  m.date.plain ++ " " ++ padded 2 m.hour ++ ":" ++ padded 2 m.minute ++ ":" ++ padded 2 m.second ++
    (if m.microsecond = 0 then "" else "." ++ padded 6 m.microsecond) ++
    (m.offset.map offsetPlain).getD ""

/-- The parts of a moment; seconds and smaller parts are left out at the end if they are zero. -/
def display (m : Moment) : String :=
  let small :=
    if m.microsecond = 0 then (if m.second = 0 then [] else [m.second])
    else [m.second, m.microsecond]
  let parts := [m.date.year, m.date.month, m.date.day, m.hour, m.minute] ++ small
  let zone := match m.offset with
    | none => []
    | some 0 => ["tzinfo=datetime.timezone.utc"]
    | some n => ["tzinfo=datetime.timezone(" ++ offsetSpan n ++ ")"]
  "datetime.datetime(" ++ joined ", " (parts.map (toString ·) ++ zone) ++ ")"

end Moment

def Date.display (d : Date) : String :=
  "datetime.date(" ++ joined ", " ([d.year, d.month, d.day].map (toString ·)) ++ ")"

namespace Value

/-- What stands for a collection inside of itself. -/
def dots : Value → String
  | list _ => "[...]"
  | tuple _ => "(...)"
  | _ => "\x7b...\x7d"

mutual

/-- The display of a value inside of collections with labels, each given with its dots. -/
def displayIn (around : List (Nat × String)) : Value → String
  | null => "None"
  | bool b => if b then "True" else "False"
  | integer n => toString n
  | double x => x.text
  | text s => Text.quotation s
  | halves codes => Text.codeQuotation codes
  | bytes b => Text.byteQuotation b
  | date d => d.display
  | moment m => m.display
  | list items => "[" ++ joined ", " (displays around items) ++ "]"
  | tuple items =>
    match items with
    | [item] => "(" ++ displayIn around item ++ ",)"
    | items => "(" ++ joined ", " (displays around items) ++ ")"
  | set items =>
    if items.isEmpty then "set()" else "\x7b" ++ joined ", " (displays around items) ++ "\x7d"
  | map entries => "\x7b" ++ joined ", " (entryDisplays around entries) ++ "\x7d"
  | knot label body =>
    match around.lookup label with
    | some dots => dots
    | none => displayIn ((label, body.dots) :: around) body
  | again label => (around.lookup label).getD "..."

def displays (around : List (Nat × String)) : List Value → List String
  | [] => []
  | v :: rest => displayIn around v :: displays around rest

def entryDisplays (around : List (Nat × String)) : List (Value × Value) → List String
  | [] => []
  | (k, v) :: rest =>
    (displayIn around k ++ ": " ++ displayIn around v) :: entryDisplays around rest

end

def display (v : Value) : String := displayIn [] v

/-- A value as text: like `display`, but texts and times stand as they are. -/
def plain : Value → String
  | text s => s
  | halves codes => String.ofList (Text.characters codes)
  | date d => d.plain
  | moment m => m.plain
  | v => v.display

end Value

end LintConfig
