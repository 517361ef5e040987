import LintConfig.Calendar
import LintConfig.Number.Decimal
import LintConfig.Text.Surrogate

/-! Values of documents: what an answers file, a settings file or a rule setting can hold. -/

namespace LintConfig

inductive Value
  | null
  | bool (b : Bool)
  | integer (n : Int)
  | double (x : Number.Double)
  | text (s : String)
  /-- A text with halves of surrogate pairs, as its code points. -/
  | halves (codes : List Nat)
  | bytes (b : List UInt8)
  | date (d : Date)
  | moment (m : Moment)
  | list (items : List Value)
  /-- A list of fixed length. -/
  | tuple (items : List Value)
  | set (items : List Value)
  /-- Entries in the order in which their keys were first given. -/
  | map (entries : List (Value × Value))
  /-- A collection that holds itself: in its place stands `again` with the same label. -/
  | knot (label : Nat) (body : Value)
  | again (label : Nat)
  deriving Repr, Inhabited

namespace Value

mutual

/-- Are two values alike, entry by entry? -/
def alike : Value → Value → Bool
  | null, null => true
  | bool a, bool b => a == b
  | integer m, integer n => m == n
  | double x, double y => x == y
  | text s, text t => s == t
  | halves s, halves t => s == t
  | bytes s, bytes t => s == t
  | date s, date t => s == t
  | moment s, moment t => s == t
  | list xs, list ys | tuple xs, tuple ys | set xs, set ys => itemsAlike xs ys
  | map es, map fs => entriesAlike es fs
  | knot l a, knot m b => l == m && alike a b
  | again l, again m => l == m
  | _, _ => false

def itemsAlike : List Value → List Value → Bool
  | [], [] => true
  | a :: as, b :: bs => alike a b && itemsAlike as bs
  | _, _ => false

def entriesAlike : List (Value × Value) → List (Value × Value) → Bool
  | [], [] => true
  | (k, v) :: as, (l, w) :: bs => alike k l && alike v w && entriesAlike as bs
  | _, _ => false

end

instance : BEq Value := ⟨alike⟩

def ofSpelled : Text.Spelled → Value
  | .text s => text s
  | .halves codes => halves codes

/-- Does the value count as true? Zero and all that is empty do not. -/
def isTruthy : Value → Bool
  | null => false
  | bool b => b
  | integer n => n != 0
  | double x => !x.isZero
  | text s => s != ""
  | bytes b => !b.isEmpty
  | halves _ | date _ | moment _ | again _ => true
  | list items | tuple items | set items => !items.isEmpty
  | map entries => !entries.isEmpty
  | knot _ body => body.isTruthy

/-- The text that a value is. Halves of surrogate pairs are joined, or replaced. -/
def text? : Value → Option String
  | text s => some s
  | halves codes => some (String.ofList (Text.characters codes))
  | _ => none

def bool? : Value → Option Bool
  | bool b => some b
  | _ => none

/-- The number a value counts as: truth values count as one and zero. -/
def integer? : Value → Option Int
  | bool b => some (if b then 1 else 0)
  | integer n => some n
  | _ => none

/-- Are two scalars the same key? Numbers are compared by value, whatever their kind. -/
def sameScalar (a b : Value) : Bool :=
  match a.integer?, b.integer? with
  | some m, some n => m == n
  | some m, none => match b with
    | double y => y.isInt m
    | _ => false
  | none, some n => match a with
    | double x => x.isInt n
    | _ => false
  | none, none => match a, b with
    | null, null => true
    | double x, double y => x.same y
    | text s, text t => s == t
    | halves s, halves t => s == t
    | bytes s, bytes t => s == t
    | date s, date t => s == t
    | moment s, moment t => s.same t
    | _, _ => false

/-- Can the value be the key of a map? -/
def isKey : Value → Bool
  | list _ | set _ | map _ | knot _ _ | again _ => false
  | _ => true

/-- The value of a key in a map's entries. -/
def lookup? (key : String) (entries : List (Value × Value)) : Option Value :=
  (entries.find? fun e => e.1.text? == some key).map (·.2)

/-- Give a key a value: in its place if it is there, else at the end. -/
def assign (key value : Value) : List (Value × Value) → List (Value × Value)
  | [] => [(key, value)]
  | (k, v) :: rest =>
    if k.sameScalar key then (k, value) :: rest else (k, v) :: assign key value rest

/-! ### Collections that hold themselves -/

mutual

/-- The value with a collection wherever its label stands for it. -/
def untie (label : Nat) (whole : Value) : Value → Value
  | again l => if l = label then whole else again l
  | knot l body => knot l (if l = label then body else untie label whole body)
  | list items => list (untieItems label whole items)
  | tuple items => tuple (untieItems label whole items)
  | set items => set (untieItems label whole items)
  | map entries => map (untieEntries label whole entries)
  | v => v

def untieItems (label : Nat) (whole : Value) : List Value → List Value
  | [] => []
  | v :: rest => untie label whole v :: untieItems label whole rest

def untieEntries (label : Nat) (whole : Value) : List (Value × Value) → List (Value × Value)
  | [] => []
  | (k, v) :: rest => (untie label whole k, untie label whole v) :: untieEntries label whole rest

end

/-- The value as a collection whose members can be looked at one by one. -/
def unrolled : Value → Value
  | knot label body => untie label (knot label body) body
  | v => v

end Value

end LintConfig
