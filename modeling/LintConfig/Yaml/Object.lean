import LintConfig.Value.TableOrder

/-! What the nodes of a document become: objects, each known by its number, so that one can be in
several others, and a collection in itself. The value of an object copies what is in several places,
and ties a knot where an object is in itself. -/

namespace LintConfig.Yaml

abbrev ObjectId := Nat

inductive Object
  | scalar (v : Value)
  | list (items : List ObjectId)
  | tuple (items : List ObjectId)
  | set (keys : List ObjectId)
  | map (entries : List (ObjectId × ObjectId))
  deriving BEq, Repr, Inhabited

/-- Can the object be the key of a map? -/
def Object.isKey : Object → Bool
  | scalar _ => true
  | _ => false

/-- The objects of a document, in the order of their numbers. -/
abbrev Objects := Array Object

namespace Objects

def object (os : Objects) (id : ObjectId) : Object := os.getD id default

/-- Are two objects the same key? An object is the same as itself, whatever it is. -/
def sameKey (os : Objects) (a b : ObjectId) : Bool :=
  a == b ||
    match os.object a, os.object b with
    | .scalar v, .scalar w => v.sameScalar w
    | _, _ => false

/-- Give a key a value: in its place if it is there, else at the end. -/
def assign (os : Objects) (key value : ObjectId) :
    List (ObjectId × ObjectId) → List (ObjectId × ObjectId)
  | [] => [(key, value)]
  | (k, v) :: rest =>
    if os.sameKey k key then (k, value) :: rest else (k, v) :: assign os key value rest

/-! ### Values -/

/-- A value, and whether it is free of knots. -/
structure Untied where
  value : Value
  isFree : Bool

/-- The values known so far; only those free of knots can stand anywhere. -/
abbrev Known := Array (Option Value)

/-- The value of an object that is in others. -/
def valueIn (os : Objects) : (fuel : Nat) → (around : List ObjectId) → ObjectId → StateM Known Untied
  | 0, _, id => return ⟨.again id, false⟩
  | fuel + 1, around, id => do
    if around.contains id then return ⟨.again id, false⟩
    else match (← get).getD id none with
      | some v => return ⟨v, true⟩
      | none =>
        let below := valueIn os fuel (id :: around)
        let all := fun (make : List Value → Value) (ids : List ObjectId) => do
          let members ← ids.mapM below
          return Untied.mk (make (members.map (·.value))) (members.all (·.isFree))
        let v ← match os.object id with
          | .scalar v => pure ⟨v, true⟩
          | .list items => all .list items
          | .tuple items => all .tuple items
          | .set keys => all (fun members => .set (Value.TableOrder.order members)) keys
          | .map entries =>
            let members ← entries.mapM fun (k, v) => do return (← below k, ← below v)
            pure (Untied.mk (.map (members.map fun (k, v) => (k.value, v.value)))
              (members.all fun (k, v) => k.isFree && v.isFree))
        if v.isFree then
          modify fun known => known.setIfInBounds id (some v.value)
          return v
        else return ⟨.knot id v.value, false⟩

/-- The value of an object. -/
def value (os : Objects) (id : ObjectId) : Value :=
  ((os.valueIn (os.size + 1) [] id).run (Array.replicate os.size none)).1.value

end Objects

end LintConfig.Yaml
