import LintConfig.Yaml.Node
import LintConfig.Yaml.Object
import LintConfig.Yaml.ScalarValue

/-! The value of a document. A node becomes an object when it is first met: a scalar at once, a
collection as an empty one, whose members are made when all collections met before have theirs. So
of several faults the one nearest to the root is reported, and of those the first. -/

namespace LintConfig.Yaml.Construction

/-- A fault of a node. -/
def fault (context : Option (String × Mark)) (problem : String) (mark : Mark) : Error :=
  .fault {
    stage := .constructing, context := context.map (·.1), contextMark := context.map (·.2), problem
    mark }

def expected (kind : String) (n : Node) : Error :=
  fault none ("expected a " ++ kind ++ " node, but found " ++ n.content.kindName) n.start

/-! ### Types -/

/-- What becomes of a collection. -/
inductive CollectionType
  | seq
  | map
  | set
  | omap
  | pairs
  deriving DecidableEq, Repr

inductive NodeType
  | scalar (t : ScalarType)
  | collection (t : CollectionType)
  deriving DecidableEq, Repr

def types : List (String × NodeType) :=
  [(Tag.null, .scalar .null), (Tag.bool, .scalar .bool), (Tag.int, .scalar .int),
   (Tag.float, .scalar .float), (Tag.binary, .scalar .binary),
   (Tag.timestamp, .scalar .timestamp), (Tag.str, .scalar .str),
   (Tag.seq, .collection .seq), (Tag.map, .collection .map), (Tag.set, .collection .set),
   (Tag.omap, .collection .omap), (Tag.pairs, .collection .pairs)]

def undefinedTag (n : Node) : Error :=
  fault none ("could not determine a constructor for the tag " ++ Text.quotation n.tag) n.start

/-- The object of a collection before its members are made. -/
def CollectionType.empty : CollectionType → Object
  | seq | omap | pairs => .list []
  | map => .map []
  | set => .set []

/-- What a list of pairs is called in messages. -/
def CollectionType.name : CollectionType → String
  | omap => "an ordered map"
  | _ => "pairs"

/-! ### Scalars -/

/-- The text of a scalar. Of a mapping it is the text of its default value, if it has one. -/
def textOf (ns : Nodes) : (fuel : Nat) → NodeId → Except Error Text.Spelled
  | 0, _ => .error .endlessDefault
  | fuel + 1, id =>
    let n := ns.node id
    match n.content with
    | .scalar s => .ok s
    | .mapping es =>
      match es.find? fun (k, _) => (ns.node k).tag == Tag.value with
      | some (_, v) => textOf ns fuel v
      | none => .error (expected "scalar" n)
    | .sequence _ => .error (expected "scalar" n)

/-- What is no number is one and the same object wherever a document names it. -/
def nanId : ObjectId := 0

/-! ### Making objects -/

structure State where
  nodes : Nodes
  objects : Objects := #[.scalar (.double .nan)]
  /-- What the nodes have become, in the order of their numbers. -/
  made : Array (Option ObjectId)
  /-- The collections met so far, in order. -/
  met : Array (NodeId × CollectionType) := #[]

abbrev Construct := StateT State (Except Error)

def node (id : NodeId) : Construct Node := do return (← get).nodes.node id

def addObject (o : Object) : Construct ObjectId := fun s =>
  .ok (s.objects.size, { s with objects := s.objects.push o })

/-- The object of a scalar. -/
def makeScalar (type : ScalarType) (id : NodeId) : Construct ObjectId := do
  let ns := (← get).nodes
  let n := ns.node id
  let s ← textOf ns (ns.size + 1) id
  match type, n.content with
  | .timestamp, .mapping _ => throw .timeOfMapping
  | _, _ =>
    let v ← type.read n.start s
    if type == .float && ScalarValue.namesNan s then return nanId else addObject (.scalar v)

/-- The object of a node. -/
def make (id : NodeId) : Construct ObjectId := do
  match (← get).made.getD id none with
  | some o => return o
  | none =>
    let n ← node id
    let o ← match types.lookup n.tag with
      | none => throw (undefinedTag n)
      | some (.scalar type) => makeScalar type id
      | some (.collection type) =>
        modify fun s => { s with met := s.met.push (id, type) }
        addObject type.empty
    modify fun s => { s with made := s.made.setIfInBounds id (some o) }
    return o

/-! ### Merging -/

/-- Take the first entry that asks for a merge out of a mapping, and give its value. -/
def takeMerge (id : NodeId) : Construct (Option NodeId) := do
  let s ← get
  let es := s.nodes.entries id
  let before := es.takeWhile fun (k, _) => (s.nodes.node k).tag != Tag.merge
  match es.drop before.length with
  | [] => return none
  | (_, v) :: rest =>
    set { s with nodes := s.nodes.setContent id (.mapping (before ++ rest)) }
    return some v

/-- Keys that stand for the default value are texts when a mapping is one. -/
def settleDefaults (id : NodeId) : Construct Unit :=
  modify fun s =>
    let keys := (s.nodes.entries id).map (·.1)
    let nodes := keys.foldl (fun ns k =>
      if (ns.node k).tag == Tag.value then ns.setTag k Tag.str else ns) s.nodes
    { s with nodes }

/-- Put the entries of the mappings that a mapping merges in front of its own. -/
def flatten : (fuel : Nat) → NodeId → Construct Unit
  | 0, _ => pure ()
  | fuel + 1, id => do
    let ns := (← get).nodes
    let start := (ns.node id).start
    let context := some ("while constructing a mapping", start)
    let flattened := fun (id : NodeId) => do
      flatten fuel id
      return (← get).nodes.entries id
    let mergedOf := fun (v : NodeId) => do
      let n ← node v
      match n.content with
      | .mapping _ => flattened v
      | .sequence items =>
        let each ← items.mapM fun item => do
          let n ← node item
          match n.content with
          | .mapping _ => flattened item
          | c => throw (fault context
              ("expected a mapping for merging, but found " ++ c.kindName) n.start)
        return each.reverse.flatten
      | c => throw (fault context
          ("expected a mapping or list of mappings for merging, but found " ++ c.kindName) n.start)
    let merges := (ns.entries id).countP fun (k, _) => (ns.node k).tag == Tag.merge
    let merged ← (List.range merges).mapM fun _ => do
      match ← takeMerge id with
      | some v => mergedOf v
      | none => return []
    settleDefaults id
    modify fun s => { s with
      nodes := s.nodes.setContent id (.mapping (merged.flatten ++ s.nodes.entries id)) }

/-- A bound on how deeply merges are nested: each takes an entry out. -/
def entryCount (ns : Nodes) : Nat :=
  ns.foldl (fun count n => match n.content with
    | .mapping es => count + es.length
    | _ => count) 0

/-! ### Filling collections -/

/-- Put an entry into a mapping's object. -/
def addEntry (start : Mark) (entries : List (ObjectId × ObjectId)) (e : NodeId × NodeId) :
    Construct (List (ObjectId × ObjectId)) := do
  let key ← make e.1
  unless ((← get).objects.object key).isKey do
    throw (fault (some ("while constructing a mapping", start)) "found unhashable key"
      (← node e.1).start)
  let value ← make e.2
  return (← get).objects.assign key value entries

/-- The entries of a mapping's object. -/
def fillMapping (id : NodeId) : Construct (List (ObjectId × ObjectId)) := do
  let n ← node id
  match n.content with
  | .mapping _ =>
    flatten (entryCount (← get).nodes + 1) id
    ((← get).nodes.entries id).foldlM (addEntry n.start) []
  | _ => throw (expected "mapping" n)

/-- The items of a list of pairs. Each is a mapping of one entry. -/
def fillPairs (type : CollectionType) (id : NodeId) : Construct (List ObjectId) := do
  let n ← node id
  let context := some ("while constructing " ++ type.name, n.start)
  match n.content with
  | .sequence items => items.mapM fun item => do
    let m ← node item
    match m.content with
    | .mapping [(k, v)] =>
      let key ← make k
      let value ← make v
      addObject (.tuple [key, value])
    | .mapping es => throw (fault context
        ("expected a single mapping item, but found " ++ toString es.length ++ " items") m.start)
    | c => throw (fault context
        ("expected a mapping of length 1, but found " ++ c.kindName) m.start)
  | c => throw (fault context ("expected a sequence, but found " ++ c.kindName) n.start)

/-- The object of a collection with its members. -/
def filled (type : CollectionType) (id : NodeId) : Construct Object := do
  match type with
  | .seq =>
    let n ← node id
    match n.content with
    | .sequence items => return .list (← items.mapM make)
    | _ => throw (expected "sequence" n)
  | .map => return .map (← fillMapping id)
  | .set => return .set ((← fillMapping id).map (·.1))
  | .omap | .pairs => return .list (← fillPairs type id)

/-- Fill the collections that were met, from one of them on. -/
def fillFrom : (fuel next : Nat) → Construct Unit
  | 0, _ => pure ()
  | fuel + 1, next => do
    match (← get).met[next]? with
    | none => pure ()
    | some (id, type) =>
      let o ← filled type id
      let own ← make id
      modify fun s => { s with objects := s.objects.setIfInBounds own o }
      fillFrom fuel (next + 1)

/-- The object of a document's root; all collections in it are filled. -/
def makeAll (root : NodeId) : Construct ObjectId := do
  let o ← make root
  fillFrom ((← get).nodes.size + 1) 0
  return o

/-- The value of the document with this root. -/
def construct (root : NodeId) (nodes : Nodes) : Except Error Value := do
  let (o, s) ← (makeAll root).run { nodes, made := Array.replicate nodes.size none }
  return s.objects.value o

end LintConfig.Yaml.Construction
