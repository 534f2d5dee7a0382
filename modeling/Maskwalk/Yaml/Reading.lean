import Maskwalk.Yaml.Scalar

/-!
# The value of a YAML text

The graph of a document becomes a value in three steps. First, map by map, the fields that a merge
key brings in are put in front of the map's own, so that the map's own win; then every scalar is
read and every key checked, collection by collection from the root down; at last the graph is unfolded
into a value, where a collection that is reached from inside itself is a circle.

The first fault on the way from the root counts, so the check goes through the graph in breadth: all
of one collection comes before what is in its members.

## Main definitions

* `Yaml.Reads.check`: merging and checking.
* `Yaml.unfolded`: the value of a node.
* `Yaml.read`: the value of a text.
-/

namespace Maskwalk

namespace Yaml

/-- The node at a place. -/
def nodeAt (g : Graph) (id : Nat) : Node := g.getD id ⟨.null, .scalar []⟩

/-- The fields of a map. -/
def fieldsAt (g : Graph) (id : Nat) : List (Nat × Nat) :=
  match (nodeAt g id).content with
  | .map fields => fields
  | _ => []

/-- Whether a node is written as a map. -/
def isMapAt (g : Graph) (id : Nat) : Bool :=
  match (nodeAt g id).content with
  | .map _ => true
  | _ => false

/-- Whether values of a kind are no collections. -/
def Kind.isScalar : Kind → Bool
  | .null | .bool | .int | .float | .binary | .timestamp | .text => true
  | _ => false

/-- Whether values of a kind are collections. -/
def Kind.isCollection : Kind → Bool
  | .list | .map | .set | .orderedMap | .pairs => true
  | _ => false

/-- The text of a scalar. A map with a default key stands for the scalar of that key. -/
def scalarText (g : Graph) : Nat → Nat → Except Problem Text
  | 0, _ => .error .malformed
  | fuel + 1, id =>
    match (nodeAt g id).content with
    | .scalar text => .ok text
    | .list _ => .error .malformed
    | .map fields =>
      match fields.find? fun field => (nodeAt g field.1).kind = .default with
      | some (_, value) => scalarText g fuel value
      | none => .error .malformed

/-- The value of a scalar. A timestamp has to be written as one; for other kinds a map with a
    default key will do. -/
def scalarAt (g : Graph) (id : Nat) : Except Problem Value := do
  let text ← scalarText g (g.size + 1) id
  let kind := (nodeAt g id).kind
  if kind = .timestamp ∧ isMapAt g id then throw .shape
  scalarValue kind text

/-- A step on a graph that may find a fault. -/
abbrev Reads := StateT Graph (Except Problem)

namespace Reads

/-- Sets the fields of a map. -/
def setFields (id : Nat) (fields : List (Nat × Nat)) : Reads Unit :=
  modify fun g => g.modify id fun n => { n with content := .map fields }

/-- Makes a default key a text like any other. -/
def settleKey (id : Nat) : Reads Unit :=
  modify fun g => g.modify id fun n => if n.kind = .default then { n with kind := .text } else n

/-- The fields that a merge key brings in, from a map or from a list of maps, in which earlier ones
    win; `merge` settles each map first. -/
def broughtIn (merge : Nat → Reads Unit) (id : Nat) : Reads (List (Nat × Nat)) := do
  let one (id : Nat) : Reads (List (Nat × Nat)) := do
    if !isMapAt (← get) id then throw .malformed
    merge id
    return fieldsAt (← get) id
  match (nodeAt (← get) id).content with
  | .map _ => one id
  | .list items => return (← items.mapM one).reverse.flatten
  | .scalar _ => throw .malformed

/-- Goes through the fields of a map: those of merge keys are taken off and what they bring in is
    put in front, after what was brought in before. -/
def mergeFields (merge : Nat → Reads Unit) (id : Nat) :
    List (Nat × Nat) → List (Nat × Nat) → List (Nat × Nat) → Reads Unit
  | [], kept, merged => setFields id (merged ++ kept.reverse)
  | (key, value) :: rest, kept, merged => do
    if (nodeAt (← get) key).kind = .merge then
      setFields id (kept.reverse ++ rest)
      let brought ← broughtIn merge value
      mergeFields merge id rest kept (merged ++ brought)
    else
      settleKey key
      mergeFields merge id rest ((key, value) :: kept) merged

/-- Settles the merge keys of a map, and of the maps that they bring in. Every merge key is taken
    off before what it stands for is looked at, so their number bounds the depth. -/
def merge : Nat → Nat → Reads Unit
  | 0, _ => return
  | fuel + 1, id => do mergeFields (merge fuel) id (fieldsAt (← get) id) [] []

/-- Reads a scalar, or has a collection wait for its turn. -/
def touch (id : Nat) : Reads (List Nat) := do
  let g ← get
  let kind := (nodeAt g id).kind
  if kind.isCollection then return [id]
  else
    let _ ← scalarAt g id
    return []

/-- Reads all that is in some nodes. -/
def touchAll (ids : List Nat) : Reads (List Nat) := do return (← ids.mapM touch).flatten

/-- Reads the fields of a map, whose keys must not be collections. -/
def touchFields : List (Nat × Nat) → Reads (List Nat)
  | [] => return []
  | (key, value) :: more => do
    let inKey ← touch key
    if inKey ≠ [] then throw .malformed
    let inValue ← touch value
    return inValue ++ (← touchFields more)

/-- Reads the items of a list of single fields. -/
def touchPairs : List Nat → Reads (List Nat)
  | [] => return []
  | item :: more => do
    match (nodeAt (← get) item).content with
    | .map [(key, value)] =>
      let inPair ← touchAll [key, value]
      return inPair ++ (← touchPairs more)
    | _ => throw .malformed

/-- Reads what a collection holds, and gives the collections in it. -/
def enter (fuel id : Nat) : Reads (List Nat) := do
  let node := nodeAt (← get) id
  match node.kind, node.content with
  | .list, .list items => touchAll items
  | .map, .map _ | .set, .map _ =>
    merge fuel id
    touchFields (fieldsAt (← get) id)
  | .orderedMap, .list items | .pairs, .list items => touchPairs items
  | _, _ => throw .malformed

/-- Reads all collections that wait, and those that they hold after them. None waits twice, so there
    is one turn for each node at most. -/
def check : Nat → List Nat → List Nat → Reads Unit
  | 0, _, _ => return
  | _ + 1, _, [] => return
  | fuel + 1, seen, id :: waiting => do
    let found ← enter ((← get).size + 1) id
    let seen := id :: seen
    check fuel seen (waiting ++ found.filter (!seen.elem ·)).eraseDups

end Reads

/-- A row of keys, each of them once. -/
def distinct : List Value → List Value
  | [] => []
  | key :: more => key :: (distinct more).filter fun other => !Value.same key other

/-- The value of a node; `around` are the collections that it lies in. -/
def unfolded (g : Graph) : Nat → List Nat → Nat → Value
  | 0, _, _ => .null
  | fuel + 1, around, id =>
    let node := nodeAt g id
    let member := unfolded g fuel (id :: around)
    if node.kind.isScalar then ((scalarAt g id).toOption).getD .null
    else if around.elem id then .circle (node.kind = .map)
    else match node.kind, node.content with
      | .map, .map fields =>
        .map (fields.foldl (fun m (key, value) => Value.setField (member key) (member value) m) [])
      | .set, .map fields => .set (distinct (fields.map fun field => member field.1))
      | .list, .list items => .list (items.map member)
      | _, .list items => .list (items.map fun item =>
          match fieldsAt g item with
          | [(key, value)] => .pair (member key) (member value)
          | _ => .null)
      | _, _ => .null

/-- The value of a root. The members of a map lie in nothing. -/
def rootValue (g : Graph) (id : Nat) : Value :=
  let node := nodeAt g id
  let member := unfolded g (g.size + 1) []
  match node.kind, node.content with
  | .map, .map fields =>
    .map (fields.foldl (fun m (key, value) => Value.setField (member key) (member value) m) [])
  | _, _ => member id

/-- The value of a text: nothing if it holds no document. -/
def read (t : Text) : Except Problem Value := do
  match ← graph t with
  | none => return .null
  | some (id, g) =>
    let start : Reads Unit := do Reads.check (g.size + 1) [] (← Reads.touch id)
    let (_, g) ← start.run g
    return rootValue g id

end Yaml

end Maskwalk
