import Maskwalk.Regex.Pattern
import Maskwalk.Regex.Search
import Maskwalk.Yaml.Token

/-!
# The graph of a document

A document is a graph: its nodes are scalars, lists of nodes, and maps of nodes to nodes, and an
alias is an edge to a node that has been named. A named node can be reached from inside itself, so
the nodes are kept in an array, and edges are places in it.

The graph is read off the tokens by recursion. What may stand where a token stands depends on the
collection around it: in a flow collection no block collection can start; the value in a block map
can be a list whose items are not indented; and where a node is missing, there is an empty scalar.

Each node has a kind, by its tag or, for a plain scalar without a tag, by its shape: `yes` is a
truth value, `017` a number, `2001-01-01` a day, and most other texts are texts.

## Main definitions

* `Yaml.Kind`: the kinds of nodes.
* `Yaml.Kind.ofPlain`: the kind of a plain scalar.
* `Yaml.Node`, `Yaml.Graph`: nodes and graphs.
* `Yaml.graph`: the graph of a text that holds one document, or none.
-/

namespace Maskwalk

namespace Yaml

/-- The kinds of nodes. `merge` and `default` are those of two plain scalars with a meaning of
    their own as keys. -/
inductive Kind where
  | null
  | bool
  | int
  | float
  | binary
  | timestamp
  | text
  | list
  | map
  | set
  | orderedMap
  | pairs
  | merge
  | default
  | unknown
  deriving DecidableEq, Repr, Inhabited

/-- What the tags of this format's own kinds start with. -/
def tagStart : Text := "tag:yaml.org,2002:".toList

/-- The names of kinds in tags. -/
def kindNames : List (Text × Kind) := [
  ("null".toList, .null), ("bool".toList, .bool), ("int".toList, .int), ("float".toList, .float),
  ("binary".toList, .binary), ("timestamp".toList, .timestamp), ("str".toList, .text),
  ("seq".toList, .list), ("map".toList, .map), ("set".toList, .set),
  ("omap".toList, .orderedMap), ("pairs".toList, .pairs), ("merge".toList, .merge),
  ("value".toList, .default)]

/-- The kind that a tag names. -/
def Kind.ofTag (tag : Text) : Kind :=
  ((Text.afterHead tagStart tag).bind fun name => valueOf? name kindNames).getD .unknown

/-- The shapes of plain scalars that are no texts, as regular expressions. -/
def shapePatterns : List (Kind × String) := [
  (.bool, "^(?:yes|Yes|YES|no|No|NO|true|True|TRUE|false|False|FALSE|on|On|ON|off|Off|OFF)$"),
  (.float, "^(?:[-+]?[0-9][0-9_]*\\.[0-9_]*(?:[eE][-+][0-9]+)?" ++
    "|\\.[0-9][0-9_]*(?:[eE][-+][0-9]+)?" ++
    "|[-+]?[0-9][0-9_]*(?::[0-5]?[0-9])+\\.[0-9_]*|[-+]?\\.(?:inf|Inf|INF)|\\.(?:nan|NaN|NAN))$"),
  (.int, "^(?:[-+]?0b[0-1_]+|[-+]?0[0-7_]+|[-+]?(?:0|[1-9][0-9_]*)|[-+]?0x[0-9a-fA-F_]+" ++
    "|[-+]?[1-9][0-9_]*(?::[0-5]?[0-9])+)$"),
  (.merge, "^<<$"),
  (.null, "^(?:~|null|Null|NULL)$"),
  (.timestamp, "^[0-9][0-9][0-9][0-9]-(?:[0-9][0-9]-[0-9][0-9]|[0-9][0-9]?-[0-9][0-9]?" ++
    "(?:[Tt]|[ \\t]+)[0-9][0-9]?:[0-9][0-9]:[0-9][0-9](?:\\.[0-9]*)?" ++
    "(?:[ \\t]*(?:Z|[-+][0-9][0-9]?(?::[0-9][0-9])?))?)$"),
  (.default, "^=$")]

/-- The shapes of plain scalars that are no texts. -/
def shapes : List (Kind × Regex) :=
  shapePatterns.filterMap fun (kind, pattern) =>
    (Regex.compile pattern.toList false).toOption.map fun r => (kind, r)

/-- The kind of a plain scalar. -/
def Kind.ofPlain (t : Text) : Kind :=
  if t = [] then .null
  else match shapes.find? fun shape => shape.2.found t with
    | some (kind, _) => kind
    | none => .text

/-- What a node holds; edges are places in the array of nodes. -/
inductive Content where
  | scalar (text : Text)
  | list (items : List Nat)
  | map (fields : List (Nat × Nat))
  deriving DecidableEq, Repr, Inhabited

/-- A node. -/
structure Node where
  kind : Kind
  content : Content
  deriving DecidableEq, Repr, Inhabited

/-- The nodes of a document. -/
abbrev Graph := Array Node

/-- How far the graph is built: the tokens that are left and the fault behind them, what handles
    are short for, the nodes with a name, and the nodes. -/
structure Building where
  tokens : List Token
  ending : Option Problem
  handles : List (Text × Text)
  names : List (Text × Nat)
  nodes : Graph

/-- A step of building. -/
abbrev Builds := StateT Building (Except Problem)

namespace Builds

/-- Refuses the text. -/
def refuse {α : Type} : Builds α := throw .malformed

/-- The next token. -/
def peek : Builds Token := do
  let s ← get
  match s.tokens, s.ending with
  | t :: _, _ => return t
  | [], some problem => throw problem
  | [], none => return .textEnd

/-- Passes over the next token. -/
def skip : Builds Unit := modify fun s => { s with tokens := s.tokens.drop 1 }

/-- Whether the next token is a given one, which is then passed over. -/
def takeIf (t : Token) : Builds Bool := do
  if (← peek) = t then
    skip
    return true
  else return false

/-- A new node. -/
def add (n : Node) : Builds Nat := do
  let id := (← get).nodes.size
  modify fun s => { s with nodes := s.nodes.push n }
  return id

/-- Gives a node its content. -/
def fill (id : Nat) (content : Content) : Builds Unit :=
  modify fun s => { s with nodes := s.nodes.modify id fun n => { n with content } }

/-- Names a node, which has to be the first of that name. -/
def named (anchor : Option Text) (id : Nat) : Builds Nat := do
  match anchor with
  | none => return id
  | some name =>
    if (valueOf? name (← get).names).isSome then refuse
    modify fun s => { s with names := (name, id) :: s.names }
    return id

/-- An empty scalar. -/
def emptyScalar : Builds Nat := add ⟨.null, .scalar []⟩

/-- An anchor, if one is next. -/
def anchor : Builds (Option Text) := do
  match ← peek with
  | .anchor name =>
    skip
    return some name
  | _ => return none

/-- A tag, if one is next. -/
def tag : Builds (Option TagName) := do
  match ← peek with
  | .tag name =>
    skip
    return some name
  | _ => return none

/-- An anchor and a tag in either order, each of which may be missing. -/
def properties : Builds (Option Text × Option TagName) := do
  match ← anchor with
  | some name => return (some name, ← tag)
  | none =>
    match ← tag with
    | none => return (none, none)
    | some t => return (← anchor, some t)

/-- A tag in full. -/
def fullTag (name : TagName) : Builds Text := do
  match name.handle with
  | none => return name.suffix
  | some handle =>
    match valueOf? handle (← get).handles with
    | some start => return start ++ name.suffix
    | none => refuse

/-- The kind by a tag. The tag that is an exclamation mark alone says that the shape decides. -/
def kindBy (tag : Option Text) (otherwise : Kind) : Kind :=
  match tag with
  | none => otherwise
  | some tag => if tag = ['!'] then otherwise else Kind.ofTag tag

/-- Where a node may stand: `block` if it can be a block collection, and `indentless` if it can be
    a list whose items are not indented. -/
structure Site where
  block : Bool
  indentless : Bool

mutual

/-- A node. -/
def node (fuel : Nat) (site : Site) : Builds Nat :=
  match fuel with
  | 0 => refuse
  | fuel + 1 => do
    match ← peek with
    | .again name =>
      skip
      match valueOf? name (← get).names with
      | some id => return id
      | none => refuse
    | _ =>
      let (anchor, tag) ← properties
      let tag ← tag.mapM fullTag
      let open_ (kind : Kind) (content : Content) : Builds Nat := do
        named anchor (← add ⟨kindBy tag kind, content⟩)
      let isItem := (← peek) = .item
      if site.indentless && isItem then
        let id ← open_ .list (.list [])
        indentlessItems fuel id []
        return id
      else match ← peek with
        | .scalar isPlain text =>
          skip
          let shaped := isPlain && tag.isNone || tag = some ['!']
          open_ (if shaped then Kind.ofPlain text else .text) (.scalar text)
        | .flowList =>
          skip
          let id ← open_ .list (.list [])
          flowItems fuel id true []
          return id
        | .flowMap =>
          skip
          let id ← open_ .map (.map [])
          flowFields fuel id true []
          return id
        | .blockList =>
          if !site.block then refuse
          skip
          let id ← open_ .list (.list [])
          blockItems fuel id []
          return id
        | .blockMap =>
          if !site.block then refuse
          skip
          let id ← open_ .map (.map [])
          blockFields fuel id []
          return id
        | _ =>
          if anchor.isNone && tag.isNone then refuse
          open_ .null (.scalar [])

/-- A node, or an empty scalar if one of some tokens is next. -/
def nodeUnless (fuel : Nat) (ends : List Token) (site : Site) : Builds Nat :=
  match fuel with
  | 0 => refuse
  | fuel + 1 => do
    if ends.elem (← peek) then emptyScalar else node fuel site

/-- The items of a block list; those so far are reversed. -/
def blockItems (fuel : Nat) (id : Nat) (items : List Nat) : Builds Unit :=
  match fuel with
  | 0 => refuse
  | fuel + 1 => do
    if ← takeIf .item then
      let item ← nodeUnless fuel [.item, .blockEnd] ⟨true, false⟩
      blockItems fuel id (item :: items)
    else
      let ended ← takeIf .blockEnd
      if !ended then refuse
      fill id (.list items.reverse)

/-- The items of a list that are not indented. -/
def indentlessItems (fuel : Nat) (id : Nat) (items : List Nat) : Builds Unit :=
  match fuel with
  | 0 => refuse
  | fuel + 1 => do
    if ← takeIf .item then
      let item ← nodeUnless fuel [.item, .key, .value, .blockEnd] ⟨true, false⟩
      indentlessItems fuel id (item :: items)
    else fill id (.list items.reverse)

/-- The fields of a block map; those so far are reversed. -/
def blockFields (fuel : Nat) (id : Nat) (fields : List (Nat × Nat)) : Builds Unit :=
  match fuel with
  | 0 => refuse
  | fuel + 1 => do
    if ← takeIf .key then
      let key ← nodeUnless fuel [.key, .value, .blockEnd] ⟨true, true⟩
      let hasValue ← takeIf .value
      let value ←
        if hasValue then nodeUnless fuel [.key, .value, .blockEnd] ⟨true, true⟩ else emptyScalar
      blockFields fuel id ((key, value) :: fields)
    else
      let ended ← takeIf .blockEnd
      if !ended then refuse
      fill id (.map fields.reverse)

/-- The value of a field in flow, if there is one, in front of a comma or an end. -/
def flowValue (fuel : Nat) (ending : Token) : Builds Nat :=
  match fuel with
  | 0 => refuse
  | fuel + 1 => do
    if ← takeIf .value then nodeUnless fuel [.comma, ending] ⟨false, false⟩ else emptyScalar

/-- The items of a flow list; an item may be a map of one field. -/
def flowItems (fuel : Nat) (id : Nat) (isFirst : Bool) (items : List Nat) : Builds Unit :=
  match fuel with
  | 0 => refuse
  | fuel + 1 => do
    let ended ← takeIf .flowListEnd
    if ended then fill id (.list items.reverse)
    else
      let separated ← if isFirst then pure true else takeIf .comma
      if !separated then refuse
      let isKey ← takeIf .key
      if isKey then
        let item ← add ⟨.map, .map []⟩
        let key ← nodeUnless fuel [.value, .comma, .flowListEnd] ⟨false, false⟩
        let value ← flowValue fuel .flowListEnd
        fill item (.map [(key, value)])
        flowItems fuel id false (item :: items)
      else if (← peek) = .flowListEnd then
        skip
        fill id (.list items.reverse)
      else
        let item ← node fuel ⟨false, false⟩
        flowItems fuel id false (item :: items)

/-- The fields of a flow map; one without a colon has an empty value. -/
def flowFields (fuel : Nat) (id : Nat) (isFirst : Bool) (fields : List (Nat × Nat)) :
    Builds Unit :=
  match fuel with
  | 0 => refuse
  | fuel + 1 => do
    let ended ← takeIf .flowMapEnd
    if ended then fill id (.map fields.reverse)
    else
      let separated ← if isFirst then pure true else takeIf .comma
      if !separated then refuse
      let isKey ← takeIf .key
      if isKey then
        let key ← nodeUnless fuel [.value, .comma, .flowMapEnd] ⟨false, false⟩
        let value ← flowValue fuel .flowMapEnd
        flowFields fuel id false ((key, value) :: fields)
      else if (← peek) = .flowMapEnd then
        skip
        fill id (.map fields.reverse)
      else
        let key ← node fuel ⟨false, false⟩
        let value ← emptyScalar
        flowFields fuel id false ((key, value) :: fields)

end

/-- The directives in front of a document: of a version there is at most one, of the first
    generation, and of each handle at most one. -/
def directives : Nat → Bool → List (Text × Text) → Builds (List (Text × Text))
  | 0, _, _ => refuse
  | fuel + 1, versioned, handles => do
    match ← peek with
    | .directive (.version major) =>
      skip
      if versioned || major ≠ 1 then refuse
      directives fuel true handles
    | .directive (.handle name start) =>
      skip
      if (valueOf? name handles).isSome then refuse
      directives fuel versioned ((name, start) :: handles)
    | .directive .unknown =>
      skip
      directives fuel versioned handles
    | _ => return handles

/-- The handles that need not be declared. -/
def plainHandles : List (Text × Text) := [(['!'], ['!']), (['!', '!'], tagStart)]

/-- Passes over ends of documents. -/
def skipEnds : Nat → Builds Unit
  | 0 => return
  | fuel + 1 => do
    let taken ← takeIf .documentEnd
    if taken then skipEnds fuel

/-- Whether the next token is of those that only stand around documents. -/
def atDocument : Builds Bool := do
  match ← peek with
  | .directive _ | .documentStart | .textEnd => return true
  | _ => return false

/-- The root of the document in front of which some directives and a start may stand. -/
def root (fuel : Nat) : Builds Nat := do
  if ← atDocument then
    let handles ← directives fuel false []
    let started ← takeIf .documentStart
    if !started then refuse
    modify fun s => { s with handles := handles ++ plainHandles }
    let isOver ← atDocument
    if isOver || (← peek) = .documentEnd then emptyScalar else node fuel ⟨true, false⟩
  else
    modify fun s => { s with handles := plainHandles }
    node fuel ⟨true, false⟩

/-- The only document of a text, as its root, or nothing if there is none. -/
def document (fuel : Nat) : Builds (Option Nat) := do
  if (← peek) = .textEnd then return none
  else
    let id ← root fuel
    skipEnds fuel
    if (← peek) = .textEnd then return some id else refuse

end Builds

/-- The graph of a text that holds one document, with its root, or nothing if it holds none. -/
def graph (t : Text) : Except Problem (Option (Nat × Graph)) := do
  let (row, ending) := tokens t
  let fuel := 4 * row.length + 8
  let (id, built) ← (Builds.document fuel).run ⟨row, ending, [], [], #[]⟩
  return id.map fun id => (id, built.nodes)

end Yaml

end Maskwalk
