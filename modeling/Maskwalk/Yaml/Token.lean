import Maskwalk.Yaml.Handle
import Maskwalk.Yaml.Styles

/-!
# The tokens of a YAML text

A text is a row of tokens: indicators, names and scalars, and besides these the starts and ends of
block collections, which are not written but follow from the indentation.

That something is a key shows only at the colon behind it. So the place of whatever might be a key
is kept, one for each level of flow collections, and when the colon comes, the token that makes it
a key is put in at that place. A key has to be on one line with its colon, and not more than 1024
characters before it; in a block mapping, what stands where a key belongs has to be one.

Reading stops at the first fault; the tokens in front of it are kept, since whoever puts them
together may find another fault earlier.

## Main definitions

* `Yaml.Token`: the tokens.
* `Yaml.tokens`: the tokens of a text, and the fault behind them if there is one.
-/

namespace Maskwalk

namespace Yaml

/-- The tokens: what stands around documents and collections, what separates their parts, and the
    parts of a node. -/
inductive Token where
  | directive (d : Directive)
  | documentStart
  | documentEnd
  | textEnd
  | blockList
  | blockMap
  | blockEnd
  | flowList
  | flowListEnd
  | flowMap
  | flowMapEnd
  | item
  | comma
  | key
  | value
  | again (anchor : Text)
  | anchor (name : Text)
  | tag (name : TagName)
  | scalar (isPlain : Bool) (text : Text)
  deriving DecidableEq, Repr

/-- What might be a key: how many tokens stand in front of it, whether it has to be one, and where
    it is. -/
structure MaybeKey where
  count : Nat
  required : Bool
  index : Nat
  line : Nat
  column : Nat

/-- How far reading has come: the tokens, latest first, the depth of flow collections, the
    indentation of the block collections around the place, whether a key may come next, and for
    each depth what might be one. -/
structure Scan where
  cursor : Cursor
  tokens : List Token
  depth : Nat
  indent : Int
  outer : List Int
  keyAllowed : Bool
  keys : List (Nat × MaybeKey)

namespace Scan

/-- The start of a text. -/
def start (t : Text) : Scan := ⟨Cursor.start t, [], 0, -1, [], true, []⟩

/-- Whether the place is inside a flow collection. -/
def inFlow (s : Scan) : Bool := 0 < s.depth

/-- One more token, read up to a place. -/
def emit (s : Scan) (t : Token) (c : Cursor) : Scan :=
  { s with tokens := t :: s.tokens, cursor := c }

/-- A row of tokens with one more behind the first `count` of them; the row is latest first. -/
def inserted (count : Nat) (t : Token) (tokens : List Token) : List Token :=
  let later := tokens.length - count
  tokens.take later ++ t :: tokens.drop later

/-- What might be a key without that of the current depth. -/
def otherKeys (s : Scan) : List (Nat × MaybeKey) := s.keys.filter fun k => k.1 ≠ s.depth

/-- Gives up what might be a key at the current depth. -/
def dropKey (s : Scan) : Except Problem Scan :=
  if (valueOf? s.depth s.keys).any (·.required) then .error .malformed
  else .ok { s with keys := s.otherKeys }

/-- Keeps the place as that of a possible key, if one may come here. -/
def saveKey (s : Scan) : Except Problem Scan := do
  if s.keyAllowed then
    let required := !s.inFlow && s.indent = s.cursor.column
    let key : MaybeKey :=
      ⟨s.tokens.length, required, s.cursor.index, s.cursor.line, s.cursor.column⟩
    let s ← s.dropKey
    return { s with keys := (s.depth, key) :: s.keys }
  else return s

/-- How far behind its start the colon of a key can be. -/
def keyReach : Nat := 1024

/-- Whether what might be a key can still be one. -/
def isLive (s : Scan) (k : MaybeKey) : Bool :=
  k.line = s.cursor.line && s.cursor.index ≤ k.index + keyReach

/-- Gives up what cannot be a key any more. -/
def dropStale (s : Scan) : Except Problem Scan :=
  if s.keys.any fun k => k.2.required && !s.isLive k.2 then .error .malformed
  else .ok { s with keys := s.keys.filter fun k => s.isLive k.2 }

/-- Ends the block collections that are indented to more than a column. -/
def unwindFrom (column : Int) : List Int → Scan → Scan
  | [], s => s
  | indent :: outer, s =>
    if column < s.indent then
      unwindFrom column outer { s with tokens := .blockEnd :: s.tokens, indent, outer }
    else s

/-- Ends the block collections that are indented to more than a column, unless in flow. -/
def unwind (column : Int) (s : Scan) : Scan := if s.inFlow then s else unwindFrom column s.outer s

/-- Starts a block collection at a column behind the first `count` tokens, unless one is there. -/
def openBlock (t : Token) (count column : Nat) (s : Scan) : Scan :=
  if !s.inFlow && s.indent < column then
    { s with
      tokens := inserted count t s.tokens, indent := column, outer := s.indent :: s.outer }
  else s

/-- The place of the next token, after blanks, comments and line ends. -/
def toNext : Nat → Scan → Scan
  | 0, s => s
  | fuel + 1, s =>
    let c := s.cursor.skipSpaces
    let c := if c.peek = some '#' then c.skipLine else c
    match c.lineBreak? with
    | some (_, c) => toNext fuel { s with cursor := c, keyAllowed := s.keyAllowed || !s.inFlow }
    | none => { s with cursor := c }

/-- The end of the text. -/
def atEnd (s : Scan) : Except Problem Scan := do
  let s ← (s.unwind (-1)).dropKey
  return { s.emit .textEnd s.cursor with keyAllowed := false, keys := [] }

/-- A token in front of or behind a document, read by `read`. -/
def aroundDocument (read : Cursor → Except Problem (Token × Cursor)) (s : Scan) :
    Except Problem Scan := do
  let s ← (s.unwind (-1)).dropKey
  let (t, c) ← read s.cursor
  return { s.emit t c with keyAllowed := false }

/-- The start of a flow collection. -/
def openFlow (t : Token) (s : Scan) : Except Problem Scan := do
  let s ← s.saveKey
  return { s.emit t s.cursor.next with depth := s.depth + 1, keyAllowed := true }

/-- The end of a flow collection. -/
def closeFlow (t : Token) (s : Scan) : Except Problem Scan := do
  if !s.inFlow then throw .malformed
  let s ← s.dropKey
  return { s.emit t s.cursor.next with depth := s.depth - 1, keyAllowed := false }

/-- A comma. -/
def comma (s : Scan) : Except Problem Scan := do
  let s ← s.dropKey
  return { s.emit .comma s.cursor.next with keyAllowed := true }

/-- The start of an item of a block list. -/
def item (s : Scan) : Except Problem Scan := do
  if !s.inFlow && !s.keyAllowed then throw .malformed
  let s ← (s.openBlock .blockList s.tokens.length s.cursor.column).dropKey
  return { s.emit .item s.cursor.next with keyAllowed := true }

/-- The start of a key that is marked as such. -/
def key (s : Scan) : Except Problem Scan := do
  if !s.inFlow && !s.keyAllowed then throw .malformed
  let s ← (s.openBlock .blockMap s.tokens.length s.cursor.column).dropKey
  return { s.emit .key s.cursor.next with keyAllowed := !s.inFlow }

/-- The colon between a key and its value. What might be a key in front of it is one. -/
def value (s : Scan) : Except Problem Scan := do
  match valueOf? s.depth s.keys with
  | some k =>
    let s := { s with keys := s.otherKeys, tokens := inserted k.count .key s.tokens }
    let s := s.openBlock .blockMap k.count k.column
    return { s.emit .value s.cursor.next with keyAllowed := false }
  | none =>
    if !s.inFlow && !s.keyAllowed then throw .malformed
    let s ← (s.openBlock .blockMap s.tokens.length s.cursor.column).dropKey
    return { s.emit .value s.cursor.next with keyAllowed := !s.inFlow }

/-- A part of a node, which might be the start of a key. -/
def part (read : Cursor → Except Problem (Token × Cursor)) (s : Scan) : Except Problem Scan := do
  let s ← s.saveKey
  let (t, c) ← read s.cursor
  return { s.emit t c with keyAllowed := false }

/-- A block scalar. It is no key, and one may come behind it. -/
def blockScalar (isFolded : Bool) (s : Scan) : Except Problem Scan := do
  let s ← s.dropKey
  let (text, c) ← block isFolded s.indent s.cursor
  return { s.emit (.scalar false text) c with keyAllowed := true }

/-- A plain scalar. A key may come behind it if its last line is ended. -/
def plainScalar (s : Scan) : Except Problem Scan := do
  let s ← s.saveKey
  let (text, broken, c) := plain s.inFlow (s.indent + 1) s.cursor
  return { s.emit (.scalar true text) c with keyAllowed := broken }

/-- A scalar in quotes. -/
def quotedScalar (quote : Char) (s : Scan) : Except Problem Scan :=
  s.part fun c => do
    let (text, c) ← quoted quote c
    return (.scalar false text, c)

/-- Characters that no plain scalar starts with, unless something else than a blank follows. -/
def indicators : Text := "-?:,[]\x7b\x7d#&*!|>\x27\x22%@\x60".toList

/-- Whether a plain scalar can start here. -/
def startsPlain (s : Scan) (x : Char) : Bool :=
  (!indicators.elem x && !atWordEnd (some x))
    || (!atWordEnd (s.cursor.ahead 1) && (x = '-' || (!s.inFlow && (x = '?' || x = ':'))))

/-- Whether an indicator stands here as a word of its own, which it need not do in flow. -/
def isAlone (s : Scan) : Bool := s.inFlow || atWordEnd (s.cursor.ahead 1)

/-- The token that starts with a character which is next. -/
def token (x : Char) (s : Scan) : Except Problem Scan :=
  let c := s.cursor
  if x = '%' && c.column = 0 then
    s.aroundDocument fun c => do
      let (d, c) ← directive c
      return (.directive d, c)
  else if c.column = 0 && c.atMarker '-' then
    s.aroundDocument fun c => .ok (.documentStart, c.forward 3)
  else if c.column = 0 && c.atMarker '.' then
    s.aroundDocument fun c => .ok (.documentEnd, c.forward 3)
  else if x = '[' then s.openFlow .flowList
  else if x = '\x7b' then s.openFlow .flowMap
  else if x = ']' then s.closeFlow .flowListEnd
  else if x = '\x7d' then s.closeFlow .flowMapEnd
  else if x = ',' then s.comma
  else if x = '-' && atWordEnd (c.ahead 1) then s.item
  else if x = '?' && s.isAlone then s.key
  else if x = ':' && s.isAlone then s.value
  else if x = '*' then
    s.part fun c => do
      let (name, c) ← anchorName c
      return (.again name, c)
  else if x = '&' then
    s.part fun c => do
      let (name, c) ← anchorName c
      return (.anchor name, c)
  else if x = '!' then
    s.part fun c => do
      let (name, c) ← tagName c
      return (.tag name, c)
  else if x = '|' && !s.inFlow then s.blockScalar false
  else if x = '>' && !s.inFlow then s.blockScalar true
  else if x = '\x27' || x = '\x22' then s.quotedScalar x
  else if s.startsPlain x then s.plainScalar
  else .error .malformed

/-- The tokens from a place on. -/
def run : Nat → Scan → List Token × Option Problem
  | 0, s => (s.tokens.reverse, some .malformed)
  | fuel + 1, s =>
    let s := toNext s.cursor.fuel s
    let read : Except Problem (Scan × Bool) := do
      let s ← s.dropStale
      let s := s.unwind s.cursor.column
      match s.cursor.peek with
      | none => return (← s.atEnd, true)
      | some x => return (← s.token x, false)
    match read with
    | .error problem => (s.tokens.reverse, some problem)
    | .ok (s, true) => (s.tokens.reverse, none)
    | .ok (s, false) => run fuel s

end Scan

/-- The tokens of a text, and the fault behind them if there is one. A byte order mark at the start
    is passed over. -/
def tokens (t : Text) : List Token × Option Problem :=
  if t.all isPrintable then
    let s := Scan.start t
    let s := if t.head? = some '\ufeff' then { s with cursor := s.cursor.next } else s
    s.run (t.length + 2)
  else ([], some .malformed)

end Yaml

end Maskwalk
