import Maskwalk.Text.Utf8
import Maskwalk.Yaml.Cursor

/-!
# Names in a YAML text

Besides scalars, a text holds names of three kinds. Anchors name nodes so that aliases can stand for
them. Tags say of which kind a node is; a tag is written with a handle, a short form of what tags of
one origin start with, or in full between angle brackets. Directives in front of a document declare
handles and the version of the format.

## Main definitions

* `Yaml.anchorName`: the name of an anchor or an alias.
* `Yaml.TagName`, `Yaml.tagName`: a tag as it is written.
* `Yaml.Directive`, `Yaml.directive`: directives.
-/

namespace Maskwalk

namespace Yaml

open Cursor

/-- Whether a character can be part of a name. -/
def isNamePart (c : Char) : Bool :=
  Text.isDigit c || ('a' ≤ c && c ≤ 'z') || ('A' ≤ c && c ≤ 'Z') || c = '-' || c = '_'

/-- The name of an anchor or an alias, read from its indicator on. -/
def anchorName (c : Cursor) : Except Problem (Text × Cursor) :=
  let (name, c) := c.next.takeWhile isNamePart
  let ends := atWordEnd c.peek || c.peek.any fun x => "?:,]\x7d%@\x60".toList.elem x
  if name ≠ [] && ends then .ok (name, c) else .error .malformed

/-- Whether a character can be part of a tag. -/
def isTagPart (c : Char) : Bool := isNamePart c || ";/?:@&=+$,.!~*\x27()[]%".toList.elem c

/-- The bytes that hexadecimal codes behind percent signs stand for. -/
def codedBytes : Nat → Cursor → Except Problem (List UInt8 × Cursor)
  | 0, c => .ok ([], c)
  | fuel + 1, c =>
    match c.rest with
    | '%' :: a :: b :: _ =>
      match Text.hexValue? a, Text.hexValue? b with
      | some high, some low => do
        let (bytes, c) ← codedBytes fuel (c.forward 3)
        return (UInt8.ofNat (16 * high + low) :: bytes, c)
      | _, _ => .error .malformed
    | '%' :: _ => .error .malformed
    | _ => .ok ([], c)

/-- The rest of a tag. -/
def tagTextFrom : Nat → Cursor → Except Problem (Text × Cursor)
  | 0, c => .ok ([], c)
  | fuel + 1, c =>
    if c.peek = some '%' then do
      let (bytes, c) ← codedBytes c.fuel c
      match Utf8.decode bytes with
      | .error _ => throw .malformed
      | .ok part =>
        let (tail, c) ← tagTextFrom fuel c
        return (part ++ tail, c)
    else
      let (part, c) := c.takeWhile fun x => isTagPart x && x ≠ '%'
      if part = [] then .ok ([], c)
      else do
        let (tail, c) ← tagTextFrom fuel c
        return (part ++ tail, c)

/-- The text of a tag, of which there has to be some. -/
def tagText (c : Cursor) : Except Problem (Text × Cursor) :=
  if c.peek.any isTagPart then tagTextFrom c.fuel c else .error .malformed

/-- A handle: one exclamation mark, or two with a name between them. -/
def handle (c : Cursor) : Except Problem (Text × Cursor) :=
  if c.peek ≠ some '!' then .error .malformed
  else if c.ahead 1 = some ' ' then .ok (['!'], c.next)
  else
    let (name, c) := c.next.takeWhile isNamePart
    if c.peek = some '!' then .ok ('!' :: name ++ ['!'], c.next) else .error .malformed

/-- A tag as it is written: a handle, which a full tag does without, and what follows it. -/
structure TagName where
  handle : Option Text
  suffix : Text
  deriving DecidableEq, Repr

/-- A tag, read from its first exclamation mark on. -/
def tagName (c : Cursor) : Except Problem (TagName × Cursor) := do
  let read : Except Problem (TagName × Cursor) :=
    if c.ahead 1 = some '<' then do
      let (text, c) ← tagText (c.forward 2)
      if c.peek = some '>' then return (⟨none, text⟩, c.next) else throw .malformed
    else if atWordEnd (c.ahead 1) then .ok (⟨none, ['!']⟩, c.next)
    else do
      let word := c.next.rest.takeWhile fun x => !atPartEnd (some x)
      let (mark, c) ← if word.elem '!' then handle c else .ok (['!'], c.next)
      let (text, c) ← tagText c
      return (⟨some mark, text⟩, c)
  let (name, c) ← read
  if atPartEnd c.peek then return (name, c) else throw .malformed

/-- What stands in front of a document: the version of the format, a handle with what it is short
    for, or something else, which is passed over. -/
inductive Directive where
  | version (major : Nat)
  | handle (name start : Text)
  | unknown
  deriving DecidableEq, Repr

/-- A number in a directive. -/
def directiveNumber (c : Cursor) : Except Problem (Nat × Cursor) :=
  let (digits, c) := c.takeWhile Text.isDigit
  if digits = [] then .error .malformed else .ok (Text.natOf 10 digits, c)

/-- The version in a directive. -/
def versionDirective (c : Cursor) : Except Problem (Directive × Cursor) := do
  let (major, c) ← directiveNumber c.skipSpaces
  if c.peek ≠ some '.' then throw .malformed
  let (_, c) ← directiveNumber c.next
  if atPartEnd c.peek then return (.version major, c) else throw .malformed

/-- The handle in a directive. -/
def handleDirective (c : Cursor) : Except Problem (Directive × Cursor) := do
  let (name, c) ← handle c.skipSpaces
  if c.peek ≠ some ' ' then throw .malformed
  let (start, c) ← tagText c.skipSpaces
  if atPartEnd c.peek then return (.handle name start, c) else throw .malformed

/-- A directive, read from its percent sign to the end of its line. -/
def directive (c : Cursor) : Except Problem (Directive × Cursor) := do
  let (name, c) := c.next.takeWhile isNamePart
  if name = [] || !atPartEnd c.peek then throw .malformed
  let (d, c) ←
    if name = "YAML".toList then versionDirective c
    else if name = "TAG".toList then handleDirective c
    else .ok (.unknown, c.skipLine)
  return (d, ← c.endOfLine)

end Yaml

end Maskwalk
