import Maskwalk.Yaml.Cursor

/-!
# The styles of scalars

A scalar is written in one of five styles. A plain one stands there as it is, up to a colon or a
comment; a quoted one stands between single or double quotes, where double quotes allow escapes; a
block scalar is a run of indented lines, kept as they are or folded.

In all styles but the kept block, lines are folded: one line break between two words is a space, and
of several the first is dropped. Line and paragraph separators are not folded away.

Each reader starts at the first character of a scalar and gives its text and the place behind it.

## Main definitions

* `Yaml.plain`: the rest of a plain scalar.
* `Yaml.quoted`: a scalar in quotes.
* `Yaml.block`: a block scalar.
-/

namespace Maskwalk

namespace Yaml

open Cursor

/-- What a line break followed by further ones comes to when lines are folded. -/
def folded (first more : Text) : Text :=
  (if first ≠ ['\n'] then first else if more = [] then [' '] else []) ++ more

/-! ### Plain scalars -/

/-- Whether a plain scalar ends before the next character. -/
def plainEnds (inFlow : Bool) : Text → Bool
  | [] => true
  | ':' :: rest =>
    atWordEnd rest.head?
      || (inFlow && rest.head?.any fun c => [',', '[', ']', '\x7b', '\x7d'].elem c)
  | c :: _ =>
    atWordEnd (some c) || (inFlow && [',', '?', '[', ']', '\x7b', '\x7d'].elem c)

/-- The part of a text in front of the end of a plain scalar. -/
def plainPart (inFlow : Bool) : Text → Text
  | [] => []
  | c :: rest => if plainEnds inFlow (c :: rest) then [] else c :: plainPart inFlow rest

/-- The line breaks between the lines of a plain scalar, and the place of the next word. There is
    no such place when a marker of a document comes first. -/
def plainBreaks : Nat → Cursor → Text × Cursor × Bool
  | 0, c => ([], c, true)
  | fuel + 1, c =>
    match c.peek with
    | some ' ' => plainBreaks fuel c.next
    | _ =>
      match c.lineBreak? with
      | none => ([], c, true)
      | some (x, c) =>
        if c.atAnyMarker then ([], c, false)
        else
          let (breaks, c, more) := plainBreaks fuel c
          (x :: breaks, c, more)

/-- What stands between two words of a plain scalar, whether it holds a line break, and the place
    of the next word; nothing stands between when the scalar ends here. -/
def plainSpaces (c : Cursor) : Text × Bool × Cursor :=
  let (spaces, c) := c.takeWhile (· = ' ')
  match c.lineBreak? with
  | none => (spaces, false, c)
  | some (first, c) =>
    if c.atAnyMarker then ([], true, c)
    else
      let (breaks, c, more) := plainBreaks c.fuel c
      (if more then folded [first] breaks else [], true, c)

/-- The rest of a plain scalar after some spaces, and whether it ends behind a line break. In block
    context, lines that are indented less than `indent` do not belong to it. -/
def plainFrom (inFlow : Bool) (indent : Int) : Nat → Text → Bool → Cursor → Text × Bool × Cursor
  | 0, _, broken, c => ([], broken, c)
  | fuel + 1, spaces, broken, c =>
    if c.peek = some '#' then ([], broken, c)
    else
      let part := plainPart inFlow c.rest
      if part = [] then ([], broken, c)
      else
        let c := c.forward part.length
        let (more, broken, c) := plainSpaces c
        let (tail, broken, c) :=
          if more = [] || (!inFlow && c.column < indent) then ([], broken, c)
          else plainFrom inFlow indent fuel more broken c
        (spaces ++ part ++ tail, broken, c)

/-- A plain scalar, and whether it ends behind a line break. -/
def plain (inFlow : Bool) (indent : Int) (c : Cursor) : Text × Bool × Cursor :=
  plainFrom inFlow indent c.fuel [] false c

/-! ### Quoted scalars -/

/-- What an escaped character stands for. -/
def escapes : List (Char × Char) := [
  ('0', '\x00'), ('a', '\x07'), ('b', '\x08'), ('t', '\t'), ('\t', '\t'), ('n', '\n'),
  ('v', '\x0b'), ('f', '\x0c'), ('r', '\r'), ('e', '\x1b'), (' ', ' '), ('\x22', '\x22'), ('\\', '\\'), ('/', '/'),
  ('N', '\x85'), ('_', '\xa0'), ('L', '\u2028'), ('P', '\u2029')]

/-- How many hexadecimal digits follow a letter that announces a code. -/
def codeLength? : Char → Option Nat
  | 'x' => some 2
  | 'u' => some 4
  | 'U' => some 8
  | _ => none

/-- The character with a code. -/
def charOf (code : Nat) : Except Problem Char :=
  if code < 0x110000 then .ok (Char.ofNat code)
  else if code < 0x80000000 then .error .number
  else .error .codeTooLarge

/-- The line breaks at the start of a line of a quoted scalar. Markers of documents must not stand
    there. -/
def quotedBreaks : Nat → Cursor → Except Problem (Text × Cursor)
  | 0, c => .ok ([], c)
  | fuel + 1, c =>
    if c.atAnyMarker then .error .malformed
    else
      let c := c.skipWhile fun x => x = ' ' || x = '\t'
      match c.lineBreak? with
      | none => .ok ([], c)
      | some (x, c) => do
        let (breaks, c) ← quotedBreaks fuel c
        return (x :: breaks, c)

/-- What an escape comes to, read from behind its backslash. -/
def escape (c : Cursor) : Except Problem (Text × Cursor) :=
  match c.peek with
  | none => .error .malformed
  | some x =>
    match valueOf? x escapes, codeLength? x with
    | some meant, _ => .ok ([meant], c.next)
    | none, some count =>
      let digits := c.next.rest.take count
      if digits.length = count && digits.all (Text.hexValue? · |>.isSome) then do
        let meant ← charOf (Text.natOf 16 digits)
        return ([meant], c.forward (count + 1))
      else .error .malformed
    | none, none =>
      match c.lineBreak? with
      | some (_, c) => quotedBreaks c.fuel c
      | none => .error .malformed

/-- The spaces in a quoted scalar: as they are, or folded if a line ends. -/
def quotedSpaces (c : Cursor) : Except Problem (Text × Cursor) :=
  let (spaces, c) := c.takeWhile fun x => x = ' ' || x = '\t'
  match c.peek, c.lineBreak? with
  | none, _ => .error .malformed
  | _, some (first, c) => do
    let (breaks, c) ← quotedBreaks c.fuel c
    return (folded [first] breaks, c)
  | _, none => .ok (spaces, c)

/-- The rest of a quoted scalar. -/
def quotedFrom (quote : Char) : Nat → Cursor → Except Problem (Text × Cursor)
  | 0, _ => .error .malformed
  | fuel + 1, c =>
    let after (read : Except Problem (Text × Cursor)) : Except Problem (Text × Cursor) := do
      let (part, c) ← read
      let (tail, c) ← quotedFrom quote fuel c
      return (part ++ tail, c)
    match c.peek with
    | none => .error .malformed
    | some x =>
      if x = quote then
        if quote = '\x27' && c.ahead 1 = some '\x27' then after (.ok (['\x27'], c.forward 2))
        else .ok ([], c.next)
      else if quote = '\x22' && x = '\\' then after (escape c.next)
      else if atWordEnd (some x) then after (quotedSpaces c)
      else after (.ok ([x], c.next))

/-- A scalar in quotes, from its opening quote on. -/
def quoted (quote : Char) (c : Cursor) : Except Problem (Text × Cursor) :=
  quotedFrom quote c.next.fuel c.next

/-! ### Block scalars -/

/-- What happens to the line breaks at the end of a block scalar. -/
inductive Chomping where
  | one
  | none
  | all
  deriving DecidableEq, Repr

/-- The chomping that a character stands for. -/
def chomping? : Option Char → Option Chomping
  | some '+' => some .all
  | some '-' => some .none
  | _ => Option.none

/-- The chomping of a block scalar if it is given here, and the place after it. -/
def chomping (c : Cursor) : Option Chomping × Cursor :=
  match chomping? c.peek with
  | some x => (some x, c.next)
  | none => (none, c)

/-- The indentation of a block scalar if it is given here, and the place after it. -/
def increment (c : Cursor) : Except Problem (Option Nat × Cursor) :=
  match c.peek.bind Text.digitValue? with
  | some 0 => .error .malformed
  | some n => .ok (some n, c.next)
  | none => .ok (none, c)

/-- The head of a block scalar: chomping and indentation in either order. -/
def blockHead (c : Cursor) : Except Problem (Chomping × Option Nat × Cursor) := do
  let (early, c) := chomping c
  let (indent, c) ← increment c
  let (late, c) := if early.isNone && indent.isSome then chomping c else (none, c)
  if !atPartEnd c.peek then throw .malformed
  return ((early.or late).getD .one, indent, ← c.endOfLine)

/-- The empty lines at the start of a block scalar, and the greatest indentation among them. -/
def blockIndentation : Nat → Nat → Cursor → Text × Nat × Cursor
  | 0, most, c => ([], most, c)
  | fuel + 1, most, c =>
    if c.peek = some ' ' then blockIndentation fuel (max most c.next.column) c.next
    else match c.lineBreak? with
      | none => ([], most, c)
      | some (x, c) =>
        let (breaks, most, c) := blockIndentation fuel most c
        (x :: breaks, most, c)

/-- The place behind the indentation of a line, which is at most `indent` spaces. -/
def skipIndent (indent : Nat) : Nat → Cursor → Cursor
  | 0, c => c
  | fuel + 1, c =>
    if c.column < indent && c.peek = some ' ' then skipIndent indent fuel c.next else c

/-- The empty lines between the lines of a block scalar, and the place of the next line. -/
def blockBreaks (indent : Nat) : Nat → Cursor → Text × Cursor
  | 0, c => ([], c)
  | fuel + 1, c =>
    let c := skipIndent indent c.fuel c
    match c.lineBreak? with
    | none => ([], c)
    | some (x, c) =>
      let (breaks, c) := blockBreaks indent fuel c
      (x :: breaks, c)

/-- Whether a line starts with more blanks than its indentation. -/
def startsBlank (c : Cursor) : Bool := c.peek = some ' ' || c.peek = some '\t'

/-- The lines of a block scalar from a line on, after empty lines; with them the last line break
    and the empty lines at the end. -/
def blockLines (isFolded : Bool) (indent : Nat) :
    Nat → Text → Cursor → Text × Text × Text × Cursor
  | 0, breaks, c => ([], [], breaks, c)
  | fuel + 1, breaks, c =>
    let blank := startsBlank c
    let (line, c) := c.takeWhile (!isBreak ·)
    let (last, c) := c.takeBreak
    let (more, c) := blockBreaks indent c.fuel c
    if c.column = indent && c.peek.isSome then
      let joint :=
        if isFolded && last = ['\n'] && !blank && !startsBlank c then
          (if more = [] then [' '] else [])
        else last
      let (tail, last, ending, c) := blockLines isFolded indent fuel more c
      (breaks ++ line ++ joint ++ tail, last, ending, c)
    else (breaks ++ line, last, more, c)

/-- A block scalar, from its indicator on, in a collection that is indented to `outer`. -/
def block (isFolded : Bool) (outer : Int) (c : Cursor) : Except Problem (Text × Cursor) := do
  let (chomping, given, c) ← blockHead c.next
  let least := (max (outer + 1) 1).toNat
  let (breaks, indent, c) : Text × Nat × Cursor :=
    match given with
    | some n =>
      let indent := least + n - 1
      let (breaks, c) := blockBreaks indent c.fuel c
      (breaks, indent, c)
    | none =>
      let (breaks, most, c) := blockIndentation c.fuel 0 c
      (breaks, max least most, c)
  let (lines, last, ending, c) : Text × Text × Text × Cursor :=
    if c.column = indent && c.peek.isSome then blockLines isFolded indent c.fuel breaks c
    else ([], [], breaks, c)
  let tail := match chomping with
    | .one => last
    | .none => []
    | .all => last ++ ending
  return (lines ++ tail, c)

end Yaml

end Maskwalk
