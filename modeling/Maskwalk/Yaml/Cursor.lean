import Maskwalk.Text.Basic

/-!
# A place in a YAML text

Reading YAML needs more than the text that is left: how deep a line is indented decides what belongs
together, and a key has to be on one line. A cursor is the text that is left together with the
column, the line, and the number of characters read. It moves forward one character at a time.

Five characters end a line here, and three of them are alike: a carriage return, with or without a
line feed after it, and a next-line count as a line feed, while the line and paragraph separators
stay what they are. A byte order mark takes no column.

A text may hold only characters that can be printed, tabs and line ends.

## Main definitions

* `Yaml.Problem`: what can be wrong with a text or a scalar in it.
* `Yaml.Cursor`: a place in a text.
* `Cursor.next`, `Cursor.forward`, `Cursor.takeWhile`, `Cursor.lineBreak?`: moves.
* `Yaml.isPrintable`: the characters that a text may hold.
-/

namespace Maskwalk

namespace Yaml

/-- What can be wrong: the text is malformed, or one of its scalars does not read as the kind that
    it is tagged with: a number or day that is none, a word that is not among those allowed, a form
    that does not fit, a map where only a text will do, nothing where a number should be, or the
    code of no character. -/
inductive Problem where
  | malformed
  | number
  | word
  | form
  | shape
  | missing
  | codeTooLarge
  deriving DecidableEq, Repr

/-- Whether a text may hold a character. -/
def isPrintable (c : Char) : Bool :=
  let n := c.toNat
  n = 0x9 || n = 0xa || n = 0xd || (0x20 ≤ n && n ≤ 0x7e) || n = 0x85 || (0xa0 ≤ n && n ≤ 0xfffd)
    || 0x10000 ≤ n

/-- Whether a character ends a line. -/
def isBreak (c : Char) : Bool :=
  c = '\r' || c = '\n' || c = '\x85' || c = '\u2028' || c = '\u2029'

/-- Whether there is no further character, or one that ends the line. -/
def atLineEnd (c : Option Char) : Bool := c.all isBreak

/-- Whether there is no further character on the line, or a space. -/
def atPartEnd (c : Option Char) : Bool := c.all fun c => c = ' ' || isBreak c

/-- Whether there is no further character on the line, or a space or a tab. -/
def atWordEnd (c : Option Char) : Bool := c.all fun c => c = ' ' || c = '\t' || isBreak c

/-- A place in a text: what is left of it, and where it starts. -/
structure Cursor where
  rest : Text
  index : Nat
  line : Nat
  column : Nat
  deriving DecidableEq, Repr

namespace Cursor

/-- The start of a text. -/
def start (t : Text) : Cursor := ⟨t, 0, 0, 0⟩

/-- The next character. -/
def peek (c : Cursor) : Option Char := c.rest.head?

/-- The character after so many others. -/
def ahead (c : Cursor) (n : Nat) : Option Char := c.rest[n]?

/-- Whether a text is next. -/
def startsWith (c : Cursor) (t : Text) : Bool := t.isPrefixOf c.rest

/-- A bound on the number of moves from a place on. -/
def fuel (c : Cursor) : Nat := c.rest.length + 1

/-- The place after the next character. A carriage return before a line feed leaves the end of the
    line to it. -/
def next (c : Cursor) : Cursor :=
  match c.rest with
  | [] => c
  | x :: rest =>
    if isBreak x && !(x = '\r' && rest.head? = some '\n') then ⟨rest, c.index + 1, c.line + 1, 0⟩
    else ⟨rest, c.index + 1, c.line, if x = '\ufeff' then c.column else c.column + 1⟩

/-- The place after so many characters. -/
def forward : Nat → Cursor → Cursor
  | 0, c => c
  | n + 1, c => forward n c.next

/-- The characters of a kind that come next, and the place after them. -/
def takeWhile (kind : Char → Bool) (c : Cursor) : Text × Cursor :=
  let part := c.rest.takeWhile kind
  (part, c.forward part.length)

/-- The place after the characters of a kind that come next. -/
def skipWhile (kind : Char → Bool) (c : Cursor) : Cursor := (c.takeWhile kind).2

/-- The place after the spaces that come next. -/
def skipSpaces (c : Cursor) : Cursor := c.skipWhile (· = ' ')

/-- The place after the rest of a line. -/
def skipLine (c : Cursor) : Cursor := c.skipWhile (!isBreak ·)

/-- What a line break stands for, and the place after it, if one is next. -/
def lineBreak? (c : Cursor) : Option (Char × Cursor) :=
  match c.rest with
  | '\r' :: '\n' :: _ => some ('\n', c.forward 2)
  | x :: _ =>
    if x = '\u2028' || x = '\u2029' then some (x, c.next)
    else if isBreak x then some ('\n', c.next)
    else none
  | [] => none

/-- The place after a line break if one is next, and what it stands for. -/
def takeBreak (c : Cursor) : Text × Cursor :=
  match c.lineBreak? with
  | some (x, c) => ([x], c)
  | none => ([], c)

/-- Whether a marker of a document stands here: three of a character as a word. -/
def atMarker (x : Char) (c : Cursor) : Bool :=
  c.startsWith [x, x, x] && atWordEnd (c.ahead 3)

/-- Whether a start or an end of a document stands here. -/
def atAnyMarker (c : Cursor) : Bool := c.atMarker '-' || c.atMarker '.'

/-- The end of a line that may still hold a comment, and nothing else. -/
def endOfLine (c : Cursor) : Except Problem Cursor :=
  let c := c.skipSpaces
  let c := if c.peek = some '#' then c.skipLine else c
  if atLineEnd c.peek then .ok c.takeBreak.2 else .error .malformed

end Cursor

end Yaml

end Maskwalk
