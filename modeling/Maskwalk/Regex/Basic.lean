import Maskwalk.Text.Alphanumeric
import Maskwalk.Text.Blank
import Maskwalk.Text.Letter

/-!
# Regular expressions

A regular expression as a tree. The modes that a pattern can switch on, such as ignoring case, are
settled when the pattern is read: every leaf carries what it needs to know, so that matching never
looks at a mode.

A leaf that takes one character is a set of characters: ranges of code points and the named classes
of digits, blanks and word characters, as a whole negated or not. The other leaves take nothing:
anchors test the place, and a reference takes again what a group took.

The widths of an expression bound the number of characters it can take. They matter where an
expression looks back, since that is only possible over a known number of characters.

## Main definitions

* `Regex`: regular expressions.
* `Regex.CharSet`: a set of characters, and `Regex.CharSet.mem`.
* `Regex.Anchor`: tests of a place.
* `Regex.Width`: the least and the greatest number of characters taken.
-/

namespace Maskwalk

namespace Regex

/-- A named class of characters. -/
inductive Class where
  | digit
  | blank
  | word
  deriving DecidableEq, Repr

/-- A part of a set of characters: a range of code points, or a class or its complement. -/
inductive Member where
  | range (first last : Nat)
  | named (which : Class) (negated : Bool)
  deriving DecidableEq, Repr

/-- How characters are compared: exactly, or as letters of any case, among all letters or among
    those of ASCII. -/
inductive Casing where
  | exact
  | anyCase
  | anyAsciiCase
  deriving DecidableEq, Repr

/-- A set of characters. With `ascii`, the named classes hold characters of ASCII only. -/
structure CharSet where
  negated : Bool
  members : List Member
  casing : Casing
  ascii : Bool
  deriving DecidableEq, Repr

/-- Whether a named class holds a character. -/
def Class.holds (ascii : Bool) (c : Char) : Class → Bool
  | .digit => if ascii then Text.isDigit c else Text.isDecimal c
  | .blank => if ascii then Text.isBlank c && c.toNat < 0x1c || c = ' ' else Text.isBlank c
  | .word => if ascii then c.isAlphanum || c = '_' else Text.isWord c

/-- The code points that count as a character under a casing. -/
def Casing.spellings (casing : Casing) (c : Char) : List Nat :=
  match casing with
  | .exact => [c.toNat]
  | .anyCase => Text.letterSpellings c
  | .anyAsciiCase => [c.toLower.toNat, c.toUpper.toNat]

/-- Whether a part of a set holds a character, given by its spellings. -/
def Member.holds (ascii : Bool) (c : Char) (spellings : List Nat) : Member → Bool
  | .range first last => spellings.any fun n => first ≤ n && n ≤ last
  | .named which negated => which.holds ascii c != negated

/-- Whether a set holds a character. -/
def CharSet.mem (set : CharSet) (c : Char) : Bool :=
  set.members.any (Member.holds set.ascii c (set.casing.spellings c)) != set.negated

/-- Tests of a place: the start or the end of the text, of a line, the end of the text or of its
    last line, and the edge of a word. -/
inductive Anchor where
  | textStart
  | lineStart
  | textEnd
  | lineEnd
  | lastLineEnd
  | wordEdge (ascii : Bool) (negated : Bool)
  deriving DecidableEq, Repr

/-- How a repetition tries its counts: the greatest first, the least first, or the greatest
    only. -/
inductive Greed where
  | greedy
  | lazy
  | possessive
  deriving DecidableEq, Repr

end Regex

/-- A regular expression. Groups are numbered from one. `look` tests what follows a place, or,
    with a width, what stands in front of it. -/
inductive Regex where
  | empty
  | one (set : Regex.CharSet)
  | any (newline : Bool)
  | anchor (test : Regex.Anchor)
  | seq (first second : Regex)
  | alt (first second : Regex)
  | group (index : Nat) (body : Regex)
  | again (index : Nat) (casing : Regex.Casing)
  | look (behind : Option Nat) (negated : Bool) (body : Regex)
  | atomic (body : Regex)
  | repeated (greed : Regex.Greed) (least : Nat) (most : Option Nat) (body : Regex)
  | ifTaken (index : Nat) (yes no : Regex)
  deriving DecidableEq, Repr

namespace Regex

/-- An expression that matches nothing at all: it looks for the absence of the empty text. -/
def never : Regex := .look none true .empty

/-- The least and the greatest number of characters that an expression takes. -/
structure Width where
  least : Nat
  most : Nat
  deriving DecidableEq, Repr

/-- The bound at which widths are no longer told apart: `2 ^ 64`. -/
def widest : Nat := 0x10000000000000000

/-- A width within the bound. -/
def Width.bounded (w : Width) : Width := ⟨min w.least widest, min w.most widest⟩

/-- The width of an expression, given those of the groups it refers to. -/
def width (groups : List (Nat × Width)) : Regex → Width
  | empty | anchor _ | look .. => ⟨0, 0⟩
  | one _ | any _ => ⟨1, 1⟩
  | seq a b =>
    let v := width groups a
    let w := width groups b
    Width.bounded ⟨v.least + w.least, v.most + w.most⟩
  | alt a b =>
    let v := width groups a
    let w := width groups b
    ⟨min v.least w.least, max v.most w.most⟩
  | group _ body | atomic body => width groups body
  | again index _ => (valueOf? index groups).getD ⟨0, 0⟩
  | repeated _ least most body =>
    let w := width groups body
    match most with
    | none => Width.bounded ⟨w.least * least, if w.most = 0 then 0 else widest⟩
    | some most => Width.bounded ⟨w.least * least, w.most * most⟩
  | ifTaken _ yes no =>
    let v := width groups yes
    let w := width groups no
    ⟨min v.least w.least, max v.most w.most⟩

end Regex

end Maskwalk
