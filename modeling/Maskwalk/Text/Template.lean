import Maskwalk.Value

/-!
# Message templates

A template is a text with places to fill in. A place starts with a percent sign and says how one
argument is set: flags, a least width, a precision, and a letter for the kind. `%s` shows a value,
`%r` quotes it, `%d` and its like want a number, `%x` an integer, `%f` and its like a number as
floating point, `%c` one character; `%%` is a percent sign. A star takes the width or the precision
from the arguments. With a mapping in place of a row of arguments, a name in parentheses selects
one of its fields.

Filling fails at the first place that cannot be filled, and at the end when arguments are left.

## Main definitions

* `Template.Arguments`: a row of values or one mapping.
* `Template.fill`: a template with its places filled.
* `Template.Mistake`: why a template cannot be filled.
-/

namespace Maskwalk

namespace Template

/-- Why a template cannot be filled: an argument of the wrong kind, missing or left over; a place
    that is not well formed or cannot hold the value; a number too large for its place; a name
    that the mapping lacks. -/
inductive Mistake where
  | badArgument
  | badPlace
  | tooLarge
  | noField
  deriving DecidableEq, Repr

/-- What a template is filled with. -/
inductive Arguments where
  | row (values : List Value)
  | mapping (fields : List (Value × Value))

/-- How a place wants its argument set. -/
structure Place where
  left : Bool
  plus : Bool
  space : Bool
  alternate : Bool
  zero : Bool
  width : Nat
  precision : Option Nat

/-- A place without wishes. -/
def Place.plain : Place := ⟨false, false, false, false, false, 0, none⟩

/-- The arguments during filling: what is left of the row, the mapping if there is one, and
    whether a single value, such as the mapping as a whole, may still be taken. -/
structure Supply where
  values : List Value
  fields : Option (List (Value × Value))

/-- The next argument. -/
def Supply.next (s : Supply) : Except Mistake (Value × Supply) :=
  match s.values with
  | [] => .error .badArgument
  | v :: more => .ok (v, { s with values := more })

/-- The largest width: `2 ^ 63 - 1`. -/
def widest : Nat := 0x7FFFFFFFFFFFFFFF

/-- The largest precision: `2 ^ 31 - 1`. -/
def mostPrecise : Nat := 0x7FFFFFFF

/-- Flags in front of a place. -/
def readFlags (p : Place) : Text → Place × Text
  | '-' :: rest => readFlags { p with left := true } rest
  | '+' :: rest => readFlags { p with plus := true } rest
  | ' ' :: rest => readFlags { p with space := true } rest
  | '#' :: rest => readFlags { p with alternate := true } rest
  | '0' :: rest => readFlags { p with zero := true } rest
  | rest => (p, rest)

/-- An argument that gives a width or a precision. -/
def starred (s : Supply) : Except Mistake (Int × Supply) := do
  let (v, s) ← s.next
  match v with
  | .int n => if n.natAbs ≤ widest then .ok (n, s) else .error .tooLarge
  | .bool b => .ok (if b then 1 else 0, s)
  | _ => .error .badArgument

/-- A width: a star or digits. A negative width sets the argument to the left. -/
def readWidth (p : Place) (s : Supply) : Text → Except Mistake (Place × Supply × Text)
  | '*' :: rest => do
    let (n, s) ← starred s
    return ({ p with left := p.left || n < 0, width := n.natAbs }, s, rest)
  | rest =>
    let digits := rest.takeWhile Text.isDigit
    let n := Text.natOf 10 digits
    if widest < n then .error .badPlace
    else .ok ({ p with width := n }, s, rest.drop digits.length)

/-- A precision: a point, then a star or digits. A negative precision counts as zero. -/
def readPrecision (p : Place) (s : Supply) : Text → Except Mistake (Place × Supply × Text)
  | '.' :: '*' :: rest => do
    let (n, s) ← starred s
    if mostPrecise < n.natAbs then .error .tooLarge
    else return ({ p with precision := some n.toNat }, s, rest)
  | '.' :: rest =>
    let digits := rest.takeWhile Text.isDigit
    let n := Text.natOf 10 digits
    if mostPrecise < n then .error .badPlace
    else .ok ({ p with precision := some n }, s, rest.drop digits.length)
  | rest => .ok (p, s, rest)

/-- A length mark, which says nothing. -/
def skipLength : Text → Text
  | 'h' :: rest => rest
  | 'l' :: rest => rest
  | 'L' :: rest => rest
  | rest => rest

/-- Spaces that fill a text up to the width of its place. -/
def padding (p : Place) (t : Text) (fill : Char) : Text :=
  List.replicate (p.width - t.length) fill

/-- A text in its place: cut to the precision, then filled up to the width. -/
def setText (p : Place) (t : Text) : Text :=
  let t := match p.precision with
    | some n => t.take n
    | none => t
  if p.left then t ++ padding p t ' ' else padding p t ' ' ++ t

/-- A number in its place, given by its sign, a mark such as `0x`, and its digits. Zeros fill up
    between the mark and the digits, spaces in front of the sign or behind the digits. -/
def setNumber (p : Place) (negative : Bool) (mark digits : Text) : Text :=
  let sign : Text :=
    if negative then ['-'] else if p.plus then ['+'] else if p.space then [' '] else []
  let whole := sign ++ mark ++ digits
  if p.left then whole ++ padding p whole ' '
  else if p.zero then sign ++ mark ++ padding p whole '0' ++ digits
  else padding p whole ' ' ++ whole

/-- An integer in its place, in a base, with at least as many digits as the precision. -/
def setInt (p : Place) (base : Nat) (mark : Text) (upper : Bool) (n : Int) : Text :=
  let digits := Nat.toDigits base n.natAbs
  let digits := List.replicate (p.precision.getD 0 - digits.length) '0' ++ digits
  let digits := if upper then digits.map Char.toUpper else digits
  setNumber p (n < 0) (if p.alternate then mark else []) digits

/-- An integer that is one already: `%x` and its like take no other number. -/
def asIndex : Value → Except Mistake Int
  | .int n => .ok n
  | .bool b => .ok (if b then 1 else 0)
  | _ => .error .badArgument

/-- The integer part of a number. -/
def asInt : Value → Except Mistake Int
  | .float x => match x with
    | .notANumber => .error .badPlace
    | .infinite _ => .error .tooLarge
    | x => .ok (x.truncated?.getD 0)
  | v => asIndex v

/-- A number as floating point. -/
def asDouble (v : Value) : Except Mistake Double :=
  match v with
  | .float x => .ok x
  | v => do
    match Double.ofInt (← asIndex v) with
    | .infinite _ => .error .tooLarge
    | x => .ok x

/-- A floating-point number in its place. -/
def setDouble (p : Place) (kind : Char) (x : Double) : Text :=
  let places := p.precision.getD 6
  let low := kind.toLower
  let (negative, body) : Bool × Text := match x with
    | .infinite negative => (negative, "inf".toList)
    | .notANumber => (false, "nan".toList)
    | .finite negative m e =>
      (negative,
        if low = 'f' then Double.fixed places p.alternate m e
        else if low = 'e' then Double.scientific places p.alternate m e
        else Double.general places p.alternate m e)
  setNumber p negative [] (if kind = low then body else body.map Char.toUpper)

/-- An argument in its place, by the letter of the place. -/
def setArgument (p : Place) (kind : Char) (v : Value) : Except Mistake Text :=
  if kind = 's' then .ok (setText p v.shown)
  else if kind = 'r' then .ok (setText p v.quoted)
  else if kind = 'a' then
    .ok (setText p (v.quoted.flatMap fun c => if c.toNat < 128 then [c] else Text.byCode c.toNat))
  else if kind = 'd' ∨ kind = 'i' ∨ kind = 'u' then do
    return setInt p 10 [] false (← asInt v)
  else if kind = 'o' then do return setInt p 8 ['0', 'o'] false (← asIndex v)
  else if kind = 'x' then do return setInt p 16 ['0', 'x'] false (← asIndex v)
  else if kind = 'X' then do return setInt p 16 ['0', 'X'] true (← asIndex v)
  else if kind = 'c' then
    match v with
    | .text [c] => .ok (setText { p with precision := none } [c])
    | v => do
      let n ← asIndex v
      if 0 ≤ n ∧ n < 0x110000 then
        return setText { p with precision := none } [Char.ofNat n.toNat]
      else .error .tooLarge
  else if "eEfFgG".toList.elem kind then do return setDouble p kind (← asDouble v)
  else .error .badPlace

/-- The name in parentheses at the start of a place, which may hold parentheses itself, and what
    follows it. -/
def readName : Nat → Text → Text → Except Mistake (Text × Text)
  | _, _, [] => .error .badPlace
  | depth, name, c :: rest =>
    if c = ')' then
      match depth with
      | 0 => .ok (name.reverse, rest)
      | depth + 1 => readName depth (c :: name) rest
    else readName (if c = '(' then depth + 1 else depth) (c :: name) rest

/-- The supply for a place: with a name, the field of that name alone. -/
def select (s : Supply) : Text → Except Mistake (Supply × Text)
  | '(' :: rest =>
    match s.fields with
    | none => .error .badArgument
    | some fields => do
      let (name, rest) ← readName 0 [] rest
      match Value.field? name fields with
      | none => .error .noField
      | some v => return ({ s with values := [v] }, rest)
  | rest => .ok (s, rest)

/-- A place behind its percent sign, filled by an argument; then the supply and the text behind the
    place. -/
def fillArgument (s : Supply) (t : Text) : Except Mistake (Text × Supply × Text) := do
  let (s, t) ← select s t
  let (p, t) := readFlags Place.plain t
  let (p, s, t) ← readWidth p s t
  let (p, s, t) ← readPrecision p s t
  match skipLength t with
  | [] => .error .badPlace
  | kind :: rest => do
    let (v, s) ← s.next
    return (← setArgument p kind v, s, rest)

/-- What stands behind a percent sign, filled: a second percent sign, or a place. -/
def fillPlace (s : Supply) : Text → Except Mistake (Text × Supply × Text)
  | '%' :: rest => .ok (['%'], s, rest)
  | t => fillArgument s t

/-- The rest of a template, filled. The fuel is its length. -/
def fillFrom : Nat → Supply → Text → Except Mistake Text
  | 0, _, _ => .ok []
  | fuel + 1, s, t =>
    let plain := t.takeWhile (· ≠ '%')
    match t.drop plain.length with
    | [] => if s.values.isEmpty || s.fields.isSome then .ok plain else .error .badArgument
    | _ :: place => do
      let (filled, s, rest) ← fillPlace s place
      return plain ++ filled ++ (← fillFrom fuel s rest)

/-- A template with its places filled. -/
def fill (template : Text) : Arguments → Except Mistake Text
  | .row values => fillFrom (template.length + 1) ⟨values, none⟩ template
  | .mapping fields => fillFrom (template.length + 1) ⟨[.map fields], some fields⟩ template

end Template

end Maskwalk
