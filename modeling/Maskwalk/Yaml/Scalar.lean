import Maskwalk.Number.Reading
import Maskwalk.Text.Lower
import Maskwalk.Value
import Maskwalk.Yaml.Graph

/-!
# The values of scalars

A scalar that is no text is read by its kind. Numbers may hold low lines anywhere, integers are
written in several bases, and both may be written in parts between colons, each part counting sixty
of the next. A timestamp is a day, or a day and a time of day with an offset. Binary data is written
in letters of six bits each.

A kind that is read off a scalar's shape can nearly always be read, but a tag can give a kind to any
scalar, so every reader can fail.

## Main definitions

* `Yaml.scalarValue`: the value of a scalar of a kind.
-/

namespace Maskwalk

namespace Yaml

/-- The words for truth values. -/
def truthWords : List (Text × Bool) := [
  ("yes".toList, true), ("no".toList, false), ("true".toList, true), ("false".toList, false),
  ("on".toList, true), ("off".toList, false)]

/-- The value of a text, or the problem that it has none. -/
def orProblem {α : Type} (problem : Problem) : Option α → Except Problem α
  | some a => .ok a
  | none => .error problem

/-- A number without its low lines, as its sign and its size. -/
def signedSize (t : Text) : Except Problem (Bool × Text) :=
  match t.filter (· ≠ '_') with
  | [] => .error .missing
  | t => .ok (splitSign t)

/-- A number whose parts count sixty of the next one each. -/
def sixties (parts : List Int) : Int := parts.foldl (fun n part => 60 * n + part) 0

/-- The size of an integer. -/
def intSize (t : Text) : Except Problem Int :=
  match t with
  | [] => .error .missing
  | '0' :: 'b' :: digits => orProblem .number (integer? 2 digits)
  | '0' :: 'x' :: digits => orProblem .number (integer? 16 digits)
  | '0' :: _ => if t = ['0'] then .ok 0 else orProblem .number (integer? 8 t)
  | _ =>
    if t.elem ':' then
      orProblem .number (((t.pieces (· = ':')).mapM (integer? 10)).map sixties)
    else orProblem .number (integer? 10 t)

/-- An integer. -/
def intValue (t : Text) : Except Problem Int := do
  let (negative, size) ← signedSize t
  let n ← intSize size
  return if negative then -n else n

/-- A number whose parts count sixty of the next one each, summed up from the last part; `unit` is
    what the part counts. -/
def doubleSixties (sum : Double) (unit : Nat) : List Double → Double
  | [] => sum
  | part :: more => doubleSixties (sum.add (part.mul (.ofInt unit))) (60 * unit) more

/-- The size of a floating-point number. -/
def doubleSize (t : Text) : Except Problem Double :=
  if t = ".inf".toList then .ok (.infinite false)
  else if t = ".nan".toList then .ok .notANumber
  else if t.elem ':' then
    orProblem .number (((t.pieces (· = ':')).mapM Double.ofText?).map fun parts =>
      doubleSixties (.ofInt 0) 1 parts.reverse)
  else orProblem .number (Double.ofText? t)

/-- A floating-point number. -/
def doubleValue (t : Text) : Except Problem Double := do
  let (negative, size) ← signedSize (Text.toLower t)
  let x ← doubleSize size
  return if negative then x.neg else x

/-! ### Timestamps -/

/-- A number of at least and at most so many digits, and what follows it. -/
def digitsOf (least most : Nat) (t : Text) : Option (Nat × Text) :=
  let digits := (t.take most).takeWhile Text.isDigit
  if digits.length < least then none else some (Text.natOf 10 digits, t.drop digits.length)

/-- What follows a character that has to come first. -/
def behind (c : Char) : Text → Option Text
  | x :: rest => if x = c then some rest else none
  | [] => none

/-- A day, and what follows it. -/
def dayPart (t : Text) : Option (Day × Text) := do
  let (year, t) ← digitsOf 4 4 t
  let (month, t) ← digitsOf 1 2 (← behind '-' t)
  let (day, t) ← digitsOf 1 2 (← behind '-' t)
  return (⟨year, month, day⟩, t)

/-- What separates a day from the time: a letter, or blanks. -/
def behindDay (t : Text) : Option Text :=
  match t with
  | 'T' :: rest | 't' :: rest => some rest
  | c :: _ => if c = ' ' ∨ c = '\t' then some (t.dropWhile fun c => c = ' ' || c = '\t') else none
  | [] => none

/-- The fraction of a second in millionths, further digits cut off, and what follows it. -/
def fractionPart : Text → Nat × Text
  | '.' :: rest =>
    let digits := rest.takeWhile Text.isDigit
    let six := digits.take 6
    (Text.natOf 10 (six ++ List.replicate (6 - six.length) '0'), rest.drop digits.length)
  | rest => (0, rest)

/-- An offset in minutes if there is one, and what follows it. -/
def offsetPart (t : Text) : Option (Option Int × Text) :=
  match t.dropWhile fun c => c = ' ' || c = '\t' with
  | 'Z' :: rest => some (some 0, rest)
  | sign :: rest =>
    if sign = '+' ∨ sign = '-' then do
      let (hours, rest) ← digitsOf 1 2 rest
      let (minutes, rest) := match rest with
        | ':' :: more => (digitsOf 2 2 more).getD (0, rest)
        | _ => (0, rest)
      let size : Int := 60 * hours + minutes
      return (some (if sign = '-' then -size else size), rest)
    else some (none, t)
  | [] => some (none, t)

/-- A time of day with its offset, and what follows it. -/
def clockPart (t : Text) : Option (Clock × Text) := do
  let (hour, t) ← digitsOf 1 2 t
  let (minute, t) ← digitsOf 2 2 (← behind ':' t)
  let (second, t) ← digitsOf 2 2 (← behind ':' t)
  let (micro, t) := fractionPart t
  let (offset, t) ← offsetPart t
  return (⟨hour, minute, second, micro, offset⟩, t)

/-- Whether a text is over, but for a line feed. -/
def isOver (t : Text) : Bool := t = [] || t = ['\n']

/-- A day, and a time if there is one, by their form alone. -/
def timestamp? (t : Text) : Option (Day × Option Clock) := do
  let (day, rest) ← dayPart t
  if isOver rest then return (day, none)
  else
    let (clock, rest) ← clockPart (← behindDay rest)
    if isOver rest then return (day, some clock) else none

/-- The number of days of a month. -/
def monthLength (year month : Nat) : Nat :=
  if month = 2 then
    if year % 4 = 0 ∧ (year % 100 ≠ 0 ∨ year % 400 = 0) then 29 else 28
  else if [4, 6, 9, 11].elem month then 30 else 31

/-- Whether a day is on the calendar. -/
def isDay (d : Day) : Bool :=
  1 ≤ d.year && 1 ≤ d.month && d.month ≤ 12 && 1 ≤ d.day && d.day ≤ monthLength d.year d.month

/-- Whether a clock shows a time, at less than a day's offset. -/
def isTime (c : Clock) : Bool :=
  c.hour < 24 && c.minute < 60 && c.second < 60 && c.offset.all fun m => m.natAbs < 1440

/-- A timestamp. -/
def timestampValue (t : Text) : Except Problem Value :=
  match timestamp? t with
  | none => .error .form
  | some (day, none) => if isDay day then .ok (.day day) else .error .number
  | some (day, some clock) =>
    if isDay day && isTime clock then .ok (.moment day clock) else .error .number

/-! ### Binary data -/

/-- The six bits of a letter. -/
def sixBits? (c : Char) : Option Nat :=
  if 'A' ≤ c ∧ c ≤ 'Z' then some (c.toNat - 65)
  else if 'a' ≤ c ∧ c ≤ 'z' then some (c.toNat - 71)
  else if '0' ≤ c ∧ c ≤ '9' then some (c.toNat + 4)
  else if c = '+' then some 62
  else if c = '/' then some 63
  else none

/-- The bytes of letters. `count` is how many letters of a group of four were read, `left` the bits
    of the last of them that are not in a byte yet, and `pads` how many equals signs came since.
    A group that is filled up with equals signs is the last one; other characters are passed
    over. -/
def bytesOf : Nat → Nat → Nat → Text → Option (List UInt8)
  | count, _, _, [] => if count = 0 then some [] else none
  | count, left, pads, c :: rest =>
    if c = '=' then
      if 2 ≤ count then
        if 4 ≤ count + pads + 1 then some [] else bytesOf count left (pads + 1) rest
      else bytesOf count left pads rest
    else match sixBits? c with
      | none => bytesOf count left pads rest
      | some bits =>
        match count with
        | 0 => bytesOf 1 bits 0 rest
        | 1 => (bytesOf 2 (bits % 16) 0 rest).map (UInt8.ofNat (4 * left + bits / 16) :: ·)
        | 2 => (bytesOf 3 (bits % 4) 0 rest).map (UInt8.ofNat (16 * left + bits / 4) :: ·)
        | _ => (bytesOf 0 0 0 rest).map (UInt8.ofNat (64 * left + bits) :: ·)

/-- Binary data. -/
def binaryValue (t : Text) : Except Problem Value :=
  if t.all (·.toNat < 128) then orProblem .malformed ((bytesOf 0 0 0 t).map .bytes)
  else .error .malformed

/-- The value of a scalar of a kind. -/
def scalarValue (kind : Kind) (t : Text) : Except Problem Value :=
  match kind with
  | .null => .ok .null
  | .bool => (orProblem .word (valueOf? (Text.toLower t) truthWords)).map .bool
  | .int => (intValue t).map .int
  | .float => (doubleValue t).map .float
  | .binary => binaryValue t
  | .timestamp => timestampValue t
  | .text => .ok (.text t)
  | _ => .error .malformed

end Yaml

end Maskwalk
