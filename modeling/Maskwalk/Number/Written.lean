import Maskwalk.Number.Double
import Maskwalk.Text.Basic

/-!
# The text of a number

The plain text of a double is the shortest decimal that reads back as the same double, and among
those of the shortest length the nearest. `shortest` finds it by trying one digit, two digits, and
so on: on the grid of decimals with that many digits only the two neighbours of the number have to
be looked at, and a decimal reads back when it lies in the interval of fractions that round to the
number. Formats with a given count of digits round the exact value once.

Both kinds of text are made from a row of digits and the place of the decimal point, so the digits
are found first and set out afterwards.

## Main definitions

* `Double.shortest`: the digits of the shortest decimal that reads back, and the point's place.
* `Double.text`: the plain text: positional where the exponent is small, with at least `.0`.
* `Double.fixed`: a given number of places after the point.
* `Double.scientific`: one digit, the point, a given number of places, and an exponent.
* `Double.general`: a given number of significant digits, in whichever form is fitting.
-/

namespace Maskwalk

namespace Double

/-- A power of ten as numerator and denominator. -/
def tenPow (e : Int) : Nat × Nat := (Nat.pow 10 e.toNat, Nat.pow 10 (-e).toNat)

/-- Whether `a / b < c / d`. -/
def fracLt (a b c d : Nat) : Bool := a * d < c * b

/-- The place of the decimal point of a positive fraction: the least `k` with
    `num / den < 10 ^ k`. It is searched upwards from a bound below it. -/
def pointOf (num den : Nat) : Nat → Int → Int
  | 0, k => k
  | fuel + 1, k =>
    let (up, down) := tenPow k
    if fracLt num den up down then k else pointOf num den fuel (k + 1)

/-- The place of the decimal point of `num / den`. -/
def decimalPoint (num den : Nat) : Int :=
  let low : Int := ((num.log2 : Int) - (den.log2 : Int) - 1) * 30103 / 100000 - 1
  pointOf num den 12 low

/-- The interval of fractions that round to `m * 2 ^ e`: numerators of its ends and of the number
    itself over one denominator, and whether the ends belong to it. -/
structure Rounding where
  low : Nat
  value : Nat
  high : Nat
  den : Nat
  closed : Bool

/-- The interval of fractions that round to the double with a significand and an exponent. Below
    a power of two the neighbours are half as far away. -/
def roundingOf (m : Nat) (e : Int) : Rounding :=
  let up := twoPow (e - 2)
  let below := if m = leastFull ∧ leastExponent < e then 1 else 2
  { low := (4 * m - below) * up, value := 4 * m * up, high := (4 * m + 2) * up
    den := twoPow (2 - e), closed := m % 2 = 0 }

/-- Whether the fraction `num / den` lies in an interval. -/
def Rounding.covers (r : Rounding) (num den : Nat) : Bool :=
  if r.closed then !fracLt num den r.low r.den && !fracLt r.high r.den num den
  else fracLt r.low r.den num den && fracLt num den r.high r.den

/-- The decimal with `count` digits that reads back and is nearest, as its digits, if one of the
    two neighbours of the number on that grid reads back. -/
def onGrid (r : Rounding) (point : Int) (count : Nat) : Option Nat :=
  let (up, down) := tenPow (point - count)
  let floor := (r.value * down) / (r.den * up)
  let fits (d : Nat) : Bool := r.covers (d * up) down
  let rounded := roundedDiv (r.value * down) (r.den * up)
  let other := if rounded = floor then floor + 1 else floor
  if fits rounded then some rounded else if fits other then some other else none

/-- The shortest decimal that reads back, tried from `count` digits on. -/
def shortestFrom (r : Rounding) (point : Int) : Nat → Nat → Nat × Nat
  | 0, count => (roundedDiv (r.value * (tenPow (point - count)).2)
      (r.den * (tenPow (point - count)).1), count)
  | fuel + 1, count =>
    match onGrid r point count with
    | some digits => (digits, count)
    | none => shortestFrom r point fuel (count + 1)

/-- A row of digits without the zeros at its end, but with at least one digit. -/
def withoutZeros (digits : Text) : Text :=
  match (digits.reverse.dropWhile (· = '0')).reverse with
  | [] => ['0']
  | kept => kept

/-- The digits of the shortest decimal that reads back as `m * 2 ^ e`, and the place of the
    decimal point counted from their start. -/
def shortest (m : Nat) (e : Int) : Text × Int :=
  if m = 0 then (['0'], 1)
  else
    let r := roundingOf m e
    let point := decimalPoint r.value r.den
    let (digits, count) := shortestFrom r point 17 1
    let row := Text.ofNat digits
    (withoutZeros row, point + ((row.length : Int) - count))

/-- The exponent of a scientific form: a sign and at least two digits. -/
def exponentText (mark : Char) (e : Int) : Text :=
  let size := Text.ofNat e.natAbs
  mark :: (if e < 0 then '-' else '+') :: (if size.length < 2 then '0' :: size else size)

/-- Digits with a point after the first `point` of them, padded with zeros on both sides. -/
def positional (digits : Text) (point : Int) : Text :=
  if point ≤ 0 then ['0', '.'] ++ List.replicate (-point).toNat '0' ++ digits
  else
    let n := point.toNat
    if digits.length ≤ n then digits ++ List.replicate (n - digits.length) '0' ++ ['.', '0']
    else digits.take n ++ '.' :: digits.drop n

/-- The plain text of a finite number without its sign: positional from `0.0001` to below
    `10 ^ 16`, and with an exponent elsewhere. -/
def finiteText (m : Nat) (e : Int) : Text :=
  let (digits, point) := shortest m e
  if -4 < point ∧ point ≤ 16 then positional digits point
  else
    let row := match digits with
      | [] => []
      | [d] => [d]
      | d :: more => d :: '.' :: more
    row ++ exponentText 'e' (point - 1)

/-- The sign of a number in front of its text. -/
def signed (negative : Bool) (t : Text) : Text := if negative then '-' :: t else t

/-- The plain text of a number: the shortest that reads back. -/
def text : Double → Text
  | .finite negative m e => signed negative (finiteText m e)
  | .infinite negative => signed negative ['i', 'n', 'f']
  | .notANumber => ['n', 'a', 'n']

/-- The size of a number as a fraction. -/
def fraction (m : Nat) (e : Int) : Nat × Nat := (m * twoPow e, twoPow (-e))

/-- A finite size with a given number of places after the point; `withPoint` keeps the point
    when there is no place. -/
def fixed (places : Nat) (withPoint : Bool) (m : Nat) (e : Int) : Text :=
  let (num, den) := fraction m e
  let row := Text.ofNat (roundedDiv (num * Nat.pow 10 places) den)
  let row := List.replicate (places + 1 - row.length) '0' ++ row
  let whole := row.take (row.length - places)
  if places = 0 then whole ++ (if withPoint then ['.'] else [])
  else whole ++ '.' :: row.drop (row.length - places)

/-- A finite size rounded to `count` digits, which is not zero, and the place of its point. -/
def roundedTo (count : Nat) (m : Nat) (e : Int) : Text × Int :=
  if m = 0 then (List.replicate count '0', 1)
  else
    let (num, den) := fraction m e
    let point := decimalPoint num den
    let (up, down) := tenPow (point - count)
    let row := Text.ofNat (roundedDiv (num * down) (den * up))
    if count < row.length then (row.take count, point + 1) else (row, point)

/-- A finite size in scientific form with a given number of places after the point. -/
def scientific (places : Nat) (withPoint : Bool) (m : Nat) (e : Int) : Text :=
  let (row, point) := roundedTo (places + 1) m e
  let row := match row with
    | [] => []
    | [d] => if withPoint then [d, '.'] else [d]
    | d :: more => d :: '.' :: more
  row ++ exponentText 'e' (point - 1)

/-- A finite size with a given number of significant digits: scientific when the exponent is
    below `-4` or not below that number, else positional. Zeros at the end of the fraction are
    dropped unless `keepZeros` is set. -/
def general (count : Nat) (keepZeros : Bool) (m : Nat) (e : Int) : Text :=
  let count := max count 1
  let (row, point) := roundedTo count m e
  let kept := if keepZeros then row else withoutZeros row
  if -4 < point ∧ point ≤ count then
    if point ≤ 0 then ['0', '.'] ++ List.replicate (-point).toNat '0' ++ kept
    else
      let n := point.toNat
      let whole := row.take n
      let rest := kept.drop n
      if rest.isEmpty ∧ !keepZeros then whole else whole ++ '.' :: rest
  else
    let row := match kept with
      | [] => []
      | [d] => if keepZeros then [d, '.'] else [d]
      | d :: more => d :: '.' :: more
    row ++ exponentText 'e' (point - 1)

end Double

end Maskwalk
