/-!
# Binary floating-point numbers

A finite number is a sign, a significand below `2 ^ 53` and a power of two. Numbers come from
decimal text, so the one operation that has to be right is `Double.nearest`: the double nearest to
a fraction, where a fraction half-way between two goes to the one with an even significand. It
works on natural numbers alone. The significand's length is fixed by comparing the lengths of
numerator and denominator; below the smallest normal number the exponent stays where it is and the
significand gets shorter, and above the largest number the answer is infinite.

## Main definitions

* `Double`: finite numbers, infinities, and the value that is no number.
* `roundedDiv`: a quotient rounded to the nearest integer, a half to the even one.
* `Double.nearest`: the double nearest to a fraction.
* `Double.ofDecimal`: the double nearest to a decimal number.
* `Double.add`, `Double.mul`: sums and products, rounded once.
* `Double.same`: equality of keys.
* `Double.truncated?`: the integer part of a finite number.
-/

namespace Maskwalk

/-- A binary floating-point number. The value of `finite negative m e` is `m * 2 ^ e`, negated
    if `negative` is set. -/
inductive Double where
  | finite (negative : Bool) (significand : Nat) (exponent : Int)
  | infinite (negative : Bool)
  | notANumber
  deriving DecidableEq, Repr

/-- `num / den` rounded to the nearest integer, a half to the even one. -/
def roundedDiv (num den : Nat) : Nat :=
  let q := num / den
  let twice := 2 * (num % den)
  if twice < den then q else if den < twice then q + 1 else q + q % 2

/-- `2 ^ e` for a natural exponent, and one for a negative one: the share of a power of two that
    belongs to a numerator, when `twoPow (-e)` belongs to its denominator. -/
def twoPow (e : Int) : Nat := Nat.pow 2 e.toNat

namespace Double

/-- The least exponent of a double. -/
def leastExponent : Int := -1074

/-- The least significand that is 53 bits long: `2 ^ 52`. -/
def leastFull : Nat := 0x10000000000000

/-- The exponent that makes the significand of `num / den` 53 bits long, or the least one. -/
def exponentFor (num den : Nat) : Int :=
  let guess : Int := (num.log2 : Int) - (den.log2 : Int) - 52
  let short := num * twoPow (-guess) < den * twoPow guess * leastFull
  max leastExponent (if short then guess - 1 else guess)

/-- The double nearest to `num / den`, where `den` is not zero. -/
def nearest (negative : Bool) (num den : Nat) : Double :=
  if num = 0 then .finite negative 0 leastExponent
  else
    let e := exponentFor num den
    let m := roundedDiv (num * twoPow (-e)) (den * twoPow e)
    let (m, e) := if m = 2 * leastFull then (leastFull, e + 1) else (m, e)
    if 971 < e then .infinite negative else .finite negative m e

/-- The double nearest to `digits * 10 ^ power`. Powers far out of range are not computed. -/
def ofDecimal (negative : Bool) (digits : Nat) (power : Int) : Double :=
  let length : Int := (Nat.toDigits 10 digits).length
  if digits = 0 ∨ power + length < -400 then .finite negative 0 leastExponent
  else if 400 < power + length then .infinite negative
  else nearest negative (digits * Nat.pow 10 power.toNat) (Nat.pow 10 (-power).toNat)

/-- The double nearest to an integer. -/
def ofInt (n : Int) : Double := nearest (n < 0) n.natAbs 1

/-- The opposite number. -/
def neg : Double → Double
  | .finite negative m e => .finite (!negative) m e
  | .infinite negative => .infinite (!negative)
  | .notANumber => .notANumber

/-- The integer part of a finite number: its fraction is cut off. -/
def truncated? : Double → Option Int
  | .finite negative m e =>
    let size : Int := (m * twoPow e / twoPow (-e) : Nat)
    some (if negative then -size else size)
  | _ => none

/-- Whether a number has a given integer as its value. -/
def isInt (x : Double) (n : Int) : Bool :=
  match x with
  | .finite negative m e =>
    let num := m * twoPow e
    let den := twoPow (-e)
    num % den = 0 && (if negative then -(num / den : Nat) else (num / den : Nat) : Int) = n
  | _ => false

/-- Whether two are the same key: numbers by their value, so that zeros of both signs are the same,
    and what is no number is the same as itself. -/
def same : Double → Double → Bool
  | .finite s m e, .finite s' m' e' =>
    m * twoPow (e - e') = m' * twoPow (e' - e) && (s = s' || m = 0)
  | .infinite s, .infinite s' => s = s'
  | .notANumber, .notANumber => true
  | _, _ => false

/-- The double nearest to `n * 2 ^ e`. -/
def ofScaled (negative : Bool) (n : Nat) (e : Int) : Double :=
  nearest negative (n * twoPow e) (twoPow (-e))

/-- A significand with its sign, scaled up so that it counts units of `2 ^ least`. -/
def units (negative : Bool) (m : Nat) (e least : Int) : Int :=
  let size : Int := (m * twoPow (e - least) : Nat)
  if negative then -size else size

/-- The sum, rounded once. A sum of zero is negative only if both numbers are. -/
def add : Double → Double → Double
  | .finite s m e, .finite s' m' e' =>
    let least := min e e'
    let sum := units s m e least + units s' m' e' least
    ofScaled (if sum = 0 then s && s' else sum < 0) sum.natAbs least
  | .infinite s, .infinite s' => if s = s' then .infinite s else .notANumber
  | .infinite s, .finite .. => .infinite s
  | .finite .., .infinite s => .infinite s
  | .notANumber, _ | _, .notANumber => .notANumber

/-- The product, rounded once. -/
def mul : Double → Double → Double
  | .finite s m e, .finite s' m' e' => ofScaled (s != s') (m * m') (e + e')
  | .infinite s, .infinite s' => .infinite (s != s')
  | .infinite s, .finite s' m _ | .finite s' m _, .infinite s =>
    if m = 0 then .notANumber else .infinite (s != s')
  | .notANumber, _ | _, .notANumber => .notANumber

end Double

end Maskwalk
