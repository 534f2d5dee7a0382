import Maskwalk.Number.Double
import Maskwalk.Text.Alphanumeric
import Maskwalk.Text.Blank

/-!
# Numbers read from text

An integer is written in a base, with a sign in front and blanks around it, and single low lines may
stand between its digits. Digits of all scripts are digits. A mark such as `0x` may repeat what the
base says. Integers of more than 4300 decimal digits are refused.

A floating-point number is written in decimal, with a fraction, an exponent, or both; there are
words for the infinities and for what is no number.

## Main definitions

* `integer?`: the integer that a text writes in a base.
* `Double.ofText?`: the double that a text writes.
-/

namespace Maskwalk

/-- The value of a character as a digit, letters counting on from ten. -/
def digitOf? (c : Char) : Option Nat := (Text.decimalValue? c).or (Text.hexValue? c)

/-- The letter that marks a base. -/
def baseLetter? : Nat → Option Char
  | 2 => some 'b'
  | 8 => some 'o'
  | 16 => some 'x'
  | _ => none

/-- A sign and what follows it; a text without one is not negative. -/
def splitSign : Text → Bool × Text
  | '-' :: rest => (true, rest)
  | '+' :: rest => (false, rest)
  | rest => (false, rest)

/-- Digits behind the mark of their base, if it is there. A low line may follow the mark. -/
def behindMark (base : Nat) : Text → Text
  | '0' :: letter :: rest =>
    if baseLetter? base = some (Text.asciiLower letter) then
      match rest with
      | '_' :: digits => digits
      | digits => digits
    else '0' :: letter :: rest
  | digits => digits

/-- The most decimal digits that an integer can have. -/
def digitLimit : Nat := 4300

/-- The integer that a text writes in a base. -/
def integer? (base : Nat) (t : Text) : Option Int :=
  let (negative, digits) := splitSign (Text.trim t)
  let groups := (behindMark base digits).pieces (· = '_')
  if groups.any List.isEmpty then none
  else
    match groups.flatten.mapM digitOf? with
    | none => none
    | some values =>
      if values.all (· < base) && (base ≠ 10 || values.length ≤ digitLimit) then
        let n : Nat := values.foldl (fun n d => base * n + d) 0
        some (if negative then -(n : Int) else n)
      else none

namespace Double

/-- The digits in front of what is no digit, as ASCII digits, and what follows them. -/
def leadingDigits (t : Text) : Text × Text :=
  let part := t.takeWhile Text.isDecimal
  let digits := part.filterMap fun c => (Text.decimalValue? c).map fun d => Char.ofNat (48 + d)
  (digits, t.drop part.length)

/-- The exponent at the end of a number; a text without one has the exponent zero. -/
def exponent? : Text → Option Int
  | [] => some 0
  | mark :: rest =>
    if Text.asciiLower mark = 'e' then
      let (negative, digits) := splitSign rest
      let (digits, rest) := leadingDigits digits
      if digits = [] || rest ≠ [] then none
      else
        let n : Int := Text.natOf 10 digits
        some (if negative then -n else n)
    else none

/-- The double that a text writes in decimal, without its sign. -/
def decimal? (negative : Bool) (t : Text) : Option Double :=
  let (whole, rest) := leadingDigits t
  let (fraction, rest) := match rest with
    | '.' :: rest => leadingDigits rest
    | rest => ([], rest)
  if whole = [] && fraction = [] then none
  else (exponent? rest).map fun e =>
    ofDecimal negative (Text.natOf 10 (whole ++ fraction)) (e - fraction.length)

/-- The double that a text writes. -/
def ofText? (t : Text) : Option Double :=
  let (negative, size) := splitSign (Text.trim t)
  let word := size.map Text.asciiLower
  if word = "inf".toList || word = "infinity".toList then some (.infinite negative)
  else if word = "nan".toList then some .notANumber
  else decimal? negative size

end Double

end Maskwalk
