/-!
# Text

Everything this library reads or writes is text: paths, masks, names of directory entries,
regular expressions, configuration files, command lines. A text is the list of its characters, so
that each function on it is a recursion on that list, and each fact about it an induction.

The operations here are the few that several parts of the library share: cutting a text at
separators and joining the pieces again, looking for one text inside another, and looking up a
key in a list of pairs whose latest entry for a key counts.

## Main definitions

* `Text`: a list of characters.
* `Text.pieces`: the pieces of a text between its separators.
* `Text.joined`: pieces joined by a separator.
* `Text.occursIn`: whether one text stands somewhere in another.
* `Text.before`: the part of a text in front of the first character of a kind.
-/

namespace Maskwalk

/-- A text, as the list of its characters. -/
abbrev Text := List Char

namespace Text

/-- The string of a text. -/
def toStr (t : Text) : String := String.ofList t

/-- The pieces between the separators of a text. There is one more piece than there are
    separators, so the empty text has one empty piece. -/
def pieces (isSep : Char → Bool) : Text → List Text
  | [] => [[]]
  | c :: rest =>
    if isSep c then [] :: pieces isSep rest
    else match pieces isSep rest with
      | [] => [[c]]
      | piece :: more => (c :: piece) :: more

/-- Pieces in a row, with `sep` between neighbours. -/
def joined (sep : Text) : List Text → Text
  | [] => []
  | [piece] => piece
  | piece :: more => piece ++ sep ++ joined sep more

/-- Whether `part` stands somewhere in a text. -/
def occursIn (part : Text) : Text → Bool
  | [] => part.isEmpty
  | c :: rest => part.isPrefixOf (c :: rest) || occursIn part rest

/-- The part of a text in front of its first character of the given kind, or all of it. -/
def before (isEnd : Char → Bool) (t : Text) : Text := t.takeWhile fun c => !isEnd c

/-- What follows `head` in a text that starts with it. -/
def afterHead : Text → Text → Option Text
  | [], t => some t
  | _ :: _, [] => none
  | a :: head, c :: t => if a = c then afterHead head t else none

/-- The decimal digits of a number, without leading zeros. -/
def ofNat (n : Nat) : Text := Nat.toDigits 10 n

/-- An integer in decimal, with a sign only when it is negative. -/
def ofInt : Int → Text
  | .ofNat n => ofNat n
  | .negSucc n => '-' :: ofNat (n + 1)

/-- The hexadecimal digits of a number, padded on the left with zeros to at least `width`. -/
def hexDigits (width n : Nat) : Text :=
  let digits := Nat.toDigits 16 n
  List.replicate (width - digits.length) '0' ++ digits

/-- The value of a hexadecimal digit of either case. -/
def hexValue? (c : Char) : Option Nat :=
  if '0' ≤ c ∧ c ≤ '9' then some (c.toNat - 48)
  else if 'a' ≤ c ∧ c ≤ 'f' then some (c.toNat - 87)
  else if 'A' ≤ c ∧ c ≤ 'F' then some (c.toNat - 55)
  else none

/-- The value of an ASCII decimal digit. -/
def digitValue? (c : Char) : Option Nat :=
  if '0' ≤ c ∧ c ≤ '9' then some (c.toNat - 48) else none

/-- Whether a character is an ASCII decimal digit. -/
def isDigit (c : Char) : Bool := '0' ≤ c && c ≤ '9'

/-- The number that a run of digits of a base writes; other characters count as zero. -/
def natOf (base : Nat) (digits : Text) : Nat :=
  digits.foldl (fun n c => base * n + (hexValue? c).getD 0) 0

/-- Upper-case ASCII letters in lower case, all else as it is. -/
def asciiLower (c : Char) : Char := if 'A' ≤ c ∧ c ≤ 'Z' then Char.ofNat (c.toNat + 32) else c

/-- Lower-case ASCII letters in upper case, all else as it is. -/
def asciiUpper (c : Char) : Char := if 'a' ≤ c ∧ c ≤ 'z' then Char.ofNat (c.toNat - 32) else c

end Text

/-- The value paired with a key in a list of pairs: that of the first pair with the key. -/
def valueOf? {κ : Type} {ν : Type} [DecidableEq κ] (key : κ) : List (κ × ν) → Option ν
  | [] => none
  | (k, v) :: rest => if k = key then some v else valueOf? key rest

/-- A list of pairs with the value of a key replaced in its place, or put at the end. -/
def withValue {κ : Type} {ν : Type} [DecidableEq κ] (key : κ) (value : ν) :
    List (κ × ν) → List (κ × ν)
  | [] => [(key, value)]
  | (k, v) :: rest => if k = key then (k, value) :: rest else (k, v) :: withValue key value rest

end Maskwalk
