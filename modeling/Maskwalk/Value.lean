import Maskwalk.Number.Written
import Maskwalk.Text.Quoted

/-!
# Values

Configuration files, the targets of a removal and the arguments of a message are data of no fixed
shape: nothing, truth values, numbers, texts, dates, and collections of these. A mapping keeps its
fields in the order in which their keys first came.

Values are shown in two ways. `shown` is for reading: a text is shown as it is, a date in the usual
notation. `quoted` is for telling values apart: texts are in quotes, dates spelled out. Inside a
collection everything is shown in the second way.

## Main definitions

* `Value`: data of any shape.
* `Value.shown`, `Value.quoted`: the two ways to show a value.
* `Value.same`: equality of keys, where equal numbers of different kinds are equal.
* `Value.isOne`: whether a value equals the number one.
-/

namespace Maskwalk

/-- A day of the calendar. -/
structure Day where
  year : Nat
  month : Nat
  day : Nat
  deriving DecidableEq, Repr

/-- A time of day, with the offset from universal time in minutes if it is known. -/
structure Clock where
  hour : Nat
  minute : Nat
  second : Nat
  micro : Nat
  offset : Option Int
  deriving DecidableEq, Repr

/-- Data of any shape. A `pair` is a key with its value in a list of such, and a `circle` stands
    for a collection in which it lies itself; `isMap` tells its kind. -/
inductive Value where
  | null
  | bool (b : Bool)
  | int (n : Int)
  | float (x : Double)
  | text (t : Text)
  | bytes (b : List UInt8)
  | day (d : Day)
  | moment (d : Day) (c : Clock)
  | list (items : List Value)
  | map (fields : List (Value × Value))
  | set (items : List Value)
  | pair (key value : Value)
  | circle (isMap : Bool)
  deriving Inhabited

namespace Value

/-- A number with at least two digits. -/
def twoDigits (n : Nat) : Text := if n < 10 then '0' :: Text.ofNat n else Text.ofNat n

/-- A number padded with zeros to a width. -/
def padded (width n : Nat) : Text :=
  let digits := Text.ofNat n
  List.replicate (width - digits.length) '0' ++ digits

/-- A day as year, month and day between hyphens. -/
def dayText (d : Day) : Text :=
  padded 4 d.year ++ '-' :: twoDigits d.month ++ '-' :: twoDigits d.day

/-- An offset as hours and minutes with a sign. -/
def offsetText (minutes : Int) : Text :=
  (if minutes < 0 then '-' else '+') :: twoDigits (minutes.natAbs / 60)
    ++ ':' :: twoDigits (minutes.natAbs % 60)

/-- A time of day between colons, with its fraction if it has one, and its offset if known. -/
def clockText (c : Clock) : Text :=
  twoDigits c.hour ++ ':' :: twoDigits c.minute ++ ':' :: twoDigits c.second
    ++ (if c.micro = 0 then [] else '.' :: padded 6 c.micro)
    ++ (c.offset.map offsetText).getD []

/-- Numbers between commas. -/
def numbers (ns : List Nat) : Text := Text.joined [',', ' '] (ns.map Text.ofNat)

/-- A day spelled out. -/
def dayQuoted (d : Day) : Text :=
  "datetime.date(".toList ++ numbers [d.year, d.month, d.day] ++ [')']

/-- An offset spelled out, as days that may be negative and seconds that may not. -/
def offsetQuoted (minutes : Int) : Text :=
  if minutes = 0 then "datetime.timezone.utc".toList
  else
    let days := Int.fdiv minutes 1440
    let seconds := Int.fmod minutes 1440 * 60
    let parts : List Text :=
      (if days = 0 then [] else ["days=".toList ++ Text.ofInt days])
        ++ (if seconds = 0 then [] else ["seconds=".toList ++ Text.ofInt seconds])
    "datetime.timezone(datetime.timedelta(".toList ++ Text.joined [',', ' '] parts ++ [')', ')']

/-- A moment spelled out; seconds and their fraction are left out when they are zero. -/
def momentQuoted (d : Day) (c : Clock) : Text :=
  let fine :=
    if c.micro ≠ 0 then [c.second, c.micro] else if c.second ≠ 0 then [c.second] else []
  "datetime.datetime(".toList ++ numbers ([d.year, d.month, d.day, c.hour, c.minute] ++ fine)
    ++ (match c.offset with
      | some minutes => ", tzinfo=".toList ++ offsetQuoted minutes
      | none => [])
    ++ [')']

mutual

/-- A value with texts in quotes, so that values of different kinds look different. -/
def quoted : Value → Text
  | null => "None".toList
  | bool true => "True".toList
  | bool false => "False".toList
  | int n => Text.ofInt n
  | float x => x.text
  | text t => Text.quoted t
  | bytes b => Text.quotedBytes b
  | day d => dayQuoted d
  | moment d c => momentQuoted d c
  | list items => '[' :: quotedItems items ++ [']']
  | map fields => '\x7b' :: quotedFields fields ++ ['\x7d']
  | set [] => "set()".toList
  | set (item :: items) => '\x7b' :: quotedItems (item :: items) ++ ['\x7d']
  | pair key value => '(' :: quoted key ++ [',', ' '] ++ quoted value ++ [')']
  | circle true => "\x7b...\x7d".toList
  | circle false => "[...]".toList

/-- The items of a collection between commas. -/
def quotedItems : List Value → Text
  | [] => []
  | [item] => quoted item
  | item :: more => quoted item ++ [',', ' '] ++ quotedItems more

/-- The fields of a mapping between commas. -/
def quotedFields : List (Value × Value) → Text
  | [] => []
  | [(key, value)] => quoted key ++ [':', ' '] ++ quoted value
  | (key, value) :: more =>
    quoted key ++ [':', ' '] ++ quoted value ++ [',', ' '] ++ quotedFields more

end

/-- A value as it is read: texts without quotes, days and moments in the usual notation. -/
def shown : Value → Text
  | text t => t
  | day d => dayText d
  | moment d c => dayText d ++ ' ' :: clockText c
  | v => quoted v

/-- The number that a value is, when it is a truth value, an integer or a floating-point number:
    truth values count as zero and one. -/
def number? : Value → Option (Int ⊕ Double)
  | bool b => some (.inl (if b then 1 else 0))
  | int n => some (.inl n)
  | float x => some (.inr x)
  | _ => none

/-- Equality of numbers of the same or of different kinds. -/
def sameNumber : Int ⊕ Double → Int ⊕ Double → Bool
  | .inl m, .inl n => m = n
  | .inl m, .inr x => x.isInt m
  | .inr x, .inl n => x.isInt n
  | .inr x, .inr y => x.same y

/-- Equality of keys: numbers by their value, all else by kind and contents. Collections other
    than pairs are no keys and equal nothing. -/
def same : Value → Value → Bool
  | null, null => true
  | text s, text t => s = t
  | bytes a, bytes b => a = b
  | day a, day b => a = b
  | moment a s, moment b t => a = b && s = t
  | pair a b, pair c d => same a c && same b d
  | a, b => match number? a, number? b with
    | some x, some y => sameNumber x y
    | _, _ => false

/-- Whether a value equals the number one. -/
def isOne (v : Value) : Bool := same v (int 1)

/-- The value of the first field whose key is a given text. -/
def field? (name : Text) : List (Value × Value) → Option Value
  | [] => none
  | (key, value) :: more => if same key (text name) then some value else field? name more

/-- The fields of a mapping with the value of a key set: in the place of an equal key, which
    stays as it was written, or at the end. -/
def setField (key value : Value) : List (Value × Value) → List (Value × Value)
  | [] => [(key, value)]
  | (k, v) :: more =>
    if same k key then (k, value) :: more else (k, v) :: setField key value more

end Value

end Maskwalk
