import Maskwalk.Text.Visible

/-!
# Quoted texts

A quoted text stands between single quotes, or between double quotes when it holds a single quote
and no double one. Inside, the backslash and the quote in use are escaped with a backslash, and so
are tab, line feed and carriage return; every other character without a shape of its own is given
by its code, in two, four or eight hexadecimal digits.

## Main definitions

* `Text.quoted`: a text in quotes.
* `Text.quotedAscii`: a text in quotes, with all characters beyond ASCII given by their codes.
* `Text.quotedBytes`: bytes in quotes.
-/

namespace Maskwalk

namespace Text

/-- The quote for a text. -/
def quoteFor (t : Text) : Char :=
  if t.elem '\x27' && !t.elem '\x22' then '\x22' else '\x27'

/-- A character given by its code. -/
def byCode (n : Nat) : Text :=
  if n < 0x100 then '\\' :: 'x' :: hexDigits 2 n
  else if n < 0x10000 then '\\' :: 'u' :: hexDigits 4 n
  else '\\' :: 'U' :: hexDigits 8 n

/-- A character inside quotes; `shown` says which characters stand for themselves. -/
def escaped (shown : Char → Bool) (quote : Char) (c : Char) : Text :=
  if c = quote ∨ c = '\\' then ['\\', c]
  else if c = '\t' then ['\\', 't']
  else if c = '\n' then ['\\', 'n']
  else if c = '\r' then ['\\', 'r']
  else if shown c then [c]
  else byCode c.toNat

/-- A text in quotes, where only some characters stand for themselves. -/
def quotedBy (shown : Char → Bool) (t : Text) : Text :=
  let quote := quoteFor t
  quote :: t.flatMap (escaped shown quote) ++ [quote]

/-- A text in quotes. -/
def quoted (t : Text) : Text := quotedBy isVisible t

/-- A text in quotes, in ASCII. -/
def quotedAscii (t : Text) : Text := quotedBy (fun c => c.toNat < 127 && isVisible c) t

/-- Bytes in quotes, marked by a letter in front. -/
def quotedBytes (bytes : List UInt8) : Text :=
  'b' :: quotedAscii (bytes.map fun b => Char.ofNat b.toNat)

end Text

end Maskwalk
