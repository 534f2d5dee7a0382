import Maskwalk.Text.Basic

/-!
# Texts as bytes

Files hold bytes. `Utf8.encode` writes each character in the one to four bytes of its UTF-8 form,
and `Utf8.decode` reads them back. Reading can fail, and then says where and why: at a byte that
starts no character, at a byte that does not continue the one begun, or at the end of the bytes in
the middle of a character. Forms that are longer than needed, surrogates and codes beyond the last
are refused at their second byte, since that byte already gives them away.

## Main definitions

* `Utf8.encode`: the bytes of a text.
* `Utf8.decode`: the text of bytes, or the first fault in them.
* `Utf8.Fault`: where a fault is, and of which kind.
-/

namespace Maskwalk

namespace Utf8

/-- The bytes of a text. -/
def encode (t : Text) : List UInt8 := t.flatMap String.utf8EncodeChar

/-- Why bytes are no text. -/
inductive FaultKind where
  | badStart
  | badContinuation
  | cutShort
  deriving DecidableEq, Repr

/-- A fault in bytes: the offset at which the character starts, how many bytes of it were read,
    the first of them, and what is wrong. -/
structure Fault where
  start : Nat
  length : Nat
  byte : UInt8
  kind : FaultKind
  deriving DecidableEq, Repr

/-- What a first byte announces: how many bytes follow, the bounds of the second byte, and the
    bits of the code that the first byte holds. -/
def announced? (b : UInt8) : Option (Nat × UInt8 × UInt8 × Nat) :=
  if 0xc2 ≤ b && b < 0xe0 then some (1, 0x80, 0xbf, b.toNat - 0xc0)
  else if b = 0xe0 then some (2, 0xa0, 0xbf, 0)
  else if b = 0xed then some (2, 0x80, 0x9f, 0xd)
  else if 0xe1 ≤ b && b < 0xf0 then some (2, 0x80, 0xbf, b.toNat - 0xe0)
  else if b = 0xf0 then some (3, 0x90, 0xbf, 0)
  else if b = 0xf4 then some (3, 0x80, 0x8f, 4)
  else if 0xf1 ≤ b && b < 0xf4 then some (3, 0x80, 0xbf, b.toNat - 0xf0)
  else none

/-- The code of a character whose first byte gave `code`, and the bytes behind it; `read` bytes
    have been read and `more` are still to come. -/
def rest (more read : Nat) (low high : UInt8) (code : Nat) :
    List UInt8 → Except (Nat × FaultKind) (Nat × List UInt8)
  | bytes =>
    match more, bytes with
    | 0, bytes => .ok (code, bytes)
    | _ + 1, [] => .error (read, .cutShort)
    | more + 1, b :: bytes =>
      if low ≤ b && b ≤ high then
        rest more (read + 1) 0x80 0xbf (64 * code + (b.toNat - 0x80)) bytes
      else .error (read, .badContinuation)

/-- The text of bytes that start at an offset. The fuel is the number of bytes, since each
    character takes at least one. -/
def decodeFrom : Nat → Nat → List UInt8 → Except Fault Text
  | _, _, [] => .ok []
  | 0, _, _ :: _ => .ok []
  | fuel + 1, offset, b :: bytes =>
    if b < 0x80 then (decodeFrom fuel (offset + 1) bytes).map (Char.ofNat b.toNat :: ·)
    else match announced? b with
      | none => .error ⟨offset, 1, b, .badStart⟩
      | some (more, low, high, code) =>
        match rest more 1 low high code bytes with
        | .error (read, kind) => .error ⟨offset, read, b, kind⟩
        | .ok (code, left) =>
          (decodeFrom fuel (offset + more + 1) left).map (Char.ofNat code :: ·)

/-- The text of bytes. -/
def decode (bytes : List UInt8) : Except Fault Text := decodeFrom bytes.length 0 bytes

/-- What a fault is called. -/
def FaultKind.text : FaultKind → Text
  | .badStart => "invalid start byte".toList
  | .badContinuation => "invalid continuation byte".toList
  | .cutShort => "unexpected end of data".toList

/-- The message for a fault: one byte is named, several are given by their offsets. -/
def Fault.message (f : Fault) : Text :=
  let place :=
    if f.length = 1 then
      "byte 0x".toList ++ Text.hexDigits 2 f.byte.toNat ++ " in position ".toList
        ++ Text.ofNat f.start
    else
      "bytes in position ".toList ++ Text.ofNat f.start ++ ['-']
        ++ Text.ofNat (f.start + f.length - 1)
  "\x27utf-8\x27 codec can\x27t decode ".toList ++ place ++ ": ".toList ++ f.kind.text

end Utf8

end Maskwalk
