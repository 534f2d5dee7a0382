import Maskwalk.Identifier.Sha1
import Maskwalk.Text.Utf8

/-!
# Universally unique identifiers

An identifier is sixteen bytes, written in upper-case hexadecimal digits in five groups. One that is
made from a name is the digest of a namespace and the name, cut to sixteen bytes, with the version
and the variant set in the middle; the same name always gives the same identifier. One without a
name is made from a serial number, and is different each time.

## Main definitions

* `Uuid.ofName`: the identifier of a name.
* `Uuid.ofSerial`: an identifier without a name.
-/

namespace Maskwalk

namespace Uuid

/-- The namespace of names that are object identifiers. -/
def objectNames : List UInt8 := [
  0x6b, 0xa7, 0xb8, 0x12, 0x9d, 0xad, 0x11, 0xd1, 0x80, 0xb4, 0x00, 0xc0, 0x4f, 0xd4, 0x30, 0xc8]

/-- A byte with the version or the variant in it, if it is the byte for that. -/
def stampedByte (version : UInt8) (place : Nat) (b : UInt8) : UInt8 :=
  if place = 6 then UInt8.ofNat (b.toNat % 16 + 16 * version.toNat)
  else if place = 8 then UInt8.ofNat (b.toNat % 64 + 128)
  else b

/-- Sixteen bytes with version and variant set at their places. -/
def stamped (version : UInt8) (bytes : List UInt8) : List UInt8 :=
  (bytes.take 16).mapIdx (stampedByte version)

/-- The hexadecimal digits of bytes, in upper case. -/
def hex (bytes : List UInt8) : Text :=
  bytes.flatMap fun b => (Text.hexDigits 2 b.toNat).map Char.toUpper

/-- Sixteen bytes as a text in five groups. -/
def text (bytes : List UInt8) : Text :=
  let group (start count : Nat) : Text := hex ((bytes.drop start).take count)
  Text.joined ['-'] [group 0 4, group 4 2, group 6 2, group 8 2, group 10 6]

/-- The identifier of a name: version 5. -/
def ofName (name : Text) : Text :=
  text (stamped 5 (Sha1.digest (objectNames ++ Utf8.encode name)))

/-- An identifier that is not made from a name: version 4. -/
def ofSerial (n : Nat) : Text :=
  text (stamped 4 (Sha1.digest (Sha1.bigEndian 8 n)))

end Uuid

end Maskwalk
