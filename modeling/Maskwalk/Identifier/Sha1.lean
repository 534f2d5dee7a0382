/-!
# SHA-1

The digest of bytes by SHA-1, from which identifiers are derived. The message is padded to blocks of
64 bytes and its length in bits put at the end; each block is spread out to eighty words, which are
stirred one after the other into five words of state.

## Main definitions

* `Sha1.digest`: the twenty bytes of the digest.
-/

namespace Maskwalk

namespace Sha1

/-- The five words of state. -/
structure State where
  a : UInt32
  b : UInt32
  c : UInt32
  d : UInt32
  e : UInt32

/-- The state before the first block. -/
def State.initial : State := ⟨0x67452301, 0xEFCDAB89, 0x98BADCFE, 0x10325476, 0xC3D2E1F0⟩

/-- A word rotated to the left. -/
def rotate (x : UInt32) (n : UInt32) : UInt32 := (x <<< n) ||| (x >>> (32 - n))

/-- The bytes of a number, the most significant first. -/
def bigEndian (count n : Nat) : List UInt8 :=
  (List.range count).reverse.map fun i => UInt8.ofNat (n / Nat.pow 256 i)

/-- A message padded to whole blocks. -/
def padded (message : List UInt8) : List UInt8 :=
  let zeros := (119 - message.length % 64) % 64
  message ++ [0x80] ++ List.replicate zeros 0 ++ bigEndian 8 (8 * message.length)

/-- The words of a block. -/
def words : List UInt8 → List UInt32
  | a :: b :: c :: d :: rest =>
    ((a.toUInt32 <<< 24) ||| (b.toUInt32 <<< 16) ||| (c.toUInt32 <<< 8) ||| d.toUInt32)
      :: words rest
  | _ => []

/-- Words of a block spread out by so many more; the words so far come last one first. -/
def spread : Nat → List UInt32 → List UInt32
  | 0, sofar => sofar
  | n + 1, sofar =>
    let nth (i : Nat) : UInt32 := (sofar[i]?).getD 0
    spread n (rotate (nth 2 ^^^ nth 7 ^^^ nth 13 ^^^ nth 15) 1 :: sofar)

/-- The function and the constant of a round. -/
def roundPart (i : Nat) (s : State) : UInt32 × UInt32 :=
  if i < 20 then ((s.b &&& s.c) ||| (~~~s.b &&& s.d), 0x5A827999)
  else if i < 40 then (s.b ^^^ s.c ^^^ s.d, 0x6ED9EBA1)
  else if i < 60 then ((s.b &&& s.c) ||| (s.b &&& s.d) ||| (s.c &&& s.d), 0x8F1BBCDC)
  else (s.b ^^^ s.c ^^^ s.d, 0xCA62C1D6)

/-- The state after the rounds for the words left, the first of them having a number. -/
def rounds : Nat → State → List UInt32 → State
  | _, s, [] => s
  | i, s, w :: rest =>
    let (f, k) := roundPart i s
    rounds (i + 1) ⟨rotate s.a 5 + f + s.e + k + w, s.a, rotate s.b 30, s.c, s.d⟩ rest

/-- The state after a block. -/
def block (s : State) (bytes : List UInt8) : State :=
  let t := rounds 0 s (spread 64 (words bytes).reverse).reverse
  ⟨s.a + t.a, s.b + t.b, s.c + t.c, s.d + t.d, s.e + t.e⟩

/-- The state after so many blocks. -/
def blocks : Nat → State → List UInt8 → State
  | 0, s, _ => s
  | n + 1, s, bytes => blocks n (block s (bytes.take 64)) (bytes.drop 64)

/-- The digest of a message. -/
def digest (message : List UInt8) : List UInt8 :=
  let bytes := padded message
  let s := blocks (bytes.length / 64) State.initial bytes
  [s.a, s.b, s.c, s.d, s.e].flatMap fun w => bigEndian 4 w.toNat

end Sha1

end Maskwalk
