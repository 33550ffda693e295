import TimedLock.Text.Hex

/-!
# Digests of text

The MD5 digest of a byte string, and its first hexadecimal digits for the UTF-8 bytes of a text.
Long values are told apart by such a digest where the value itself would be too long for a name.
-/

namespace TimedLock.Text

/-- The four words that a digest is made of. -/
structure DigestState where
  a : UInt32
  b : UInt32
  c : UInt32
  d : UInt32

/-- The state before the first block. -/
def DigestState.start : DigestState := ⟨0x67452301, 0xEFCDAB89, 0x98BADCFE, 0x10325476⟩

/-- The constant that each of the 64 steps adds: the first 32 fraction bits of a sine. -/
def digestConstants : List UInt32 :=
  [0xD76AA478, 0xE8C7B756, 0x242070DB, 0xC1BDCEEE, 0xF57C0FAF, 0x4787C62A,
    0xA8304613, 0xFD469501, 0x698098D8, 0x8B44F7AF, 0xFFFF5BB1, 0x895CD7BE,
    0x6B901122, 0xFD987193, 0xA679438E, 0x49B40821, 0xF61E2562, 0xC040B340,
    0x265E5A51, 0xE9B6C7AA, 0xD62F105D, 0x02441453, 0xD8A1E681, 0xE7D3FBC8,
    0x21E1CDE6, 0xC33707D6, 0xF4D50D87, 0x455A14ED, 0xA9E3E905, 0xFCEFA3F8,
    0x676F02D9, 0x8D2A4C8A, 0xFFFA3942, 0x8771F681, 0x6D9D6122, 0xFDE5380C,
    0xA4BEEA44, 0x4BDECFA9, 0xF6BB4B60, 0xBEBFBC70, 0x289B7EC6, 0xEAA127FA,
    0xD4EF3085, 0x04881D05, 0xD9D4D039, 0xE6DB99E5, 0x1FA27CF8, 0xC4AC5665,
    0xF4292244, 0x432AFF97, 0xAB9423A7, 0xFC93A039, 0x655B59C3, 0x8F0CCC92,
    0xFFEFF47D, 0x85845DD1, 0x6FA87E4F, 0xFE2CE6E0, 0xA3014314, 0x4E0811A1,
    0xF7537E82, 0xBD3AF235, 0x2AD7D2BB, 0xEB86D391]

/-- The rotations of a step, four to each round of sixteen. -/
def digestRotations : List (List UInt32) :=
  [[7, 12, 17, 22], [5, 9, 14, 20], [4, 11, 16, 23], [6, 10, 15, 21]]

/-- Rotates a word to the left. -/
def rotateLeft (x n : UInt32) : UInt32 := (x <<< n) ||| (x >>> (32 - n))

/-- Step `i` of a block, with the constant that it adds. -/
def DigestState.step (block : List UInt32) (s : DigestState) (i : Nat) (constant : UInt32) :
    DigestState :=
  let round := i / 16
  let (mix, word) :=
    if round = 0 then ((s.b &&& s.c) ||| (~~~s.b &&& s.d), i)
    else if round = 1 then ((s.d &&& s.b) ||| (~~~s.d &&& s.c), (5 * i + 1) % 16)
    else if round = 2 then (s.b ^^^ s.c ^^^ s.d, (3 * i + 5) % 16)
    else (s.c ^^^ (s.b ||| ~~~s.d), (7 * i) % 16)
  let rotation := ((digestRotations.getD round []).getD (i % 4) 0)
  let sum := s.a + mix + constant + block.getD word 0
  ⟨s.d, s.b + rotateLeft sum rotation, s.b, s.c⟩

/-- Takes in one block of sixteen words. -/
def DigestState.absorb (s : DigestState) (block : List UInt32) : DigestState :=
  let (t, _) := digestConstants.foldl (fun (t, i) k => (t.step block i k, i + 1)) (s, 0)
  ⟨s.a + t.a, s.b + t.b, s.c + t.c, s.d + t.d⟩

/-- A number in `width` bytes, the least significant first. -/
def littleEndian : (width : Nat) → Nat → List UInt8
  | 0, _ => []
  | width + 1, n => UInt8.ofNat (n % 256) :: littleEndian width (n / 256)

/-- Words of four bytes, the least significant byte first. -/
def words : List UInt8 → List UInt32
  | a :: b :: c :: d :: rest =>
    (a.toUInt32 ||| b.toUInt32 <<< 8 ||| c.toUInt32 <<< 16 ||| d.toUInt32 <<< 24) :: words rest
  | _ => []

/-- Pads a message to whole blocks: a one bit, zeros, and its length in bits. -/
def padded (message : List UInt8) : List UInt8 :=
  let zeros := (119 - message.length % 64) % 64
  message ++ 0x80 :: List.replicate zeros 0 ++ littleEndian 8 (8 * message.length)

/-- Takes in words, sixteen at a time. -/
def absorbBlocks (s : DigestState) : (blocks : Nat) → List UInt32 → DigestState
  | 0, _ => s
  | blocks + 1, ws => absorbBlocks (s.absorb (ws.take 16)) blocks (ws.drop 16)

/-- The MD5 digest of a message, sixteen bytes. -/
def digest (message : List UInt8) : List UInt8 :=
  let ws := words (padded message)
  let s := absorbBlocks .start (ws.length / 16) ws
  [s.a, s.b, s.c, s.d].flatMap fun w => littleEndian 4 w.toNat

/-- The first `count` hexadecimal digits of the digest of a text. -/
def digestPrefix (count : Nat) (s : String) : String :=
  String.ofList (((digest s.toUTF8.toList).flatMap fun b => hex 2 b.toNat).take count)

end TimedLock.Text
