/-!
# SHA-256 digests

The digest of a text is the SHA-256 digest of its UTF-8 bytes, in hexadecimal. The message is
padded to whole blocks of 64 bytes; each block is extended to a schedule of 64 words and mixed
into the eight words of the state.
-/

namespace PureService.Digest

/-- The eight words of the state. -/
structure State where
  a : UInt32
  b : UInt32
  c : UInt32
  d : UInt32
  e : UInt32
  f : UInt32
  g : UInt32
  h : UInt32

namespace State

def start : State :=
  ⟨0x6A09E667, 0xBB67AE85, 0x3C6EF372, 0xA54FF53A, 0x510E527F, 0x9B05688C, 0x1F83D9AB,
    0x5BE0CD19⟩

def add (first second : State) : State :=
  ⟨first.a + second.a, first.b + second.b, first.c + second.c, first.d + second.d,
    first.e + second.e, first.f + second.f, first.g + second.g, first.h + second.h⟩

def words (state : State) : List UInt32 :=
  [state.a, state.b, state.c, state.d, state.e, state.f, state.g, state.h]

end State

def roundConstants : List UInt32 :=
  [0x428A2F98, 0x71374491, 0xB5C0FBCF, 0xE9B5DBA5, 0x3956C25B, 0x59F111F1, 0x923F82A4, 0xAB1C5ED5,
   0xD807AA98, 0x12835B01, 0x243185BE, 0x550C7DC3, 0x72BE5D74, 0x80DEB1FE, 0x9BDC06A7, 0xC19BF174,
   0xE49B69C1, 0xEFBE4786, 0x0FC19DC6, 0x240CA1CC, 0x2DE92C6F, 0x4A7484AA, 0x5CB0A9DC, 0x76F988DA,
   0x983E5152, 0xA831C66D, 0xB00327C8, 0xBF597FC7, 0xC6E00BF3, 0xD5A79147, 0x06CA6351, 0x14292967,
   0x27B70A85, 0x2E1B2138, 0x4D2C6DFC, 0x53380D13, 0x650A7354, 0x766A0ABB, 0x81C2C92E, 0x92722C85,
   0xA2BFE8A1, 0xA81A664B, 0xC24B8B70, 0xC76C51A3, 0xD192E819, 0xD6990624, 0xF40E3585, 0x106AA070,
   0x19A4C116, 0x1E376C08, 0x2748774C, 0x34B0BCB5, 0x391C0CB3, 0x4ED8AA4A, 0x5B9CCA4F, 0x682E6FF3,
   0x748F82EE, 0x78A5636F, 0x84C87814, 0x8CC70208, 0x90BEFFFA, 0xA4506CEB, 0xBEF9A3F7, 0xC67178F2]

def rotateRight (word amount : UInt32) : UInt32 :=
  (word >>> amount) ||| (word <<< (32 - amount))

/-- The bytes of a natural number, most significant first. -/
def bigEndian (count number : Nat) : List UInt8 :=
  (List.range count).reverse.map fun place => .ofNat (number / Nat.pow 256 place)

/-- The message, a one bit, zeros up to the last eight bytes of a block, and the length in bits. -/
def pad (message : List UInt8) : List UInt8 :=
  let zeros := (119 - message.length % 64) % 64
  message ++ 0x80 :: List.replicate zeros 0 ++ bigEndian 8 (8 * message.length)

/-- The words of four bytes each. -/
def wordsOf : List UInt8 → List UInt32
  | first :: second :: third :: fourth :: rest =>
    (first.toUInt32 <<< 24 ||| second.toUInt32 <<< 16 ||| third.toUInt32 <<< 8 |||
      fourth.toUInt32) :: wordsOf rest
  | _ => []

/-- The schedule with one more word, which depends on the sixteen words before it. -/
def extend (schedule : Array UInt32) : Array UInt32 :=
  let back (distance : Nat) : UInt32 := schedule.getD (schedule.size - distance) 0
  let early := back 15
  let late := back 2
  schedule.push (back 16 + (rotateRight early 7 ^^^ rotateRight early 18 ^^^ early >>> 3) +
    back 7 + (rotateRight late 17 ^^^ rotateRight late 19 ^^^ late >>> 10))

def schedule (block : List UInt32) : List UInt32 :=
  ((List.range 48).foldl (fun words _ => extend words) block.toArray).toList

/-- One round with its constant and its word of the schedule. -/
def round (state : State) (constant word : UInt32) : State :=
  let mixed := state.h +
    (rotateRight state.e 6 ^^^ rotateRight state.e 11 ^^^ rotateRight state.e 25) +
    ((state.e &&& state.f) ^^^ (~~~ state.e &&& state.g)) + constant + word
  let spread := (rotateRight state.a 2 ^^^ rotateRight state.a 13 ^^^ rotateRight state.a 22) +
    ((state.a &&& state.b) ^^^ (state.a &&& state.c) ^^^ (state.b &&& state.c))
  ⟨mixed + spread, state.a, state.b, state.c, state.d + mixed, state.e, state.f, state.g⟩

def compress (state : State) (block : List UInt32) : State :=
  state.add ((roundConstants.zip (schedule block)).foldl
    (fun current (constant, word) => round current constant word) state)

/-- Mix the words of whole blocks into the state; `count` bounds the number of blocks. -/
def absorb : (count : Nat) → State → List UInt32 → State
  | 0, state, _ => state
  | count + 1, state, words =>
    if words.isEmpty then state
    else absorb count (compress state (words.take 16)) (words.drop 16)

def ofBytes (message : List UInt8) : State :=
  let words := wordsOf (pad message)
  absorb words.length .start words

/-- A word as eight hexadecimal digits. -/
def hexWord (word : UInt32) : List Char :=
  (List.range 8).reverse.map fun place => Nat.digitChar (word.toNat / Nat.pow 16 place % 16)

/-- The digest of a text. -/
def ofText (text : String) : String :=
  String.ofList ((ofBytes text.toUTF8.data.toList).words.flatMap hexWord)

end PureService.Digest
