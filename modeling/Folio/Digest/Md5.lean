import Folio.Bytes

/-!
The MD5 digest.
-/

namespace Folio

namespace Md5

def rotations : List (List UInt32) :=
  [[7, 12, 17, 22], [5, 9, 14, 20], [4, 11, 16, 23], [6, 10, 15, 21]]

/-- The whole parts of `2 ^ 32 |sin i|` for `i` from 1 to 64. -/
def sines : List UInt32 :=
  [0xd76aa478, 0xe8c7b756, 0x242070db, 0xc1bdceee, 0xf57c0faf, 0x4787c62a, 0xa8304613, 0xfd469501,
    0x698098d8, 0x8b44f7af, 0xffff5bb1, 0x895cd7be, 0x6b901122, 0xfd987193, 0xa679438e, 0x49b40821,
    0xf61e2562, 0xc040b340, 0x265e5a51, 0xe9b6c7aa, 0xd62f105d, 0x02441453, 0xd8a1e681, 0xe7d3fbc8,
    0x21e1cde6, 0xc33707d6, 0xf4d50d87, 0x455a14ed, 0xa9e3e905, 0xfcefa3f8, 0x676f02d9, 0x8d2a4c8a,
    0xfffa3942, 0x8771f681, 0x6d9d6122, 0xfde5380c, 0xa4beea44, 0x4bdecfa9, 0xf6bb4b60, 0xbebfbc70,
    0x289b7ec6, 0xeaa127fa, 0xd4ef3085, 0x04881d05, 0xd9d4d039, 0xe6db99e5, 0x1fa27cf8, 0xc4ac5665,
    0xf4292244, 0x432aff97, 0xab9423a7, 0xfc93a039, 0x655b59c3, 0x8f0ccc92, 0xffeff47d, 0x85845dd1,
    0x6fa87e4f, 0xfe2ce6e0, 0xa3014314, 0x4e0811a1, 0xf7537e82, 0xbd3af235, 0x2ad7d2bb, 0xeb86d391]

structure State where
  a : UInt32
  b : UInt32
  c : UInt32
  d : UInt32
deriving DecidableEq, Repr

def initial : State :=
  ⟨0x67452301, 0xefcdab89, 0x98badcfe, 0x10325476⟩

def rotateLeft (word amount : UInt32) : UInt32 :=
  (word <<< amount) ||| (word >>> (32 - amount))

/-- The mixing function of a round and the word it takes in a step. -/
def mix (index : Nat) (state : State) : UInt32 × Nat :=
  if index < 16 then ((state.b &&& state.c) ||| (~~~state.b &&& state.d), index)
  else if index < 32 then ((state.d &&& state.b) ||| (~~~state.d &&& state.c), (5 * index + 1) % 16)
  else if index < 48 then (state.b ^^^ state.c ^^^ state.d, (3 * index + 5) % 16)
  else (state.c ^^^ (state.b ||| ~~~state.d), (7 * index) % 16)

def step (words : List UInt32) (state : State) (constant : UInt32 × Nat) : State :=
  let (mixed, word) := mix constant.2 state
  let sum := mixed + state.a + constant.1 + words.getD word 0
  let amount := (rotations.getD (constant.2 / 16) []).getD (constant.2 % 4) 0
  ⟨state.d, state.b + rotateLeft sum amount, state.b, state.c⟩

def wordAt (block : Bytes) (index : Nat) : UInt32 :=
  UInt32.ofNat (bigEndian ((block.drop (4 * index)).take 4).reverse)

def block (state : State) (bytes : Bytes) : State :=
  let words := (List.range 16).map (wordAt bytes)
  let mixed := sines.zipIdx.foldl (step words) state
  ⟨state.a + mixed.a, state.b + mixed.b, state.c + mixed.c, state.d + mixed.d⟩

/-- The message with its end mark and its length, a whole number of blocks. -/
def padded (message : Bytes) : Bytes :=
  let zeros := (119 - message.length % 64) % 64
  message ++ 0x80 :: List.replicate zeros 0 ++ littleEndian 8 (8 * message.length)

def blocks : (count : Nat) → State → Bytes → State
  | 0, state, _ => state
  | count + 1, state, bytes => blocks count (block state (bytes.take 64)) (bytes.drop 64)

def digest (message : Bytes) : Bytes :=
  let whole := padded message
  let state := blocks (whole.length / 64) initial whole
  [state.a, state.b, state.c, state.d].flatMap fun word => littleEndian 4 word.toNat

end Md5

end Folio
