import Folio.Bytes

/-!
The chunks of a portable network graphic: a length, a kind, data and a check sum.
-/

namespace Folio

namespace Png

def signature : Bytes :=
  [0x89, 0x50, 0x4E, 0x47, 0x0D, 0x0A, 0x1A, 0x0A]

def checkBit (sum : UInt32) : UInt32 :=
  if sum &&& 1 = 1 then (sum >>> 1) ^^^ 0xEDB88320 else sum >>> 1

def checkByte (sum : UInt32) (byte : UInt8) : UInt32 :=
  (List.range 8).foldl (fun sum _ => checkBit sum) (sum ^^^ byte.toUInt32)

def checkSum (bytes : Bytes) : UInt32 :=
  bytes.foldl checkByte 0xFFFFFFFF ^^^ 0xFFFFFFFF

structure Chunk where
  kind : Bytes
  data : Bytes
  /-- Whether the check sum is that of kind and data. -/
  sound : Bool
deriving DecidableEq, Repr

namespace Chunk

def isA (chunk : Chunk) (kind : String) : Bool :=
  chunk.kind == utf8 kind

def isCritical (chunk : Chunk) : Bool :=
  chunk.kind.head?.any fun letter => letter.toNat / 32 % 2 == 0

/-- How much data a chunk of its kind holds, least and most. -/
def bounds (chunk : Chunk) : Nat × Nat :=
  if chunk.isA "PLTE" then (3, 768)
  else if chunk.isA "tRNS" then (1, 256)
  else if chunk.isA "fcTL" then (26, 26)
  else if chunk.isA "cICP" then (4, 4)
  else (0, chunk.data.length)

def fits (chunk : Chunk) : Bool :=
  chunk.bounds.1 ≤ chunk.data.length && chunk.data.length ≤ chunk.bounds.2

end Chunk

def chunk? (bytes : Bytes) : Option (Chunk × Bytes) := do
  let length := bigEndian (← slice? bytes 0 4)
  let kind ← slice? bytes 4 4
  let data ← slice? bytes 8 length
  let sum ← slice? bytes (8 + length) 4
  some (⟨kind, data, bigEndian sum == (checkSum (kind ++ data)).toNat⟩, bytes.drop (12 + length))

end Png

end Folio
