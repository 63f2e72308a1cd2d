import Folio.Bytes

/-!
Reading UTF-8 that may be damaged. Each longest start of a valid sequence that is not completed
becomes one replacement character.
-/

namespace Folio

namespace Utf8

/-- The bytes that may follow `lead` directly, and how many bytes follow in all. -/
def continuation (lead : UInt8) : Option (UInt8 × UInt8 × Nat) :=
  if 0xC2 ≤ lead && lead ≤ 0xDF then some (0x80, 0xBF, 1)
  else if lead == 0xE0 then some (0xA0, 0xBF, 2)
  else if lead == 0xED then some (0x80, 0x9F, 2)
  else if 0xE1 ≤ lead && lead ≤ 0xEF then some (0x80, 0xBF, 2)
  else if lead == 0xF0 then some (0x90, 0xBF, 3)
  else if 0xF1 ≤ lead && lead ≤ 0xF3 then some (0x80, 0xBF, 3)
  else if lead == 0xF4 then some (0x80, 0x8F, 3)
  else none

/-- How many bytes at the front continue a sequence of which `count` bytes are still to come. -/
def continued : (low high : UInt8) → (count : Nat) → Bytes → Nat
  | _, _, 0, _ => 0
  | _, _, _, [] => 0
  | low, high, count + 1, byte :: rest =>
      if low ≤ byte && byte ≤ high then continued 0x80 0xBF count rest + 1 else 0

def point (lead : UInt8) (tail : Bytes) : Nat :=
  let start :=
    if tail.length = 1 then lead.toNat % 32
    else if tail.length = 2 then lead.toNat % 16
    else lead.toNat % 8
  tail.foldl (fun value byte => value * 64 + byte.toNat % 64) start

/-- What the first character of a byte sequence is, and how many bytes after the first it takes. -/
def first (lead : UInt8) (rest : Bytes) : Option Char × Nat :=
  if lead < 0x80 then (some (Char.ofNat lead.toNat), 0)
  else
    match continuation lead with
    | none => (none, 0)
    | some (low, high, count) =>
        let found := continued low high count rest
        if found = count then (some (Char.ofNat (point lead (rest.take count))), count)
        else (none, found)

def scan : Bytes → List (Option Char)
  | [] => []
  | lead :: rest => (first lead rest).1 :: scan (rest.drop (first lead rest).2)
termination_by bytes => bytes.length
decreasing_by simp only [List.length_drop, List.length_cons]; omega

def decodeLossy (bytes : Bytes) : String :=
  String.ofList ((scan bytes).map fun char => char.getD '\uFFFD')

def decode? (bytes : Bytes) : Option String :=
  ((scan bytes).mapM id).map String.ofList

end Utf8

end Folio
