import Folio.Sorted
import Folio.Value

/-!
The cross-reference table: where each indirect object begins.
-/

namespace Folio

structure XrefRow where
  offset : Nat
  generation : UInt16
  free : Bool
deriving DecidableEq, Repr

structure Xref where
  rows : List (Nat × XrefRow)
deriving DecidableEq, Repr

namespace Xref

/-- The table of an empty file, which holds the head of the free list only. -/
def start : Xref :=
  ⟨[(0, ⟨0, 65535, true⟩)]⟩

def record (xref : Xref) (target : Ref) (offset : Nat) : Xref :=
  ⟨Sorted.insert target.number ⟨offset, target.generation, false⟩ xref.rows⟩

/-- One more than the largest object number. -/
def size (xref : Xref) : Nat :=
  match xref.rows.getLast? with
  | some (number, _) => number + 1
  | none => 0

def runs : List (Nat × XrefRow) → List (Nat × List XrefRow)
  | [] => []
  | (number, row) :: rest =>
      match runs rest with
      | [] => [(number, [row])]
      | (next, rows) :: others =>
          if next = number + 1 then (number, row :: rows) :: others
          else (number, [row]) :: (next, rows) :: others

end Xref

/-- Twenty bytes, of which the last two end the line. -/
def XrefRow.line (row : XrefRow) : Bytes :=
  paddedDecimal 10 row.offset ++ 32 :: paddedDecimal 5 row.generation.toNat ++
    [32, if row.free then 0x66 else 0x6E, 32, 10]

namespace Xref

def runText (run : Nat × List XrefRow) : Bytes :=
  decimal run.1 ++ 32 :: decimal run.2.length ++ 10 :: run.2.flatMap XrefRow.line

def text (xref : Xref) : Bytes :=
  utf8 "xref\n" ++ (runs xref.rows).flatMap runText

end Xref

end Folio
