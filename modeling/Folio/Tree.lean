import Folio.Sorted
import Folio.Value

/-!
Number trees and name trees of a single node: their keys stand in ascending order, each followed by
its value.
-/

namespace Folio

structure NumberTree (α : Type) where
  pairs : List (Nat × α)
deriving Repr

namespace NumberTree

variable {α : Type}

def empty : NumberTree α :=
  ⟨[]⟩

def isEmpty (tree : NumberTree α) : Bool :=
  tree.pairs.isEmpty

def insert (tree : NumberTree α) (key : Nat) (value : α) : Option α × NumberTree α :=
  (Sorted.find? key tree.pairs, ⟨Sorted.insert key value tree.pairs⟩)

def nextKey (tree : NumberTree α) : Nat :=
  match tree.pairs.getLast? with
  | some (key, _) => key + 1
  | none => 0

def value (render : α → Value) (tree : NumberTree α) : Value :=
  .dict [.field "Nums" (.arr (tree.pairs.flatMap fun (key, held) => [.nat key, render held]))]

end NumberTree

/-- Keys are byte strings in the order of their bytes. -/
structure NameTree (α : Type) where
  pairs : List (Bytes × α)
deriving Repr

namespace NameTree

variable {α : Type}

def empty : NameTree α :=
  ⟨[]⟩

def isEmpty (tree : NameTree α) : Bool :=
  tree.pairs.isEmpty

def insert (tree : NameTree α) (key : Bytes) (value : α) : Option α × NameTree α :=
  (Sorted.find? key tree.pairs, ⟨Sorted.insert key value tree.pairs⟩)

def value (render : α → Value) (tree : NameTree α) : Value :=
  .dict [.field "Names" (.arr (tree.pairs.flatMap fun (key, held) => [.str key, render held]))]

end NameTree

end Folio
