/-!
Maps kept as lists of pairs in ascending order of their keys.
-/

namespace Folio

namespace Sorted

variable {κ α : Type} [Ord κ]

/-- Puts a pair into its place. A pair with the same key gives way to it. -/
def insert (key : κ) (value : α) : List (κ × α) → List (κ × α)
  | [] => [(key, value)]
  | (other, held) :: rest =>
      match compare key other with
      | .lt => (key, value) :: (other, held) :: rest
      | .eq => (key, value) :: rest
      | .gt => (other, held) :: insert key value rest

def find? (key : κ) : List (κ × α) → Option α
  | [] => none
  | (other, held) :: rest =>
      match compare key other with
      | .eq => some held
      | _ => find? key rest

def insertAll (start : List (κ × α)) (listed : List (κ × α)) : List (κ × α) :=
  listed.foldl (fun pairs pair => insert pair.1 pair.2 pairs) start

def under (key : κ) (pairs : List (κ × List α)) : List α :=
  (find? key pairs).getD []

def push (key : κ) (value : α) (pairs : List (κ × List α)) : List (κ × List α) :=
  insert key (under key pairs ++ [value]) pairs

def pushAll (start : List (κ × List α)) (listed : List (κ × α)) : List (κ × List α) :=
  listed.foldl (fun pairs pair => push pair.1 pair.2 pairs) start

end Sorted

end Folio
