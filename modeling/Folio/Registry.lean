import Folio.Error

/-!
Registries hand out the identifiers of one kind in order, for fewer than 2^32 entries, and a
placement records on which page a resource has its place.
-/

namespace Folio

/-- The entries of one kind, in the order in which they were registered. -/
structure Registry (kind : Kind) (α : Type) where
  entries : Array α
deriving Repr

namespace Registry

variable {kind : Kind} {α : Type}

def empty : Registry kind α :=
  ⟨#[]⟩

def size (registry : Registry kind α) : Nat :=
  registry.entries.size

def isEmpty (registry : Registry kind α) : Bool :=
  registry.entries.isEmpty

def nextId (registry : Registry kind α) : Id kind :=
  ⟨registry.size⟩

def register (registry : Registry kind α) (entry : α) : Id kind × Registry kind α :=
  (registry.nextId, ⟨registry.entries.push entry⟩)

def contains (registry : Registry kind α) (id : Id kind) : Bool :=
  id.index < registry.size

def get? (registry : Registry kind α) (id : Id kind) : Option α :=
  registry.entries[id.index]?

def get (registry : Registry kind α) (id : Id kind) : Except Error α :=
  match registry.get? id with
  | some entry => .ok entry
  | none => .error (.unknownResource kind id.index)

def set (registry : Registry kind α) (id : Id kind) (entry : α) :
    Except Error (Registry kind α) :=
  if registry.contains id then .ok ⟨registry.entries.setIfInBounds id.index entry⟩
  else .error (.unknownResource kind id.index)

def toList (registry : Registry kind α) : List (Id kind × α) :=
  registry.entries.toList.zipIdx.map fun (entry, index) => (⟨index⟩, entry)

@[simp] theorem get?_register_new (registry : Registry kind α) (entry : α) :
    (registry.register entry).2.get? (registry.register entry).1 = some entry := by
  simp [register, get?, nextId, size]

theorem get?_register_old (registry : Registry kind α) (entry : α) {id : Id kind}
    (hid : registry.contains id) :
    (registry.register entry).2.get? id = registry.get? id := by
  have hlt : id.index < registry.entries.size := of_decide_eq_true hid
  simp [register, get?, Array.getElem?_push, Nat.ne_of_lt hlt]

end Registry

/-- Which page each placed resource of a kind belongs to. -/
structure Placement (kind : Kind) where
  places : List (Id kind × Id .page)
deriving Repr

namespace Placement

variable {kind : Kind}

def empty : Placement kind :=
  ⟨[]⟩

def pageOf? (placement : Placement kind) (id : Id kind) : Option (Id .page) :=
  placement.places.lookup id

def checkUnused (placement : Placement kind) (id : Id kind) : Except Error Unit :=
  match placement.pageOf? id with
  | some page => .error (.alreadyUsed kind id.index page.index)
  | none => .ok ()

/-- Binds a resource to a page. Binding it to the same page again changes nothing. -/
def mark (placement : Placement kind) (id : Id kind) (page : Id .page) :
    Except Error (Placement kind) :=
  match placement.pageOf? id with
  | some owner =>
      if owner = page then .ok placement
      else .error (.alreadyUsed kind id.index owner.index)
  | none => .ok ⟨(id, page) :: placement.places⟩

end Placement

end Folio
