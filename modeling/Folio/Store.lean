import Folio.Dictionary.Stream
import Folio.Id

/-!
The indirect objects of a document. Objects are numbered from 1 in the order in which they were
allocated, and keep their numbers. An object is either complete, or it names the part of the
document that completes it when the file is written.
-/

namespace Folio

structure SubsetKey where
  font : Id .font
  subset : Nat
deriving DecidableEq, Repr

/-- The objects that make up a font subset. -/
inductive SubsetPart where
  | program
  | descriptor
  | toUnicode
  | cidFont
  | font
deriving DecidableEq, Repr

inductive Record where
  | reserved
  | object (value : Value)
  /-- A stream whose data is written as it is. -/
  | stored (entries : List Entry) (filter : Option Name) (data : Bytes)
  /-- A stream whose data is deflated when it is written. -/
  | deflated (entries : List Entry) (data : Bytes)
  | subset (part : SubsetPart) (key : SubsetKey)
  | page (id : Id .page)
  | checkbox (id : Id .formWidget)
  | annot (id : Id .annot)
  | structureItem (id : Id .structureItem)

namespace SubsetPart

def name : SubsetPart → String
  | .program => "subset font data"
  | .descriptor => "subset font descriptor"
  | .toUnicode => "subset cmap"
  | .cidFont => "subset cid font"
  | .font => "subset font"

end SubsetPart

namespace Record

def kind : Record → String
  | .reserved => "placeholder"
  | .object _ => "final"
  | .stored .. => "final"
  | .deflated .. => "deflate"
  | .subset part _ => part.name
  | .page _ => "page"
  | .checkbox _ => "checkbox widget"
  | .annot _ => "annotation"
  | .structureItem _ => "structure item"

def stream (compress : Bool) (entries : List Entry) (data : Bytes) : Record :=
  if compress then .deflated entries data else .stored entries none data

def data? : Record → Option Bytes
  | .stored _ _ data => some data
  | .deflated _ data => some data
  | _ => none

end Record

structure Store where
  records : Array Record

namespace Store

def empty : Store :=
  ⟨#[]⟩

def size (store : Store) : Nat :=
  store.records.size

def isEmpty (store : Store) : Bool :=
  store.records.isEmpty

/-- The next object number, and the store with a record under it. -/
def allocate (store : Store) (record : Record) : Ref × Store :=
  (.first (store.size + 1), ⟨store.records.push record⟩)

def reserve (store : Store) : Ref × Store :=
  store.allocate .reserved

/-- The record of an object. Number 0 heads the free list and has none. -/
def get? (store : Store) (target : Ref) : Option Record :=
  match target.number with
  | 0 => none
  | index + 1 => store.records[index]?

def isReserved (store : Store) (target : Ref) : Bool :=
  match store.get? target with
  | some .reserved => true
  | _ => false

/-- Fills a reserved place; the flag says whether there was one. -/
def fill (store : Store) (target : Ref) (record : Record) : Bool × Store :=
  if store.isReserved target then
    (true, ⟨store.records.setIfInBounds (target.number - 1) record⟩)
  else (false, store)

def toList (store : Store) : List (Ref × Record) :=
  store.records.toList.zipIdx.map fun (record, index) => (.first (index + 1), record)

@[simp] theorem size_allocate (store : Store) (record : Record) :
    (store.allocate record).2.size = store.size + 1 := by
  simp [allocate, size]

@[simp] theorem get?_allocate_new (store : Store) (record : Record) :
    (store.allocate record).2.get? (store.allocate record).1 = some record := by
  simp [allocate, get?, size, Ref.first]

end Store

end Folio
