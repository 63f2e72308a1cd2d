import Folio.Value

/-!
The outline and its items.
-/

namespace Folio

namespace Dictionary

def destination (page : Ref) : Value :=
  .arr [.ref page, .name "XYZ", .null, .null, .null]

structure Outline where
  first : Ref
  last : Ref
  count : Nat
deriving DecidableEq, Repr

def Outline.value (outline : Outline) : Value :=
  .dict [.kind "Outlines", .field "First" (.ref outline.first), .field "Last" (.ref outline.last),
    .field "Count" (.nat outline.count)]

structure OutlineItem where
  title : Bytes
  parent : Ref
  prev : Option Ref
  next : Option Ref
  first : Option Ref
  last : Option Ref
  count : Nat
  page : Ref
deriving DecidableEq, Repr

def OutlineItem.value (item : OutlineItem) : Value :=
  .dict ([.field "Title" (.str item.title), .field "Parent" (.ref item.parent)] ++
    Entry.optional "Prev" (item.prev.map .ref) ++
    Entry.optional "Next" (item.next.map .ref) ++
    Entry.optional "First" (item.first.map .ref) ++
    Entry.optional "Last" (item.last.map .ref) ++
    (if 0 < item.count then [.field "Count" (.nat item.count)] else []) ++
    [.field "Dest" (destination item.page)])

end Dictionary

end Folio
