import Folio.Value

/-!
The structure tree, which tags the contents of pages.
-/

namespace Folio

namespace Dictionary

inductive StructKid where
  | element (target : Ref)
  | content (mark : Nat)
deriving DecidableEq, Repr

def StructKid.value : StructKid → Value
  | .element target => .ref target
  | .content mark => .nat mark

structure StructElement where
  kind : String
  parent : Ref
  page : Option Ref
  kids : List StructKid
  title : Option Bytes
  alternate : Option Bytes
  actualText : Option Bytes
  language : Option Bytes
deriving DecidableEq, Repr

def StructElement.value (element : StructElement) : Value :=
  .dict ([.kind "StructElem", .field "S" (.name element.kind),
      .field "P" (.ref element.parent)] ++
    Entry.optional "Pg" (element.page.map .ref) ++
    Entry.unlessEmpty "K" (element.kids.map StructKid.value) ++
    Entry.optional "T" (element.title.map .str) ++
    Entry.optional "Alt" (element.alternate.map .str) ++
    Entry.optional "ActualText" (element.actualText.map .str) ++
    Entry.optional "Lang" (element.language.map .str))

structure StructTreeRoot where
  kids : List Ref
  parentTree : Ref
  nextKey : Nat
deriving DecidableEq, Repr

def StructTreeRoot.value (root : StructTreeRoot) : Value :=
  .dict [.kind "StructTreeRoot", .field "K" (.refs root.kids),
    .field "ParentTree" (.ref root.parentTree), .field "ParentTreeNextKey" (.nat root.nextKey)]

end Dictionary

end Folio
