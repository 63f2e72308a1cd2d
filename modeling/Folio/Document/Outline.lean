import Folio.Dictionary.Outline
import Folio.Document.Page

/-!
The objects of an outline. The root comes first and the items follow it in the order in which they
were added, so the number of an item tells its object.
-/

namespace Folio

namespace Document

/-- The items below a parent, or at the top, in order. -/
def outlineChildren (doc : Document) (parent : Option (Id .outline)) : List (Id .outline) :=
  (doc.outline.toList.filter fun (_, item) => item.parent == parent).map Prod.fst

/-- Adds an item to a family if its parent belongs to it. -/
def joinFamily (family : List (Id .outline)) (entry : Id .outline × OutlineItem) :
    List (Id .outline) :=
  if entry.2.parent.any family.contains then family ++ [entry.1] else family

/-- An item and all items below it; an item comes after its parent. -/
def outlineFamily (doc : Document) (id : Id .outline) : List (Id .outline) :=
  doc.outline.toList.foldl joinFamily [id]

def outlineRef (root : Ref) (id : Id .outline) : Ref :=
  .first (root.number + 1 + id.index)

def outlineEntry (doc : Document) (root : Ref) (id : Id .outline) (item : OutlineItem) :
    Except Error Dictionary.OutlineItem := do
  let siblings := doc.outlineChildren item.parent
  let children := doc.outlineChildren (some id)
  let page ← doc.pageRef item.page
  return {
    title := textString item.title
    parent := (item.parent.map (outlineRef root)).getD root
    prev := ((siblings.filter (·.index < id.index)).getLast?).map (outlineRef root)
    next := ((siblings.filter (id.index < ·.index)).head?).map (outlineRef root)
    first := children.head?.map (outlineRef root)
    last := children.getLast?.map (outlineRef root)
    count := (doc.outlineFamily id).length - 1
    page := page }

def fillOutlineItem (root : Ref) (entry : Id .outline × OutlineItem) : Build Unit := do
  let found ← Build.ofExcept ((← get).outlineEntry root entry.1 entry.2)
  Build.fill (outlineRef root entry.1) (.object found.value)

def fillOutlineRoot (root : Ref) : Build (Option Ref) := do
  let doc ← get
  let top := doc.outlineChildren none
  match top.head?, top.getLast? with
  | some first, some last =>
      let outline : Dictionary.Outline :=
        ⟨outlineRef root first, outlineRef root last, doc.outline.size⟩
      Build.fill root (.object outline.value)
      return some root
  | _, _ => return none

def closeOutline : Build (Option Ref) := do
  let entries := (← get).outline.toList
  if entries.isEmpty then return none
  let root ← Build.reserve
  entries.forM fun _ => discard Build.reserve
  entries.forM (fillOutlineItem root)
  fillOutlineRoot root

end Document

end Folio
