import Folio.Color
import Folio.Dictionary.Catalog
import Folio.Dictionary.Page
import Folio.Font.Face
import Folio.Font.Slots
import Folio.Registry
import Folio.StructureType

/-!
What a document keeps of each resource beside its object.
-/

namespace Folio

structure SubsetObjects where
  program : Ref
  descriptor : Ref
  toUnicode : Ref
  cidFont : Ref
  font : Ref
deriving DecidableEq, Repr

structure FontItem where
  face : Face
  slots : Slots
  subsets : List SubsetObjects

inductive AnnotationKind where
  | text (contents : String) (isOpen : Bool)
  | fileAttachment (file : Id .embeddedFile) (description : Option String)
  | link (uri : String)
deriving DecidableEq, Repr

structure AnnotationItem where
  object : Ref
  rect : Rect Single
  kind : AnnotationKind
  /-- The colour of icon or border, not yet in the output space. -/
  color : Option Color
deriving DecidableEq, Repr

/-- A form field with two states, each of which has a form for its appearance. -/
structure Checkbox where
  rect : Rect Single
  on : Id .formXObject
  off : Id .formXObject
  name : String
  checked : Bool
deriving DecidableEq, Repr

structure CheckboxItem where
  object : Ref
  checkbox : Checkbox
deriving DecidableEq, Repr

structure EmbeddedFile where
  name : String
  filespec : Ref
deriving DecidableEq, Repr

structure StructureAttributes where
  title : Option String
  alternate : Option String
  actualText : Option String
  language : Option String
deriving DecidableEq, Repr

structure StructureItem where
  object : Ref
  kind : StructureType
  parent : Option (Id .structureItem)
  attributes : StructureAttributes
deriving DecidableEq, Repr

structure PageItem where
  object : Ref
  resources : Ref
  contents : Ref
  group : Ref
  widgets : List (Id .formWidget)
  annotations : List (Id .annot)
  marked : List (Id .structureItem)
  /-- The key of the page in the parent tree, for a page with marked content. -/
  structParents : Option Nat
  transition : Option Transition
  boxes : PageBoxes
deriving DecidableEq, Repr

structure OutlineItem where
  title : String
  page : Id .page
  parent : Option (Id .outline)
deriving DecidableEq, Repr

/-- The conditions of printing that a document is meant for. -/
structure OutputIntent where
  subtype : OutputIntentSubtype
  identifier : String
  condition : Option String
  profile : Option (Id .iccColorSpace)
deriving DecidableEq, Repr

end Folio
