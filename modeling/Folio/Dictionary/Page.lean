import Folio.Dictionary.Color
import Folio.Geometry

/-!
Pages and the page tree.
-/

namespace Folio

structure PageBoxes where
  media : Rect Single
  crop : Option (Rect Single)
  bleed : Option (Rect Single)
  trim : Option (Rect Single)
  art : Option (Rect Single)
deriving DecidableEq, Repr

namespace PageBoxes

def ofMedia (media : Rect Single) : PageBoxes :=
  ⟨media, none, none, none, none⟩

def standard : PageBoxes :=
  ofMedia .a4

def entries (boxes : PageBoxes) : List Entry :=
  [.field "MediaBox" boxes.media.value] ++
    Entry.optional "CropBox" (boxes.crop.map Rect.value) ++
    Entry.optional "BleedBox" (boxes.bleed.map Rect.value) ++
    Entry.optional "TrimBox" (boxes.trim.map Rect.value) ++
    Entry.optional "ArtBox" (boxes.art.map Rect.value)

end PageBoxes

/-- The visual effect of turning to a page. -/
inductive TransitionStyle where
  | split
  | blinds
  | box
  | wipe
  | dissolve
  | glitter
  | replace
  | fly
  | push
  | cover
  | uncover
  | fade
deriving DecidableEq, Repr

def TransitionStyle.name : TransitionStyle → String
  | .split => "Split"
  | .blinds => "Blinds"
  | .box => "Box"
  | .wipe => "Wipe"
  | .dissolve => "Dissolve"
  | .glitter => "Glitter"
  | .replace => "R"
  | .fly => "Fly"
  | .push => "Push"
  | .cover => "Cover"
  | .uncover => "Uncover"
  | .fade => "Fade"

inductive TransitionDimension where
  | horizontal
  | vertical
deriving DecidableEq, Repr

def TransitionDimension.name : TransitionDimension → String
  | .horizontal => "H"
  | .vertical => "V"

inductive TransitionMotion where
  | inward
  | outward
deriving DecidableEq, Repr

def TransitionMotion.name : TransitionMotion → String
  | .inward => "I"
  | .outward => "O"

structure Transition where
  style : TransitionStyle
  duration : Single
  dimension : Option TransitionDimension
  motion : Option TransitionMotion
  direction : Option Nat
deriving DecidableEq, Repr

def Transition.value (transition : Transition) : Value :=
  .dict ([.kind "Trans", .field "S" (.name transition.style.name),
      .field "D" (.real transition.duration)] ++
    Entry.optional "Dm" (transition.dimension.map fun dimension => .name dimension.name) ++
    Entry.optional "M" (transition.motion.map fun motion => .name motion.name) ++
    Entry.optional "Di" (transition.direction.map .nat))

namespace Dictionary

structure Page where
  parent : Ref
  contents : Ref
  resources : Ref
  group : Ref
  boxes : PageBoxes
  annotations : List Ref
  structParents : Option Nat
  transition : Option Transition
deriving DecidableEq, Repr

/-- A tagged page with annotations states that they are visited in structure order. -/
def Page.value (page : Page) : Value :=
  .dict ([.kind "Page", .field "Parent" (.ref page.parent)] ++ page.boxes.entries ++
    [.field "Resources" (.ref page.resources), .field "Contents" (.ref page.contents),
      .field "Group" (.ref page.group)] ++
    Entry.unlessEmpty "Annots" (page.annotations.map .ref) ++
    Entry.optional "StructParents" (page.structParents.map .nat) ++
    Entry.optional "Trans" (page.transition.map Transition.value) ++
    (if page.structParents.isSome && !page.annotations.isEmpty then
      [.field "Tabs" (.name "S")]
    else []))

def transparencyGroup (space : ColorSpace) : Value :=
  .dict [.kind "Group", .field "S" (.name "Transparency"), .field "CS" space.value]

def pages (kids : List Ref) : Value :=
  .dict [.kind "Pages", .field "Count" (.nat kids.length), .field "Kids" (.refs kids)]

end Dictionary

end Folio
