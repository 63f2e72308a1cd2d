import Folio.Value

/-!
Colour spaces as they appear in dictionaries, and as objects of their own.
-/

namespace Folio

namespace Dictionary

/-- A device space, or a reference to a space that is an object of its own. -/
inductive ColorSpace where
  | gray
  | rgb
  | cmyk
  | ref (target : Ref)
deriving DecidableEq, Repr

def ColorSpace.value : ColorSpace → Value
  | .gray => .name "DeviceGray"
  | .rgb => .name "DeviceRGB"
  | .cmyk => .name "DeviceCMYK"
  | .ref target => .ref target

structure LabParams where
  white : List Single
  black : Option (List Single)
  range : List Single
deriving DecidableEq, Repr

namespace LabParams

def standard : LabParams :=
  ⟨[0.9505, 1.0, 1.0890], none, [-128, 127, -128, 127]⟩

def value (params : LabParams) : Value :=
  .dict ([.field "WhitePoint" (.reals params.white)] ++
    Entry.optional "BlackPoint" (params.black.map .reals) ++
    [.field "Range" (.reals params.range)])

end LabParams

/-- Colour spaces that are objects of their own. -/
inductive ColorSpaceFamily where
  | iccBased (stream : Ref)
  | lab (params : LabParams)
  /-- A colorant, the space that stands in for it and the function that maps tints to it. -/
  | separation (name : Name) (alternate : ColorSpace) (tint : Ref)
deriving DecidableEq, Repr

def ColorSpaceFamily.value : ColorSpaceFamily → Value
  | .iccBased stream => .arr [.name "ICCBased", .ref stream]
  | .lab params => .arr [.name "Lab", params.value]
  | .separation name alternate tint =>
      .arr [.name "Separation", .name name, alternate.value, .ref tint]

end Dictionary

end Folio
