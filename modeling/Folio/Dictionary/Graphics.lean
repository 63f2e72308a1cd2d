import Folio.Dictionary.Color
import Folio.Geometry

/-!
Functions, shadings, patterns and forms.
-/

namespace Folio

namespace Dictionary

inductive Function where
  /-- Maps `x` to `c0 + x ^ n (c1 - c0)`. -/
  | exponential (domain c0 c1 : List Single) (n : Single)
  | stitching (domain : List Single) (functions : List Ref) (bounds encode : List Single)
deriving DecidableEq, Repr

def Function.value : Function → Value
  | .exponential domain c0 c1 n =>
      .dict [.field "FunctionType" (.nat 2), .field "Domain" (.reals domain),
        .field "C0" (.reals c0), .field "C1" (.reals c1), .field "N" (.real n)]
  | .stitching domain functions bounds encode =>
      .dict [.field "FunctionType" (.nat 3), .field "Domain" (.reals domain),
        .field "Functions" (.refs functions), .field "Bounds" (.reals bounds),
        .field "Encode" (.reals encode)]

structure Shading where
  shadingType : Nat
  space : ColorSpace
  coords : List Single
  function : Ref
  extend : List Bool
deriving DecidableEq, Repr

def Shading.value (shading : Shading) : Value :=
  .dict [.field "ShadingType" (.nat shading.shadingType),
    .field "ColorSpace" shading.space.value, .field "Coords" (.reals shading.coords),
    .field "Function" (.ref shading.function),
    .field "Extend" (.arr (shading.extend.map .bool))]

def shadingPattern (shading : Ref) (matrix : Matrix) : Value :=
  .dict [.kind "Pattern", .field "PatternType" (.nat 2), .field "Shading" (.ref shading),
    .field "Matrix" matrix.value]

structure TilingPattern where
  paintType : Nat
  tilingType : Nat
  box : Rect Single
  xStep : Single
  yStep : Single
  resources : Ref
  matrix : Matrix
deriving DecidableEq, Repr

def TilingPattern.entries (pattern : TilingPattern) : List Entry :=
  [.kind "Pattern", .field "PatternType" (.nat 1), .field "PaintType" (.nat pattern.paintType),
    .field "TilingType" (.nat pattern.tilingType), .field "BBox" pattern.box.value,
    .field "XStep" (.real pattern.xStep), .field "YStep" (.real pattern.yStep),
    .field "Resources" (.ref pattern.resources), .field "Matrix" pattern.matrix.value]

structure Form where
  box : Rect Single
  matrix : Option Matrix
  resources : Option Ref
deriving DecidableEq, Repr

def Form.entries (form : Form) : List Entry :=
  [.kind "XObject", .field "Subtype" (.name "Form"), .field "BBox" form.box.value] ++
    Entry.optional "Matrix" (form.matrix.map Matrix.value) ++
    Entry.optional "Resources" (form.resources.map .ref)

end Dictionary

end Folio
