import Folio.Value

/-!
Rectangles and transformations.
-/

namespace Folio

/-- A rectangle between its lower left and its upper right corner. -/
structure Rect (α : Type) where
  left : α
  bottom : α
  right : α
  top : α
deriving DecidableEq, Repr

namespace Rect

def toList {α : Type} (rect : Rect α) : List α :=
  [rect.left, rect.bottom, rect.right, rect.top]

def ofSize (width height : Single) : Rect Single :=
  ⟨0, 0, width, height⟩

def a4 : Rect Single :=
  ofSize 595.276 841.89

def width (rect : Rect Single) : Single :=
  rect.right - rect.left

def height (rect : Rect Single) : Single :=
  rect.top - rect.bottom

def value (rect : Rect Single) : Value :=
  .reals rect.toList

def wholeValue (rect : Rect Int) : Value :=
  .arr (rect.toList.map .int)

end Rect

/-- The transformation that takes `(x, y)` to `(a x + c y + e, b x + d y + f)`. -/
structure Matrix where
  a : Single
  b : Single
  c : Single
  d : Single
  e : Single
  f : Single
deriving DecidableEq, Repr

namespace Matrix

def scale (x y : Single) : Matrix :=
  ⟨x, 0, 0, y, 0, 0⟩

def identity : Matrix :=
  scale 1 1

def value (matrix : Matrix) : Value :=
  .reals [matrix.a, matrix.b, matrix.c, matrix.d, matrix.e, matrix.f]

end Matrix

end Folio
