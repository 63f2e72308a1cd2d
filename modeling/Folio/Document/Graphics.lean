import Folio.Dictionary.Graphics
import Folio.Dictionary.GraphicsState
import Folio.Document

/-!
Graphics states, functions, shadings, patterns and forms of a document.
-/

namespace Folio

inductive FunctionSource where
  | exponential (domain c0 c1 : List Single) (n : Single)
  | stitching (domain : List Single) (functions : List (Id .function)) (bounds encode : List Single)
deriving DecidableEq, Repr

def FunctionSource.linear (c0 c1 : List Single) : FunctionSource :=
  .exponential [0, 1] c0 c1 1

inductive ShadingSpace where
  | device (space : DeviceSpace)
  | icc (id : Id .iccColorSpace)
  | lab (id : Id .labColorSpace)
  | separation (id : Id .separation)
deriving DecidableEq, Repr

/-- What a shading spreads between: two points, or two circles with their radii. -/
inductive ShadingGeometry where
  | axial (fromX fromY toX toY : Single)
  | radial (fromX fromY fromRadius toX toY toRadius : Single)
deriving DecidableEq, Repr

namespace ShadingGeometry

def code : ShadingGeometry → Nat
  | .axial .. => 2
  | .radial .. => 3

def coords : ShadingGeometry → List Single
  | .axial fromX fromY toX toY => [fromX, fromY, toX, toY]
  | .radial fromX fromY fromRadius toX toY toRadius =>
      [fromX, fromY, fromRadius, toX, toY, toRadius]

end ShadingGeometry

structure ShadingSource where
  geometry : ShadingGeometry
  space : ShadingSpace
  function : Id .function
  extendStart : Bool
  extendEnd : Bool
deriving DecidableEq, Repr

/-- A cell that is repeated over an area. -/
structure TilingSource where
  box : Rect Single
  xStep : Single
  yStep : Single
  colored : Bool
  resources : Bytes
  contents : Bytes
  matrix : Matrix
deriving DecidableEq, Repr

inductive PatternSource where
  | shading (shading : Id .shading) (matrix : Matrix)
  | tiling (cell : TilingSource)
deriving DecidableEq, Repr

structure FormSource where
  box : Rect Single
  matrix : Option Matrix
  resources : Bytes
  contents : Bytes
deriving DecidableEq, Repr

namespace Document

def addGraphicsState (state : GraphicsState) : Build (Id .graphicsState) := do
  let target ← Build.object state.value
  modifyGet fun doc =>
    let (id, graphicsStates) := doc.graphicsStates.register target
    (id, { doc with graphicsStates })

def lowerFunction (doc : Document) : FunctionSource → Except Error Dictionary.Function
  | .exponential domain c0 c1 n => .ok (.exponential domain c0 c1 n)
  | .stitching domain functions bounds encode => do
      return .stitching domain (← functions.mapM doc.functions.get) bounds encode

def addFunction (source : FunctionSource) : Build (Id .function) := do
  let function ← Build.ofExcept ((← get).lowerFunction source)
  let target ← Build.object function.value
  modifyGet fun doc =>
    let (id, functions) := doc.functions.register target
    (id, { doc with functions })

def shadingSpace (doc : Document) : ShadingSpace → Except Error Dictionary.ColorSpace
  | .device space => .ok space.colorSpace
  | .icc id => (doc.colors.profileRef id).map .ref
  | .lab id => (doc.colors.labRef id).map .ref
  | .separation id => (doc.colors.separationRef id).map .ref

def lowerShading (doc : Document) (source : ShadingSource) :
    Except Error Dictionary.Shading := do
  let space ← doc.shadingSpace source.space
  let function ← doc.functions.get source.function
  return ⟨source.geometry.code, space, source.geometry.coords, function,
    [source.extendStart, source.extendEnd]⟩

def addShading (source : ShadingSource) : Build (Id .shading) := do
  let shading ← Build.ofExcept ((← get).lowerShading source)
  let target ← Build.object shading.value
  modifyGet fun doc =>
    let (id, shadings) := doc.shadings.register target
    (id, { doc with shadings })

/-- Adds a cell: its resources, and the stream that paints it. -/
def tilingObject (cell : TilingSource) : Build Ref := do
  let resources ← Build.resources cell.resources
  let pattern : Dictionary.TilingPattern :=
    ⟨if cell.colored then 1 else 2, 1, cell.box, cell.xStep, cell.yStep, resources, cell.matrix⟩
  Build.stream pattern.entries cell.contents

def patternObject : PatternSource → Build Ref
  | .shading shading matrix => do
      let target ← Build.ofExcept ((← get).shadings.get shading)
      Build.object (Dictionary.shadingPattern target matrix)
  | .tiling cell => tilingObject cell

def addPattern (source : PatternSource) : Build (Id .pattern) := do
  let target ← patternObject source
  modifyGet fun doc =>
    let (id, patterns) := doc.patterns.register target
    (id, { doc with patterns })

/-- Adds a form. A form without a word on resources has none. -/
def addForm (source : FormSource) : Build (Id .formXObject) := do
  let resources ← if source.resources.isEmpty then pure none
    else some <$> Build.resources source.resources
  let form : Dictionary.Form := ⟨source.box, source.matrix, resources⟩
  let target ← Build.stream form.entries source.contents
  modifyGet fun doc =>
    let (id, forms) := doc.forms.register target
    (id, { doc with forms })

def graphicsStateRef (doc : Document) (id : Id .graphicsState) : Except Error Ref :=
  doc.graphicsStates.get id

def functionRef (doc : Document) (id : Id .function) : Except Error Ref :=
  doc.functions.get id

def shadingRef (doc : Document) (id : Id .shading) : Except Error Ref :=
  doc.shadings.get id

def patternRef (doc : Document) (id : Id .pattern) : Except Error Ref :=
  doc.patterns.get id

def formRef (doc : Document) (id : Id .formXObject) : Except Error Ref :=
  doc.forms.get id

end Document

end Folio
