import Folio.Value

/-!
Graphics states. Parameters that are not set are left out.
-/

namespace Folio

inductive LineCap where
  | butt
  | round
  | square
deriving DecidableEq, Repr

def LineCap.code : LineCap → Nat
  | .butt => 0
  | .round => 1
  | .square => 2

inductive LineJoin where
  | miter
  | round
  | bevel
deriving DecidableEq, Repr

def LineJoin.code : LineJoin → Nat
  | .miter => 0
  | .round => 1
  | .bevel => 2

inductive BlendMode where
  | normal
  | multiply
  | screen
  | overlay
  | darken
  | lighten
  | colorDodge
  | colorBurn
  | hardLight
  | softLight
  | difference
  | exclusion
  | hue
  | saturation
  | color
  | luminosity
deriving DecidableEq, Repr

namespace BlendMode

def name : BlendMode → String
  | .normal => "Normal"
  | .multiply => "Multiply"
  | .screen => "Screen"
  | .overlay => "Overlay"
  | .darken => "Darken"
  | .lighten => "Lighten"
  | .colorDodge => "ColorDodge"
  | .colorBurn => "ColorBurn"
  | .hardLight => "HardLight"
  | .softLight => "SoftLight"
  | .difference => "Difference"
  | .exclusion => "Exclusion"
  | .hue => "Hue"
  | .saturation => "Saturation"
  | .color => "Color"
  | .luminosity => "Luminosity"

def all : List BlendMode :=
  [.normal, .multiply, .screen, .overlay, .darken, .lighten, .colorDodge, .colorBurn, .hardLight,
    .softLight, .difference, .exclusion, .hue, .saturation, .color, .luminosity]

end BlendMode

/-- Lengths of alternating dashes and gaps, and where in them a line starts. -/
structure DashPattern where
  array : List Single
  phase : Single
deriving DecidableEq, Repr

def DashPattern.value (dash : DashPattern) : Value :=
  .arr [.reals dash.array, .real dash.phase]

structure GraphicsState where
  lineWidth : Option Single
  lineCap : Option LineCap
  lineJoin : Option LineJoin
  miterLimit : Option Single
  dash : Option DashPattern
  strokeAlpha : Option Single
  fillAlpha : Option Single
  blendMode : Option BlendMode
  overprintStroke : Option Bool
  overprintFill : Option Bool
  overprintMode : Option Nat
deriving DecidableEq, Repr

def GraphicsState.value (state : GraphicsState) : Value :=
  .dict ([.kind "ExtGState"] ++
    Entry.optional "LW" (state.lineWidth.map .real) ++
    Entry.optional "LC" (state.lineCap.map fun cap => .nat cap.code) ++
    Entry.optional "LJ" (state.lineJoin.map fun join => .nat join.code) ++
    Entry.optional "ML" (state.miterLimit.map .real) ++
    Entry.optional "D" (state.dash.map DashPattern.value) ++
    Entry.optional "CA" (state.strokeAlpha.map .real) ++
    Entry.optional "ca" (state.fillAlpha.map .real) ++
    Entry.optional "BM" (state.blendMode.map fun mode => .name mode.name) ++
    Entry.optional "OP" (state.overprintStroke.map .bool) ++
    Entry.optional "op" (state.overprintFill.map .bool) ++
    Entry.optional "OPM" (state.overprintMode.map .nat))

end Folio
