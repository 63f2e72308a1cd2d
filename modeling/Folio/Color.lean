import Folio.Dictionary.Color

/-!
Colours in device spaces, and their conversion without calibration.
-/

namespace Folio

inductive DeviceSpace where
  | gray
  | rgb
  | cmyk
deriving DecidableEq, Repr

namespace DeviceSpace

def components : DeviceSpace → Nat
  | .gray => 1
  | .rgb => 3
  | .cmyk => 4

def name : DeviceSpace → String
  | .gray => "Gray"
  | .rgb => "Rgb"
  | .cmyk => "Cmyk"

def colorSpace : DeviceSpace → Dictionary.ColorSpace
  | .gray => .gray
  | .rgb => .rgb
  | .cmyk => .cmyk

end DeviceSpace

/-- A colour in a device space; its components are meant to lie between zero and one. -/
inductive Color where
  | gray (level : Single)
  | rgb (red green blue : Single)
  | cmyk (cyan magenta yellow black : Single)
deriving DecidableEq, Repr

namespace Color

def space : Color → DeviceSpace
  | .gray .. => .gray
  | .rgb .. => .rgb
  | .cmyk .. => .cmyk

def components : Color → List Single
  | .gray level => [level]
  | .rgb red green blue => [red, green, blue]
  | .cmyk cyan magenta yellow black => [cyan, magenta, yellow, black]

def luminance (red green blue : Single) : Single :=
  0.3 * red + 0.59 * green + 0.11 * blue

/-- Four inks for three primaries: black takes what all of the others share. -/
def separate (red green blue : Single) : Color :=
  let black := 1 - (red.maximum green).maximum blue
  if Single.atMost 1 black then .cmyk 0 0 0 1
  else
    let rest := 1 - black
    .cmyk ((1 - red - black) / rest) ((1 - green - black) / rest) ((1 - blue - black) / rest)
      black

def convertDevice (color : Color) (target : DeviceSpace) : Color :=
  match color, target with
  | .gray level, .gray => .gray (luminance level level level)
  | .gray level, .rgb => .rgb level level level
  | .gray level, .cmyk => .cmyk 0 0 0 (1 - level)
  | .rgb red green blue, .gray => .gray (luminance red green blue)
  | .rgb red green blue, .rgb => .rgb red green blue
  | .rgb red green blue, .cmyk => separate red green blue
  | .cmyk cyan magenta yellow black, .gray =>
      .gray (1 - (luminance cyan magenta yellow + black).minimum 1)
  | .cmyk cyan magenta yellow black, .rgb =>
      .rgb ((1 - cyan) * (1 - black)) ((1 - magenta) * (1 - black)) ((1 - yellow) * (1 - black))
  | .cmyk cyan magenta yellow black, .cmyk =>
      separate ((1 - cyan) * (1 - black)) ((1 - magenta) * (1 - black))
        ((1 - yellow) * (1 - black))

def convertWith (converter : Color → DeviceSpace → Color) (color : Color)
    (target : DeviceSpace) : Color :=
  if color.space = target then color else converter color target

end Color

end Folio
