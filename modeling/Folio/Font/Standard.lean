/-!
The fourteen fonts that every reader of documents provides.
-/

namespace Folio

inductive StandardFont where
  | timesRoman
  | timesBold
  | timesItalic
  | timesBoldItalic
  | helvetica
  | helveticaBold
  | helveticaOblique
  | helveticaBoldOblique
  | courier
  | courierBold
  | courierOblique
  | courierBoldOblique
  | symbol
  | zapfDingbats
deriving DecidableEq, Repr

namespace StandardFont

def baseFont : StandardFont → String
  | .timesRoman => "Times-Roman"
  | .timesBold => "Times-Bold"
  | .timesItalic => "Times-Italic"
  | .timesBoldItalic => "Times-BoldItalic"
  | .helvetica => "Helvetica"
  | .helveticaBold => "Helvetica-Bold"
  | .helveticaOblique => "Helvetica-Oblique"
  | .helveticaBoldOblique => "Helvetica-BoldOblique"
  | .courier => "Courier"
  | .courierBold => "Courier-Bold"
  | .courierOblique => "Courier-Oblique"
  | .courierBoldOblique => "Courier-BoldOblique"
  | .symbol => "Symbol"
  | .zapfDingbats => "ZapfDingbats"

def all : List StandardFont :=
  [.timesRoman, .timesBold, .timesItalic, .timesBoldItalic, .helvetica, .helveticaBold,
    .helveticaOblique, .helveticaBoldOblique, .courier, .courierBold, .courierOblique,
    .courierBoldOblique, .symbol, .zapfDingbats]

def ofBaseFont? (name : String) : Option StandardFont :=
  all.find? fun font => font.baseFont == name

end StandardFont

end Folio
