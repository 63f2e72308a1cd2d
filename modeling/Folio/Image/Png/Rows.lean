import Folio.Image.Png.Header

/-!
From the data of an image to its pixels: rows are stored as differences to their neighbours, and
those of an interlaced image in seven passes.
-/

namespace Folio

namespace Png

/-- What a byte is stored as the difference to. -/
inductive Filter where
  | none
  | left
  | above
  | average
  | nearest
deriving DecidableEq, Repr

namespace Filter

def ofByte? (byte : UInt8) : Option Filter :=
  if byte = 0 then some .none
  else if byte = 1 then some .left
  else if byte = 2 then some .above
  else if byte = 3 then some .average
  else if byte = 4 then some .nearest
  else Option.none

/-- The neighbour that is nearest to `left + above - corner`; the first of them where two are. -/
def nearestOf (left above corner : UInt8) : UInt8 :=
  let distance (neighbour : UInt8) :=
    ((left.toNat + above.toNat : Int) - corner.toNat - neighbour.toNat).natAbs
  if distance left ≤ distance above ∧ distance left ≤ distance corner then left
  else if distance above ≤ distance corner then above
  else corner

def predict (filter : Filter) (left above corner : UInt8) : UInt8 :=
  match filter with
  | .none => 0
  | .left => left
  | .above => above
  | .average => UInt8.ofNat ((left.toNat + above.toNat) / 2)
  | .nearest => nearestOf left above corner

/-- The bytes of a row below `upper`; the left neighbour of a byte is `size` bytes before it. -/
def restore (filter : Filter) (size : Nat) (upper : Array UInt8) (row : Bytes) : Array UInt8 :=
  row.foldl (fun restored byte =>
    let place := restored.size
    let before (bytes : Array UInt8) := if place < size then 0 else bytes.getD (place - size) 0
    restored.push (byte + filter.predict (before restored) (upper.getD place 0) (before upper)))
    #[]

end Filter

def Header.rowBytes (header : Header) (width : Nat) : Nat :=
  (width * header.colorType.components * header.depth + 7) / 8

def Header.pixelBytes (header : Header) : Nat :=
  max 1 (header.colorType.components * header.depth / 8)

def samplesOf (depth : Nat) (row : Bytes) : List Nat :=
  if depth = 16 then (groupsOf 2 (row.length / 2) row).map bigEndian
  else
    row.flatMap fun byte => (List.range (8 / depth)).map fun place =>
      (byte.toNat >>> (8 - depth * (place + 1))) % (1 <<< depth)

abbrev Pixels := Array (Array (List Nat))

def rows? (header : Header) (width : Nat) : (height : Nat) → (upper : Array UInt8) → Pixels →
    Bytes → Option (Pixels × Bytes)
  | 0, _, rows, bytes => some (rows, bytes)
  | _ + 1, _, _, [] => none
  | height + 1, upper, rows, method :: bytes => do
      let filter ← Filter.ofByte? method
      let stored ← slice? bytes 0 (header.rowBytes width)
      let row := filter.restore header.pixelBytes upper stored
      let pixels := groupsOf header.colorType.components width (samplesOf header.depth row.toList)
      rows? header width height row (rows.push pixels.toArray)
        (bytes.drop (header.rowBytes width))

/-- The pixels that are stored together: where the first of them is, and steps to the next. -/
structure Pass where
  column : Nat
  row : Nat
  columnStep : Nat
  rowStep : Nat
deriving DecidableEq, Repr

namespace Pass

def countOf (size start step : Nat) : Nat :=
  (size - start + step - 1) / step

def pixel? (pass : Pass) (pixels : Pixels) (row column : Nat) : Option (List Nat) := do
  if row % pass.rowStep = pass.row ∧ column % pass.columnStep = pass.column then
    (← pixels[row / pass.rowStep]?)[column / pass.columnStep]?
  else none

end Pass

def Header.passes (header : Header) : List Pass :=
  if header.interlaced then
    [⟨0, 0, 8, 8⟩, ⟨4, 0, 8, 8⟩, ⟨0, 4, 4, 8⟩, ⟨2, 0, 4, 4⟩, ⟨0, 2, 2, 4⟩, ⟨1, 0, 2, 2⟩,
      ⟨0, 1, 1, 2⟩]
  else [⟨0, 0, 1, 1⟩]

def Header.passSize (header : Header) (pass : Pass) : Nat × Nat :=
  (Pass.countOf header.width pass.column pass.columnStep,
    Pass.countOf header.height pass.row pass.rowStep)

/--
How much data is asked for. A row of a pass without columns counts as one byte, though it has none.
-/
def Header.dataLength (header : Header) : Nat :=
  header.passes.foldl (fun length pass =>
    let (width, height) := header.passSize pass
    length + (1 + header.rowBytes width) * height) 0

def passes? (header : Header) : List Pass → Bytes → Option (List (Pass × Pixels))
  | [], _ => some []
  | pass :: passes, bytes => do
      let (width, height) := header.passSize pass
      let (rows, bytes) ←
        if width = 0 then some (#[], bytes) else rows? header width height #[] #[] bytes
      some ((pass, rows) :: (← passes? header passes bytes))

def pixels? (header : Header) (data : Bytes) : Option (List (List Nat)) := do
  let passes ← passes? header header.passes data
  some ((List.range header.height).flatMap fun row => (List.range header.width).map fun column =>
    (passes.findSome? fun (pass, pixels) => pass.pixel? pixels row column).getD [])

end Png

end Folio
