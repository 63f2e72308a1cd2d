import Folio.Image.Pixmap
import Folio.Single
import Folio.Text.Lossy

/-!
The portable map formats `P1` to `P7`: headers of words or of lines, then samples as words or as
bytes.
-/

namespace Folio

namespace Pnm

def isBlank (byte : UInt8) : Bool :=
  byte == 9 || byte == 10 || byte == 11 || byte == 12 || byte == 13 || byte == 32

def number? (limit : Nat) (digits : Bytes) : Option Nat :=
  if digits.isEmpty || digits.any fun digit => digit < 48 || 57 < digit then none
  else
    let value := digits.foldl (fun value digit => value * 10 + (digit.toNat - 48)) 0
    if value ≤ limit then some value else none

/--
The next word of a header and what follows the blank after it. A comment runs from a number sign to
the end of the line, which belongs to the comment.
-/
def headerWord? : (inText : Bool) → (word : Bytes) → Bytes → Option (Bytes × Bytes)
  | _, word, [] => if word.isEmpty then none else some (word.reverse, [])
  | inText, word, byte :: rest =>
      let shown := inText && byte != 0x23
      let inText := shown || byte == 10 || byte == 13
      if !shown then headerWord? inText word rest
      else if isBlank byte then
        if word.isEmpty then headerWord? inText word rest else some (word.reverse, rest)
      else if 0x80 ≤ byte then none
      else headerWord? inText (byte :: word) rest

def headerNumber? (bytes : Bytes) : Option (Nat × Bytes) := do
  let (word, rest) ← headerWord? true [] bytes
  let value ← number? 0xFFFFFFFF word
  some (value, rest)

/-- The next word of the samples and what follows the blank after it. -/
def sampleWord (bytes : Bytes) : Bytes × Bytes :=
  let start := bytes.dropWhile isBlank
  (start.takeWhile fun byte => !isBlank byte, (start.dropWhile fun byte => !isBlank byte).drop 1)

def wordSamples? (limit : Nat) : (count : Nat) → Bytes → Option (List Nat)
  | 0, _ => some []
  | count + 1, bytes => do
      let (word, rest) := sampleWord bytes
      let value ← number? limit word
      let values ← wordSamples? limit count rest
      some (value :: values)

/-- Takes `count` samples, written as single digits; one is black. -/
def bitSamples? : (count : Nat) → Bytes → Option (List Nat)
  | 0, _ => some []
  | _ + 1, [] => none
  | count + 1, byte :: rest =>
      if isBlank byte then bitSamples? (count + 1) rest
      else if byte = 48 then (bitSamples? count rest).map (255 :: ·)
      else if byte = 49 then (bitSamples? count rest).map (0 :: ·)
      else none

def byteSamples? (count : Nat) (bytes : Bytes) : Option (List Nat) :=
  (slice? bytes 0 count).map fun found => found.map UInt8.toNat

def wideSamples? (count : Nat) (bytes : Bytes) : Option (List Nat) :=
  (slice? bytes 0 (2 * count)).map fun found =>
    (groupsOf 2 count found).map bigEndian

/-- The first `count` bits, most significant first; a set bit is black. -/
def bitsOf (count : Nat) (bytes : Bytes) : List Nat :=
  (bytes.flatMap fun byte => (List.range 8).map fun place =>
    if (byte.toNat >>> (7 - place)) % 2 = 1 then 0 else 255).take count

def packedSamples? (width : Nat) : (height : Nat) → Bytes → Option (List Nat)
  | 0, _ => some []
  | height + 1, bytes => do
      let size := (width + 7) / 8
      let row ← slice? bytes 0 size
      let rows ← packedSamples? width height (bytes.drop size)
      some (bitsOf width row ++ rows)

/-- Brings a sample of a scale that ends at `largest` to the scale that ends at `target`. -/
def rescale (largest target : Nat) (sample : Nat) : Nat :=
  if largest = target then sample
  else
    (Single.ofInt sample * (Single.ofInt target / Single.ofInt largest)).roundClamped 0 target
      |>.toNat

def finish (wide : Bool) (largest : Nat) (samples : List Nat) : Bytes :=
  if wide then samples.map fun sample => Pixmap.narrow (rescale largest 0xFFFF sample)
  else samples.map fun sample => UInt8.ofNat (rescale largest 0xFF sample)

def bitmap? (text : Bool) (bytes : Bytes) : Option Pixmap := do
  let (width, bytes) ← headerNumber? bytes
  let (height, bytes) ← headerNumber? bytes
  let samples ←
    if text then bitSamples? (width * height) bytes else packedSamples? width height bytes
  some ⟨width, height, .gray, true, samples.map UInt8.ofNat⟩

def samples? (text wide : Bool) (count : Nat) (bytes : Bytes) : Option (List Nat) :=
  if text then wordSamples? (if wide then 0xFFFF else 0xFF) count bytes
  else if wide then wideSamples? count bytes
  else byteSamples? count bytes

def map? (text : Bool) (channels : Channels) (bytes : Bytes) : Option Pixmap := do
  let (width, bytes) ← headerNumber? bytes
  let (height, bytes) ← headerNumber? bytes
  let (largest, bytes) ← headerNumber? bytes
  if largest = 0 ∨ 0xFFFF < largest then none
  else
    let wide := decide (0xFF < largest)
    let samples ← samples? text wide (width * height * channels.count) bytes
    some ⟨width, height, channels, false, finish wide largest samples⟩

structure LineHeader where
  width : Option Nat
  height : Option Nat
  depth : Option Nat
  largest : Option Nat
  tuple : Option Bytes
deriving DecidableEq, Repr

def trim (bytes : Bytes) : Bytes :=
  ((bytes.dropWhile isBlank).reverse.dropWhile isBlank).reverse

/-- Sets a field that was not set before; a plus sign may precede its digits. -/
def setOnce? (held : Option Nat) (rest : Bytes) : Option (Option Nat) :=
  match held, trim rest with
  | some _, _ => none
  | none, 0x2B :: digits => (number? 0xFFFFFFFF digits).map some
  | none, digits => (number? 0xFFFFFFFF digits).map some

def LineHeader.line? (header : LineHeader) (key rest : Bytes) : Option LineHeader :=
  if key = utf8 "WIDTH" then
    (setOnce? header.width rest).map fun width => { header with width := width }
  else if key = utf8 "HEIGHT" then
    (setOnce? header.height rest).map fun height => { header with height := height }
  else if key = utf8 "DEPTH" then
    (setOnce? header.depth rest).map fun depth => { header with depth := depth }
  else if key = utf8 "MAXVAL" then
    (setOnce? header.largest rest).map fun largest => { header with largest := largest }
  else if key = utf8 "TUPLTYPE" then
    let word := trim rest
    some { header with tuple := some (match header.tuple with
      | none => word
      | some held => held ++ 32 :: word) }
  else none

def lineHeader? : (count : Nat) → LineHeader → Bytes → Option (LineHeader × Bytes)
  | 0, _, _ => none
  | _ + 1, _, [] => none
  | count + 1, header, byte :: bytes => do
      let line := (byte :: bytes).takeWhile (· != 10)
      let rest := (byte :: bytes).drop (line.length + 1)
      if (Utf8.decode? line).isNone then none
      else if byte = 0x23 then lineHeader? count header rest
      else if line.any fun byte => 0x80 ≤ byte then none
      else
        let key := line.takeWhile fun byte => !isBlank byte
        if key = utf8 "ENDHDR" then some (header, rest)
        else
          let header ← header.line? key (line.drop key.length)
          lineHeader? count header rest

inductive Storage where
  | bit
  | byte
  | word
deriving DecidableEq, Repr

/--
The channels of a tuple and the storage of its samples. Without a tuple type samples are bytes,
whatever the largest one is. Gray levels of no depth are words.
-/
def tuple? (tuple : Option Bytes) (depth largest : Nat) : Option (Channels × Storage) :=
  let bits (channels : Channels) : Option (Channels × Storage) :=
    if depth = channels.count ∧ largest = 1 then some (channels, .bit) else none
  let levels (channels : Channels) : Option (Channels × Storage) :=
    if depth = channels.count ∧ largest ≤ 0xFF then some (channels, .byte)
    else if (depth = channels.count ∨ (channels = .gray ∧ depth = 0)) ∧ largest ≤ 0xFFFF then
      some (channels, .word)
    else none
  match tuple with
  | none =>
      if depth = 1 then some (.gray, .byte)
      else if depth = 2 then some (.grayAlpha, .byte)
      else if depth = 3 then some (.rgb, .byte)
      else if depth = 4 then some (.rgbAlpha, .byte)
      else none
  | some word =>
      if word = utf8 "BLACKANDWHITE" then bits .gray
      else if word = utf8 "BLACKANDWHITE_ALPHA" then bits .grayAlpha
      else if word = utf8 "GRAYSCALE" then levels .gray
      else if word = utf8 "GRAYSCALE_ALPHA" then levels .grayAlpha
      else if word = utf8 "RGB" then levels .rgb
      else if word = utf8 "RGB_ALPHA" then levels .rgbAlpha
      else none

def anyMap? (bytes : Bytes) : Option Pixmap := do
  let bytes ← match bytes with
    | 10 :: rest => some rest
    | _ => none
  let (header, bytes) ← lineHeader? bytes.length ⟨none, none, none, none, none⟩ bytes
  let width ← header.width
  let height ← header.height
  let depth ← header.depth
  let largest ← header.largest
  if largest = 0 then none
  else
    let (channels, storage) ← tuple? header.tuple depth largest
    let wide := storage == .word
    let samples ← samples? false wide (width * height * channels.count) bytes
    if storage = .bit ∧ samples.any (1 < ·) then none
    else
      some ⟨width, height, channels, storage == .bit && channels == .gray,
        finish wide largest samples⟩

def recognizes : Bytes → Bool
  | 0x50 :: digit :: _ => 0x31 ≤ digit && digit ≤ 0x37
  | _ => false

def decode? : Bytes → Option Pixmap
  | 0x50 :: digit :: rest =>
      if digit = 0x31 then bitmap? true rest
      else if digit = 0x32 then map? true .gray rest
      else if digit = 0x33 then map? true .rgb rest
      else if digit = 0x34 then bitmap? false rest
      else if digit = 0x35 then map? false .gray rest
      else if digit = 0x36 then map? false .rgb rest
      else if digit = 0x37 then anyMap? rest
      else none
  | _ => none

end Pnm

end Folio
