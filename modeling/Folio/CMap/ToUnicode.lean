import Folio.Text.Utf16

/-!
Maps from one-byte codes back to text. Consecutive codes with consecutive characters share a range,
and every section of the map has at most a hundred lines.
-/

namespace Folio

structure ToUnicode where
  chars : List (UInt8 × List Char)
  /-- First and last code of a range, and the character of the first. -/
  ranges : List (UInt8 × UInt8 × Char)
deriving DecidableEq, Repr

namespace ToUnicode

/-- A code with its text, and how many codes after it go on with the characters after it. -/
structure Run where
  code : Nat
  text : List Char
  more : Nat
deriving DecidableEq, Repr

/--
Whether a code with the text `after` can follow one with the text `before` in a range: both are
single characters of the first plane, and stepping from one to the other leaves the high byte.
-/
def links : (before after : List Char) → Bool
  | [first], [second] =>
      first.toNat + 1 == second.toNat && second.toNat < 0x10000 && first.toNat % 256 != 255
  | _, _ => false

/-- The longest runs of codes from `code` on; codes without text are left out. -/
def runs : (code : Nat) → List (List Char) → List Run
  | _, [] => []
  | code, [] :: rest => runs (code + 1) rest
  | code, text :: rest =>
      match runs (code + 1) rest with
      | [] => [⟨code, text, 0⟩]
      | next :: others =>
          if next.code = code + 1 && links text next.text then
            ⟨code, text, next.more + 1⟩ :: others
          else ⟨code, text, 0⟩ :: next :: others

/-- The map under which code `p` has the `p`-th text; texts beyond the last code are left out. -/
def ofTexts (texts : List (List Char)) : ToUnicode :=
  let found := runs 0 (texts.take 256)
  ⟨(found.filter fun run => run.more == 0).map fun run => (UInt8.ofNat run.code, run.text),
    (found.filter fun run => run.more != 0).map fun run =>
      (UInt8.ofNat run.code, UInt8.ofNat (run.code + run.more), run.text.headD ' ')⟩

def hexCode (code : UInt8) : Bytes :=
  0x3C :: hexByte code ++ [0x3E]

def hexText (text : List Char) : Bytes :=
  0x3C :: ((text.flatMap Utf16.units).flatMap wordBytes).flatMap hexByte ++ [0x3E]

def charLine (char : UInt8 × List Char) : Bytes :=
  hexCode char.1 ++ 32 :: hexText char.2 ++ [10]

def rangeLine (range : UInt8 × UInt8 × Char) : Bytes :=
  hexCode range.1 ++ 32 :: hexCode range.2.1 ++ 32 :: hexText [range.2.2] ++ [10]

def pieces {α : Type} (size : Nat) : (count : Nat) → List α → List (List α)
  | 0, _ => []
  | _, [] => []
  | count + 1, items => items.take size :: pieces size count (items.drop size)

/-- Sections of at most a hundred lines, each with its count of lines and its keywords. -/
def sections {α : Type} (keyword : Bytes) (line : α → Bytes) (items : List α) : Bytes :=
  (pieces 100 items.length items).flatMap fun piece =>
    decimal piece.length ++ utf8 " begin" ++ keyword ++ 10 :: piece.flatMap line ++
      utf8 "end" ++ keyword ++ [10]

def opening : Bytes :=
  utf8 "/CIDInit /ProcSet findresource begin\n12 dict begin\nbegincmap\n/CIDSystemInfo <<\n" ++
    utf8 "  /Registry (Adobe)\n  /Ordering (UCS)\n  /Supplement 0\n>> def\n" ++
    utf8 "/CMapName /Adobe-Identity-UCS def\n/CMapType 2 def\n" ++
    utf8 "1 begincodespacerange\n<00> <FF>\nendcodespacerange\n"

def closing : Bytes :=
  utf8 "endcmap\nCMapName currentdict /CMap defineresource pop\nend\nend\n"

def bytes (map : ToUnicode) : Bytes :=
  opening ++ sections (utf8 "bfchar") charLine map.chars ++
    sections (utf8 "bfrange") rangeLine map.ranges ++ closing

end ToUnicode

end Folio
