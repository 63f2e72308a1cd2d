import Folio.Proofs.CodeRuns
import Folio.Proofs.Reading.OneByte
import Folio.Proofs.Utf16

/-!
Maps from codes to text as a reader sees them.
-/

namespace Folio

open Reading

namespace ToUnicode

def textBytes (text : List Char) : Bytes :=
  (text.flatMap Utf16.units).flatMap wordBytes

def charCodes (char : UInt8 × List Char) : List Bytes :=
  [[char.1], textBytes char.2]

def rangeCodes (range : UInt8 × UInt8 × Char) : List Bytes :=
  [[range.1], [range.2.1], textBytes [range.2.2]]

def sectionTokens (part : Part) (count : Nat) (codes : List Bytes) : List Token :=
  [.word (decimal count), .word (utf8 "begin" ++ part.keyword)] ++
    (codes.map .hex ++ [.word (utf8 "end" ++ part.keyword)])

def sectionsTokens {α : Type} (part : Part) (codes : α → List Bytes) (items : List α) :
    List Token :=
  (pieces 100 items.length items).flatMap fun piece =>
    sectionTokens part piece.length (piece.flatMap codes)

theorem lines_white {white : UInt8} (blank : isWhite white) : Lines [white] [] := by
  intro tokens
  rw [Lexer.run_cons, Lexer.step, Lexer.stepBlank, if_pos blank, List.append_nil]
  rfl

theorem lines_hexCode (code : UInt8) : Lines (hexCode code) [.hex [code]] := by
  have lines := lines_hex hexPair_hexByte [code]
  rwa [List.flatMap_cons, List.flatMap_nil, List.append_nil] at lines

theorem lines_hexText (text : List Char) : Lines (hexText text) [.hex (textBytes text)] :=
  lines_hex hexPair_hexByte (textBytes text)

theorem lines_charLine (char : UInt8 × List Char) :
    Lines (charLine char) ((charCodes char).map .hex) := by
  have lines := (lines_hexCode char.1).append ((lines_white (by decide : isWhite 32)).append
    ((lines_hexText char.2).append (lines_white (by decide : isWhite 10))))
  rw [charLine, List.append_assoc]
  exact lines

theorem lines_rangeLine (range : UInt8 × UInt8 × Char) :
    Lines (rangeLine range) ((rangeCodes range).map .hex) := by
  have lines := (lines_hexCode range.1).append ((lines_white (by decide : isWhite 32)).append
    ((lines_hexCode range.2.1).append ((lines_white (by decide : isWhite 32)).append
      ((lines_hexText [range.2.2]).append (lines_white (by decide : isWhite 10))))))
  rw [rangeLine]
  simp only [List.append_assoc, List.cons_append, List.nil_append] at lines ⊢
  exact lines

theorem lines_begin (part : Part) : Lines (utf8 "begin" ++ part.keyword ++ [10])
    [.word (utf8 "begin" ++ part.keyword)] := by
  cases part <;> exact lines_of_run (by decide +kernel)

theorem lines_end (part : Part) : Lines (utf8 "end" ++ part.keyword ++ [10])
    [.word (utf8 "end" ++ part.keyword)] := by
  cases part <;> exact lines_of_run (by decide +kernel)

variable {α : Type} {line : α → Bytes} {codes : α → List Bytes}

theorem lines_sections (part : Part)
    (lines : ∀ entry, Lines (line entry) ((codes entry).map .hex)) (items : List α) :
    Lines (sections part.keyword line items) (sectionsTokens part codes items) := by
  refine lines_flatMap (fun piece => ?_) _
  have count : Lines (decimal piece.length ++ [32]) [.word (decimal piece.length)] :=
    lines_word (decimal_ne_nil _) (isRegular_of_mem_decimal _) (by decide)
  have whole := (count.append (lines_begin part)).append
    ((lines_flatMap lines piece).append (lines_end part))
  have blank : utf8 " begin" = 32 :: utf8 "begin" := by decide +kernel
  rw [blank, sectionTokens, List.map_flatMap]
  simp only [List.append_assoc, List.cons_append, List.nil_append] at whole ⊢
  exact whole

theorem find?_begin (part : Part) : Part.find? (utf8 "begin") (utf8 "begin" ++ part.keyword) =
    some part := by
  cases part <;> decide +kernel

theorem find?_end (part : Part) : Part.find? (utf8 "begin") (utf8 "end" ++ part.keyword) = none ∧
    Part.find? (utf8 "end") (utf8 "end" ++ part.keyword) = some part := by
  cases part <;> decide +kernel

theorem not_isNumeral_keyword (part : Part) :
    isNumeral (utf8 "begin" ++ part.keyword) = false ∧
      isNumeral (utf8 "end" ++ part.keyword) = false := by
  cases part <;> decide +kernel

theorem run_codes (reader : CMapReader) (codes : List Bytes) :
    reader.run (codes.map .hex) =
      some { reader with operands := (codes.map .code).reverse ++ reader.operands } := by
  induction codes generalizing reader with
  | nil => rfl
  | cons code codes ih =>
      rw [List.map_cons, CMapReader.run_cons, CMapReader.step, Option.bind_some, ih,
        CMapReader.push, List.map_cons, List.reverse_cons, List.append_assoc]
      rfl

theorem run_sectionTokens {part : Part} {count : Nat} (bounded : count ≤ 100)
    {codes : List Bytes} {map after : CMap}
    (added : part.add count (codes.map .code) map = some after) :
    CMapReader.run ⟨[], none, map⟩ (sectionTokens part count codes) =
      some ⟨[], none, after⟩ := by
  have inside : (0 : Int) ≤ (count : Int) ∧ (count : Int) ≤ 100 := by omega
  have opened : CMapReader.run ⟨[], none, map⟩
      [.word (decimal count), .word (utf8 "begin" ++ part.keyword)] =
        some ⟨[], some (part, (count : Int)), map⟩ := by
    rw [CMapReader.run_cons, CMapReader.step, CMapReader.stepWord,
      if_pos (isNumeral_of_isMagnitude (isMagnitude_decimal count)), integer?_decimal,
      Option.bind_some, CMapReader.run_cons, CMapReader.step, CMapReader.stepWord,
      (not_isNumeral_keyword part).1, find?_begin]
    simp only [CMapReader.push, CMapReader.openPart, Option.elim, Bool.false_eq_true, if_false,
      if_pos inside]
    rfl
  have closed : CMapReader.run ⟨(codes.map .code).reverse ++ [], some (part, (count : Int)), map⟩
      [.word (utf8 "end" ++ part.keyword)] = some ⟨[], none, after⟩ := by
    rw [CMapReader.run_cons, CMapReader.step, CMapReader.stepWord,
      (not_isNumeral_keyword part).2, (find?_end part).1, (find?_end part).2]
    simp only [CMapReader.closePart, List.append_nil, List.reverse_reverse, added, if_true,
      Bool.false_eq_true, if_false]
    rfl
  rw [sectionTokens, CMapReader.run_append_of_run opened,
    CMapReader.run_append_of_run (run_codes _ codes), closed]

theorem run_sectionsTokens {part : Part} {extend : CMap → List α → CMap}
    (added : ∀ map piece, part.add (piece.length : Nat) ((piece.flatMap codes).map .code) map =
      some (extend map piece))
    (empty : ∀ map, extend map [] = map)
    (append : ∀ map first second,
      extend (extend map first) second = extend map (first ++ second))
    (items : List α) (map : CMap) :
    CMapReader.run ⟨[], none, map⟩ (sectionsTokens part codes items) =
      some ⟨[], none, extend map items⟩ := by
  have bounded : ∀ piece ∈ pieces 100 items.length items, piece.length ≤ 100 :=
    fun piece listed => length_of_mem_pieces listed
  have whole : (pieces 100 items.length items).flatten = items :=
    flatten_pieces (by decide) (Nat.le_refl _)
  rw [sectionsTokens]
  generalize pieces 100 items.length items = pieces at bounded whole
  rw [← whole]
  clear whole
  induction pieces generalizing map with
  | nil =>
      rw [List.flatten_nil, empty]
      rfl
  | cons piece rest ih =>
      have first := run_sectionTokens (bounded piece List.mem_cons_self) (added map piece)
      rw [List.flatMap_cons, CMapReader.run_append_of_run first,
        ih _ fun piece listed => bounded piece (List.mem_cons_of_mem _ listed), append,
        List.flatten_cons]

def charEntry (char : UInt8 × List Char) : Bytes × Bytes :=
  ([char.1], textBytes char.2)

def rangeEntry (range : UInt8 × UInt8 × Char) : Bytes × Bytes × Bytes :=
  ([range.1], [range.2.1], textBytes [range.2.2])

def withChars (map : CMap) (chars : List (UInt8 × List Char)) : CMap :=
  { map with chars := map.chars ++ chars.map charEntry }

def withRanges (map : CMap) (ranges : List (UInt8 × UInt8 × Char)) : CMap :=
  { map with ranges := map.ranges ++ ranges.map rangeEntry }

def cmap (map : ToUnicode) : CMap :=
  ⟨[([0], [255])], [], map.chars.map charEntry, map.ranges.map rangeEntry⟩

theorem pairs?_chars (chars : List (UInt8 × List Char)) :
    Part.pairs? ((chars.flatMap charCodes).map .code) = some (chars.map charEntry) := by
  induction chars with
  | nil => rfl
  | cons char chars ih =>
      rw [List.flatMap_cons, charCodes]
      show (Part.pairs? ((chars.flatMap charCodes).map .code)).map _ = _
      rw [ih, Option.map_some, List.map_cons, charEntry]

theorem triples?_ranges (ranges : List (UInt8 × UInt8 × Char)) :
    Part.triples? ((ranges.flatMap rangeCodes).map .code) = some (ranges.map rangeEntry) := by
  induction ranges with
  | nil => rfl
  | cons range ranges ih =>
      rw [List.flatMap_cons, rangeCodes]
      show (Part.triples? ((ranges.flatMap rangeCodes).map .code)).map _ = _
      rw [ih, Option.map_some, List.map_cons, rangeEntry]

theorem counted_map {α β : Type} (entry : α → β) (entries : List α) :
    Part.counted entries.length (some (entries.map entry)) = some (entries.map entry) := by
  rw [Part.counted, Option.filter, List.length_map, beq_self_eq_true, if_pos rfl]

theorem add_chars (map : CMap) (chars : List (UInt8 × List Char)) :
    Part.char.add chars.length ((chars.flatMap charCodes).map .code) map =
      some (withChars map chars) := by
  rw [Part.add, pairs?_chars, counted_map, Option.map_some, withChars]

theorem add_ranges (map : CMap) (ranges : List (UInt8 × UInt8 × Char)) :
    Part.range.add ranges.length ((ranges.flatMap rangeCodes).map .code) map =
      some (withRanges map ranges) := by
  rw [Part.add, triples?_ranges, counted_map, Option.map_some, withRanges]

theorem opens_opening : opens opening .oneByte := by
  decide +kernel

theorem closing_eq : closing = OneByte.closing := rfl

theorem run_sections (map : ToUnicode) :
    CMapReader.oneByte.run
      (sectionsTokens .char charCodes map.chars ++ sectionsTokens .range rangeCodes map.ranges) =
        some ⟨[], none, map.cmap⟩ := by
  have chars := run_sectionsTokens add_chars
    (fun map => by rw [withChars, List.map_nil, List.append_nil])
    (fun map first second => by simp only [withChars, List.append_assoc, List.map_append])
    map.chars ⟨[([0], [255])], [], [], []⟩
  rw [CMapReader.oneByte, CMapReader.run_append_of_run chars]
  exact run_sectionsTokens add_ranges
    (fun map => by rw [withRanges, List.map_nil, List.append_nil])
    (fun map first second => by simp only [withRanges, List.append_assoc, List.map_append])
    map.ranges _

theorem cmap?_bytes (map : ToUnicode) : cmap? map.bytes = some map.cmap := by
  obtain ⟨tokens, linesOpening, opened⟩ := exists_lines_of_opens opens_opening
  have lines := linesOpening.append (((lines_sections .char lines_charLine map.chars).append
    (lines_sections .range lines_rangeLine map.ranges)).append OneByte.lines_closing)
  have spelled : map.bytes = opening ++ (sections (utf8 "bfchar") charLine map.chars ++
      sections (utf8 "bfrange") rangeLine map.ranges ++ OneByte.closing) := by
    rw [bytes, closing_eq]
    simp only [List.append_assoc]
  rw [spelled]
  refine cmap?_of_lines lines ?_
  rw [CMapReader.run_append_of_run opened,
    CMapReader.run_append_of_run (run_sections map), OneByte.run_closingTokens]

theorem chars?_textBytes (text : List Char) : CMap.chars? (textBytes text) = some text := by
  rw [CMap.chars?, textBytes, Utf16.unitsOfBytes?_flatMap_wordBytes, Option.bind_some,
    Utf16.decodeUnits?_flatMap_units]

theorem textBytes_single {char : Char} (plane : char.toNat < 0x10000) :
    textBytes [char] = [UInt8.ofNat (char.toNat / 256), UInt8.ofNat (char.toNat % 256)] := by
  have unit : (UInt16.ofNat char.toNat).toNat = char.toNat := by
    rw [UInt16.toNat_ofNat', Nat.mod_eq_of_lt (by omega)]
  rw [textBytes, List.flatMap_cons, List.flatMap_nil, List.append_nil, Utf16.units, if_pos plane,
    List.flatMap_cons, List.flatMap_nil, List.append_nil, wordBytes, unit]

theorem raise?_textBytes {first char : Char} {offset : Nat}
    (counts : char.toNat = first.toNat + offset) (plane : char.toNat < 0x10000)
    (byte : first.toNat % 256 + offset < 256) :
    CMap.raise? (textBytes [first]) offset = some (textBytes [char]) := by
  have last : (UInt8.ofNat (first.toNat % 256)).toNat = first.toNat % 256 := by
    rw [UInt8.toNat_ofNat', Nat.mod_eq_of_lt (by omega)]
  have high : char.toNat / 256 = first.toNat / 256 := by omega
  have low : char.toNat % 256 = first.toNat % 256 + offset := by omega
  rw [textBytes_single plane, textBytes_single (by omega), high, low, CMap.raise?]
  show (if (UInt8.ofNat (first.toNat % 256)).toNat + offset < 256 then _ else none) = _
  rw [last, if_pos byte]
  show some [UInt8.ofNat (first.toNat / 256),
    UInt8.ofNat ((UInt8.ofNat (first.toNat % 256)).toNat + offset)] = _
  rw [last]

theorem mem_destinations {map : CMap} {code : UInt8} {said : Option Bytes} :
    said ∈ map.destinations code ↔
      (∃ line ∈ map.chars, line.1 = [code] ∧ some line.2 = said) ∨
        ∃ range ∈ map.ranges, ∃ offset, CMap.offset? range.1 range.2.1 code = some offset ∧
          CMap.raise? range.2.2 offset = said := by
  rw [CMap.destinations, List.mem_append, List.mem_map, List.mem_filterMap]
  simp only [List.mem_filter, beq_iff_eq, Option.map_eq_some_iff, and_assoc]

theorem raise?_of_fits {run : Run} {texts : List (List Char)} (fits : run.Fits 0 texts)
    (several : run.more ≠ 0) {offset : Nat} (bounded : offset ≤ run.more) :
    ∃ char, texts[run.code + offset]? = some [char] ∧
      CMap.raise? (textBytes [run.text.headD ' ']) offset = some (textBytes [char]) := by
  obtain ⟨first, next, single, -, counts, plane, byte⟩ :=
    fits.later (Nat.pos_of_ne_zero several) (Nat.le_refl _)
  rw [single, List.headD_cons]
  rcases Nat.eq_zero_or_pos offset with rfl | positive
  · have found := fits.first
    rw [single, Nat.sub_zero] at found
    exact ⟨first, found, raise?_textBytes rfl (by omega) (by omega)⟩
  · obtain ⟨other, char, singleOther, found, countsOther, planeOther, byteOther⟩ :=
      fits.later positive bounded
    rw [single] at singleOther
    cases singleOther
    exact ⟨char, found, raise?_textBytes countsOther planeOther byteOther⟩

variable {texts : List (List Char)} {code : UInt8}

theorem bound_of_mem_runs {run : Run} (listed : run ∈ runs 0 (texts.take 256)) :
    run.Fits 0 (texts.take 256) ∧ run.code + run.more < 256 := by
  have fits := fits_of_mem_runs listed
  have bound := fits.bound
  rw [Nat.zero_add, List.length_take] at bound
  exact ⟨fits, by omega⟩

theorem getElem?_take_code (texts : List (List Char)) (code : UInt8) :
    (texts.take 256)[code.toNat]? = texts[code.toNat]? :=
  List.getElem?_take_of_lt code.toNat_lt

theorem said_of_mem_destinations {said : Option Bytes}
    (listed : said ∈ (ofTexts texts).cmap.destinations code) :
    ∃ text, texts[code.toNat]? = some text ∧ text ≠ [] ∧ said = some (textBytes text) := by
  rw [← getElem?_take_code]
  rcases mem_destinations.mp listed with ⟨line, inChars, spelled, rfl⟩ |
    ⟨range, inRanges, offset, inside, rfl⟩
  · obtain ⟨char, inMap, rfl⟩ := List.mem_map.mp inChars
    obtain ⟨run, found, rfl⟩ := List.mem_map.mp inMap
    obtain ⟨fits, bound⟩ := bound_of_mem_runs (List.mem_filter.mp found).1
    have place : code.toNat = run.code := by
      rw [← (List.cons.inj spelled).1, UInt8.toNat_ofNat', Nat.mod_eq_of_lt (by omega)]
    rw [place]
    exact ⟨run.text, fits.first, fits.nonempty, rfl⟩
  · obtain ⟨entry, inMap, rfl⟩ := List.mem_map.mp inRanges
    obtain ⟨run, found, rfl⟩ := List.mem_map.mp inMap
    obtain ⟨inRuns, several⟩ := List.mem_filter.mp found
    obtain ⟨fits, bound⟩ := bound_of_mem_runs inRuns
    simp only [rangeEntry] at inside ⊢
    rw [CMap.offset?_ofNat (Nat.le_add_right _ _) bound] at inside
    split at inside
    · next within =>
      obtain ⟨char, held, raised⟩ := raise?_of_fits fits (bne_iff_ne.mp several)
        (by omega : code.toNat - run.code ≤ run.more)
      rw [Nat.add_sub_cancel' within.1] at held
      cases inside
      exact ⟨[char], held, List.cons_ne_nil _ _, raised⟩
    · contradiction

theorem exists_mem_destinations {text : List Char}
    (found : texts[code.toNat]? = some text) (nonempty : text ≠ []) :
    ∃ said, said ∈ (ofTexts texts).cmap.destinations code := by
  rw [← getElem?_take_code] at found
  obtain ⟨run, listed, start, last⟩ := @exists_run_of_text 0 _ _ _ found nonempty
  obtain ⟨-, bound⟩ := bound_of_mem_runs listed
  rw [Nat.zero_add] at start last
  by_cases single : run.more = 0
  · have kept : run ∈ (runs 0 (texts.take 256)).filter fun run => run.more == 0 :=
      List.mem_filter.mpr ⟨listed, beq_iff_eq.mpr single⟩
    have place : run.code = code.toNat := by omega
    refine ⟨_, mem_destinations.mpr (.inl
      ⟨_, List.mem_map_of_mem (List.mem_map_of_mem kept), ?_, rfl⟩)⟩
    rw [charEntry, place, UInt8.ofNat_toNat]
  · have kept : run ∈ (runs 0 (texts.take 256)).filter fun run => run.more != 0 :=
      List.mem_filter.mpr ⟨listed, bne_iff_ne.mpr single⟩
    refine ⟨_, mem_destinations.mpr (.inr
      ⟨_, List.mem_map_of_mem (List.mem_map_of_mem kept), code.toNat - run.code, ?_, rfl⟩)⟩
    rw [rangeEntry, CMap.offset?_ofNat (Nat.le_add_right _ _) bound, if_pos ⟨start, last⟩]

theorem text?_ofTexts (texts : List (List Char)) (code : UInt8) :
    (cmap? (ofTexts texts).bytes).bind (·.text? code) =
      texts[code.toNat]?.filter fun text => !text.isEmpty := by
  rw [cmap?_bytes, Option.bind_some, CMap.text?, if_pos (CMap.covers_of_spaces rfl code)]
  cases lines : (ofTexts texts).cmap.destinations code with
  | nil =>
      refine (Option.filter_eq_none_iff.mpr fun text found => ?_).symm
      cases text with
      | nil => decide
      | cons char text =>
          obtain ⟨said, listed⟩ := exists_mem_destinations found (List.cons_ne_nil _ _)
          rw [lines] at listed
          contradiction
  | cons said rest =>
      obtain ⟨text, found, nonempty, rfl⟩ :=
        said_of_mem_destinations (lines ▸ List.mem_cons_self : said ∈ _)
      have agree : rest.all (· == some (textBytes text)) := by
        refine List.all_eq_true.mpr fun other listed => ?_
        obtain ⟨same, foundSame, -, rfl⟩ :=
          said_of_mem_destinations (lines ▸ List.mem_cons_of_mem _ listed : other ∈ _)
        rw [found] at foundSame
        cases foundSame
        exact beq_self_eq_true _
      have present : (!text.isEmpty) = true := by
        rw [Bool.not_eq_true', List.isEmpty_eq_false_iff]
        exact nonempty
      simp only [agree, if_true]
      rw [chars?_textBytes, found, Option.filter, if_pos present]

end ToUnicode

end Folio
