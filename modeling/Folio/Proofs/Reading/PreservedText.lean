import Folio.Proofs.Reading.ToUnicode

/-!
What a map from codes to text says as a whole: each code has just its text, and in one line only,
the sections announce their lines, and the ranges are as long as they can be.
-/

namespace Folio

open Reading

namespace ToUnicode

def sectionText {α : Type} (part : Part) (line : α → Bytes) (piece : List α) : Bytes :=
  decimal piece.length ++ utf8 " begin" ++ part.keyword ++ [10] ++ piece.flatMap line ++
    utf8 "end" ++ part.keyword ++ [10]

def AreSections {α : Type} (line : α → Bytes) (sections : List (List α)) : Prop :=
  ∀ piece ∈ sections, 0 < piece.length ∧ piece.length ≤ 100 ∧ ∀ entry ∈ piece, IsLine (line entry)

theorem lineFeed_not_mem_hexByte (byte : UInt8) : 10 ∉ hexByte byte := by
  have digits : ∀ digit < 16, digitByte digit ≠ 10 := by decide
  have small := byte.toNat_lt
  rw [hexByte, List.mem_cons, List.mem_singleton, not_or]
  exact ⟨(digits _ (by omega)).symm, (digits _ (by omega)).symm⟩

theorem lineFeed_not_mem_hexCode (code : UInt8) : 10 ∉ hexCode code := by
  simp [hexCode, lineFeed_not_mem_hexByte]

theorem lineFeed_not_mem_hexText (text : List Char) : 10 ∉ hexText text := by
  intro listed
  simp [hexText, lineFeed_not_mem_hexByte] at listed

theorem isLine_charLine (char : UInt8 × List Char) : IsLine (charLine char) := by
  refine ⟨hexCode char.1 ++ 32 :: hexText char.2, ?_, rfl⟩
  simp [lineFeed_not_mem_hexCode, lineFeed_not_mem_hexText]

theorem isLine_rangeLine (range : UInt8 × UInt8 × Char) : IsLine (rangeLine range) := by
  refine ⟨hexCode range.1 ++ 32 :: hexCode range.2.1 ++ 32 :: hexText [range.2.2], ?_, rfl⟩
  simp [lineFeed_not_mem_hexCode, lineFeed_not_mem_hexText]

theorem exists_sections {α : Type} (part : Part) {line : α → Bytes}
    (lines : ∀ entry, IsLine (line entry)) (items : List α) :
    ∃ listed : List (List α), listed.flatten = items ∧ AreSections line listed ∧
      sections part.keyword line items = listed.flatMap (sectionText part line) := by
  refine ⟨pieces 100 items.length items, flatten_pieces (by decide) (Nat.le_refl _),
    fun piece listed => ⟨?_, length_of_mem_pieces listed, fun entry _ => lines entry⟩, ?_⟩
  · exact List.length_pos_iff.mpr (ne_nil_of_mem_pieces (by decide) listed)
  · have shown : sectionText part line = fun piece =>
        decimal piece.length ++ utf8 " begin" ++ part.keyword ++ 10 :: piece.flatMap line ++
          utf8 "end" ++ part.keyword ++ [10] := by
      funext piece
      simp [sectionText]
    rw [sections, shown]

def Run.covers (run : Run) (code : Nat) : Bool :=
  run.code ≤ code && code ≤ run.code + run.more

theorem Run.covers_iff {run : Run} {code : Nat} :
    run.covers code ↔ run.code ≤ code ∧ code ≤ run.code + run.more := by
  rw [covers, Bool.and_eq_true, decide_eq_true_eq, decide_eq_true_eq]

theorem length_filter_covers_le {found : List Run}
    (apart : found.Pairwise fun run other => run.code + run.more < other.code) (code : Nat) :
    (found.filter (·.covers code)).length ≤ 1 := by
  induction found with
  | nil => exact Nat.zero_le _
  | cons run rest ih =>
      obtain ⟨beyond, apart⟩ := List.pairwise_cons.mp apart
      rw [List.filter_cons]
      split
      · next covers =>
        have others : rest.filter (·.covers code) = [] := by
          refine List.filter_eq_nil_iff.mpr fun other listed covered => ?_
          have := beyond other listed
          rw [Run.covers_iff] at covers covered
          omega
        rw [others]
        exact Nat.le_refl _
      · exact ih apart

variable {texts : List (List Char)} {code : UInt8}

theorem length_filter_chars :
    ((ofTexts texts).cmap.chars.filter fun line => line.1 == [code]).length =
      ((runs 0 (texts.take 256)).filter (·.covers code.toNat)).countP (·.more == 0) := by
  rw [← List.countP_eq_length_filter, cmap, ofTexts, List.countP_map, List.countP_map,
    List.countP_filter, List.countP_filter]
  refine List.countP_congr fun run listed => ?_
  obtain ⟨-, bound⟩ := bound_of_mem_runs listed
  have place : UInt8.ofNat run.code = code ↔ run.code = code.toNat := by
    rw [← UInt8.toNat_inj, UInt8.toNat_ofNat', Nat.mod_eq_of_lt (by omega)]
  simp only [Function.comp_apply, charEntry, Bool.and_eq_true, beq_iff_eq, List.cons.injEq,
    and_true, place, Run.covers_iff]
  omega

theorem isSome_offset?_iff {run : Run} (listed : run ∈ runs 0 (texts.take 256)) :
    (CMap.offset? [UInt8.ofNat run.code] [UInt8.ofNat (run.code + run.more)] code).isSome ↔
      run.covers code.toNat := by
  obtain ⟨-, bound⟩ := bound_of_mem_runs listed
  rw [CMap.offset?_ofNat (Nat.le_add_right _ _) bound, Run.covers_iff]
  split
  · next inside => exact iff_of_true rfl inside
  · next outside => exact iff_of_false nofun outside

theorem length_filterMap_ranges :
    ((ofTexts texts).cmap.ranges.filterMap fun range =>
      (CMap.offset? range.1 range.2.1 code).map fun offset =>
        CMap.raise? range.2.2 offset).length =
      ((runs 0 (texts.take 256)).filter (·.covers code.toNat)).countP (·.more != 0) := by
  rw [List.length_filterMap_eq_countP, cmap, ofTexts, List.countP_map, List.countP_map,
    List.countP_filter, List.countP_filter]
  refine List.countP_congr fun run listed => ?_
  simp only [Function.comp_apply, rangeEntry, Option.isSome_map, Bool.and_eq_true]
  rw [isSome_offset?_iff listed, and_comm]

theorem length_destinations_le : ((ofTexts texts).cmap.destinations code).length ≤ 1 := by
  rw [CMap.destinations, List.length_append, List.length_map, length_filter_chars,
    length_filterMap_ranges]
  have few := length_filter_covers_le (pairwise_runs 0 (texts.take 256)) code.toNat
  rw [List.length_eq_countP_add_countP fun run : Run => run.more == 0] at few
  simpa only [Bool.not_eq_true, bne, Bool.decide_eq_false] using few

/-- A map that says the text of each code that has one, and nothing else. -/
structure Says (texts : List (List Char)) (map : CMap) : Prop where
  once : ∀ code : UInt8, map.destinations code =
    ((texts[code.toNat]?.filter fun text => !text.isEmpty).map fun text =>
      some (textBytes text)).toList
  text : ∀ code : UInt8, map.text? code = texts[code.toNat]?.filter fun text => !text.isEmpty
  /-- Only codes of one byte have lines of their own. -/
  single : ∀ line ∈ map.chars, line.1.length = 1
  ranges : ∀ range ∈ map.ranges, ∃ (first last final : UInt8) (before : Bytes),
    range = ([first], [last], before ++ [final]) ∧ first < last ∧
      final.toNat + (last.toNat - first.toNat) < 256
  /-- Codes whose characters follow each other share a range, unless that would carry. -/
  joined : ∀ (code next : UInt8) (char follower : Char), code.toNat + 1 = next.toNat →
    texts[code.toNat]? = some [char] → texts[next.toNat]? = some [follower] →
    char.toNat + 1 = follower.toNat → follower.toNat < 0x10000 → char.toNat % 256 ≠ 0xFF →
    ∃ range ∈ map.ranges, (CMap.offset? range.1 range.2.1 code).isSome ∧
      (CMap.offset? range.1 range.2.1 next).isSome

/-- A file with such a map, in sections that announce their lines. -/
structure Preserves (texts : List (List Char)) (bytes : Bytes) : Prop where
  read : ∃ map, cmap? bytes = some map ∧ Says texts map
  sections : ∃ (chars : List (List (UInt8 × List Char)))
      (ranges : List (List (UInt8 × UInt8 × Char))),
    bytes = opening ++ chars.flatMap (sectionText .char charLine) ++
      ranges.flatMap (sectionText .range rangeLine) ++ closing ∧
      AreSections charLine chars ∧ AreSections rangeLine ranges

theorem once_ofTexts (texts : List (List Char)) (code : UInt8) :
    (ofTexts texts).cmap.destinations code =
      ((texts[code.toNat]?.filter fun text => !text.isEmpty).map fun text =>
        some (textBytes text)).toList := by
  have few := @length_destinations_le texts code
  -- one line at most since runs are apart, and one at least if there is a text
  cases lines : (ofTexts texts).cmap.destinations code with
  | nil =>
      cases found : texts[code.toNat]? with
      | none => rfl
      | some text =>
          cases text with
          | nil => rfl
          | cons char text =>
              obtain ⟨said, listed⟩ := exists_mem_destinations found (List.cons_ne_nil _ _)
              rw [lines] at listed
              contradiction
  | cons said rest =>
      obtain ⟨text, found, nonempty, rfl⟩ :=
        said_of_mem_destinations (lines ▸ List.mem_cons_self : said ∈ _)
      have present : (!text.isEmpty) = true := by
        rw [Bool.not_eq_true', List.isEmpty_eq_false_iff]
        exact nonempty
      have alone : rest = [] := by
        rw [lines, List.length_cons] at few
        exact List.eq_nil_of_length_eq_zero (by omega)
      rw [found, Option.filter_some, if_pos present, alone]
      rfl

theorem mem_ranges_iff {range : Bytes × Bytes × Bytes} :
    range ∈ (ofTexts texts).cmap.ranges ↔ ∃ run ∈ runs 0 (texts.take 256), run.more ≠ 0 ∧
      range = ([UInt8.ofNat run.code], [UInt8.ofNat (run.code + run.more)],
        textBytes [run.text.headD ' ']) := by
  have lists : (ofTexts texts).cmap.ranges =
      ((runs 0 (texts.take 256)).filter fun run => run.more != 0).map fun run =>
        ([UInt8.ofNat run.code], [UInt8.ofNat (run.code + run.more)],
          textBytes [run.text.headD ' ']) := List.map_map
  rw [lists, List.mem_map]
  simp only [List.mem_filter, bne_iff_ne, and_assoc, @eq_comm _ range]

theorem ranges_ofTexts {range : Bytes × Bytes × Bytes}
    (listed : range ∈ (ofTexts texts).cmap.ranges) :
    ∃ (first last final : UInt8) (before : Bytes),
      range = ([first], [last], before ++ [final]) ∧ first < last ∧
        final.toNat + (last.toNat - first.toNat) < 256 := by
  obtain ⟨run, inRuns, several, rfl⟩ := mem_ranges_iff.mp listed
  obtain ⟨fits, bound⟩ := bound_of_mem_runs inRuns
  obtain ⟨char, next, single, -, counts, plane, byte⟩ :=
    fits.later (Nat.pos_of_ne_zero several) (Nat.le_refl _)
  have first : (UInt8.ofNat run.code).toNat = run.code := by
    rw [UInt8.toNat_ofNat', Nat.mod_eq_of_lt (by omega)]
  have last : (UInt8.ofNat (run.code + run.more)).toNat = run.code + run.more := by
    rw [UInt8.toNat_ofNat', Nat.mod_eq_of_lt (by omega)]
  have final : (UInt8.ofNat (char.toNat % 256)).toNat = char.toNat % 256 := by
    rw [UInt8.toNat_ofNat', Nat.mod_eq_of_lt (by omega)]
  refine ⟨UInt8.ofNat run.code, UInt8.ofNat (run.code + run.more),
    UInt8.ofNat (char.toNat % 256), [UInt8.ofNat (char.toNat / 256)], ?_, ?_, ?_⟩
  · rw [single, List.headD_cons, textBytes_single (by omega)]
    rfl
  · rw [UInt8.lt_iff_toNat_lt, first, last]
    omega
  · rw [final, first, last, Nat.add_sub_cancel_left]
    exact byte

theorem joined_ofTexts {next : UInt8} {before after : List Char}
    (follows : code.toNat + 1 = next.toNat) (found : texts[code.toNat]? = some before)
    (foundNext : texts[next.toNat]? = some after) (linked : links before after) :
    ∃ range ∈ (ofTexts texts).cmap.ranges, (CMap.offset? range.1 range.2.1 code).isSome ∧
      (CMap.offset? range.1 range.2.1 next).isSome := by
  rw [← getElem?_take_code] at found foundNext
  rw [← follows] at foundNext
  obtain ⟨run, listed, start, last⟩ := @exists_run_of_links 0 _ _ _ _ found foundNext linked
  rw [Nat.zero_add] at start last
  refine ⟨_, mem_ranges_iff.mpr ⟨run, listed, by omega, rfl⟩, ?_, ?_⟩
  · exact (isSome_offset?_iff listed).mpr (Run.covers_iff.mpr ⟨start, Nat.le_of_lt last⟩)
  · exact (isSome_offset?_iff listed).mpr (Run.covers_iff.mpr (by omega))

/-- The map of texts keeps them. -/
theorem preserves_ofTexts (texts : List (List Char)) : Preserves texts (ofTexts texts).bytes := by
  have read := cmap?_bytes (ofTexts texts)
  refine ⟨⟨_, read, once_ofTexts texts, fun code => ?_, fun line listed => ?_,
    fun range => ranges_ofTexts, ?_⟩, ?_⟩
  · have text := text?_ofTexts texts code
    rwa [read, Option.bind_some] at text
  · obtain ⟨char, -, rfl⟩ := List.mem_map.mp listed
    rfl
  · intro code next char follower follows found foundNext counts plane byte
    exact joined_ofTexts follows found foundNext
      (links_iff.mpr ⟨char, follower, rfl, rfl, counts, plane, byte⟩)
  · obtain ⟨chars, -, areChars, spelledChars⟩ :=
      exists_sections .char isLine_charLine (ofTexts texts).chars
    obtain ⟨ranges, -, areRanges, spelledRanges⟩ :=
      exists_sections .range isLine_rangeLine (ofTexts texts).ranges
    refine ⟨chars, ranges, ?_, areChars, areRanges⟩
    rw [← spelledChars, ← spelledRanges]
    rfl

end ToUnicode

end Folio
