import Folio.Proofs.GlyphRequests
import Mathlib.Data.Fin.Pigeonhole

/-!
Tags of font subsets. The font and the number of a subset are digested as a whole, but a letter
keeps only the remainder of a byte by 26: subsets of one document have the same tag exactly when
their digests meet in six remainders, and there are documents in which two of them do.
-/

namespace Folio

theorem length_littleEndian (width number : Nat) : (littleEndian width number).length = width := by
  induction width generalizing number with
  | zero => rfl
  | succ width ih => rw [littleEndian, List.length_cons, ih]

theorem eq_of_littleEndian {width first second : Nat} (bounded : first < Nat.pow 256 width)
    (boundedAlso : second < Nat.pow 256 width)
    (same : littleEndian width first = littleEndian width second) : first = second := by
  induction width generalizing first second with
  | zero =>
      have one : Nat.pow 256 0 = 1 := rfl
      omega
  | succ width ih =>
      have wider : Nat.pow 256 (width + 1) = Nat.pow 256 width * 256 := rfl
      obtain ⟨lowest, rest⟩ := List.cons.inj same
      have quotient : first / 256 = second / 256 := ih (by omega) (by omega) rest
      have remainder : first % 256 = second % 256 := by
        have bytes := congrArg UInt8.toNat lowest
        rwa [UInt8.toNat_ofNat', UInt8.toNat_ofNat'] at bytes
      omega

theorem Md5.length_digest (message : Bytes) : (Md5.digest message).length = 16 := by
  simp only [Md5.digest, List.flatMap_cons, List.flatMap_nil, List.length_append,
    length_littleEndian, List.length_nil]

namespace SubsetTag

theorem toNat_letter (byte : UInt8) : (letter byte).toNat = 0x41 + byte.toNat % 26 := by
  have small : byte.toNat % 26 < 26 := Nat.mod_lt _ (by decide)
  have letters : (0x41 : UInt8).toNat = 0x41 := rfl
  have count : (26 : UInt8).toNat = 26 := rfl
  rw [letter, UInt8.toNat_add, UInt8.toNat_mod, letters, count, Nat.mod_eq_of_lt (by omega)]

theorem letter_eq_iff (first second : UInt8) :
    letter first = letter second ↔ first.toNat % 26 = second.toNat % 26 := by
  rw [← UInt8.toNat_inj, toNat_letter, toNat_letter]
  omega

theorem map_letter_eq_iff (first second : Bytes) :
    first.map letter = second.map letter ↔
      first.map (fun byte => byte.toNat % 26) = second.map fun byte => byte.toNat % 26 := by
  induction first generalizing second with
  | nil => rw [List.map_nil, List.map_nil, List.nil_eq, List.nil_eq, List.map_eq_nil_iff,
      List.map_eq_nil_iff]
  | cons byte rest ih =>
      cases second with
      | nil => rw [List.map_nil, List.map_nil, List.map_eq_nil_iff, List.map_eq_nil_iff]
      | cons other others =>
          rw [List.map_cons, List.map_cons, List.map_cons, List.map_cons, List.cons_eq_cons,
            List.cons_eq_cons, letter_eq_iff, ih]

def message (font subset : Nat) : Bytes :=
  littleEndian 4 font ++ littleEndian 8 subset

def remainders (digest : Bytes) : List Nat :=
  (digest.take 6).map fun byte => byte.toNat % 26

structure Collide (first second : Bytes) : Prop where
  different : first ≠ second
  same : remainders (Md5.digest first) = remainders (Md5.digest second)

theorem tag_eq_iff (font subset otherFont otherSubset : Nat) :
    tag font subset = tag otherFont otherSubset ↔
      remainders (Md5.digest (message font subset)) =
        remainders (Md5.digest (message otherFont otherSubset)) :=
  map_letter_eq_iff _ _

theorem length_tag (font subset : Nat) : (tag font subset).length = 6 := by
  rw [tag, List.length_map, List.length_take, Md5.length_digest]
  rfl

theorem isCapital_of_mem_tag {font subset : Nat} {byte : UInt8} (member : byte ∈ tag font subset) :
    0x41 ≤ byte.toNat ∧ byte.toNat ≤ 0x5A := by
  obtain ⟨digested, -, rfl⟩ := List.mem_map.mp member
  rw [toNat_letter]
  omega

theorem eq_of_message {font subset otherFont otherSubset : Nat}
    (bounded : font < 0x100000000) (boundedAlso : otherFont < 0x100000000)
    (small : subset < 0x10000000000000000) (smallAlso : otherSubset < 0x10000000000000000)
    (same : message font subset = message otherFont otherSubset) :
    font = otherFont ∧ subset = otherSubset := by
  have lengths : (littleEndian 4 font).length = (littleEndian 4 otherFont).length := by
    rw [length_littleEndian, length_littleEndian]
  obtain ⟨fonts, subsets⟩ := List.append_inj same lengths
  have four : Nat.pow 256 4 = 0x100000000 := rfl
  have eight : Nat.pow 256 8 = 0x10000000000000000 := rfl
  rw [← four] at bounded boundedAlso
  rw [← eight] at small smallAlso
  exact ⟨eq_of_littleEndian bounded boundedAlso fonts,
    eq_of_littleEndian small smallAlso subsets⟩

end SubsetTag

namespace Slots

theorem size_assigned_le (slots : Slots) : slots.assigned.size ≤ 65536 := by
  have found (place : Fin slots.assigned.size) :
      slots.glyphs[place.val]? = some (slots.assigned[place.val]).glyph := by
    rw [glyphs, List.getElem?_map, Array.getElem?_toList, Array.getElem?_eq_getElem place.isLt]
    rfl
  refine Fin.le_of_injective
    (fun place => ⟨(slots.assigned[place.val]).glyph.toNat, UInt16.toNat_lt _⟩) ?_
  intro first second same
  have glyph := UInt16.toNat_inj.mp (Fin.mk.inj same)
  exact Fin.ext (eq_of_glyphs (found first) (glyph ▸ found second))

theorem lt_of_subset? {slots : Slots} {index : Nat} {glyphs : List AssignedGlyph}
    (opened : slots.subset? index = some glyphs) : index < 65536 := by
  obtain ⟨inside, -⟩ := subset?_eq_some_iff.mp opened
  have count := slots.size_assigned_le
  have scaled := Nat.mul_le_mul_left index slots.capacity_pos
  omega

end Slots

def SubsetKey.tag (key : SubsetKey) : Bytes :=
  SubsetTag.tag key.font.index key.subset

def SubsetKey.message (key : SubsetKey) : Bytes :=
  SubsetTag.message key.font.index key.subset

/-- The name of the font stands in all three objects that tell it. -/
structure FinishedSubset.Named (finished : FinishedSubset) (name : Name) : Prop where
  font : finished.font.entry? "BaseFont" = some (.name name)
  cidFont : finished.cidFont.entry? "BaseFont" = some (.name name)
  descriptor : finished.descriptor.entry? "FontName" = some (.name name)

namespace Document

def IsOpen (doc : Document) (key : SubsetKey) : Prop :=
  ((doc.fonts.get? key.font).bind (·.slots.subset? key.subset)).isSome

theorem isOpen_iff {doc : Document} {key : SubsetKey} :
    doc.IsOpen key ↔ ∃ item glyphs, doc.fonts.get? key.font = some item ∧
      item.slots.subset? key.subset = some glyphs := by
  rw [IsOpen, Option.isSome_iff_exists]
  constructor
  · rintro ⟨glyphs, opened⟩
    obtain ⟨item, found, opened⟩ := Option.bind_eq_some_iff.mp opened
    exact ⟨item, glyphs, found, opened⟩
  · rintro ⟨item, glyphs, found, opened⟩
    exact ⟨glyphs, Option.bind_eq_some_iff.mpr ⟨item, found, opened⟩⟩

/-- What the tags of a document's open subsets are, and where they stand in a file. -/
structure TagsHold (doc : Document) : Prop where
  letters : ∀ key : SubsetKey, key.tag.length = 6 ∧
    ∀ byte ∈ key.tag, 0x41 ≤ byte.toNat ∧ byte.toNat ≤ 0x5A
  /-- Two subsets share a tag if their digests meet in the letters, and only then. -/
  shared : ∀ {first second : SubsetKey}, doc.fonts.size ≤ 0x100000000 → doc.IsOpen first →
    doc.IsOpen second →
      (first.tag = second.tag ↔
        first = second ∨ SubsetTag.Collide first.message second.message)
  /-- The font, its descendant and the descriptor tell one name, which starts with the tag. -/
  named : ∀ {means : Means} {sink : Sink}, (doc.finalize means sink).failure = none →
    ∃ bodies, Holds (doc.finalize means sink).out bodies ∧
      ∀ {key : SubsetKey}, doc.IsOpen key →
        ∃ (item : FontItem) (objects : SubsetObjects) (encoding : Ref)
          (finished : FinishedSubset),
          doc.fonts.get? key.font = some item ∧
          doc.subsetFontRef key.font key.subset = .ok objects.font ∧
          finished.In bodies
            (fun entries => .ofStream means.deflate doc.options.compress entries none)
            objects encoding ∧
          finished.Named ⟨key.tag ++ 0x2B :: utf8 item.face.name⟩

variable {doc : Document}

theorem IsOpen.bounds {key : SubsetKey} (opened : doc.IsOpen key) :
    key.font.index < doc.fonts.size ∧ key.subset < 65536 := by
  obtain ⟨item, glyphs, found, opened⟩ := isOpen_iff.mp opened
  exact ⟨of_decide_eq_true (Registry.contains_of_get? found), Slots.lt_of_subset? opened⟩

theorem IsOpen.eq_of_message {first second : SubsetKey} (opened : doc.IsOpen first)
    (openedAlso : doc.IsOpen second) (few : doc.fonts.size ≤ 0x100000000)
    (same : first.message = second.message) : first = second := by
  obtain ⟨font, subset⟩ := opened.bounds
  obtain ⟨fontAlso, subsetAlso⟩ := openedAlso.bounds
  obtain ⟨fonts, subsets⟩ := SubsetTag.eq_of_message (Nat.lt_of_lt_of_le font few)
    (Nat.lt_of_lt_of_le fontAlso few) (by omega) (by omega) same
  obtain ⟨⟨font⟩, subset⟩ := first
  obtain ⟨⟨fontAlso⟩, subsetAlso⟩ := second
  cases fonts
  cases subsets
  rfl

theorem IsOpen.tag_eq_iff {first second : SubsetKey} (opened : doc.IsOpen first)
    (openedAlso : doc.IsOpen second) (few : doc.fonts.size ≤ 0x100000000) :
    first.tag = second.tag ↔
      first = second ∨ SubsetTag.Collide first.message second.message := by
  rw [SubsetKey.tag, SubsetKey.tag, SubsetTag.tag_eq_iff]
  constructor
  · intro same
    by_cases messages : first.message = second.message
    · exact .inl (opened.eq_of_message openedAlso few messages)
    · exact .inr ⟨messages, same⟩
  · rintro (rfl | collide)
    · rfl
    · exact collide.same

theorem finishedSubset_named (doc : Document) (key : SubsetKey) (subset : OpenSubset)
    (encoding : Ref) (program : Bytes) :
    (doc.finishedSubset key subset encoding program).Named
      ⟨key.tag ++ 0x2B :: utf8 subset.font.face.name⟩ where
  font := rfl
  cidFont := rfl
  descriptor := rfl

theorem FontsAgree.tagsHold (agree : doc.FontsAgree) : doc.TagsHold where
  letters := fun key =>
    ⟨SubsetTag.length_tag _ _, fun _ member => SubsetTag.isCapital_of_mem_tag member⟩
  shared := fun few opened openedAlso => opened.tag_eq_iff openedAlso few
  named := by
    intro means sink complete
    obtain ⟨roots, closed, bodies, grows, holds, written⟩ := exists_bodies_of_finalize complete
    refine ⟨bodies, holds, ?_⟩
    intro key opened
    obtain ⟨item, glyphs, found, opened⟩ := isOpen_iff.mp opened
    obtain ⟨objects, encoding, held, shared⟩ := agree.exists_objects found opened
    obtain ⟨body, -, lowered⟩ :=
      written (agree.generation_ref found held .program) (agree.held found held .program) rfl
    rw [grows.rest] at lowered
    obtain ⟨program, made⟩ :=
      exists_program_of_subsetBody (openSubset?_eq found opened held) lowered
    have got := Registry.get_eq_ok_iff.mpr found
    refine ⟨item, objects, encoding,
      doc.finishedSubset key ⟨item, glyphs, objects⟩ encoding program, found, ?_,
      agree.finishedSubset_in grows written shared found opened held made,
      doc.finishedSubset_named key _ encoding program⟩
    simp only [subsetFontRef, got, held, bind, Except.bind]

/--
Whatever was asked of a document, the tag of a subset is six capital letters and stands before the
name of the font in all objects that tell it; it is another subset's tag only by a collision.
-/
theorem tagsHold_run (options : DocumentOptions) (converter : Color → DeviceSpace → Color)
    (operations : List Operation) :
    ((withConverter options converter).run operations).2.TagsHold :=
  ((fontsAgree_withConverter options converter).run operations).tagsHold

def firstGlyphs (count : Nat) : List GlyphId :=
  (List.range count).map fun before => UInt16.ofNat (before + 1)

def glyphRequests (font : Id .font) (glyphs : List GlyphId) : List Operation :=
  glyphs.map fun glyph => .glyphSlot font glyph none

/-- Fonts up to the later one of two keys, and glyphs of both. -/
def openingBoth (first second : SubsetKey) : List Operation :=
  List.replicate (max first.font.index second.font.index + 1) (.addFont monospaceFace) ++
    (glyphRequests first.font (firstGlyphs (first.subset + 1)) ++
      glyphRequests second.font (firstGlyphs (second.subset + 1)))

def withBoth (first second : SubsetKey) : Document :=
  ((withConverter { DocumentOptions.standard with subsetCapacity := 1 }
    Color.convertDevice).run (openingBoth first second)).2

variable {font : Id .font} {item : FontItem}

theorem isOpen_of_length {key : SubsetKey} (found : doc.fonts.get? key.font = some item)
    (enough : key.subset * item.slots.capacity < item.slots.glyphs.length) : doc.IsOpen key := by
  rw [Slots.length_glyphs] at enough
  exact isOpen_iff.mpr ⟨item, _, found, Slots.subset?_eq_some_iff.mpr ⟨enough, rfl⟩⟩

theorem fonts_run_addFonts (doc : Document) (face : Face) (count : Nat) :
    (doc.run (List.replicate count (.addFont face))).2.fonts =
      ⟨doc.fonts.entries ++
        Array.replicate count ⟨face, .ofCapacity doc.options.subsetCapacity, []⟩⟩ := by
  induction count generalizing doc with
  | zero =>
      rw [Array.replicate_zero, Array.append_empty]
      rfl
  | succ count ih =>
      have entries : (doc.apply (.addFont face)).2.fonts.entries =
          doc.fonts.entries.push ⟨face, .ofCapacity doc.options.subsetCapacity, []⟩ := rfl
      have options : (doc.apply (.addFont face)).2.options = doc.options := rfl
      show ((doc.apply (.addFont face)).2.run (List.replicate count (.addFont face))).2.fonts = _
      rw [ih, entries, options]
      simp [Array.replicate_succ']

theorem exists_get?_newGlyph (found : doc.fonts.get? font = some item) {glyph : GlyphId}
    (present : glyph ≠ 0) (new : glyph ∉ item.slots.glyphs) :
    ∃ later : FontItem, later.slots.capacity = item.slots.capacity ∧
      later.slots.glyphs = item.slots.glyphs ++ [glyph] ∧
      ∀ other, (doc.apply (.glyphSlot font glyph none)).2.fonts.get? other =
        if other = font then some later else doc.fonts.get? other := by
  have shown : (GlyphRequest.ofGlyph glyph none).glyph? item.face = some glyph := by
    simp [GlyphRequest.glyph?, present]
  have applied : doc.apply (.glyphSlot font glyph none) =
      (.ok (.slot (item.slots.assign glyph none).1), doc.withGlyph font item glyph none) :=
    apply_request_found found shown
  obtain ⟨added, fonts⟩ := exists_get?_withGlyph found glyph none
  have assigned := item.slots.glyphs_assign glyph none
  rw [if_neg new] at assigned
  rw [applied]
  exact ⟨_, (item.slots.extends_assign glyph none).capacity, assigned, fonts⟩

theorem exists_get?_glyphRequests (found : doc.fonts.get? font = some item) {glyphs : List GlyphId}
    (present : ∀ glyph ∈ glyphs, glyph ≠ 0) (new : (item.slots.glyphs ++ glyphs).Nodup) :
    ∃ later : FontItem, later.slots.capacity = item.slots.capacity ∧
      later.slots.glyphs = item.slots.glyphs ++ glyphs ∧
      ∀ other, (doc.run (glyphRequests font glyphs)).2.fonts.get? other =
        if other = font then some later else doc.fonts.get? other := by
  induction glyphs generalizing doc item with
  | nil =>
      refine ⟨item, rfl, (List.append_nil _).symm, fun other => ?_⟩
      split
      · next same => rw [same, glyphRequests, List.map_nil, run, found]
      · rfl
  | cons glyph rest ih =>
      obtain ⟨nonzero, present⟩ := List.forall_mem_cons.mp present
      have apart : glyph ∉ item.slots.glyphs := fun member =>
        (List.nodup_append.mp new).2.2 _ member _ List.mem_cons_self rfl
      obtain ⟨next, capacity, taken, fonts⟩ := exists_get?_newGlyph found nonzero apart
      rw [List.append_cons, ← taken] at new
      obtain ⟨later, kept, glyphs, fontsLater⟩ := ih ((fonts font).trans (if_pos rfl)) present new
      refine ⟨later, kept.trans capacity, ?_, fun other => ?_⟩
      · rw [glyphs, taken, List.append_assoc, List.singleton_append]
      · refine (fontsLater other).trans ?_
        split
        · rfl
        · next different => rw [fonts, if_neg different]

theorem map_toNat_firstGlyphs {count : Nat} (few : count < 65536) :
    (firstGlyphs count).map UInt16.toNat = (List.range count).map (· + 1) := by
  rw [firstGlyphs, List.map_map]
  refine List.map_congr_left fun before inside => ?_
  rw [List.mem_range] at inside
  exact UInt16.toNat_ofNat_of_lt' (Nat.lt_of_le_of_lt inside few)

theorem nodup_firstGlyphs {count : Nat} (few : count < 65536) : (firstGlyphs count).Nodup := by
  refine List.Nodup.of_map UInt16.toNat ?_
  rw [map_toNat_firstGlyphs few]
  exact List.nodup_range.map (Nat.succ_injective)

theorem ne_zero_of_mem_firstGlyphs {count : Nat} (few : count < 65536) :
    ∀ glyph ∈ firstGlyphs count, glyph ≠ 0 := by
  rintro glyph member rfl
  have zero : (0 : UInt16).toNat ∈ (firstGlyphs count).map UInt16.toNat :=
    List.mem_map_of_mem member
  rw [map_toNat_firstGlyphs few] at zero
  obtain ⟨before, -, same⟩ := List.mem_map.mp zero
  contradiction

theorem exists_get?_addFonts (options : DocumentOptions) (converter : Color → DeviceSpace → Color)
    (face : Face) {count : Nat} (inside : font.index < count) :
    ((withConverter options converter).run (List.replicate count (.addFont face))).2.fonts.get?
      font = some ⟨face, .ofCapacity options.subsetCapacity, []⟩ := by
  rw [fonts_run_addFonts]
  show (#[] ++ Array.replicate count _)[font.index]? = _
  rw [Array.empty_append, Array.getElem?_replicate, if_pos inside]
  rfl

theorem length_firstGlyphs (count : Nat) : (firstGlyphs count).length = count := by
  rw [firstGlyphs, List.length_map, List.length_range]

theorem isOpen_firstGlyphs {key : SubsetKey} (found : doc.fonts.get? key.font = some item)
    (fresh : item.slots.glyphs = []) (single : item.slots.capacity = 1)
    (few : key.subset + 1 < 65536) :
    (doc.run (glyphRequests key.font (firstGlyphs (key.subset + 1)))).2.IsOpen key ∧
      ∀ {other}, other ≠ key.font →
        (doc.run (glyphRequests key.font (firstGlyphs (key.subset + 1)))).2.fonts.get? other =
          doc.fonts.get? other := by
  have new : (item.slots.glyphs ++ firstGlyphs (key.subset + 1)).Nodup := by
    rw [fresh, List.nil_append]
    exact nodup_firstGlyphs few
  obtain ⟨later, capacity, glyphs, fonts⟩ :=
    exists_get?_glyphRequests found (ne_zero_of_mem_firstGlyphs few) new
  constructor
  · refine isOpen_of_length ((fonts key.font).trans (if_pos rfl)) ?_
    rw [capacity, single, glyphs, fresh, List.nil_append, length_firstGlyphs]
    omega
  · intro other different
    exact (fonts other).trans (if_neg different)

theorem isOpen_withBoth {first second : SubsetKey} (different : first.font ≠ second.font)
    (few : first.subset + 1 < 65536) (fewAlso : second.subset + 1 < 65536) :
    (withBoth first second).IsOpen first ∧ (withBoth first second).IsOpen second := by
  have known {font : Id .font} (inside : font.index ≤ max first.font.index second.font.index) :=
    @exists_get?_addFonts font { DocumentOptions.standard with subsetCapacity := 1 }
      Color.convertDevice monospaceFace _ (Nat.lt_succ_of_le inside)
  obtain ⟨opened, others⟩ :=
    isOpen_firstGlyphs (known (Nat.le_max_left _ _)) rfl rfl few
  obtain ⟨openedAlso, kept⟩ := isOpen_firstGlyphs
    ((others different.symm).trans (known (Nat.le_max_right _ _))) rfl rfl fewAlso
  rw [withBoth, openingBoth, run_append, run_append]
  refine ⟨?_, openedAlso⟩
  rw [IsOpen, kept different]
  exact opened

/-- Two fonts have subsets that are embedded under one name. -/
theorem withBoth_shares_tag :
    (withBoth ⟨⟨287⟩, 8⟩ ⟨⟨379⟩, 5⟩).IsOpen ⟨⟨287⟩, 8⟩ ∧
      (withBoth ⟨⟨287⟩, 8⟩ ⟨⟨379⟩, 5⟩).IsOpen ⟨⟨379⟩, 5⟩ ∧
      SubsetKey.tag ⟨⟨287⟩, 8⟩ = utf8 "SOPADN" ∧ SubsetKey.tag ⟨⟨379⟩, 5⟩ = utf8 "SOPADN" ∧
      ¬ ∀ {first second}, (withBoth ⟨⟨287⟩, 8⟩ ⟨⟨379⟩, 5⟩).IsOpen first →
        (withBoth ⟨⟨287⟩, 8⟩ ⟨⟨379⟩, 5⟩).IsOpen second → first ≠ second →
          first.tag ≠ second.tag := by
  obtain ⟨opened, openedAlso⟩ :=
    @isOpen_withBoth ⟨⟨287⟩, 8⟩ ⟨⟨379⟩, 5⟩ (by decide) (by decide) (by decide)
  have tag : SubsetKey.tag ⟨⟨287⟩, 8⟩ = utf8 "SOPADN" := by decide +kernel
  have tagAlso : SubsetKey.tag ⟨⟨379⟩, 5⟩ = utf8 "SOPADN" := by decide +kernel
  refine ⟨opened, openedAlso, tag, tagAlso, fun differ => ?_⟩
  exact differ opened openedAlso (by decide) (tag.trans tagAlso.symm)

end Document

end Folio
