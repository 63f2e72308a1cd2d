import Folio.Bytes
import Folio.Image.Bilevel
import Mathlib.Data.List.Induction

/-!
The packed rows of images of one bit for each pixel, bit by bit, and the loops that pack them: bits
of light pixels are set in rows that are clear at first.
-/

namespace Folio

namespace BilevelImage

def bitAt (byte : UInt8) (place : Nat) : Bool :=
  byte.toNat.testBit (7 - place)

/-- Whether the gray level at an index is there and at least middle gray. -/
def isLight (levels : Bytes) (index : Nat) : Bool :=
  0x80 ≤ levels.getD index 0

theorem isLight_eq_false {levels : Bytes} {index : Nat} (outside : levels.length ≤ index) :
    isLight levels index = false := by
  rw [isLight, List.getD_eq_getElem?_getD, List.getElem?_eq_none outside]
  rfl

theorem isLight_drop (levels : Bytes) (start index : Nat) :
    isLight (levels.drop start) index = isLight levels (start + index) := by
  rw [isLight, isLight, List.getD_eq_getElem?_getD, List.getElem?_drop,
    ← List.getD_eq_getElem?_getD]

theorem isLight_take (levels : Bytes) {count index : Nat} (inside : index < count) :
    isLight (levels.take count) index = isLight levels index := by
  rw [isLight, isLight, List.getD_eq_getElem?_getD, List.getElem?_take_of_lt inside,
    ← List.getD_eq_getElem?_getD]

theorem bitAt_zero (place : Nat) : bitAt 0 place = false :=
  Nat.zero_testBit _

theorem eq_of_bitAt {first second : UInt8}
    (same : ∀ place, place < 8 → bitAt first place = bitAt second place) : first = second := by
  refine UInt8.eq_of_toBitVec_eq (BitVec.eq_of_getLsbD_eq fun index inside => ?_)
  have mirrored := same (7 - index) (by omega)
  have back : 7 - (7 - index) = index := by omega
  rw [bitAt, bitAt, back] at mirrored
  exact mirrored

theorem bitAt_mask (place other : Fin 8) :
    bitAt (0x80 >>> UInt8.ofNat place.val) other.val = decide (place.val = other.val) := by
  revert place other
  decide

theorem bitAt_or_mask (byte : UInt8) {place other : Nat} (inside : place < 8)
    (otherInside : other < 8) :
    bitAt (byte ||| 0x80 >>> UInt8.ofNat place) other =
      (bitAt byte other || decide (place = other)) := by
  have mask := bitAt_mask ⟨place, inside⟩ ⟨other, otherInside⟩
  rw [← mask, bitAt, bitAt, bitAt, UInt8.toNat_or, Nat.testBit_or]

theorem testBit_digits (digit : Nat → Bool) {count place : Nat} (inside : place < count) :
    ((List.range count).foldl (fun value place => 2 * value + if digit place then 1 else 0)
      0).testBit (count - 1 - place) = digit place := by
  induction count with
  | zero => contradiction
  | succ count ih =>
      rw [List.range_succ, List.foldl_append, List.foldl_cons, List.foldl_nil]
      generalize (List.range count).foldl _ 0 = value at ih ⊢
      by_cases last : place = count
      · subst last
        rw [Nat.add_sub_cancel, Nat.sub_self, Nat.testBit_zero]
        cases digit place with
        | false => simp
        | true => simp
      · have down : count + 1 - 1 - place = count - 1 - place + 1 := by omega
        have half : (2 * value + if digit count then 1 else 0) / 2 = value := by
          split
          · omega
          · omega
        rw [down, Nat.testBit_succ, half, ih (by omega)]

theorem bitAt_packByte (levels : Bytes) {place : Nat} (inside : place < 8) :
    bitAt (packByte levels) place = isLight levels place := by
  have digits := testBit_digits (isLight levels) inside
  have low : decide (7 - place < 8) = true := decide_eq_true (by omega)
  rw [bitAt, packByte, UInt8.toNat_ofNat', Nat.testBit_mod_two_pow, low, Bool.true_and]
  simpa only [isLight, decide_eq_true_eq] using digits

@[simp] theorem length_packRow (count : Nat) (levels : Bytes) :
    (packRow count levels).length = count := by
  induction count generalizing levels with
  | zero => rfl
  | succ count ih => rw [packRow, List.length_cons, ih]

theorem getElem?_packRow {count index : Nat} (levels : Bytes) (inside : index < count) :
    (packRow count levels)[index]? = some (packByte ((levels.drop (8 * index)).take 8)) := by
  induction index generalizing count levels with
  | zero =>
      obtain ⟨rest, rfl⟩ := Nat.exists_eq_succ_of_ne_zero (Nat.ne_of_gt inside)
      rfl
  | succ index ih =>
      obtain ⟨rest, rfl⟩ := Nat.exists_eq_succ_of_ne_zero (Nat.ne_zero_of_lt inside)
      rw [packRow, List.getElem?_cons_succ, ih _ (Nat.lt_of_succ_lt_succ inside), List.drop_drop,
        Nat.mul_succ, Nat.add_comm]

def pixelBit? (row : Bytes) (x : Nat) : Option Bool :=
  (row[x / 8]?).map (bitAt · (x % 8))

theorem pixelBit?_packRow (levels : Bytes) {count x : Nat} (inside : x < 8 * count) :
    pixelBit? (packRow count levels) x = some (isLight levels x) := by
  have place := Nat.mod_lt x (Nat.zero_lt_succ 7)
  rw [pixelBit?, getElem?_packRow levels (by omega), Option.map_some, bitAt_packByte _ place,
    isLight_take _ place, isLight_drop, Nat.div_add_mod]

theorem eq_of_pixelBit? {first second : Bytes} (length : first.length = second.length)
    (same : ∀ x, x < 8 * first.length → pixelBit? first x = pixelBit? second x) :
    first = second := by
  refine List.ext_getElem length fun index inside otherInside => ?_
  refine eq_of_bitAt fun place bound => ?_
  have byte : (8 * index + place) / 8 = index := by omega
  have rest : (8 * index + place) % 8 = place := by omega
  have bits := same (8 * index + place) (by omega)
  rw [pixelBit?, pixelBit?, byte, rest, List.getElem?_eq_getElem inside,
    List.getElem?_eq_getElem otherInside] at bits
  exact Option.some.inj bits

def rowLevels (width : Nat) (levels : Bytes) (y : Nat) : Bytes :=
  if (y + 1) * width ≤ levels.length then (levels.drop (y * width)).take width else []

theorem rowLevels_succ (width : Nat) (levels : Bytes) (y : Nat) :
    rowLevels width (levels.drop width) y = rowLevels width levels (y + 1) := by
  have next : (y + 1 + 1) * width = (y + 1) * width + width := Nat.succ_mul _ _
  have start : (y + 1) * width = y * width + width := Nat.succ_mul _ _
  rw [rowLevels, rowLevels, List.length_drop, List.drop_drop]
  by_cases whole : (y + 1 + 1) * width ≤ levels.length
  · rw [if_pos whole, if_pos (by omega), start, Nat.add_comm width]
  · by_cases empty : width = 0
    · subst empty
      simp
    · rw [if_neg whole, if_neg (by omega)]

@[simp] theorem length_packRows (width height : Nat) (levels : Bytes) :
    (packRows width height levels).length = rowBytes width * height := by
  induction height generalizing levels with
  | zero => rfl
  | succ height ih =>
      rw [packRows, List.length_append, length_packRow, ih, Nat.mul_succ, Nat.add_comm]

theorem getElem?_packRows {width height y index : Nat} (levels : Bytes) (below : y < height)
    (inside : index < rowBytes width) :
    (packRows width height levels)[y * rowBytes width + index]? =
      (packRow (rowBytes width) (rowLevels width levels y))[index]? := by
  induction y generalizing height levels with
  | zero =>
      obtain ⟨rest, rfl⟩ := Nat.exists_eq_succ_of_ne_zero (Nat.ne_of_gt below)
      simp only [packRows, rowLevels, Nat.zero_mul, Nat.zero_add, Nat.one_mul, List.drop_zero]
      exact List.getElem?_append_left (by rw [length_packRow]; exact inside)
  | succ y ih =>
      obtain ⟨rest, rfl⟩ := Nat.exists_eq_succ_of_ne_zero (Nat.ne_zero_of_lt below)
      have shifted : (y + 1) * rowBytes width + index - rowBytes width =
          y * rowBytes width + index := by
        rw [Nat.succ_mul]
        omega
      rw [packRows, List.getElem?_append_right (by rw [length_packRow, Nat.succ_mul]; omega),
        length_packRow, shifted, ih _ (Nat.lt_of_succ_lt_succ below), rowLevels_succ]

def setBit? (row : Bytes) (x : Nat) : Option Bytes := do
  let byte ← row[x / 8]?
  return row.set (x / 8) (byte ||| 0x80 >>> UInt8.ofNat (x % 8))

def fillRow? (row levels : Bytes) : Option Bytes :=
  levels.zipIdx.foldlM (fun row pixel =>
    if 0x80 ≤ pixel.1 then setBit? row pixel.2 else some row) row

def fillAt? (width : Nat) (data levels : Bytes) (y : Nat) : Option Bytes := do
  let row ← slice? data (y * rowBytes width) (rowBytes width)
  let filled ← fillRow? row levels
  return data.take (y * rowBytes width) ++ filled ++ data.drop ((y + 1) * rowBytes width)

def wholeRows (width : Nat) (levels : Bytes) : List Bytes :=
  groupsOf width (levels.length / width) levels

def fillFrom? (width : Nat) (data : Bytes) (y : Nat) (rows : List Bytes) : Option Bytes :=
  (rows.zipIdx y).foldlM (fun data row => fillAt? width data row.1 row.2) data

/-- Fills a clear image, a row for each whole row of gray levels, if all of these rows are there. -/
def fill? (width height : Nat) (levels : Bytes) : Option Bytes :=
  let clear := List.replicate (rowBytes width * height) 0
  if 0 < width then fillFrom? width clear 0 (wholeRows width levels) else some clear

theorem pixelBit?_setBit? {row : Bytes} {x : Nat} (inside : x < 8 * row.length) :
    ∃ after, setBit? row x = some after ∧ after.length = row.length ∧
      ∀ other, pixelBit? after other =
        (pixelBit? row other).map fun bit => bit || decide (x = other) := by
  have byte : x / 8 < row.length := by omega
  refine ⟨row.set (x / 8) (row[x / 8] ||| 0x80 >>> UInt8.ofNat (x % 8)), ?_,
    List.length_set .., fun other => ?_⟩
  · rw [setBit?, List.getElem?_eq_getElem byte]
    rfl
  · rw [pixelBit?, pixelBit?, List.getElem?_set]
    by_cases same : x / 8 = other / 8
    · have places : x % 8 = other % 8 ↔ x = other := by omega
      rw [if_pos same, if_pos (same ▸ byte), ← same, List.getElem?_eq_getElem byte,
        Option.map_some, Option.map_some, Option.map_some,
        bitAt_or_mask _ (Nat.mod_lt _ (by decide)) (Nat.mod_lt _ (by decide))]
      simp only [places]
    · have apart : x ≠ other := fun equal => same (congrArg (· / 8) equal)
      rw [if_neg same, decide_eq_false apart, Option.map_map]
      simp [Function.comp_def]

theorem fillRow?_concat (row levels : Bytes) (level : UInt8) :
    fillRow? row (levels ++ [level]) = (fillRow? row levels).bind fun filled =>
      if 0x80 ≤ level then setBit? filled levels.length else some filled := by
  rw [fillRow?, List.zipIdx_append, List.foldlM_append, ← fillRow?]
  cases fillRow? row levels with
  | none => rfl
  | some filled => simp

theorem isLight_concat (levels : Bytes) (level : UInt8) (index : Nat) :
    isLight (levels ++ [level]) index =
      (isLight levels index || (decide (0x80 ≤ level) && decide (levels.length = index))) := by
  rcases Nat.lt_trichotomy index levels.length with before | rfl | behind
  · have apart : levels.length ≠ index := Nat.ne_of_gt before
    rw [decide_eq_false apart, Bool.and_false, Bool.or_false, isLight, isLight,
      List.getD_eq_getElem?_getD, List.getElem?_append_left before, ← List.getD_eq_getElem?_getD]
  · rw [isLight_eq_false (Nat.le_refl _), isLight]
    simp
  · have apart : levels.length ≠ index := Nat.ne_of_lt behind
    rw [decide_eq_false apart, isLight_eq_false (Nat.le_of_lt behind),
      isLight_eq_false (by rw [List.length_append]; exact behind), Bool.and_false, Bool.or_false]

theorem exists_fillRow? {count : Nat} (levels : Bytes) (fits : levels.length ≤ 8 * count) :
    ∃ filled, fillRow? (List.replicate count 0) levels = some filled ∧ filled.length = count ∧
      ∀ x, x < 8 * count → pixelBit? filled x = some (isLight levels x) := by
  -- from the front on: the bits that are set so far are those of the gray levels so far
  induction levels using List.reverseRecOn with
  | nil =>
      refine ⟨_, rfl, List.length_replicate, fun x inside => ?_⟩
      rw [pixelBit?, List.getElem?_replicate_of_lt (by omega), Option.map_some, bitAt_zero,
        isLight_eq_false (Nat.zero_le _)]
  | append_singleton levels level ih =>
      rw [List.length_append, List.length_singleton] at fits
      obtain ⟨filled, reached, length, bits⟩ := ih (by omega)
      rw [fillRow?_concat, reached, Option.bind_some]
      by_cases light : 0x80 ≤ level
      · have within : levels.length < 8 * filled.length := by omega
        obtain ⟨after, found, same, changed⟩ := pixelBit?_setBit? within
        refine ⟨after, by rw [if_pos light]; exact found, same.trans length, fun x inside => ?_⟩
        rw [changed, bits x inside, isLight_concat, decide_eq_true light, Bool.true_and]
        rfl
      · refine ⟨filled, by rw [if_neg light], length, fun x inside => ?_⟩
        rw [bits x inside, isLight_concat, decide_eq_false light, Bool.false_and, Bool.or_false]

theorem fillRow?_eq {count : Nat} {levels : Bytes} (fits : levels.length ≤ 8 * count) :
    fillRow? (List.replicate count 0) levels = some (packRow count levels) := by
  obtain ⟨filled, reached, length, bits⟩ := exists_fillRow? levels fits
  rw [reached]
  refine congrArg some (eq_of_pixelBit? (by rw [length, length_packRow]) fun x inside => ?_)
  rw [length] at inside
  rw [bits x inside, pixelBit?_packRow levels inside]

variable {width : Nat}

theorem le_rowBytes (width : Nat) : width ≤ 8 * rowBytes width := by
  rw [rowBytes]
  omega

theorem rowBytes_pos (positive : 0 < width) : 0 < rowBytes width := by
  rw [rowBytes]
  omega

theorem fillAt?_outside (positive : 0 < width) {done : Bytes} {y : Nat}
    (length : done.length = y * rowBytes width) (levels : Bytes) :
    fillAt? width done levels y = none := by
  have bytes := rowBytes_pos positive
  rw [fillAt?, slice?_eq, if_neg (by omega)]
  rfl

theorem fillAt?_inside {done : Bytes} {y : Nat} (length : done.length = y * rowBytes width)
    (rest : Nat) {levels : Bytes} (fits : levels.length ≤ width) :
    fillAt? width (done ++ List.replicate (rowBytes width * (rest + 1)) 0) levels y =
      some (done ++ packRow (rowBytes width) levels ++
        List.replicate (rowBytes width * rest) 0) := by
  have bytes := le_rowBytes width
  have next : (y + 1) * rowBytes width = done.length + rowBytes width := by
    rw [Nat.succ_mul, length]
  have clear : List.replicate (rowBytes width * (rest + 1)) (0 : UInt8) =
      List.replicate (rowBytes width) 0 ++ List.replicate (rowBytes width * rest) 0 := by
    rw [List.replicate_append_replicate, Nat.mul_succ, Nat.add_comm]
  rw [fillAt?, slice?_eq, next, ← length, clear, if_pos (by simp), List.drop_left,
    List.take_left' List.length_replicate, Option.bind_eq_bind, Option.bind_some,
    fillRow?_eq (by omega), Option.bind_some, List.take_left, ← List.append_assoc,
    List.drop_left' (by simp)]
  rfl

theorem wholeRows_eq (positive : 0 < width) (levels : Bytes) :
    wholeRows width levels =
      if width ≤ levels.length then
        levels.take width :: wholeRows width (levels.drop width)
      else [] := by
  rw [wholeRows]
  split
  · next whole =>
    rw [wholeRows, List.length_drop, Nat.div_eq_sub_div positive whole, groupsOf]
  · next short =>
    rw [Nat.div_eq_of_lt (Nat.not_le.mp short), groupsOf]

theorem packRows_of_short (height : Nat) {levels : Bytes} (short : levels.length < width) :
    packRows width height levels = List.replicate (rowBytes width * height) 0 := by
  induction height generalizing levels with
  | zero => rfl
  | succ height ih =>
      have filled : fillRow? (List.replicate (rowBytes width) 0) [] =
          some (packRow (rowBytes width) []) := fillRow?_eq (Nat.zero_le _)
      have clear : packRow (rowBytes width) [] = List.replicate (rowBytes width) 0 :=
        (Option.some.inj filled).symm
      rw [packRows, if_neg (Nat.not_le.mpr short), clear,
        ih (by rw [List.length_drop]; omega), List.replicate_append_replicate, Nat.mul_succ,
        Nat.add_comm]

theorem overflows_drop {height : Nat} {levels : Bytes} (whole : width ≤ levels.length) :
    overflows width height (levels.drop width) = overflows width (height + 1) levels := by
  have next : width * (height + 1 + 1) = width * (height + 1) + width := Nat.mul_succ _ _
  have same : width * (height + 1) ≤ levels.length - width ↔
      width * (height + 1 + 1) ≤ levels.length := by
    omega
  rw [overflows, overflows, List.length_drop]
  simp only [same]

theorem fillFrom?_eq (positive : 0 < width) (height : Nat) {done : Bytes} {y : Nat}
    (length : done.length = y * rowBytes width) (levels : Bytes) :
    fillFrom? width (done ++ List.replicate (rowBytes width * height) 0) y
        (wholeRows width levels) =
      if overflows width height levels then none
      else some (done ++ packRows width height levels) := by
  -- on the rows to come, which are clear behind those that are packed
  induction height generalizing done y levels with
  | zero =>
      rw [wholeRows_eq positive, overflows, packRows, Nat.mul_zero, List.replicate_zero,
        Nat.zero_add, Nat.mul_one, decide_eq_true positive, Bool.true_and, List.append_nil]
      by_cases whole : width ≤ levels.length
      · rw [if_pos whole, if_pos (decide_eq_true whole), fillFrom?, List.zipIdx_cons,
          List.foldlM_cons, fillAt?_outside positive length]
        rfl
      · rw [if_neg whole, if_neg (by simpa using whole)]
        rfl
  | succ height ih =>
      rw [wholeRows_eq positive]
      by_cases whole : width ≤ levels.length
      · have longer : (done ++ packRow (rowBytes width) (levels.take width)).length =
            (y + 1) * rowBytes width := by
          rw [List.length_append, length_packRow, length, Nat.succ_mul]
        rw [if_pos whole, fillFrom?, List.zipIdx_cons, List.foldlM_cons,
          fillAt?_inside length height (List.length_take_le _ _), Option.bind_eq_bind,
          Option.bind_some, ← fillFrom?, ih longer, overflows_drop whole, packRows,
          if_pos whole, List.append_assoc]
      · have short := Nat.not_le.mp whole
        have fits : overflows width (height + 1) levels = false := by
          rw [overflows, Nat.mul_succ]
          simp
          omega
        rw [if_neg whole, fits, packRows_of_short _ short]
        rfl

/-- The loops pack an image, and look up a row that is not there exactly when it overflows. -/
theorem fill?_eq (width height : Nat) (levels : Bytes) :
    fill? width height levels = (ofGray? width height levels).map BilevelImage.data := by
  rw [fill?, ofGray?]
  by_cases positive : 0 < width
  · have nothing : ([] : Bytes).length = 0 * rowBytes width := (Nat.zero_mul _).symm
    have filled := fillFrom?_eq positive height nothing levels
    rw [List.nil_append, List.nil_append] at filled
    rw [if_pos positive, filled]
    split
    · rfl
    · rfl
  · have empty : width = 0 := Nat.eq_zero_of_not_pos positive
    subst empty
    have clear : packRows 0 height levels = [] :=
      List.length_eq_zero_iff.mp ((length_packRows 0 height levels).trans (Nat.zero_mul _))
    simp [overflows, clear, rowBytes]

/-- The bit of a pixel, or of a place in the padding, if its byte is there. -/
def bit? (image : BilevelImage) (x y : Nat) : Option Bool :=
  (image.data[y * rowBytes image.width + x / 8]?).map (bitAt · (x % 8))

/-- An image whose bits are those of its whole rows of gray levels, and clear elsewhere. -/
structure Shows (image : BilevelImage) (width height : Nat) (levels : Bytes) : Prop where
  dimensions : image.width = width ∧ image.height = height
  size : image.data.length = rowBytes width * height
  valid : image.validate = .ok ()
  bits : ∀ x y, y < height → x < 8 * rowBytes width →
    image.bit? x y = some (decide (x < width ∧ (y + 1) * width ≤ levels.length ∧
      0x80 ≤ levels.getD (y * width + x) 0))
  thresholds : width * height ≤ levels.length → ∀ x y, x < width → y < height →
    ∃ level, levels[y * width + x]? = some level ∧ image.bit? x y = some (decide (0x80 ≤ level))

theorem isLight_rowLevels (width : Nat) (levels : Bytes) (x y : Nat) :
    isLight (rowLevels width levels y) x = decide (x < width ∧ (y + 1) * width ≤ levels.length ∧
      0x80 ≤ levels.getD (y * width + x) 0) := by
  rw [rowLevels]
  by_cases whole : (y + 1) * width ≤ levels.length
  · rw [if_pos whole]
    by_cases inside : x < width
    · rw [isLight_take _ inside, isLight_drop, isLight]
      simp only [inside, whole, true_and]
    · rw [isLight_eq_false (Nat.le_trans (List.length_take_le _ _) (Nat.not_lt.mp inside))]
      simp only [inside, false_and, decide_false]
  · rw [if_neg whole, isLight_eq_false (Nat.zero_le _)]
    simp only [whole, false_and, and_false, decide_false]

theorem bit?_packRows {width height x y : Nat} (levels : Bytes) (below : y < height)
    (inside : x < 8 * rowBytes width) :
    bit? ⟨width, height, packRows width height levels⟩ x y =
      some (isLight (rowLevels width levels y) x) := by
  rw [bit?, getElem?_packRows levels below (by omega), ← pixelBit?, pixelBit?_packRow _ inside]

theorem shows_packRows (width height : Nat) (levels : Bytes) :
    Shows ⟨width, height, packRows width height levels⟩ width height levels where
  dimensions := ⟨rfl, rfl⟩
  size := length_packRows width height levels
  valid := if_pos (length_packRows width height levels)
  bits := by
    intro x y below inside
    rw [bit?_packRows levels below inside, isLight_rowLevels]
  thresholds := by
    intro full x y inside below
    have rows : (y + 1) * width ≤ levels.length :=
      Nat.le_trans (Nat.mul_comm width _ ▸ Nat.mul_le_mul_left width below) full
    have there : y * width + x < levels.length := by
      rw [Nat.succ_mul] at rows
      omega
    refine ⟨levels[y * width + x], List.getElem?_eq_getElem there, ?_⟩
    rw [bit?_packRows levels below (Nat.lt_of_lt_of_le inside (le_rowBytes width)),
      isLight_rowLevels, List.getD_eq_getElem?_getD, List.getElem?_eq_getElem there,
      Option.getD_some]
    simp only [inside, rows, true_and]

theorem overflows_iff {width height : Nat} {levels : Bytes} :
    overflows width height levels ↔ 0 < width ∧ height + 1 ≤ levels.length / width := by
  rw [overflows, Bool.and_eq_true, decide_eq_true_iff, decide_eq_true_iff]
  refine and_congr_right fun positive => ?_
  rw [Nat.le_div_iff_mul_le positive, Nat.mul_comm]

/-- What comes of gray levels, and of the loops that pack them. -/
structure Packs (width height : Nat) (levels : Bytes) : Prop where
  refused : ofGray? width height levels = none ↔
    0 < width ∧ height + 1 ≤ levels.length / width
  shown : ∀ image, ofGray? width height levels = some image →
    image.Shows width height levels
  loops : fill? width height levels = (ofGray? width height levels).map BilevelImage.data

/-- Gray levels are packed bit by bit, unless there is a whole row too many. -/
theorem packs_grayLevels (width height : Nat) (levels : Bytes) : Packs width height levels where
  refused := by
    rw [← overflows_iff, ofGray?]
    split
    · next above => exact iff_of_true rfl above
    · next fits => exact iff_of_false (Option.some_ne_none _) fits
  shown := by
    intro image packed
    rw [ofGray?] at packed
    split at packed
    · contradiction
    · rw [← Option.some.inj packed]
      exact shows_packRows width height levels
  loops := fill?_eq width height levels

end BilevelImage

end Folio
