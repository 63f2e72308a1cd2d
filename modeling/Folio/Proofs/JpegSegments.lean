import Folio.Image.Jpeg

/-!
The files that are taken for JPEG files: segments up to the first frame, spelled in one way only.
A scan by position, for which a byte that is not there is a fault, comes to the same end.
-/

namespace Folio

namespace Jpeg

/-- A marker after at least one fill byte, and a body whose length fits into two bytes. -/
@[ext] structure Segment where
  extraFill : Nat
  marker : UInt8
  body : Bytes
  marker_ne : marker ≠ 0xFF
  length_lt : body.length + 2 < 65536

def frameMarkers : List UInt8 :=
  [0xC0, 0xC1, 0xC2, 0xC3, 0xC5, 0xC6, 0xC7, 0xC9, 0xCA, 0xCB, 0xCD, 0xCE, 0xCF]

namespace Segment

/-- Marker, length and body; the length counts its own two bytes. -/
def content (segment : Segment) : Bytes :=
  segment.marker ::
    (wordBytes (UInt16.ofNat (segment.body.length + 2)) ++ segment.body)

def bytes (segment : Segment) : Bytes :=
  List.replicate (segment.extraFill + 1) 0xFF ++ segment.content

def filled (segment : Segment) : Segment :=
  { segment with extraFill := segment.extraFill + 1 }

def IsSkipped (segment : Segment) : Prop :=
  segment.marker ∉ frameMarkers ∧ segment.marker ≠ 0xD9 ∧ segment.marker ≠ 0xDA

def NamesAdobe (segment : Segment) : Prop :=
  segment.marker = 0xEE ∧ utf8 "Adobe" <+: segment.body

end Segment

/-- A way to take a file apart into segments to skip, a frame and whatever follows it. -/
@[ext] structure Parts (file : Bytes) where
  skipped : List Segment
  frame : Segment
  rest : Bytes
  split : file = 0xFF :: 0xD8 :: (skipped.flatMap Segment.bytes ++ (frame.bytes ++ rest))
  passed : ∀ segment ∈ skipped, segment.IsSkipped
  opens : frame.marker ∈ frameMarkers

/-- What the frame tells; four inks are complements if a segment before it says so. -/
def Parts.Tells {file : Bytes} (parts : Parts file) (info : JpegInfo) : Prop :=
  ∃ bits high low wide narrow components others,
    parts.frame.body = bits :: high :: low :: wide :: narrow :: components :: others ∧
    info.bitsPerComponent = bits.toNat ∧
    info.height = high.toNat * 256 + low.toNat ∧
    info.width = wide.toNat * 256 + narrow.toNat ∧
    (components, info.space) ∈ [(1, DeviceSpace.gray), (3, .rgb), (4, .cmyk)] ∧
    (info.inverted ↔ components = 4 ∧ ∃ segment ∈ parts.skipped, segment.NamesAdobe)

theorem isFrame_iff {marker : UInt8} : isFrame marker ↔ marker ∈ frameMarkers := by
  revert marker
  have all : ∀ number < 256, isFrame (UInt8.ofNat number) = true ↔
      UInt8.ofNat number ∈ frameMarkers := by decide +kernel
  intro marker
  have found := all marker.toNat marker.toNat_lt
  rwa [UInt8.ofNat_toNat] at found

theorem isLast_iff {marker : UInt8} : isLast marker ↔ marker = 0xD9 ∨ marker = 0xDA := by
  rw [isLast, Bool.or_eq_true, beq_iff_eq, beq_iff_eq]

theorem Segment.isSkipped_iff {segment : Segment} :
    segment.IsSkipped ↔ ¬isFrame segment.marker ∧ ¬isLast segment.marker := by
  rw [IsSkipped, isFrame_iff, isLast_iff, not_or]

theorem Segment.isAdobe_iff {segment : Segment} :
    isAdobe segment.marker segment.body ↔ segment.NamesAdobe := by
  rw [isAdobe, NamesAdobe, Bool.and_eq_true, beq_iff_eq, beq_iff_eq,
    List.prefix_iff_eq_take]
  exact and_congr_right fun _ => eq_comm

theorem bigEndian_pair (high low : UInt8) :
    bigEndian [high, low] = high.toNat * 256 + low.toNat := by
  simp [bigEndian]

theorem bigEndian_pair_lt (high low : UInt8) : bigEndian [high, low] < 65536 := by
  have := high.toNat_lt
  have := low.toNat_lt
  rw [bigEndian_pair]
  omega

theorem wordBytes_bigEndian (high low : UInt8) :
    wordBytes (UInt16.ofNat (bigEndian [high, low])) = [high, low] := by
  have small := bigEndian_pair_lt high low
  have below := low.toNat_lt
  have first : bigEndian [high, low] / 256 = high.toNat := by
    rw [bigEndian_pair]
    omega
  have second : bigEndian [high, low] % 256 = low.toNat := by
    rw [bigEndian_pair]
    omega
  rw [wordBytes, UInt16.toNat_ofNat', Nat.mod_eq_of_lt small, first, second, UInt8.ofNat_toNat,
    UInt8.ofNat_toNat]

theorem exists_wordBytes_eq {number : Nat} (small : number < 65536) :
    ∃ high low, wordBytes (UInt16.ofNat number) = [high, low] ∧
      bigEndian [high, low] = number := by
  refine ⟨_, _, rfl, ?_⟩
  rw [bigEndian_pair, UInt16.toNat_ofNat', Nat.mod_eq_of_lt small, UInt8.toNat_ofNat',
    UInt8.toNat_ofNat']
  omega

def afterSegment (adobe : Bool) (segment : Segment) (rest : Bytes) : Option JpegInfo :=
  if isFrame segment.marker then frame? adobe segment.body
  else if isLast segment.marker then none
  else scan? (adobe || isAdobe segment.marker segment.body) rest

theorem scan?_fill (adobe : Bool) {rest : Bytes} (long : 2 ≤ rest.length) :
    scan? adobe (0xFF :: 0xFF :: rest) = scan? adobe (0xFF :: rest) := by
  cases rest with
  | nil => contradiction
  | cons first rest =>
      cases rest with
      | nil => contradiction
      | cons second rest => rw [scan?, if_neg (by decide), if_pos rfl]

theorem scan?_segment (adobe : Bool) (segment : Segment) (rest : Bytes) :
    scan? adobe (segment.bytes ++ rest) = afterSegment adobe segment rest := by
  obtain ⟨high, low, spelled, length⟩ := exists_wordBytes_eq segment.length_lt
  have content : segment.content = segment.marker :: high :: low :: segment.body := by
    rw [Segment.content, spelled]
    rfl
  rw [Segment.bytes, List.append_assoc, content]
  induction segment.extraFill with
  | zero =>
      have enough : ¬(segment.body.length + 2 < 2 ∨
          (segment.body ++ rest).length < segment.body.length) := by
        rw [List.length_append]
        omega
      simp only [Nat.zero_add, List.replicate_one, List.cons_append, List.nil_append]
      rw [scan?, if_neg (by decide), if_neg segment.marker_ne]
      simp only [length, Nat.add_sub_cancel, List.take_left, List.drop_left]
      rw [if_neg enough]
      rfl
  | succ fill ih =>
      rw [← ih, List.replicate_succ, List.replicate_succ]
      exact scan?_fill adobe (by simp; omega)

theorem scan?_segments (adobe : Bool) {skipped : List Segment}
    (passed : ∀ segment ∈ skipped, segment.IsSkipped) (rest : Bytes) :
    scan? adobe (skipped.flatMap Segment.bytes ++ rest) =
      scan? (adobe || skipped.any fun segment => isAdobe segment.marker segment.body) rest := by
  induction skipped generalizing adobe with
  | nil => simp
  | cons segment skipped ih =>
      obtain ⟨first, others⟩ := List.forall_mem_cons.mp passed
      obtain ⟨plain, open_⟩ := Segment.isSkipped_iff.mp first
      rw [List.flatMap_cons, List.append_assoc, scan?_segment, afterSegment, if_neg plain,
        if_neg open_, ih _ others, List.any_cons, Bool.or_assoc]

@[simp] theorem Segment.bytes_filled (segment : Segment) :
    segment.filled.bytes = 0xFF :: segment.bytes := by
  rw [bytes, bytes, filled, List.replicate_succ]
  rfl

theorem exists_filled {skipped : List Segment} {frame : Segment}
    (passed : ∀ segment ∈ skipped, segment.IsSkipped) (opens : frame.marker ∈ frameMarkers)
    (rest : Bytes) :
    ∃ (earlier : List Segment) (later : Segment),
      0xFF :: (skipped.flatMap Segment.bytes ++ (frame.bytes ++ rest)) =
        earlier.flatMap Segment.bytes ++ (later.bytes ++ rest) ∧
      (∀ segment ∈ earlier, segment.IsSkipped) ∧ later.marker ∈ frameMarkers := by
  cases skipped with
  | nil => exact ⟨[], frame.filled, by simp, passed, opens⟩
  | cons segment skipped =>
      obtain ⟨first, others⟩ := List.forall_mem_cons.mp passed
      exact ⟨segment.filled :: skipped, frame, by simp, List.forall_mem_cons.mpr ⟨first, others⟩,
        opens⟩

theorem exists_segment {marker high low : UInt8} {rest : Bytes} (plain : marker ≠ 0xFF)
    (enough : ¬(bigEndian [high, low] < 2 ∨ rest.length < bigEndian [high, low] - 2)) :
    ∃ segment : Segment, segment.marker = marker ∧
      segment.body = rest.take (bigEndian [high, low] - 2) ∧
      0xFF :: marker :: high :: low :: rest =
        segment.bytes ++ rest.drop (bigEndian [high, low] - 2) := by
  have small := bigEndian_pair_lt high low
  have length : (rest.take (bigEndian [high, low] - 2)).length + 2 = bigEndian [high, low] := by
    rw [List.length_take]
    omega
  have spelled : wordBytes
      (UInt16.ofNat ((rest.take (bigEndian [high, low] - 2)).length + 2)) = [high, low] := by
    rw [length, wordBytes_bigEndian]
  refine ⟨⟨0, marker, rest.take (bigEndian [high, low] - 2), plain, by omega⟩, rfl, rfl, ?_⟩
  simp only [Segment.bytes, Segment.content, spelled]
  simp

theorem exists_of_scan? {adobe : Bool} {bytes : Bytes} {info : JpegInfo}
    (found : scan? adobe bytes = some info) :
    ∃ (skipped : List Segment) (frame : Segment) (rest : Bytes),
      bytes = skipped.flatMap Segment.bytes ++ (frame.bytes ++ rest) ∧
      (∀ segment ∈ skipped, segment.IsSkipped) ∧ frame.marker ∈ frameMarkers := by
  revert found
  fun_induction scan? adobe bytes with
  | case1 adobe lead marker high low rest unmarked => exact nofun
  | case2 adobe lead high low rest marked ih =>
      intro found
      obtain ⟨skipped, frame, after, split, passed, opens⟩ := ih found
      obtain ⟨earlier, later, moved, passed, opens⟩ := exists_filled passed opens after
      rw [Decidable.not_not.mp marked, split, moved]
      exact ⟨earlier, later, after, rfl, passed, opens⟩
  | case3 adobe lead marker high low rest marked plain length short => exact nofun
  | case4 adobe lead marker high low rest marked plain length body enough opens =>
      intro _
      obtain ⟨frame, same, -, split⟩ := exists_segment plain enough
      rw [Decidable.not_not.mp marked, split]
      exact ⟨[], frame, _, rfl, nofun, by rw [same]; exact isFrame_iff.mp opens⟩
  | case5 adobe lead marker high low rest marked plain length enough other last =>
      exact nofun
  | case6 adobe lead marker high low rest marked plain length body enough other open_ ih =>
      intro found
      obtain ⟨skipped, frame, after, split, passed, opens⟩ := ih found
      obtain ⟨segment, same, -, first⟩ := exists_segment plain enough
      have isSkipped : segment.IsSkipped := by
        rw [Segment.isSkipped_iff, same]
        exact ⟨other, open_⟩
      rw [Decidable.not_not.mp marked, first, split]
      exact ⟨segment :: skipped, frame, after, by simp,
        List.forall_mem_cons.mpr ⟨isSkipped, passed⟩, opens⟩
  | case7 adobe bytes short => exact nofun

theorem spaceOf?_eq_some_iff {components : UInt8} {space : DeviceSpace} :
    spaceOf? components = some space ↔
      (components, space) ∈ [(1, DeviceSpace.gray), (3, .rgb), (4, .cmyk)] := by
  unfold spaceOf?
  split
  · subst components
    simp [eq_comm]
  · split
    · subst components
      simp [eq_comm]
    · split
      · subst components
        simp [eq_comm]
      · simp_all

theorem eq_four_iff {components : UInt8} {space : DeviceSpace}
    (known : (components, space) ∈ [(1, DeviceSpace.gray), (3, .rgb), (4, .cmyk)]) :
    components = 4 ↔ space = .cmyk := by
  simp only [List.mem_cons, Prod.mk.injEq, List.not_mem_nil, or_false] at known
  obtain ⟨rfl, rfl⟩ | ⟨rfl, rfl⟩ | ⟨rfl, rfl⟩ := known <;> decide

theorem frame?_eq_some_iff {adobe : Bool} {body : Bytes} {info : JpegInfo} :
    frame? adobe body = some info ↔
      ∃ bits high low wide narrow components others,
        body = bits :: high :: low :: wide :: narrow :: components :: others ∧
        info.bitsPerComponent = bits.toNat ∧
        info.height = high.toNat * 256 + low.toNat ∧
        info.width = wide.toNat * 256 + narrow.toNat ∧
        (components, info.space) ∈ [(1, DeviceSpace.gray), (3, .rgb), (4, .cmyk)] ∧
        (info.inverted ↔ components = 4 ∧ adobe) := by
  constructor
  · intro found
    unfold frame? at found
    split at found
    · rename_i bits high low wide narrow components others
      obtain ⟨space, known, rfl⟩ := Option.map_eq_some_iff.mp found
      have known := spaceOf?_eq_some_iff.mp known
      refine ⟨bits, high, low, wide, narrow, components, others, rfl, rfl, bigEndian_pair ..,
        bigEndian_pair .., known, ?_⟩
      rw [eq_four_iff known, Bool.and_eq_true, beq_iff_eq, and_comm]
    · contradiction
  · rintro ⟨bits, high, low, wide, narrow, components, others, rfl, depth, height, width, known,
      inverted⟩
    rw [frame?, spaceOf?_eq_some_iff.mpr known, Option.map_some, Option.some_inj]
    have complement : (adobe && info.space == .cmyk) = info.inverted := by
      rw [Bool.eq_iff_iff, inverted, eq_four_iff known, Bool.and_eq_true, beq_iff_eq, and_comm]
    rw [bigEndian_pair, bigEndian_pair, complement, ← depth, ← height, ← width]

theorem Parts.jpegInfo?_eq {file : Bytes} (parts : Parts file) :
    jpegInfo? file =
      frame? (parts.skipped.any fun segment => isAdobe segment.marker segment.body)
        parts.frame.body := by
  refine (congrArg jpegInfo? parts.split).trans ?_
  rw [jpegInfo?, scan?_segments false parts.passed, scan?_segment, afterSegment,
    if_pos (isFrame_iff.mpr parts.opens), Bool.false_or]

theorem Parts.frame?_eq_some_iff {file : Bytes} (parts : Parts file) {info : JpegInfo} :
    frame? (parts.skipped.any fun segment => isAdobe segment.marker segment.body)
        parts.frame.body = some info ↔
      parts.Tells info := by
  simp only [Jpeg.frame?_eq_some_iff, Tells, List.any_eq_true, Segment.isAdobe_iff]

theorem exists_parts {file : Bytes} {info : JpegInfo} (found : jpegInfo? file = some info) :
    Nonempty (Parts file) := by
  unfold jpegInfo? at found
  split at found
  · obtain ⟨skipped, frame, rest, split, passed, opens⟩ := exists_of_scan? found
    exact ⟨⟨skipped, frame, rest, by rw [split], passed, opens⟩⟩
  · contradiction

/-- A file is taken for a JPEG file exactly if it can be taken apart. -/
theorem jpegInfo?_eq_some_iff {file : Bytes} {info : JpegInfo} :
    jpegInfo? file = some info ↔ ∃ parts : Parts file, parts.Tells info := by
  constructor
  · intro found
    obtain ⟨parts⟩ := exists_parts found
    rw [parts.jpegInfo?_eq] at found
    exact ⟨parts, parts.frame?_eq_some_iff.mp found⟩
  · rintro ⟨parts, tells⟩
    rw [parts.jpegInfo?_eq, parts.frame?_eq_some_iff.mpr tells]

theorem fills_inj {fill other : Nat} {marker second : UInt8} {rest after : Bytes}
    (plain : marker ≠ 0xFF) (plainToo : second ≠ 0xFF)
    (same : List.replicate fill 0xFF ++ marker :: rest =
      List.replicate other 0xFF ++ second :: after) :
    fill = other ∧ marker = second ∧ rest = after := by
  induction fill generalizing other with
  | zero =>
      cases other with
      | zero => simpa using same
      | succ other =>
          rw [List.replicate_succ] at same
          exact absurd (List.cons.inj same).1 plain
  | succ fill ih =>
      cases other with
      | zero =>
          rw [List.replicate_succ] at same
          exact absurd (List.cons.inj same).1.symm plainToo
      | succ other =>
          rw [List.replicate_succ, List.replicate_succ] at same
          obtain ⟨rfl, tails⟩ := ih (List.cons.inj same).2
          exact ⟨rfl, tails⟩

theorem Segment.bytes_append_inj {segment other : Segment} {rest after : Bytes}
    (same : segment.bytes ++ rest = other.bytes ++ after) : segment = other ∧ rest = after := by
  simp only [bytes, content, List.append_assoc, List.cons_append] at same
  obtain ⟨fills, markers, same⟩ := fills_inj segment.marker_ne other.marker_ne same
  obtain ⟨high, low, spelled, length⟩ := exists_wordBytes_eq segment.length_lt
  obtain ⟨wide, narrow, written, size⟩ := exists_wordBytes_eq other.length_lt
  rw [spelled, written] at same
  obtain ⟨words, same⟩ := List.append_inj same rfl
  rw [words, size] at length
  obtain ⟨bodies, same⟩ := List.append_inj same (by omega)
  exact ⟨Segment.ext (by omega) markers bodies, same⟩

theorem parts_inj {skipped others : List Segment} {frame later : Segment} {rest after : Bytes}
    (passed : ∀ segment ∈ skipped, segment.IsSkipped) (opens : frame.marker ∈ frameMarkers)
    (passedToo : ∀ segment ∈ others, segment.IsSkipped) (opensToo : later.marker ∈ frameMarkers)
    (same : skipped.flatMap Segment.bytes ++ (frame.bytes ++ rest) =
      others.flatMap Segment.bytes ++ (later.bytes ++ after)) :
    skipped = others ∧ frame = later ∧ rest = after := by
  induction skipped generalizing others with
  | nil =>
      cases others with
      | nil => exact ⟨rfl, Segment.bytes_append_inj same⟩
      | cons segment others =>
          rw [List.flatMap_cons, List.append_assoc] at same
          obtain ⟨rfl, -⟩ := Segment.bytes_append_inj same
          exact absurd opens (passedToo frame List.mem_cons_self).1
  | cons segment skipped ih =>
      obtain ⟨first, passed⟩ := List.forall_mem_cons.mp passed
      rw [List.flatMap_cons, List.append_assoc] at same
      cases others with
      | nil =>
          obtain ⟨rfl, -⟩ := Segment.bytes_append_inj same
          exact absurd opensToo first.1
      | cons other others =>
          rw [List.flatMap_cons, List.append_assoc] at same
          obtain ⟨rfl, tails⟩ := Segment.bytes_append_inj same
          obtain ⟨rfl, ends⟩ := ih passed (List.forall_mem_cons.mp passedToo).2 tails
          exact ⟨rfl, ends⟩

instance (file : Bytes) : Subsingleton (Parts file) where
  allEq parts others := by
    have same := parts.split.symm.trans others.split
    obtain ⟨skipped, frame, rest⟩ := parts_inj parts.passed parts.opens others.passed others.opens
      (List.cons.inj (List.cons.inj same).2).2
    exact Parts.ext skipped frame rest

inductive Turn where
  | done (info : Option JpegInfo)
  | next (position : Nat) (adobe : Bool)

def range? (data : Bytes) (first stop : Nat) : Option Bytes :=
  if first ≤ stop then slice? data first (stop - first) else none

/-- Reads the body of a frame segment. It has no outcome if a byte is read that is not there. -/
def readFrame? (adobe : Bool) (body : Bytes) : Option (Option JpegInfo) := do
  if body.length < 6 then return none
  match spaceOf? (← body[5]?) with
  | none => return none
  | some space =>
      let height := bigEndian [← body[1]?, ← body[2]?]
      let width := bigEndian [← body[3]?, ← body[4]?]
      return some ⟨width, height, (← body[0]?).toNat, space, adobe && space == .cmyk⟩

/-- One turn of a scan by position. It has no outcome if a byte is read that is not there. -/
def turn? (data : Bytes) (position : Nat) (adobe : Bool) : Option Turn := do
  if data.length < position + 4 then return .done none
  if (← data[position]?) ≠ 0xFF then return .done none
  let marker ← data[position + 1]?
  if marker = 0xFF then return .next (position + 1) adobe
  let length := bigEndian [← data[position + 2]?, ← data[position + 3]?]
  match range? data (position + 4) (position + 2 + length) with
  | none => return .done none
  | some body =>
      if isAdobe marker body then return .next (position + 2 + length) true
      if isFrame marker then return .done (← readFrame? adobe body)
      if isLast marker then return .done none
      return .next (position + 2 + length) adobe

/-- At most so many turns. There is no outcome if a turn has none, or if no turn is left. -/
def walk? (data : Bytes) : Nat → Nat → Bool → Option (Option JpegInfo)
  | 0, _, _ => none
  | turns + 1, position, adobe => do
      match ← turn? data position adobe with
      | .done info => return info
      | .next position adobe => walk? data turns position adobe

/-- A turn has the outcome of the scan, or leaves it to a later position that is not outside. -/
def Turn.Agrees (data : Bytes) (position : Nat) (adobe : Bool) : Turn → Prop
  | .done info => scan? adobe (data.drop position) = info
  | .next later other =>
      position < later ∧ later ≤ data.length ∧
        scan? adobe (data.drop position) = scan? other (data.drop later)

theorem exists_cons_of_le_length {bytes : Bytes} (long : 4 ≤ bytes.length) :
    ∃ first second third fourth rest, bytes = first :: second :: third :: fourth :: rest := by
  match bytes with
  | first :: second :: third :: fourth :: rest => exact ⟨first, second, third, fourth, rest, rfl⟩
  | [] | [_] | [_, _] | [_, _, _] => simp at long

theorem scan?_short (adobe : Bool) {bytes : Bytes} (short : bytes.length < 4) :
    scan? adobe bytes = none := by
  unfold scan?
  split
  · simp at short
    omega
  · rfl

theorem readFrame?_eq (adobe : Bool) (body : Bytes) :
    readFrame? adobe body = some (frame? adobe body) := by
  match body with
  | bits :: high :: low :: wide :: narrow :: components :: others =>
      simp only [readFrame?, frame?]
      cases known : spaceOf? components <;> simp [known]
  | [] | [_] | [_, _] | [_, _, _] | [_, _, _, _] | [_, _, _, _, _] => rfl

theorem range?_eq {data rest : Bytes} {position length : Nat} {lead marker high low : UInt8}
    (split : data.drop position = lead :: marker :: high :: low :: rest) :
    range? data (position + 4) (position + 2 + length) =
      if length < 2 ∨ rest.length < length - 2 then none else some (rest.take (length - 2)) := by
  have size := congrArg List.length split
  simp only [List.length_drop, List.length_cons] at size
  have after : data.drop (position + 4) = rest := by
    rw [← List.drop_drop, split]
    rfl
  have count : position + 2 + length - (position + 4) = length - 2 := by omega
  rw [range?, slice?_eq, after, count]
  split
  · split
    · rw [if_neg (by omega)]
    · rw [if_pos (by omega)]
  · rw [if_pos (by omega)]

theorem turn?_eq {data rest : Bytes} {position : Nat} {lead marker high low : UInt8}
    (split : data.drop position = lead :: marker :: high :: low :: rest) (adobe : Bool) :
    turn? data position adobe =
      let length := bigEndian [high, low]
      let body := rest.take (length - 2)
      some <|
        if lead ≠ 0xFF then .done none
        else if marker = 0xFF then .next (position + 1) adobe
        else if length < 2 ∨ rest.length < length - 2 then .done none
        else if isAdobe marker body then .next (position + 2 + length) true
        else if isFrame marker then .done (frame? adobe body)
        else if isLast marker then .done none
        else .next (position + 2 + length) adobe := by
  have byte (index : Nat) : data[position + index]? =
      (lead :: marker :: high :: low :: rest)[index]? := by
    rw [← split, List.getElem?_drop]
  have byte₀ : data[position]? = some lead := byte 0
  have size := congrArg List.length split
  simp only [List.length_drop, List.length_cons] at size
  rw [turn?, if_neg (by omega)]
  simp only [byte₀, byte 1, byte 2, byte 3, range?_eq split, readFrame?_eq,
    List.getElem?_cons_succ, List.getElem?_cons_zero, Option.bind_eq_bind, Option.bind_some,
    Option.pure_def, apply_ite some]
  by_cases outside : bigEndian [high, low] < 2 ∨ rest.length < bigEndian [high, low] - 2
  · simp only [if_pos outside]
  · simp only [if_neg outside]

theorem plain_of_isAdobe {marker : UInt8} {body : Bytes} (adobe : isAdobe marker body) :
    ¬isFrame marker ∧ ¬isLast marker := by
  rw [isAdobe, Bool.and_eq_true, beq_iff_eq] at adobe
  rw [adobe.1]
  decide

theorem drop_behind {data rest : Bytes} {position length : Nat} {lead marker high low : UInt8}
    (split : data.drop position = lead :: marker :: high :: low :: rest) (enough : 2 ≤ length) :
    data.drop (position + 2 + length) = rest.drop (length - 2) := by
  have beyond : position + 2 + length = position + (4 + (length - 2)) := by omega
  rw [beyond, ← List.drop_drop, split, ← List.drop_drop]
  rfl

theorem exists_turn? (data : Bytes) (position : Nat) (adobe : Bool) :
    ∃ turn, turn? data position adobe = some turn ∧ turn.Agrees data position adobe := by
  by_cases short : data.length < position + 4
  · refine ⟨.done none, by rw [turn?, if_pos short]; rfl, scan?_short adobe ?_⟩
    rw [List.length_drop]
    omega
  · have long : 4 ≤ (data.drop position).length := by
      rw [List.length_drop]
      omega
    obtain ⟨lead, marker, high, low, rest, split⟩ := exists_cons_of_le_length long
    refine ⟨_, turn?_eq split adobe, ?_⟩
    have size := congrArg List.length split
    simp only [List.length_drop, List.length_cons] at size
    have scanned := congrArg (scan? adobe) split
    rw [scan?] at scanned
    dsimp only at scanned ⊢
    by_cases marked : lead ≠ 0xFF
    · rw [if_pos marked] at scanned ⊢
      exact scanned
    rw [if_neg marked] at scanned ⊢
    by_cases fill : marker = 0xFF
    · have behind : data.drop (position + 1) = marker :: high :: low :: rest := by
        rw [← List.drop_drop, split]
        rfl
      rw [if_pos fill] at scanned ⊢
      exact ⟨by omega, by omega, by rw [scanned, behind]⟩
    rw [if_neg fill] at scanned ⊢
    by_cases outside : bigEndian [high, low] < 2 ∨ rest.length < bigEndian [high, low] - 2
    · rw [if_pos outside] at scanned ⊢
      exact scanned
    have after := drop_behind split (by omega : 2 ≤ bigEndian [high, low])
    rw [if_neg outside] at scanned ⊢
    -- a turn asks for a name before it asks for a frame, the scan after it
    by_cases named : isAdobe marker (rest.take (bigEndian [high, low] - 2))
    · obtain ⟨notFrame, notLast⟩ := plain_of_isAdobe named
      rw [if_neg notFrame, if_neg notLast, named, Bool.or_true] at scanned
      rw [if_pos named]
      exact ⟨by omega, by omega, by rw [scanned, after]⟩
    rw [if_neg named]
    by_cases opens : isFrame marker
    · rw [if_pos opens] at scanned ⊢
      exact scanned
    rw [if_neg opens] at scanned ⊢
    by_cases last : isLast marker
    · rw [if_pos last] at scanned ⊢
      exact scanned
    rw [if_neg last, Bool.eq_false_iff.mpr named, Bool.or_false] at scanned
    rw [if_neg last]
    exact ⟨by omega, by omega, by rw [scanned, after]⟩

theorem walk?_eq {data : Bytes} {turns position : Nat} (adobe : Bool)
    (inside : position ≤ data.length) (enough : data.length < position + turns) :
    walk? data turns position adobe = some (scan? adobe (data.drop position)) := by
  induction turns generalizing position adobe with
  | zero => omega
  | succ turns ih =>
      obtain ⟨turn, found, agrees⟩ := exists_turn? data position adobe
      rw [walk?, found]
      cases turn with
      | done info => exact congrArg some agrees.symm
      | next later other =>
          obtain ⟨further, inside, same⟩ := agrees
          rw [same]
          exact ih other inside (by omega)

def walkAll? (file : Bytes) : Option (Option JpegInfo) :=
  if [0xFF, 0xD8] <+: file then walk? file file.length 2 false else some none

theorem walkAll?_eq (file : Bytes) : walkAll? file = some (jpegInfo? file) := by
  rw [walkAll?]
  split
  · rename_i opens
    obtain ⟨rest, rfl⟩ := opens
    exact walk?_eq false (by simp) (by simp)
  · rename_i other
    rw [jpegInfo?]
    intro rest same
    exact other ⟨rest, same.symm⟩

/--
Exactly the files of this form are taken for JPEG files, each in one way only, and no byte is read
that is not there.
-/
theorem jpegInfo?_exact (file : Bytes) :
    (∀ info, jpegInfo? file = some info ↔ ∃ parts : Parts file, parts.Tells info) ∧
      Subsingleton (Parts file) ∧ walkAll? file = some (jpegInfo? file) :=
  ⟨fun _ => jpegInfo?_eq_some_iff, inferInstance, walkAll?_eq file⟩

end Jpeg

end Folio
