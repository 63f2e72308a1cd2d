import Folio.Proofs.Reading.TextString

/-!
The two encodings of text and their readers. What is read back is the text that was encoded, and
neither reader takes anything that its encoding does not write.
-/

namespace Folio

namespace DocEncoding

def HasCode (char : Char) : Prop :=
  ∃ byte, encodeChar char = some byte

theorem encodeChar_eq_some_iff {char : Char} {byte : UInt8} :
    encodeChar char = some byte ↔ decodeByte? byte = some char := by
  refine ⟨decodeByte?_of_encodeChar, fun read => ?_⟩
  have each : ∀ code < 256, ((decodeByte? (UInt8.ofNat code)).map encodeChar).getD
      (some (UInt8.ofNat code)) = some (UInt8.ofNat code) := by decide +kernel
  have coded := each byte.toNat byte.toNat_lt
  rwa [UInt8.ofNat_toNat, read] at coded

theorem eq_of_encodeChar {char other : Char} {byte : UInt8} (coded : encodeChar char = some byte)
    (also : encodeChar other = some byte) : char = other := by
  rw [encodeChar_eq_some_iff] at coded also
  exact Option.some.inj (coded.symm.trans also)

theorem encodeChars_cons {char : Char} {byte : UInt8} (coded : encodeChar char = some byte)
    (rest : List Char) : encodeChars (char :: rest) = (encodeChars rest).map (byte :: ·) := by
  rw [encodeChars, coded]

theorem encodeChars_of_decodeBytes? {bytes : Bytes} {text : List Char}
    (read : decodeBytes? bytes = some text) : encodeChars text = .ok bytes := by
  induction bytes generalizing text with
  | nil =>
      cases read
      rfl
  | cons byte rest ih =>
      obtain ⟨char, first, further⟩ := Option.bind_eq_some_iff.mp read
      obtain ⟨more, readRest, rfl⟩ := Option.map_eq_some_iff.mp further
      rw [encodeChars_cons (encodeChar_eq_some_iff.mpr first), ih readRest]
      rfl

theorem encode_eq_ok_iff {text : String} {bytes : Bytes} :
    encode text = .ok bytes ↔ decode? bytes = some text := by
  refine ⟨decode?_of_encode, fun read => ?_⟩
  obtain ⟨chars, readChars, rfl⟩ := Option.map_eq_some_iff.mp read
  rw [encode, String.toList_ofList]
  exact encodeChars_of_decodeBytes? readChars

theorem map_encodeChar_of_encodeChars {text : List Char} {bytes : Bytes}
    (coded : encodeChars text = .ok bytes) : text.map encodeChar = bytes.map some := by
  induction text generalizing bytes with
  | nil =>
      cases coded
      rfl
  | cons char rest ih =>
      obtain ⟨byte, more, first, further, rfl⟩ := encodeChars_cons_eq_ok coded
      rw [List.map_cons, List.map_cons, first, ih further]

theorem exists_encodeChars_iff {text : List Char} :
    (∃ bytes, encodeChars text = .ok bytes) ↔ ∀ char ∈ text, HasCode char := by
  induction text with
  | nil => exact iff_of_true ⟨[], rfl⟩ fun char member => absurd member List.not_mem_nil
  | cons char rest ih =>
      rw [List.forall_mem_cons, ← ih]
      constructor
      · rintro ⟨bytes, coded⟩
        obtain ⟨byte, more, first, further, -⟩ := encodeChars_cons_eq_ok coded
        exact ⟨⟨byte, first⟩, more, further⟩
      · rintro ⟨⟨byte, first⟩, more, further⟩
        exact ⟨byte :: more, by rw [encodeChars_cons first, further]; rfl⟩

theorem encodeChars_eq_error_iff {text : List Char} {refused : Char} :
    encodeChars text = .error refused ↔
      ∃ before after, text = before ++ refused :: after ∧
        (∀ char ∈ before, HasCode char) ∧ ¬HasCode refused := by
  induction text with
  | nil =>
      refine iff_of_false (fun failed => by contradiction) ?_
      rintro ⟨before, after, same, -⟩
      exact List.cons_ne_nil _ _ (List.append_eq_nil_iff.mp same.symm).2
  | cons char rest ih =>
      cases first : encodeChar char with
      | none =>
          have uncoded : ¬HasCode char := by
            rintro ⟨byte, coded⟩
            rw [first] at coded
            contradiction
          rw [encodeChars, first]
          constructor
          · intro failed
            cases failed
            exact ⟨[], rest, rfl, fun char member => absurd member List.not_mem_nil, uncoded⟩
          · rintro ⟨before, after, same, coded, -⟩
            cases before with
            | nil => rw [(List.cons.inj same).1]
            | cons other more =>
                rw [← (List.cons.inj same).1] at coded
                exact absurd (coded char List.mem_cons_self) uncoded
      | some byte =>
          have onward : encodeChars (char :: rest) = .error refused ↔
              encodeChars rest = .error refused := by
            rw [encodeChars_cons first]
            cases encodeChars rest with
            | ok bytes => simp [Except.map]
            | error other => exact Iff.rfl
          rw [onward, ih]
          constructor
          · rintro ⟨before, after, rfl, coded, uncoded⟩
            exact ⟨char :: before, after, rfl, List.forall_mem_cons.mpr ⟨⟨byte, first⟩, coded⟩,
              uncoded⟩
          · rintro ⟨before, after, same, coded, uncoded⟩
            cases before with
            | nil =>
                rw [← (List.cons.inj same).1] at uncoded
                exact absurd ⟨byte, first⟩ uncoded
            | cons other more =>
                exact ⟨more, after, (List.cons.inj same).2,
                  fun char member => coded char (List.mem_cons_of_mem _ member), uncoded⟩

end DocEncoding

namespace Utf16

theorem toNat_ofNat_of_isValidChar {point : Nat} (valid : point.isValidChar) :
    (Char.ofNat point).toNat = point := by
  rw [Char.ofNat, dif_pos valid]
  rfl

theorem units_of_single {unit : UInt16} (single : unit.toNat < 0xD800 ∨ 0xDFFF < unit.toNat) :
    units (Char.ofNat unit.toNat) = [unit] := by
  have small : unit.toNat < 65536 := unit.toNat_lt
  have valid : unit.toNat.isValidChar := by
    rcases single with low | high
    · exact .inl low
    · exact .inr ⟨high, by omega⟩
  rw [units, toNat_ofNat_of_isValidChar valid, if_pos small, UInt16.ofNat_toNat]

theorem units_of_pair {high low : UInt16} (double : 0xD800 ≤ high.toNat)
    (paired : high.toNat < 0xDC00 ∧ 0xDC00 ≤ low.toNat ∧ low.toNat ≤ 0xDFFF) :
    units (Char.ofNat (0x10000 + (high.toNat - 0xD800) * 0x400 + (low.toNat - 0xDC00))) =
      [high, low] := by
  obtain ⟨belowHigh, aboveLow, belowLow⟩ := paired
  have valid : (0x10000 + (high.toNat - 0xD800) * 0x400 + (low.toNat - 0xDC00)).isValidChar :=
    .inr ⟨by omega, by omega⟩
  have first : 0xD800 + (0x10000 + (high.toNat - 0xD800) * 0x400 + (low.toNat - 0xDC00) -
      0x10000) / 0x400 = high.toNat := by omega
  have second : 0xDC00 + (0x10000 + (high.toNat - 0xD800) * 0x400 + (low.toNat - 0xDC00) -
      0x10000) % 0x400 = low.toNat := by omega
  rw [units, toNat_ofNat_of_isValidChar valid, if_neg (by omega)]
  simp only [first, second, UInt16.ofNat_toNat]

theorem flatMap_units_of_decodeUnits? {spelled : List UInt16} {text : List Char}
    (read : decodeUnits? spelled = some text) : text.flatMap units = spelled := by
  fun_induction decodeUnits? spelled generalizing text with
  | case1 =>
      cases read
      rfl
  | case2 unit rest single ih =>
      obtain ⟨more, further, rfl⟩ := Option.map_eq_some_iff.mp read
      rw [List.flatMap_cons, units_of_single single, ih further, List.singleton_append]
  | case3 unit double low rest paired ih =>
      obtain ⟨more, further, rfl⟩ := Option.map_eq_some_iff.mp read
      rw [List.flatMap_cons, units_of_pair (by omega) paired, ih further]
      rfl
  | case4 => contradiction
  | case5 => contradiction

theorem length_flatMap_units (text : List Char) :
    (text.flatMap units).length =
      text.length + text.countP fun char => decide (0x10000 ≤ char.toNat) := by
  induction text with
  | nil => rfl
  | cons char rest ih =>
      rw [List.flatMap_cons, List.length_append, ih, List.length_cons, List.countP_cons, units]
      by_cases plain : char.toNat < 0x10000
      · have single : ¬0x10000 ≤ char.toNat := by omega
        simp [plain, single]
        omega
      · have double : 0x10000 ≤ char.toNat := by omega
        simp [plain, double]
        omega

theorem wordBytes_ofNat (high low : UInt8) :
    wordBytes (UInt16.ofNat (high.toNat * 256 + low.toNat)) = [high, low] := by
  have highSmall : high.toNat < 256 := high.toNat_lt
  have lowSmall : low.toNat < 256 := low.toNat_lt
  have whole : (UInt16.ofNat (high.toNat * 256 + low.toNat)).toNat =
      high.toNat * 256 + low.toNat := by
    rw [UInt16.toNat_ofNat', Nat.mod_eq_of_lt (by omega)]
  have first : (high.toNat * 256 + low.toNat) / 256 = high.toNat := by omega
  have second : (high.toNat * 256 + low.toNat) % 256 = low.toNat := by omega
  rw [wordBytes, whole, first, second, UInt8.ofNat_toNat, UInt8.ofNat_toNat]

theorem flatMap_wordBytes_of_unitsOfBytes? {bytes : Bytes} {spelled : List UInt16}
    (read : unitsOfBytes? bytes = some spelled) : spelled.flatMap wordBytes = bytes := by
  fun_induction unitsOfBytes? bytes generalizing spelled with
  | case1 =>
      cases read
      rfl
  | case2 => contradiction
  | case3 high low rest ih =>
      obtain ⟨more, further, rfl⟩ := Option.map_eq_some_iff.mp read
      rw [List.flatMap_cons, wordBytes_ofNat, ih further]
      rfl

/-- Two bytes are read as a unit, and units as characters, in one way only. -/
theorem decode?_eq_some_iff {bytes : Bytes} {text : String} :
    decode? bytes = some text ↔ encode text = mark ++ bytes := by
  constructor
  · intro read
    obtain ⟨spelled, paired, decoded⟩ := Option.bind_eq_some_iff.mp read
    obtain ⟨chars, readChars, rfl⟩ := Option.map_eq_some_iff.mp decoded
    rw [encode, String.toList_ofList, flatMap_units_of_decodeUnits? readChars,
      flatMap_wordBytes_of_unitsOfBytes? paired]
  · intro encoded
    rw [← List.append_cancel_left encoded]
    exact decode?_units text

theorem length_flatMap_wordBytes (spelled : List UInt16) :
    (spelled.flatMap wordBytes).length = 2 * spelled.length := by
  induction spelled with
  | nil => rfl
  | cons unit rest ih =>
      rw [List.flatMap_cons, List.length_append, ih, List.length_cons]
      show 2 + 2 * rest.length = 2 * (rest.length + 1)
      omega

end Utf16

/-- What the codes of a text say of it, and it of them. -/
structure DocEncoding.Inverts (text : String) : Prop where
  coded_iff : (∃ bytes, encode text = .ok bytes) ↔ ∀ char ∈ text.toList, HasCode char
  refused_iff : ∀ {refused : Char}, encode text = .error refused ↔
    ∃ before after, text.toList = before ++ refused :: after ∧
      (∀ char ∈ before, HasCode char) ∧ ¬HasCode refused
  codes : ∀ {bytes : Bytes}, encode text = .ok bytes →
    bytes.length = text.length ∧ text.toList.map encodeChar = bytes.map some
  /-- A reader takes just the codes that were written. -/
  read_iff : ∀ {bytes : Bytes}, encode text = .ok bytes ↔ decode? bytes = some text
  injective : ∀ {other : String} {bytes : Bytes},
    encode text = .ok bytes → encode other = .ok bytes → text = other
  apart : ∀ {char other : Char} {byte : UInt8},
    encodeChar char = some byte → encodeChar other = some byte → char = other

/-- What the units of a text say of it, and it of them. -/
structure Utf16.Inverts (text : String) : Prop where
  encoded : ∃ bytes, encode text = 0xFE :: 0xFF :: bytes ∧
    bytes.length =
      2 * (text.length + text.toList.countP fun char => decide (0x10000 ≤ char.toNat)) ∧
    decode? bytes = some text
  /-- A reader takes just the units that were written. -/
  read_iff : ∀ {bytes : Bytes}, decode? bytes = some text ↔ encode text = mark ++ bytes
  injective : ∀ {other : String}, encode text = encode other → text = other

/--
Either encoding can be undone. The one-byte codes take just the texts whose characters all have
one, and no two characters share a code; UTF-16 takes every text.
-/
theorem encodings_invert (text : String) : DocEncoding.Inverts text ∧ Utf16.Inverts text := by
  constructor
  · exact {
      coded_iff := DocEncoding.exists_encodeChars_iff
      refused_iff := DocEncoding.encodeChars_eq_error_iff
      codes := fun coded => ⟨(DocEncoding.length_of_encodeChars coded).trans String.length_toList,
        DocEncoding.map_encodeChar_of_encodeChars coded⟩
      read_iff := DocEncoding.encode_eq_ok_iff
      injective := by
        intro other bytes coded also
        rw [DocEncoding.encode_eq_ok_iff] at coded also
        exact Option.some.inj (coded.symm.trans also)
      apart := DocEncoding.eq_of_encodeChar }
  · exact {
      encoded := by
        refine ⟨(text.toList.flatMap Utf16.units).flatMap wordBytes, rfl, ?_,
          Utf16.decode?_units text⟩
        rw [Utf16.length_flatMap_wordBytes, Utf16.length_flatMap_units, String.length_toList]
      read_iff := Utf16.decode?_eq_some_iff
      injective := by
        intro other same
        have read := Utf16.decode?_units text
        rw [List.append_cancel_left same, Utf16.decode?_units] at read
        exact (Option.some.inj read).symm }

end Folio
