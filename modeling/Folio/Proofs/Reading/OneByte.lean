import Folio.Proofs.Reading.CMap

/-!
The shared encoding as a reader sees it.
-/

namespace Folio

open Reading

namespace OneByte

def closingTokens : List Token :=
  [.word (utf8 "endcmap"), .word (utf8 "CMapName"), .word (utf8 "currentdict"),
    .name (utf8 "CMap"), .word (utf8 "defineresource"), .word (utf8 "pop"), .word (utf8 "end"),
    .word (utf8 "end")]

def rangeTokens (last : UInt8) : List Token :=
  [.word (utf8 "1"), .word (utf8 "begincidrange"), .hex [0], .hex [last], .word (utf8 "1"),
    .word (utf8 "endcidrange")]

theorem opens_opening : opens opening .oneByte := by
  decide +kernel

theorem lines_closing : Lines closing closingTokens :=
  lines_of_run (by decide +kernel)

theorem lines_range (last : UInt8) :
    Lines (utf8 "1 begincidrange\n<00> <" ++ hexByte last ++ utf8 "> 1\nendcidrange\n")
      (rangeTokens last) := by
  have head : Lines (utf8 "1 begincidrange\n<00> ")
      [.word (utf8 "1"), .word (utf8 "begincidrange"), .hex [0]] :=
    lines_of_run (by decide +kernel)
  have tail : Lines (utf8 " 1\nendcidrange\n") [.word (utf8 "1"), .word (utf8 "endcidrange")] :=
    lines_of_run (by decide +kernel)
  have whole := (head.append (lines_hex hexPair_hexByte [last])).append tail
  have openBracket : utf8 "1 begincidrange\n<00> <" =
      utf8 "1 begincidrange\n<00> " ++ [0x3C] := by decide +kernel
  have closeBracket : utf8 "> 1\nendcidrange\n" = 0x3E :: utf8 " 1\nendcidrange\n" := by
    decide +kernel
  rw [List.flatMap_cons, List.flatMap_nil, List.append_nil] at whole
  rw [openBracket, closeBracket]
  simp only [List.append_assoc, List.cons_append, List.nil_append] at whole ⊢
  exact whole

def cmap (last : UInt8) : CMap :=
  ⟨[([0], [255])], [([0], [last], 1)], [], []⟩

theorem run_rangeTokens (last : UInt8) :
    CMapReader.oneByte.run (rangeTokens last) = some ⟨[], none, cmap last⟩ := rfl

theorem run_closingTokens (map : CMap) :
    CMapReader.run ⟨[], none, map⟩ closingTokens = some ⟨[], none, map⟩ := rfl

theorem cmap?_bytes (capacity : Nat) :
    cmap? (bytes capacity) = some (cmap (UInt8.ofNat (max 1 (min 256 capacity) - 1))) := by
  obtain ⟨tokens, linesOpening, opened⟩ := exists_lines_of_opens opens_opening
  have lines := linesOpening.append
    ((lines_range (UInt8.ofNat (max 1 (min 256 capacity) - 1))).append lines_closing)
  rw [bytes]
  simp only [List.append_assoc] at lines ⊢
  refine cmap?_of_lines lines ?_
  rw [CMapReader.run_append_of_run opened, CMapReader.run_append_of_run (run_rangeTokens _),
    run_closingTokens]

end OneByte

end Folio
