import Folio.Document.Closing
import Folio.Proofs.Reading.TextString

/-!
The keys under which files are listed. A name that was used before gets a count, and a name that
reads like another with a count may meet it.
-/

namespace Folio

namespace Document

def counted (name : String) (count : Nat) : String :=
  name ++ " (" ++ toString count ++ ")"

/-- The name of a file, with a count unless there was no such file before. -/
def label (name : String) : Nat → String
  | 0 => name
  | count + 1 => counted name (count + 1)

theorem fileKey_eq (earlier : List String) (name : String) :
    fileKey earlier name = label name (earlier.count name) := by
  rw [fileKey]
  cases earlier.count name with
  | zero => rfl
  | succ count => rfl

/-- The names of files as they are listed, where `earlier` are the names of files before them. -/
def fileTexts (earlier : List String) : List String → List String
  | [] => []
  | name :: rest => fileKey earlier name :: fileTexts (name :: earlier) rest

theorem toList_counted (name : String) (count : Nat) :
    (counted name count).toList =
      name.toList ++ ' ' :: '(' :: (Nat.toDigits 10 count ++ [')']) := by
  simp [counted, Nat.toList_repr]

theorem toDigits_injective {first second : Nat}
    (same : Nat.toDigits 10 first = Nat.toDigits 10 second) : first = second :=
  calc first
    _ = Nat.ofDigitChars 10 (Nat.toDigits 10 first) 0 := Nat.ofDigitChars_ten_toDigits.symm
    _ = Nat.ofDigitChars 10 (Nat.toDigits 10 second) 0 := by rw [same]
    _ = second := Nat.ofDigitChars_ten_toDigits

theorem not_mem_toDigits (count : Nat) : '(' ∉ Nat.toDigits 10 count := by
  intro listed
  have digit := Nat.isDigit_of_mem_toDigits (by decide) (by decide) listed
  contradiction

theorem split_at_mark {α : Type} {mark : α} {before other after further : List α}
    (fresh : mark ∉ after) (freshToo : mark ∉ further)
    (same : before ++ mark :: after = other ++ mark :: further) :
    before = other ∧ after = further := by
  rcases List.append_eq_append_iff.mp same with ⟨middle, rfl, rest⟩ | ⟨middle, rfl, rest⟩
  · cases middle with
    | nil => exact ⟨(List.append_nil _).symm, (List.cons.inj rest).2⟩
    | cons head middle =>
        rw [(List.cons.inj rest).2] at fresh
        exact absurd (List.mem_append_right _ List.mem_cons_self) fresh
  · cases middle with
    | nil => exact ⟨List.append_nil _, (List.cons.inj rest).2.symm⟩
    | cons head middle =>
        rw [(List.cons.inj rest).2] at freshToo
        exact absurd (List.mem_append_right _ List.mem_cons_self) freshToo

theorem counted_inj {name other : String} {count further : Nat} :
    counted name count = counted other further ↔ name = other ∧ count = further := by
  refine ⟨fun same => ?_, fun ⟨sameName, sameCount⟩ => by rw [sameName, sameCount]⟩
  have bracket (count : Nat) : '(' ∉ Nat.toDigits 10 count ++ [')'] := by
    simp [not_mem_toDigits]
  have spelled (name : String) (count : Nat) : (counted name count).toList =
      (name.toList ++ [' ']) ++ '(' :: (Nat.toDigits 10 count ++ [')']) := by
    rw [toList_counted, List.append_assoc]
    rfl
  have chars := congrArg String.toList same
  rw [spelled, spelled] at chars
  obtain ⟨names, counts⟩ := split_at_mark (bracket count) (bracket further) chars
  exact ⟨String.toList_inj.mp (List.append_cancel_right names),
    toDigits_injective (List.append_cancel_right counts)⟩

theorem label_inj {name other : String} {count further : Nat}
    (same : label name count = label other further) :
    (name = other ∧ count = further) ∨ (0 < further ∧ name = counted other further) ∨
      (0 < count ∧ other = counted name count) := by
  cases count with
  | zero =>
      cases further with
      | zero => exact .inl ⟨same, rfl⟩
      | succ further => exact .inr (.inl ⟨Nat.succ_pos _, same⟩)
  | succ count =>
      cases further with
      | zero => exact .inr (.inr ⟨Nat.succ_pos _, same.symm⟩)
      | succ further => exact .inl (counted_inj.mp same)

def Counts (earlier names : List String) (name : String) (count : Nat) : Prop :=
  earlier.count name ≤ count ∧ count < earlier.count name + names.count name

theorem not_counts_nil {earlier : List String} {name : String} {count : Nat} :
    ¬Counts earlier [] name count :=
  fun counts => Nat.not_lt.mpr counts.1 counts.2

theorem counts_cons_iff {earlier rest : List String} {head name : String} {count : Nat} :
    Counts earlier (head :: rest) name count ↔
      (name = head ∧ count = earlier.count head) ∨ Counts (head :: earlier) rest name count := by
  rw [Counts, Counts, List.count_cons, List.count_cons]
  by_cases same : name = head
  · subst same
    simp only [beq_self_eq_true, if_true, true_and]
    omega
  · simp only [beq_eq_false_iff_ne.mpr (Ne.symm same), Bool.false_eq_true, if_false, Nat.add_zero,
      same, false_and, false_or]

theorem mem_fileTexts_iff {earlier names : List String} {text : String} :
    text ∈ fileTexts earlier names ↔
      ∃ name count, Counts earlier names name count ∧ text = label name count := by
  induction names generalizing earlier with
  | nil => simp [fileTexts, not_counts_nil]
  | cons head rest ih =>
      simp only [fileTexts, List.mem_cons, ih, counts_cons_iff, fileKey_eq]
      constructor
      · rintro (rfl | ⟨name, count, counts, rfl⟩)
        · exact ⟨head, _, .inl ⟨rfl, rfl⟩, rfl⟩
        · exact ⟨name, count, .inr counts, rfl⟩
      · rintro ⟨name, count, ⟨rfl, rfl⟩ | counts, rfl⟩
        · exact .inl rfl
        · exact .inr ⟨name, count, counts, rfl⟩

theorem nodup_fileTexts_iff {earlier names : List String} :
    (fileTexts earlier names).Nodup ↔
      ∀ {name other : String} {count further : Nat}, Counts earlier names name count →
        Counts earlier names other further → label name count = label other further →
          name = other ∧ count = further := by
  induction names generalizing earlier with
  | nil =>
      exact iff_of_true List.nodup_nil fun counts => absurd counts not_counts_nil
  | cons head rest ih =>
      rw [fileTexts, List.nodup_cons, mem_fileTexts_iff, ih, fileKey_eq]
      constructor
      · rintro ⟨fresh, apart⟩ name other count further counts countsOther same
        rcases counts_cons_iff.mp counts with ⟨rfl, rfl⟩ | later
        · rcases counts_cons_iff.mp countsOther with ⟨rfl, rfl⟩ | laterOther
          · exact ⟨rfl, rfl⟩
          · exact absurd ⟨other, further, laterOther, same⟩ fresh
        · rcases counts_cons_iff.mp countsOther with ⟨rfl, rfl⟩ | laterOther
          · exact absurd ⟨name, count, later, same.symm⟩ fresh
          · exact apart later laterOther same
      · intro apart
        refine ⟨?_, fun counts countsOther =>
          apart (counts_cons_iff.mpr (.inr counts)) (counts_cons_iff.mpr (.inr countsOther))⟩
        rintro ⟨name, count, counts, same⟩
        obtain ⟨rfl, rfl⟩ := apart (counts_cons_iff.mpr (.inl ⟨rfl, rfl⟩))
          (counts_cons_iff.mpr (.inr counts)) same
        have more := counts.1
        rw [List.count_cons_self] at more
        exact Nat.not_succ_le_self _ more

/-- The names differ unless a file has a name that reads like another with a count. -/
theorem nodup_fileTexts_nil_iff {names : List String} :
    (fileTexts [] names).Nodup ↔
      ∀ {name : String} {count : Nat}, 0 < count → count < names.count name →
        counted name count ∉ names := by
  have counts_iff {name : String} {count : Nat} :
      Counts [] names name count ↔ count < names.count name := by
    simp [Counts]
  rw [nodup_fileTexts_iff]
  simp only [counts_iff]
  constructor
  · intro apart name count positive few listed
    have once : 0 < names.count (counted name count) := List.count_pos_iff.mpr listed
    have same : label (counted name count) 0 = label name count := by
      cases count with
      | zero => contradiction
      | succ count => rfl
    exact Nat.ne_of_lt positive (apart once few same).2
  · intro apart name other count further counts countsOther same
    have known : name ∈ names := List.count_pos_iff.mp (Nat.zero_lt_of_lt counts)
    have knownOther : other ∈ names := List.count_pos_iff.mp (Nat.zero_lt_of_lt countsOther)
    rcases label_inj same with agree | ⟨positive, rfl⟩ | ⟨positive, rfl⟩
    · exact agree
    · exact absurd known (apart positive countsOther)
    · exact absurd knownOther (apart positive counts)

theorem begins_of_label {name : String} {count : Nat}
    (begins : ['\u00FE', '\u00FF'] <+: (label name count).toList) :
    ['\u00FE', '\u00FF'] <+: name.toList := by
  cases count with
  | zero => exact begins
  | succ count =>
      rw [label, toList_counted] at begins
      cases chars : name.toList with
      | nil =>
          rw [chars] at begins
          simp at begins
      | cons first rest =>
          rw [chars] at begins
          cases rest with
          | nil => simp at begins
          | cons second rest => simpa using begins

/-- No text of names that do not begin with the mark has the bytes of another. -/
theorem nodup_map_textString_iff {names : List String}
    (unmarked : ∀ name ∈ names, ¬['\u00FE', '\u00FF'] <+: name.toList) :
    ((fileTexts [] names).map textString).Nodup ↔ (fileTexts [] names).Nodup := by
  have plain : ∀ text ∈ fileTexts [] names, ¬LooksMarked text := by
    rintro text listed ⟨-, begins⟩
    obtain ⟨name, count, counts, rfl⟩ := mem_fileTexts_iff.mp listed
    have known : name ∈ names := by
      refine List.count_pos_iff.mp (Nat.pos_of_ne_zero fun none => ?_)
      rw [Counts, none] at counts
      exact absurd counts.2 (Nat.not_lt.mpr counts.1)
    exact unmarked name known (begins_of_label begins)
  rw [List.nodup_iff_pairwise_ne, List.nodup_iff_pairwise_ne, List.pairwise_map]
  constructor
  · exact fun apart => apart.imp fun differs same => differs (congrArg textString same)
  · refine fun apart => apart.imp_of_mem fun listed listedToo differs same => differs ?_
    exact (textString_inj (iff_of_false (plain _ listed) (plain _ listedToo))).mp same

end Document

end Folio
