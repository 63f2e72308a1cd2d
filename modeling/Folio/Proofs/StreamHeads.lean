import Folio.Document.Image
import Folio.Document.Graphics
import Folio.Proofs.Finished
import Folio.Proofs.Reading.StreamObject

/-!
The dictionaries of streams. Whatever describes the data of a stream leaves it to the lengths that
come after it to say how much data there is, and where it tells the size of the data itself, the
size is right.
-/

namespace Folio

open Reading

theorem Name.bytes_inj {first second : Name} : first.bytes = second.bytes ↔ first = second := by
  cases first
  cases second
  exact (Name.mk.injEq ..).to_iff.symm

namespace Entry

def valuesOf (key : Name) (entries : List Entry) : List Value :=
  entries.filterMap (value? key)

variable {key : Name}

@[simp] theorem valuesOf_nil : valuesOf key [] = [] := rfl

@[simp] theorem valuesOf_field (name : Name) (value : Value) (rest : List Entry) :
    valuesOf key (.field name value :: rest) =
      if name = key then value :: valuesOf key rest else valuesOf key rest := by
  rw [valuesOf, List.filterMap_cons, value?_field]
  by_cases same : name = key
  · rw [if_pos same, if_pos same]
    rfl
  · rw [if_neg same, if_neg same]
    rfl

@[simp] theorem valuesOf_kind (name : Name) (rest : List Entry) :
    valuesOf key (kind name :: rest) =
      if "Type" = key then .name name :: valuesOf key rest else valuesOf key rest :=
  valuesOf_field _ _ _

@[simp] theorem valuesOf_append (first second : List Entry) :
    valuesOf key (first ++ second) = valuesOf key first ++ valuesOf key second :=
  List.filterMap_append

@[simp] theorem valuesOf_optional (name : Name) (value : Option Value) :
    valuesOf key (optional name value) = if name = key then value.toList else [] := by
  cases value with
  | none => exact (ite_self []).symm
  | some value => exact valuesOf_field name value []

theorem valuesOf_field? (key : Name) (entry : Entry) :
    Reading.valuesOf key.bytes entry.field?.toList =
      ((entry.value? key).map Value.object).toList := by
  cases entry with
  | field name value =>
      by_cases same : name = key
      · simp [field?, value?, Reading.valuesOf, same]
      · simp [field?, value?, Reading.valuesOf, Name.bytes_inj, same]
  | items name values =>
      by_cases same : name = key
      · simp [field?, value?, Reading.valuesOf, same, Value.object]
      · simp [field?, value?, Reading.valuesOf, Name.bytes_inj, same]
  | raw bytes => rfl

theorem valuesOf_fieldsOfAll (key : Name) (entries : List Entry) :
    Reading.valuesOf key.bytes (fieldsOfAll entries) = (valuesOf key entries).map Value.object := by
  induction entries with
  | nil => rfl
  | cons entry rest ih =>
      rw [fieldsOfAll, Reading.valuesOf_append, valuesOf_field?, ih]
      show _ = ((entry :: rest).filterMap (value? key)).map Value.object
      rw [List.filterMap_cons]
      cases entry.value? key with
      | none => rfl
      | some value => rfl

@[simp] theorem arePlain_append (first second : List Entry) :
    arePlain (first ++ second) = (arePlain first && arePlain second) := by
  induction first with
  | nil => rfl
  | cons entry first ih => rw [List.cons_append, arePlain, arePlain, ih, Bool.and_assoc]

@[simp] theorem arePlain_optional (name : Name) (value : Option Value) :
    arePlain (optional name value) ↔ ∀ held ∈ value, held.isPlain := by
  cases value with
  | none => simp [optional, arePlain]
  | some value => simp [optional, arePlain, isPlain]

/-- Keys that tell how data is stored, or that the size of the data may stand under. -/
def sizeKeys : List Name :=
  ["Length", "Filter", "DL", "Length1", "Params"]

/-- Entries that describe data of a given size and do not tell how it is stored. -/
structure Heads (entries : List Entry) (size : Nat) : Prop where
  plain : arePlain entries
  length : valuesOf "Length" entries = []
  filter : valuesOf "Filter" entries = []
  plainLength : valuesOf "DL" entries = []
  programSize : ∀ value ∈ valuesOf "Length1" entries, value = .nat size
  fileSize : ∀ value ∈ valuesOf "Params" entries, value = .dict [.field "Size" (.nat size)]

theorem Heads.append {first second : List Entry} {size : Nat} (heads : Heads first size)
    (plain : arePlain second) (silent : ∀ key ∈ sizeKeys, valuesOf key second = []) :
    Heads (first ++ second) size := by
  have same : ∀ key ∈ sizeKeys, valuesOf key (first ++ second) = valuesOf key first := by
    intro key listed
    rw [valuesOf_append, silent key listed, List.append_nil]
  simp only [sizeKeys, List.forall_mem_cons] at same
  obtain ⟨length, filter, plainLength, programSize, fileSize, -⟩ := same
  refine ⟨?_, length.trans heads.length, filter.trans heads.filter,
    plainLength.trans heads.plainLength, ?_, ?_⟩
  · rw [arePlain_append, heads.plain, plain]
    rfl
  · rw [programSize]
    exact heads.programSize
  · rw [fileSize]
    exact heads.fileSize

theorem heads_nil (size : Nat) : Heads [] size :=
  ⟨rfl, rfl, rfl, rfl, by simp, by simp⟩

theorem heads_of_silent {entries : List Entry} (plain : arePlain entries)
    (silent : ∀ key ∈ sizeKeys, valuesOf key entries = []) (size : Nat) : Heads entries size :=
  (heads_nil size).append plain silent

end Entry

@[simp] theorem Value.arePlain_map {α : Type} {change : α → Value}
    (plain : ∀ entry, (change entry).isPlain) (entries : List α) :
    Value.arePlain (entries.map change) := by
  induction entries with
  | nil => rfl
  | cons entry entries ih => rw [List.map_cons, Value.arePlain, plain, ih, Bool.and_true]

theorem Value.isPlain_reals (numbers : List Single) : (Value.reals numbers).isPlain :=
  Value.arePlain_map (fun _ => rfl) numbers

namespace Dictionary

open Entry

theorem ColorSpace.isPlain_value (space : ColorSpace) : space.value.isPlain := by
  cases space with
  | gray => rfl
  | rgb => rfl
  | cmyk => rfl
  | ref target => rfl

theorem heads_image (image : ImageHead) (size : Nat) : Heads image.entries size := by
  refine heads_of_silent ?_ ?_ size
  · simp [ImageHead.entries, arePlain, Entry.isPlain, Entry.kind, Value.isPlain, Value.nat,
      image.space.isPlain_value]
  · simp [sizeKeys, ImageHead.entries]

/-- The size of the data that a description tells, if it tells one. -/
def StreamHead.size? : StreamHead → Option Nat
  | .fontProgram size => some size
  | .embeddedFile size _ => some size
  | _ => none

theorem heads_streamHead {head : StreamHead} {size : Nat}
    (right : ∀ {told}, head.size? = some told → told = size) : Heads head.entries size := by
  cases head with
  | plain => exact heads_of_silent rfl (by simp [sizeKeys, StreamHead.entries]) size
  | image image => exact heads_image image size
  | imageMask width height =>
      exact heads_of_silent rfl (by simp [sizeKeys, StreamHead.entries]) size
  | colorProfile components alternate =>
      refine heads_of_silent ?_ (by simp [sizeKeys, StreamHead.entries]) size
      simp [StreamHead.entries, arePlain, Entry.isPlain, Value.isPlain, Value.nat,
        ColorSpace.isPlain_value]
  | fontProgram told =>
      cases right rfl
      refine ⟨rfl, ?_, ?_, ?_, ?_, ?_⟩
      all_goals simp [StreamHead.entries]
  | embeddedFile told subtype =>
      cases right rfl
      refine ⟨?_, ?_, ?_, ?_, ?_, ?_⟩
      all_goals
        simp [StreamHead.entries, arePlain, Entry.isPlain, Entry.kind, Value.isPlain, Value.nat]
  | cmap name info => exact heads_of_silent rfl (by simp [sizeKeys, StreamHead.entries]) size

theorem heads_form (form : Form) (size : Nat) : Heads form.entries size := by
  refine heads_of_silent ?_ ?_ size
  · simp [Form.entries, arePlain, Entry.isPlain, Entry.kind, Value.isPlain, Rect.value,
      Matrix.value, Value.isPlain_reals]
  · simp [sizeKeys, Form.entries]

theorem heads_tilingPattern (pattern : TilingPattern) (size : Nat) :
    Heads pattern.entries size := by
  refine heads_of_silent ?_ ?_ size
  · simp [TilingPattern.entries, arePlain, Entry.isPlain, Entry.kind, Value.isPlain, Value.nat,
      Rect.value, Matrix.value, Value.isPlain_reals]
  · simp [sizeKeys, TilingPattern.entries]

end Dictionary

theorem Document.heads_jpeg (info : JpegInfo) (size : Nat) :
    Entry.Heads (Document.jpegEntries info) size := by
  rw [jpegEntries]
  cases info.inverted with
  | false => exact (Dictionary.heads_image _ size).append rfl (by simp)
  | true => exact (Dictionary.heads_image _ size).append rfl (by simp [Entry.sizeKeys])

/-- A stream that tells of data what is true of it, whether it holds the data deflated or not. -/
structure Reading.StreamObject.Carries (object : StreamObject) (deflate : Bytes → Bytes)
    (plain : Bytes) : Prop where
  length : valuesOf (utf8 "Length") object.entries = [.whole object.data.length]
  data : valuesOf (utf8 "Filter") object.entries = [.name (utf8 "FlateDecode")] ∧
      object.data = deflate plain ∨
    Object.name (utf8 "FlateDecode") ∉ valuesOf (utf8 "Filter") object.entries ∧
      object.data = plain
  plainLength : ∀ value ∈ valuesOf (utf8 "DL") object.entries, value = .whole plain.length
  programSize : ∀ value ∈ valuesOf (utf8 "Length1") object.entries, value = .whole plain.length
  fileSize : ∀ value ∈ valuesOf (utf8 "Params") object.entries,
    value = .dict [(utf8 "Size", .whole plain.length)]

namespace Body

/-- A body that is a stream of data, deflated or not. -/
inductive Carries (deflate : Bytes → Bytes) (plain : Bytes) : Body → Prop
  | stored {entries : List Entry} {filter : Option Name} (heads : Entry.Heads entries plain.length)
      (other : filter ≠ some (.ofString "FlateDecode")) :
      Carries deflate plain (.stream (Dictionary.storedStream entries filter plain.length) plain)
  | deflated {entries : List Entry} (heads : Entry.Heads entries plain.length) :
      Carries deflate plain (.stream
        (Dictionary.deflatedStream entries (deflate plain).length plain.length) (deflate plain))

variable {deflate : Bytes → Bytes} {plain : Bytes} {body : Body}

theorem carries_ofStream {compress : Bool} {entries : List Entry} {filter : Option Name}
    (heads : Entry.Heads entries plain.length) (other : filter ≠ some (.ofString "FlateDecode")) :
    Carries deflate plain (.ofStream deflate compress entries filter plain) := by
  cases compress with
  | false => exact .stored heads other
  | true => exact .deflated heads

theorem carries_of_heads {heading ending : List Entry} (heads : Entry.Heads heading plain.length)
    {data : Bytes} (number : Nat)
    (length : Entry.valuesOf "Length" ending = [.nat data.length])
    (stored : Entry.valuesOf "Filter" ending = [.name "FlateDecode"] ∧ data = deflate plain ∨
      (∃ filter : Option Name, filter ≠ some (.ofString "FlateDecode") ∧
        Entry.valuesOf "Filter" ending = (filter.map Value.name).toList) ∧ data = plain)
    (plainLength : ∀ value ∈ Entry.valuesOf "DL" ending, value = .nat plain.length)
    (programSize : Entry.valuesOf "Length1" ending = [])
    (fileSize : Entry.valuesOf "Params" ending = []) :
    StreamObject.Carries ⟨number, Entry.fieldsOfAll (heading ++ ending), data⟩ deflate plain := by
  have read (key : String) : valuesOf (utf8 key) (Entry.fieldsOfAll (heading ++ ending)) =
      (Entry.valuesOf key heading ++ Entry.valuesOf key ending).map Value.object := by
    rw [← Entry.valuesOf_append]
    exact Entry.valuesOf_fieldsOfAll key (heading ++ ending)
  refine ⟨?_, ?_, ?_, ?_, ?_⟩
  · rw [read, heads.length, length]
    rfl
  · rw [read, heads.filter]
    refine stored.imp (And.imp_left fun told => ?_) (And.imp_left fun ⟨filter, other, told⟩ => ?_)
    · rw [told]
      rfl
    · rw [told]
      cases filter with
      | none => exact List.not_mem_nil
      | some filter =>
          intro listed
          injection List.mem_singleton.mp listed with same
          exact other (congrArg some (Name.bytes_inj.mp same.symm))
  · rw [read, heads.plainLength, List.nil_append, List.forall_mem_map]
    intro value listed
    rw [plainLength value listed]
    rfl
  · rw [read, programSize, List.append_nil, List.forall_mem_map]
    intro value listed
    rw [heads.programSize value listed]
    rfl
  · rw [read, fileSize, List.append_nil, List.forall_mem_map]
    intro value listed
    rw [heads.fileSize value listed]
    rfl

theorem Carries.exists_streamObject? (carries : body.Carries deflate plain) (number : Nat)
    (rest : Bytes) :
    ∃ object, streamObject? (objectText number body.bytes ++ rest) = some (object, rest) ∧
      object.number = number ∧ object.Carries deflate plain := by
  have read {heading ending : List Entry} {data : Bytes} (plainHeading : Entry.arePlain heading)
      (plainEnding : Entry.arePlain ending)
      (told : StreamObject.Carries ⟨number, Entry.fieldsOfAll (heading ++ ending), data⟩ deflate
        plain) :
      ∃ object, streamObject?
          (objectText number (Body.stream (.dict (heading ++ ending)) data).bytes ++ rest) =
            some (object, rest) ∧
        object.number = number ∧ object.Carries deflate plain := by
    refine ⟨_, streamObject?_objectText number ?_ told.length rest, rfl, told⟩
    rw [Entry.arePlain_append, plainHeading, plainEnding]
    rfl
  cases carries with
  | @stored entries filter heads other =>
      rw [Dictionary.storedStream, List.append_assoc]
      refine read heads.plain (by simp [Entry.arePlain, Entry.isPlain, Value.isPlain, Value.nat])
        (carries_of_heads heads number ?_ (.inr ⟨⟨filter, other, ?_⟩, rfl⟩) ?_ ?_ ?_)
      all_goals simp
  | @deflated entries heads =>
      refine read heads.plain rfl (carries_of_heads heads number ?_ (.inl ⟨?_, rfl⟩) ?_ ?_ ?_)
      all_goals simp

end Body

end Folio
