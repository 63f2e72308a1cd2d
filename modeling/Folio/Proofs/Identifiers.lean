import Folio.Proofs.Contents
import Folio.Proofs.FontRun

/-!
Identifiers and what they stand for. A resource gets the next identifier of its kind and an object
after all that were there; what an identifier stands for never changes.
-/

namespace Folio

namespace Kind

/-- Kinds whose resources are found again, so that one identifier may be the answer twice. -/
def isShared : Kind → Bool
  | .builtinFont => true
  | .iccColorSpace => true
  | _ => false

/-- What is stored for a resource: its place in the document, or what is complete as it stands. -/
def Prescribes : Kind → Nat → Record → Prop
  | .page, index, record => record = .page ⟨index⟩
  | .annot, index, record => record = .annot ⟨index⟩
  | .formWidget, index, record => record = .checkbox ⟨index⟩
  | .structureItem, index, record => record = .structureItem ⟨index⟩
  | _, _, record => record.kind = "final" ∨ record.kind = "deflate"

end Kind

theorem Record.kind_stream (compress : Bool) (entries : List Entry) (data : Bytes) :
    (stream compress entries data).kind = "final" ∨
      (stream compress entries data).kind = "deflate" := by
  cases compress with
  | false => exact .inl rfl
  | true => exact .inr rfl

namespace Document

open Operation (Product)

def objects (doc : Document) : Kind → List (Option Ref)
  | .image => doc.images.objects some
  | .font => doc.fonts.objects fun _ => none
  | .builtinFont => doc.builtinFonts.objects fun entry => some entry.2
  | .iccColorSpace => doc.colors.profiles.objects fun item => some item.space
  | .formXObject => doc.forms.objects some
  | .formWidget => doc.widgets.objects fun item => some item.object
  | .annot => doc.annotations.objects fun item => some item.object
  | .structureItem => doc.structureItems.objects fun item => some item.object
  | .separation => doc.colors.separations.objects fun item => some item.space
  | .graphicsState => doc.graphicsStates.objects some
  | .function => doc.functions.objects some
  | .shading => doc.shadings.objects some
  | .pattern => doc.patterns.objects some
  | .labColorSpace => doc.colors.labs.objects some
  | .page => doc.pages.objects fun item => some item.object
  | .outline => doc.outline.objects fun _ => none
  | .embeddedFile => doc.files.objects fun file => some file.filespec

variable {doc after : Document} {product : Product} {answer : Answer}

structure New (doc : Document) (kind : Kind) (object : Option Ref) (after : Document) : Prop where
  objects : ∀ other, after.objects other =
    if other = kind then doc.objects other ++ [object] else doc.objects other
  number : ∀ {target}, object = some target → doc.store.size < target.number
  stored : ∀ {target}, object = some target →
    ∃ record, after.store.get? target = some record ∧
      kind.Prescribes (doc.objects kind).length record

/-- What becomes of the identifiers of a document, given what is handed out and answered. -/
inductive Handout (doc : Document) : Product → Answer → Document → Prop
  | nothing {product : Product} {answer : Answer} {after : Document}
      (other : ∀ kind, product ≠ .id kind) (same : after.objects = doc.objects) :
      Handout doc product answer after
  | again {kind : Kind} {index : Nat} (shared : kind.isShared)
      (known : index < (doc.objects kind).length) : Handout doc (.id kind) (.id index) doc
  | new {kind : Kind} {index : Nat} {object : Option Ref} {after : Document}
      (next : index = (doc.objects kind).length) (new : doc.New kind object after) :
      Handout doc (.id kind) (.id index) after

theorem New.of_object {kind : Kind} {target : Ref} {record : Record}
    (objects : ∀ other, after.objects other =
      if other = kind then doc.objects other ++ [some target] else doc.objects other)
    (number : doc.store.size < target.number) (stored : after.store.get? target = some record)
    (fits : kind.Prescribes (doc.objects kind).length record) :
    doc.New kind (some target) after where
  objects := objects
  number := by
    rintro _ ⟨⟩
    exact number
  stored := by
    rintro _ ⟨⟩
    exact ⟨record, stored, fits⟩

theorem New.of_nothing {kind : Kind}
    (objects : ∀ other, after.objects other =
      if other = kind then doc.objects other ++ [none] else doc.objects other) :
    doc.New kind none after :=
  ⟨objects, nofun, nofun⟩

theorem lt_nextRef_number (doc : Document) : doc.store.size < doc.nextRef.number :=
  Nat.lt_succ_self _

theorem lt_second_number (store : Store) (first second : Record) :
    store.size < ((store.allocate first).2.allocate second).1.number := by
  show store.size < (store.allocate first).2.size + 1
  rw [Store.size_allocate]
  omega

theorem get?_push_new (doc : Document) (record : Record) :
    (doc.push record).store.get? doc.nextRef = some record :=
  doc.store.get?_allocate_new record

theorem Handout.of_push {kind : Kind} {index : Nat} {record : Record}
    (next : index = (doc.objects kind).length)
    (objects : ∀ other, after.objects other =
      if other = kind then doc.objects other ++ [some doc.nextRef] else doc.objects other)
    (pushed : after.store = (doc.push record).store)
    (fits : kind.Prescribes (doc.objects kind).length record) :
    doc.Handout (.id kind) (.id index) after := by
  have stored := doc.get?_push_new record
  rw [← pushed] at stored
  exact .new next (.of_object objects doc.lt_nextRef_number stored fits)

theorem new_withImage (doc : Document) (record : Record)
    (fits : record.kind = "final" ∨ record.kind = "deflate") :
    doc.New .image (some doc.nextRef) (doc.withImage record) := by
  refine .of_object ?_ doc.lt_nextRef_number (doc.get?_push_new record) fits
  intro other
  cases other with
  | image => exact Registry.objects_register ..
  | _ => rfl

theorem new_raster (doc : Document) (image : RasterImage) (record : Record)
    (fits : record.kind = "final" ∨ record.kind = "deflate") :
    doc.New .image (some (doc.withAlpha image).nextRef)
      ((doc.withAlpha image).withImage record) := by
  have new := (doc.withAlpha image).new_withImage record fits
  have bound : doc.store.size ≤ (doc.withAlpha image).store.size :=
    (doc.adds_withAlpha image).size_le
  refine .of_object new.objects ?_ (get?_push_new _ record) fits
  exact Nat.lt_of_le_of_lt bound (lt_nextRef_number _)

theorem objects_withGlyph (doc : Document) (id : Id .font) (item : FontItem) (glyph : GlyphId)
    (char : Option Char) : (doc.withGlyph id item glyph char).objects = doc.objects := by
  have fonts : (doc.withGlyph id item glyph char).fonts.size = doc.fonts.size := by
    rw [withGlyph]
    split
    · exact (Registry.size_replaced ..).trans (congrArg Registry.size doc.fonts_encoded)
    · exact (Registry.size_replaced ..).trans (congrArg Registry.size doc.fonts_encoded)
  obtain ⟨store, later, encoding, same⟩ := doc.onlyFonts_withGlyph id item glyph char
  rw [same] at fonts ⊢
  funext kind
  cases kind with
  | font =>
      show later.objects _ = doc.fonts.objects _
      rw [Registry.objects_none, Registry.objects_none, fonts]
  | _ => rfl

theorem mem_of_findBuiltinFont? {font : StandardFont} {id : Id .builtinFont}
    (found : doc.findBuiltinFont? font = some id) : doc.builtinFonts.contains id := by
  obtain ⟨⟨same, held⟩, searched, rfl⟩ := Option.map_eq_some_iff.mp found
  exact Registry.contains_of_get? (Registry.mem_toList_iff.mp (List.mem_of_find?_eq_some searched))

theorem contains_of_findProfile? {spaces : ColorSpaces} {store : Store} {bytes : Bytes}
    {id : Id .iccColorSpace} (found : spaces.findProfile? store bytes = some id) :
    spaces.profiles.contains id := by
  obtain ⟨⟨same, item⟩, searched, rfl⟩ := Option.map_eq_some_iff.mp found
  exact Registry.contains_of_get? (Registry.mem_toList_iff.mp (List.mem_of_find?_eq_some searched))

theorem handout_profile {bytes : Bytes} {id : Id .iccColorSpace} {colors : ColorSpaces}
    {store : Store} (loaded : doc.colors.loadProfile doc.store bytes = .ok (id, colors, store)) :
    doc.Handout (.id .iccColorSpace) (.ofId id) { doc with colors, store } := by
  rw [ColorSpaces.loadProfile, ColorSpaces.addProfile] at loaded
  split at loaded
  · next found =>
    cases loaded
    refine .again rfl ?_
    rw [objects, Registry.length_objects]
    exact of_decide_eq_true (contains_of_findProfile? found)
  · split at loaded
    · contradiction
    · cases loaded
      refine .new (Registry.length_objects ..).symm
        (New.of_object ?_ ?_ (Store.get?_allocate_new _ _) (.inl rfl))
      · intro other
        cases other with
        | iccColorSpace => exact Registry.objects_register ..
        | _ => rfl
      · exact lt_second_number _ _ _

theorem handout_lab (doc : Document) (params : Dictionary.LabParams) :
    doc.Handout (.id .labColorSpace) (.ofId doc.colors.labs.nextId) { doc with
      colors := (doc.colors.addLab doc.store params).2.1
      store := (doc.colors.addLab doc.store params).2.2 } := by
  refine .of_push (Registry.length_objects ..).symm ?_ rfl (.inl rfl)
  intro other
  cases other with
  | labColorSpace => exact Registry.objects_register ..
  | _ => rfl

theorem handout_separation (doc : Document) (name : String) (fallback : Color) :
    doc.Handout (.id .separation) (.ofId doc.colors.separations.nextId) { doc with
      colors := (doc.colors.addSeparation doc.store name fallback).2.1
      store := (doc.colors.addSeparation doc.store name fallback).2.2 } := by
  refine .new (Registry.length_objects ..).symm
    (New.of_object ?_ ?_ (Store.get?_allocate_new _ _) (.inl rfl))
  · intro other
    cases other with
    | separation => exact Registry.objects_register ..
    | _ => rfl
  · exact lt_second_number _ _ _

theorem handout_tiling (doc : Document) (cell : TilingSource) :
    doc.Handout (.id .pattern) (.ofId doc.patterns.nextId) (doc.withTiling cell) := by
  refine .new (Registry.length_objects ..).symm
    (New.of_object ?_ ?_ (Store.get?_allocate_new _ _) (Record.kind_stream ..))
  · intro other
    cases other with
    | pattern => exact Registry.objects_register ..
    | _ => rfl
  · exact lt_second_number _ _ _

theorem handout_form (doc : Document) (source : FormSource) :
    doc.Handout (.id .formXObject) (.ofId doc.forms.nextId) (doc.withForm source) := by
  have bound := (doc.adds_withFormResources source).size_le
  refine .new (Registry.length_objects ..).symm
    (New.of_object ?_ ?_ (Store.get?_allocate_new _ _) (Record.kind_stream ..))
  · intro other
    cases other with
    | formXObject => exact Registry.objects_register ..
    | _ => rfl
  · exact Nat.lt_of_le_of_lt bound (lt_nextRef_number _)

theorem handout_file (doc : Document) (name : String) (data : Bytes)
    (mimeType : Option String) :
    doc.Handout (.id .embeddedFile) (.ofId doc.files.nextId)
      (doc.withFile name data mimeType) := by
  refine .new (Registry.length_objects ..).symm
    (New.of_object ?_ ?_ (Store.get?_allocate_new _ _) (.inl rfl))
  · intro other
    cases other with
    | embeddedFile => exact Registry.objects_register ..
    | _ => rfl
  · exact lt_second_number _ _ _

theorem handout_page (doc : Document) (source : PageSource) :
    doc.Handout (.id .page) (.ofId doc.pages.nextId) (doc.withPage source) := by
  have bound := doc.adds_grouped.size_le
  have number : doc.store.size < (doc.pageItem source).object.number := by
    show doc.store.size < doc.grouped.store.size + 3
    omega
  have stored : (doc.withPage source).store.get? (doc.pageItem source).object =
      some (.page doc.pages.nextId) := by
    refine (Store.get?_allocate _ _ _).trans (if_pos ?_)
    rw [size_push, size_push]
    rfl
  refine .new (Registry.length_objects ..).symm (New.of_object ?_ number stored ?_)
  · intro other
    cases other with
    | page => exact Registry.objects_register ..
    | _ => rfl
  · rw [objects, Registry.length_objects]
    rfl

/-- Every effect hands out what its operation promises: the next identifier, or one it knows. -/
theorem handout_of_effect (effect : doc.Effect product answer after) :
    doc.Handout product answer after := by
  cases effect with
  | same => exact .nothing nofun rfl
  | info info => exact .nothing nofun rfl
  | font face =>
      refine .new (Registry.length_objects ..).symm (.of_nothing fun other => ?_)
      cases other with
      | font => exact Registry.objects_register ..
      | _ => rfl
  | glyph id item glyph char found present =>
      exact .nothing nofun (doc.objects_withGlyph id item glyph char)
  | builtinFont font fresh =>
      refine .of_push (Registry.length_objects ..).symm ?_ rfl (.inl rfl)
      intro other
      cases other with
      | builtinFont => exact Registry.objects_register ..
      | _ => rfl
  | builtinFontAgain font id found =>
      refine .again rfl ?_
      rw [objects, Registry.length_objects]
      exact of_decide_eq_true (mem_of_findBuiltinFont? found)
  | jpeg info data =>
      exact .new (Registry.length_objects ..).symm (doc.new_withImage _ (.inl rfl))
  | bilevel image valid =>
      exact .new (Registry.length_objects ..).symm (doc.new_withImage _ (Record.kind_stream ..))
  | stencil image valid =>
      exact .new (Registry.length_objects ..).symm (doc.new_withImage _ (Record.kind_stream ..))
  | raster image space valid known =>
      exact .new (Registry.length_objects ..).symm
        (doc.new_raster image _ (Record.kind_stream ..))
  | profile bytes id colors store loaded => exact handout_profile loaded
  | lab params => exact doc.handout_lab params
  | separation name fallback => exact doc.handout_separation name fallback
  | outputIntent intent known => exact .nothing nofun rfl
  | graphicsState state =>
      refine .of_push (Registry.length_objects ..).symm ?_ rfl (.inl rfl)
      intro other
      cases other with
      | graphicsState => exact Registry.objects_register ..
      | _ => rfl
  | function source function lowered =>
      refine .of_push (Registry.length_objects ..).symm ?_ rfl (.inl rfl)
      intro other
      cases other with
      | function => exact Registry.objects_register ..
      | _ => rfl
  | shading source shading lowered =>
      refine .of_push (Registry.length_objects ..).symm ?_ rfl (.inl rfl)
      intro other
      cases other with
      | shading => exact Registry.objects_register ..
      | _ => rfl
  | shadingPattern shading target matrix found =>
      refine .of_push (Registry.length_objects ..).symm ?_ rfl (.inl rfl)
      intro other
      cases other with
      | pattern => exact Registry.objects_register ..
      | _ => rfl
  | tiling cell => exact doc.handout_tiling cell
  | form source => exact doc.handout_form source
  | file name data mimeType => exact doc.handout_file name data mimeType
  | annot rect kind color known =>
      refine .of_push (Registry.length_objects ..).symm ?_ rfl ?_
      · intro other
        cases other with
        | annot => exact Registry.objects_register ..
        | _ => rfl
      · rw [objects, Registry.length_objects]
        rfl
  | checkbox checkbox known =>
      refine .of_push (Registry.length_objects ..).symm ?_ rfl ?_
      · intro other
        cases other with
        | formWidget => exact Registry.objects_register ..
        | _ => rfl
      · rw [objects, Registry.length_objects]
        rfl
  | structureItem kind parent attributes known =>
      refine .of_push (Registry.length_objects ..).symm ?_ rfl ?_
      · intro other
        cases other with
        | structureItem => exact Registry.objects_register ..
        | _ => rfl
      · rw [objects, Registry.length_objects]
        rfl
  | page source checked => exact doc.handout_page source
  | outlineItem item page known =>
      refine .new (Registry.length_objects ..).symm (.of_nothing fun other => ?_)
      cases other with
      | outline => exact Registry.objects_register ..
      | _ => rfl

end Document

end Folio
