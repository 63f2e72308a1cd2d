import Folio.Proofs.Effects
import Folio.Proofs.Store

/-!
Effects sorted by what they concern. Most of them only add objects that are complete as they stand
and note them in a registry of their own; those that concern fonts, pages or what is placed on
pages are told apart.
-/

namespace Folio

namespace Document

/-- A change that only adds complete objects, and registers some that others may name later. -/
structure Plain (before after : Document) : Prop where
  same : after = { before with
    info := after.info
    store := after.store
    colors := after.colors
    builtinFonts := after.builtinFonts
    images := after.images
    forms := after.forms
    graphicsStates := after.graphicsStates
    functions := after.functions
    shadings := after.shadings
    patterns := after.patterns
    files := after.files }
  store : before.store.Adds (fun record => record.isPlain) after.store
  forms : before.forms.Extends after.forms
  files : before.files.Extends after.files
  profiles : before.colors.profiles.Extends after.colors.profiles

theorem Plain.refl (doc : Document) : doc.Plain doc :=
  ⟨rfl, .refl _, .refl _, .refl _, .refl _⟩

inductive Change (doc : Document) : Document → Prop
  | plain {after : Document} (plain : doc.Plain after) : Change doc after
  | font (face : Face) :
      Change doc { doc with fonts := (doc.fonts.register
        ⟨face, .ofCapacity doc.options.subsetCapacity, []⟩).2 }
  | glyph (id : Id .font) (item : FontItem) (glyph : GlyphId) (char : Option Char)
      (found : doc.fonts.get? id = some item) :
      Change doc (doc.withGlyph id item glyph char)
  | outputIntent (intent : OutputIntent)
      (known : ∀ profile, intent.profile = some profile →
        doc.colors.profiles.contains profile) :
      Change doc { doc with outputIntent := some intent }
  | annot (rect : Rect Single) (kind : AnnotationKind) (color : Option Color)
      (known : doc.checkAttachment kind = .ok ()) :
      Change doc { doc.push (.annot doc.annotations.nextId) with
        annotations := (doc.annotations.register ⟨doc.nextRef, rect, kind, color⟩).2 }
  | checkbox (checkbox : Checkbox) (known : doc.checkAppearances checkbox = .ok ()) :
      Change doc { doc.push (.checkbox doc.widgets.nextId) with
        widgets := (doc.widgets.register ⟨doc.nextRef, checkbox⟩).2 }
  | structureItem (kind : StructureType) (parent : Option (Id .structureItem))
      (attributes : StructureAttributes)
      (known : ∀ id, parent = some id → doc.structureItems.contains id) :
      Change doc { doc.push (.structureItem doc.structureItems.nextId) with
        structureItems :=
          (doc.structureItems.register ⟨doc.nextRef, kind, parent, attributes⟩).2 }
  | page (source : PageSource) (checked : doc.checkPage source = .ok ()) :
      Change doc (doc.withPage source)
  | outlineItem (item : OutlineItem) (page : doc.pages.contains item.page)
      (known : ∀ id, item.parent = some id → doc.outline.contains id) :
      Change doc { doc with outline := (doc.outline.register item).2 }

theorem isPlain_resourceValue (bytes : Bytes) :
    (Record.object (Build.resourceValue bytes)).isPlain := by
  rw [Build.resourceValue]
  split
  · rfl
  · rfl

theorem isPlain_function (function : Dictionary.Function) :
    (Record.object function.value).isPlain := by
  cases function with
  | exponential domain c0 c1 n => rfl
  | stitching domain functions bounds encode => rfl

variable (doc : Document)

theorem adds_object {value : Value} (plain : (Record.object value).isPlain) :
    doc.store.Adds (fun record => record.isPlain) (doc.push (.object value)).store :=
  doc.store.adds_allocate plain

theorem adds_stream (entries : List Entry) (data : Bytes) :
    doc.store.Adds (fun record => record.isPlain)
      (doc.push (.stream doc.options.compress entries data)).store :=
  doc.store.adds_allocate (Record.isPlain_stream _ _ _)

theorem adds_withAlpha (image : RasterImage) :
    doc.store.Adds (fun record => record.isPlain) (doc.withAlpha image).store := by
  rw [withAlpha]
  cases image.alpha with
  | none => exact .refl _
  | some alpha => exact doc.adds_stream _ _

theorem adds_withFormResources (source : FormSource) :
    doc.store.Adds (fun record => record.isPlain) (doc.withFormResources source).store := by
  rw [withFormResources]
  by_cases silent : source.resources.isEmpty
  · rw [if_pos silent]
    exact .refl _
  · rw [if_neg silent]
    exact doc.adds_object (isPlain_resourceValue _)

theorem adds_grouped :
    doc.store.Adds (fun record => record.isPlain) doc.grouped.store := by
  rw [grouped]
  by_cases shared : doc.pageGroup.isSome
  · rw [if_pos shared]
    exact .refl _
  · rw [if_neg shared]
    exact doc.adds_object rfl

/-- A page comes after its resources and its contents, and perhaps the group of all pages. -/
theorem adds_withPage (source : PageSource) {allowed : Record → Prop}
    (plain : ∀ {record : Record}, record.isPlain → allowed record)
    (page : allowed (.page doc.pages.nextId)) :
    doc.store.Adds allowed (doc.withPage source).store := by
  have resourced := doc.adds_grouped.trans
    (doc.grouped.adds_object (isPlain_resourceValue source.resources))
  have filled := resourced.trans (Document.adds_stream _ [] source.contents)
  exact (filled.mono plain).trans (Store.adds_allocate _ page)

/-- A profile that is new adds its stream and its space, and comes after those before it. -/
theorem adds_loadProfile {spaces after : ColorSpaces} {store grown : Store} {bytes : Bytes}
    {id : Id .iccColorSpace} (loaded : spaces.loadProfile store bytes = .ok (id, after, grown)) :
    store.Adds (fun record => record.isPlain) grown ∧
      spaces.profiles.Extends after.profiles := by
  rw [ColorSpaces.loadProfile, ColorSpaces.addProfile] at loaded
  split at loaded
  · cases loaded
    exact ⟨.refl _, .refl _⟩
  · split at loaded
    · contradiction
    · cases loaded
      exact ⟨(store.adds_allocate (Record.isPlain_stream _ _ _)).trans (Store.adds_allocate _ rfl),
        Registry.extends_register _ _⟩

variable {doc}

theorem plain_image {record : Record} (fits : record.isPlain) :
    doc.Plain (doc.withImage record) :=
  ⟨rfl, doc.store.adds_allocate fits, .refl _, .refl _, .refl _⟩

theorem change_withFile (doc : Document) (name : String) (data : Bytes)
    (mimeType : Option String) : doc.Change (doc.withFile name data mimeType) :=
  .plain ⟨rfl, (doc.adds_stream _ _).trans (Document.adds_object _ rfl), .refl _,
    Registry.extends_register _ _, .refl _⟩

theorem change_of_effect {product : Operation.Product} {answer : Answer} {after : Document}
    (effect : doc.Effect product answer after) : doc.Change after := by
  cases effect with
  | same => exact .plain (.refl doc)
  | info info => exact .plain ⟨rfl, .refl _, .refl _, .refl _, .refl _⟩
  | font face => exact .font face
  | glyph id item glyph char found present => exact .glyph id item glyph char found
  | builtinFont font fresh =>
      exact .plain ⟨rfl, doc.adds_object rfl, .refl _, .refl _, .refl _⟩
  | builtinFontAgain font id found => exact .plain (.refl doc)
  | jpeg info data => exact .plain (plain_image (by simp [Record.isPlain, Record.isProper]))
  | bilevel image valid => exact .plain (plain_image (Record.isPlain_stream _ _ _))
  | stencil image valid => exact .plain (plain_image (Record.isPlain_stream _ _ _))
  | raster image space valid known =>
      exact .plain ⟨rfl,
        (doc.adds_withAlpha image).trans ((doc.withAlpha image).adds_stream _ _),
        .refl _, .refl _, .refl _⟩
  | profile bytes id colors store loaded =>
      obtain ⟨adds, extend⟩ := adds_loadProfile loaded
      exact .plain ⟨rfl, adds, .refl _, .refl _, extend⟩
  | lab params => exact .plain ⟨rfl, doc.adds_object rfl, .refl _, .refl _, .refl _⟩
  | separation name fallback =>
      exact .plain ⟨rfl, (doc.adds_object rfl).trans (Store.adds_allocate _ rfl),
        .refl _, .refl _, .refl _⟩
  | outputIntent intent known => exact .outputIntent intent known
  | graphicsState state => exact .plain ⟨rfl, doc.adds_object rfl, .refl _, .refl _, .refl _⟩
  | function source function lowered =>
      exact .plain ⟨rfl, doc.adds_object (isPlain_function function), .refl _, .refl _, .refl _⟩
  | shading source shading lowered =>
      exact .plain ⟨rfl, doc.adds_object rfl, .refl _, .refl _, .refl _⟩
  | shadingPattern shading target matrix found =>
      exact .plain ⟨rfl, doc.adds_object rfl, .refl _, .refl _, .refl _⟩
  | tiling cell =>
      exact .plain ⟨rfl,
        (doc.adds_object (isPlain_resourceValue _)).trans (Document.adds_stream _ _ _),
        .refl _, .refl _, .refl _⟩
  | form source =>
      exact .plain ⟨rfl,
        (doc.adds_withFormResources source).trans (Document.adds_stream _ _ _),
        Registry.extends_register _ _, .refl _, .refl _⟩
  | file name data mimeType => exact doc.change_withFile name data mimeType
  | annot rect kind color known => exact .annot rect kind color known
  | checkbox checkbox known => exact .checkbox checkbox known
  | structureItem kind parent attributes known =>
      exact .structureItem kind parent attributes known
  | page source checked => exact .page source checked
  | outlineItem item page known => exact .outlineItem item page known

theorem apply_induction {holds : Document → Prop} {operation : Operation} (start : holds doc)
    (step : ∀ {after : Document} {answer : Answer},
      doc.Effect operation.product answer after → holds after) :
    holds (doc.apply operation).2 := by
  rcases doc.effect_apply operation with ⟨error, same⟩ | ⟨answer, after, same, effect⟩
  · rw [same]
    exact start
  · rw [same]
    exact step effect

theorem change_apply (doc : Document) (operation : Operation) :
    doc.Change (doc.apply operation).2 :=
  apply_induction (.plain (.refl doc)) change_of_effect

theorem run_append (doc : Document) (first second : List Operation) :
    (doc.run (first ++ second)).2 = ((doc.run first).2.run second).2 := by
  induction first generalizing doc with
  | nil => rfl
  | cons operation rest ih => exact ih (doc.apply operation).2

theorem run_effect_induction {holds : Document → Prop}
    (step : ∀ {doc after : Document} {product : Operation.Product} {answer : Answer},
      holds doc → doc.Effect product answer after → holds after)
    (start : holds doc) (operations : List Operation) : holds (doc.run operations).2 := by
  induction operations generalizing doc with
  | nil => exact start
  | cons operation rest ih => exact ih (apply_induction start (step start))

theorem run_change_induction {holds : Document → Prop}
    (step : ∀ {doc after : Document}, holds doc → doc.Change after → holds after)
    (start : holds doc) (operations : List Operation) : holds (doc.run operations).2 :=
  run_effect_induction (fun held effect => step held (change_of_effect effect)) start operations

end Document

end Folio
