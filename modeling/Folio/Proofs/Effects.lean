import Folio.Proofs.Atomic

/-!
What a successful operation makes of a document, case by case. Every case says what it hands out,
which is what the operation promises.
-/

namespace Folio

namespace Document

def withImage (doc : Document) (record : Record) : Document :=
  { doc.push record with images := (doc.images.register doc.nextRef).2 }

def withAlpha (doc : Document) (image : RasterImage) : Document :=
  { doc with
    store := match image.alpha with
      | none => doc.store
      | some alpha =>
          (doc.store.allocate (.stream doc.options.compress
            (Dictionary.ImageHead.entries ⟨image.width, image.height, .gray, 8, none⟩) alpha)).2 }

/-- The head of an image whose alpha channel is added right before it. -/
def rasterHead (doc : Document) (image : RasterImage) (space : Dictionary.ColorSpace) :
    Dictionary.ImageHead :=
  ⟨image.width, image.height, space, 8, image.alpha.map fun _ => doc.nextRef⟩

def withFormResources (doc : Document) (source : FormSource) : Document :=
  { doc with
    store :=
      if source.resources.isEmpty then doc.store
      else (doc.store.allocate (.object (Build.resourceValue source.resources))).2 }

def formHead (doc : Document) (source : FormSource) : Dictionary.Form :=
  ⟨source.box, source.matrix, if source.resources.isEmpty then none else some doc.nextRef⟩

def withForm (doc : Document) (source : FormSource) : Document :=
  { (doc.withFormResources source).push (.stream doc.options.compress
      (doc.formHead source).entries source.contents) with
    forms := (doc.forms.register (doc.withFormResources source).nextRef).2 }

def tilingHead (doc : Document) (cell : TilingSource) : Dictionary.TilingPattern :=
  ⟨if cell.colored then 1 else 2, 1, cell.box, cell.xStep, cell.yStep, doc.nextRef, cell.matrix⟩

def withTiling (doc : Document) (cell : TilingSource) : Document :=
  let resourced := doc.push (.object (Build.resourceValue cell.resources))
  { resourced.push (.stream doc.options.compress (doc.tilingHead cell).entries cell.contents) with
    patterns := (doc.patterns.register resourced.nextRef).2 }

def withFile (doc : Document) (name : String) (data : Bytes) (mimeType : Option String) :
    Document :=
  let head := Dictionary.StreamHead.embeddedFile data.length (mimeType.map Name.ofString)
  let stored := doc.push (.stream doc.options.compress head.entries data)
  let spec : Dictionary.Filespec := ⟨textString name, doc.nextRef, none⟩
  { stored.push (.object spec.value) with
    files := (doc.files.register ⟨name, stored.nextRef⟩).2 }

end Document

namespace Operation

def fileName? : Operation → Option String
  | .embedFile path _ => some (Path.fileName path)
  | .embedFileData name _ _ => some name
  | _ => none

inductive Product where
  | nothing
  | slot (font : Id .font)
  | id (kind : Kind)
deriving DecidableEq

def product : Operation → Product
  | .addFont _ | .loadFont .. => .id .font
  | .charSlot font _ | .glyphSlot font .. => .slot font
  | .builtinFont _ => .id .builtinFont
  | .loadImage .. | .loadMaskImage .. | .addImageSource _ => .id .image
  | .addBilevelImage _ | .addMaskImage _ | .addImage _ => .id .image
  | .loadProfile _ => .id .iccColorSpace
  | .addLab _ => .id .labColorSpace
  | .addSeparation .. => .id .separation
  | .addGraphicsState _ => .id .graphicsState
  | .addFunction _ => .id .function
  | .addShading _ => .id .shading
  | .addPattern _ => .id .pattern
  | .addForm _ => .id .formXObject
  | .embedFile .. | .embedFileData .. => .id .embeddedFile
  | .annotate .. => .id .annot
  | .createCheckbox _ => .id .formWidget
  | .addStructureItem .. => .id .structureItem
  | .addPage _ => .id .page
  | .addOutline _ => .id .outline
  | .fontSubsetCount _ | .advanceWidth .. | .convertColor .. | .setOutputIntent _ => .nothing
  | .pageCount | .ref _ | .setInfo _ => .nothing

end Operation

namespace Document

def pageKey (doc : Document) (source : PageSource) : Option Nat :=
  if source.marked.isEmpty then none else some doc.nextStructParent

def withPageKey (doc : Document) (source : PageSource) : Document :=
  { doc with
    nextStructParent := doc.nextStructParent + if source.marked.isEmpty then 0 else 1 }

/-- The group that all pages share, which is added with the first page. -/
def groupRef (doc : Document) : Ref :=
  doc.pageGroup.getD doc.nextRef

def grouped (doc : Document) : Document :=
  { doc with
    pageGroup := some doc.groupRef
    store :=
      if doc.pageGroup.isSome then doc.store
      else (doc.store.allocate (.object
        (Dictionary.transparencyGroup doc.options.outputSpace.colorSpace))).2 }

def pageItem (doc : Document) (source : PageSource) : PageItem where
  object := .first (doc.grouped.store.size + 3)
  resources := .first (doc.grouped.store.size + 1)
  contents := .first (doc.grouped.store.size + 2)
  group := doc.groupRef
  widgets := source.widgets
  annotations := source.annotations
  marked := source.marked
  structParents := doc.pageKey source
  transition := source.transition
  boxes := source.boxes.getD doc.options.pageBoxes

def withPageObjects (doc : Document) (source : PageSource) : Document :=
  ((doc.grouped.push (.object (Build.resourceValue source.resources))).push
    (.stream doc.options.compress [] source.contents)).push (.page doc.pages.nextId)

def withPage (doc : Document) (source : PageSource) : Document :=
  { doc with
    store := (doc.withPageObjects source).store
    pages := (doc.pages.register (doc.pageItem source)).2
    widgetPlaces := doc.widgetPlaces.withAll source.widgets doc.pages.nextId
    annotationPlaces := doc.annotationPlaces.withAll source.annotations doc.pages.nextId
    structurePlaces := doc.structurePlaces.withAll source.marked doc.pages.nextId
    pageGroup := some doc.groupRef
    nextStructParent := doc.nextStructParent + if source.marked.isEmpty then 0 else 1 }

open Operation (Product)

/-- What an operation that succeeds makes of a document, given what it hands out and answers. -/
inductive Effect (doc : Document) : Product → Answer → Document → Prop
  | same {answer : Answer} : Effect doc .nothing answer doc
  | info {answer : Answer} (info : Info) : Effect doc .nothing answer { doc with info }
  | font (face : Face) :
      Effect doc (.id .font) (.ofId doc.fonts.nextId) { doc with fonts := (doc.fonts.register
        ⟨face, .ofCapacity doc.options.subsetCapacity, []⟩).2 }
  | glyph (id : Id .font) (item : FontItem) (glyph : GlyphId) (char : Option Char)
      (found : doc.fonts.get? id = some item) (present : glyph ≠ 0) :
      Effect doc (.slot id) (.slot (item.slots.assign glyph char).1)
        (doc.withGlyph id item glyph char)
  | builtinFont (font : StandardFont) (fresh : doc.findBuiltinFont? font = none) :
      Effect doc (.id .builtinFont) (.ofId doc.builtinFonts.nextId)
        { doc.push (.object (Dictionary.type1Font font.baseFont)) with
          builtinFonts := (doc.builtinFonts.register (font, doc.nextRef)).2 }
  | builtinFontAgain (font : StandardFont) (id : Id .builtinFont)
      (found : doc.findBuiltinFont? font = some id) :
      Effect doc (.id .builtinFont) (.ofId id) doc
  | jpeg (info : JpegInfo) (data : Bytes) :
      Effect doc (.id .image) (.ofId doc.images.nextId)
        (doc.withImage (.stored (jpegEntries info) (some "DCTDecode") data))
  | bilevel (image : BilevelImage) (valid : image.validate = .ok ()) :
      Effect doc (.id .image) (.ofId doc.images.nextId) (doc.withImage (.stream doc.options.compress
        (Dictionary.ImageHead.entries ⟨image.width, image.height, .gray, 1, none⟩) image.data))
  | stencil (image : BilevelImage) (valid : image.validate = .ok ()) :
      Effect doc (.id .image) (.ofId doc.images.nextId) (doc.withImage (.stream doc.options.compress
        (Dictionary.StreamHead.imageMask image.width image.height).entries image.data))
  | raster (image : RasterImage) (space : Dictionary.ColorSpace)
      (valid : image.validate = .ok ()) (known : doc.imageSpace image = .ok space) :
      Effect doc (.id .image) (.ofId doc.images.nextId) ((doc.withAlpha image).withImage
        (.stream doc.options.compress (doc.rasterHead image space).entries image.data))
  | profile (bytes : Bytes) (id : Id .iccColorSpace) (colors : ColorSpaces) (store : Store)
      (loaded : doc.colors.loadProfile doc.store bytes = .ok (id, colors, store)) :
      Effect doc (.id .iccColorSpace) (.ofId id) { doc with colors, store }
  | lab (params : Dictionary.LabParams) :
      Effect doc (.id .labColorSpace) (.ofId doc.colors.labs.nextId) { doc with
        colors := (doc.colors.addLab doc.store params).2.1
        store := (doc.colors.addLab doc.store params).2.2 }
  | separation (name : String) (fallback : Color) :
      Effect doc (.id .separation) (.ofId doc.colors.separations.nextId) { doc with
        colors := (doc.colors.addSeparation doc.store name fallback).2.1
        store := (doc.colors.addSeparation doc.store name fallback).2.2 }
  | outputIntent {answer : Answer} (intent : OutputIntent)
      (known : ∀ profile, intent.profile = some profile →
        doc.colors.profiles.contains profile) :
      Effect doc .nothing answer { doc with outputIntent := some intent }
  | graphicsState (state : GraphicsState) :
      Effect doc (.id .graphicsState) (.ofId doc.graphicsStates.nextId)
        { doc.push (.object state.value) with
          graphicsStates := (doc.graphicsStates.register doc.nextRef).2 }
  | function (source : FunctionSource) (function : Dictionary.Function)
      (lowered : doc.lowerFunction source = .ok function) :
      Effect doc (.id .function) (.ofId doc.functions.nextId)
        { doc.push (.object function.value) with
          functions := (doc.functions.register doc.nextRef).2 }
  | shading (source : ShadingSource) (shading : Dictionary.Shading)
      (lowered : doc.lowerShading source = .ok shading) :
      Effect doc (.id .shading) (.ofId doc.shadings.nextId) { doc.push (.object shading.value) with
        shadings := (doc.shadings.register doc.nextRef).2 }
  | shadingPattern (shading : Id .shading) (target : Ref) (matrix : Matrix)
      (found : doc.shadings.get? shading = some target) :
      Effect doc (.id .pattern) (.ofId doc.patterns.nextId)
        { doc.push (.object (Dictionary.shadingPattern target matrix)) with
          patterns := (doc.patterns.register doc.nextRef).2 }
  | tiling (cell : TilingSource) :
      Effect doc (.id .pattern) (.ofId doc.patterns.nextId) (doc.withTiling cell)
  | form (source : FormSource) :
      Effect doc (.id .formXObject) (.ofId doc.forms.nextId) (doc.withForm source)
  | file (name : String) (data : Bytes) (mimeType : Option String) :
      Effect doc (.id .embeddedFile) (.ofId doc.files.nextId) (doc.withFile name data mimeType)
  | annot (rect : Rect Single) (kind : AnnotationKind) (color : Option Color)
      (known : doc.checkAttachment kind = .ok ()) :
      Effect doc (.id .annot) (.ofId doc.annotations.nextId)
        { doc.push (.annot doc.annotations.nextId) with
          annotations := (doc.annotations.register ⟨doc.nextRef, rect, kind, color⟩).2 }
  | checkbox (checkbox : Checkbox) (known : doc.checkAppearances checkbox = .ok ()) :
      Effect doc (.id .formWidget) (.ofId doc.widgets.nextId)
        { doc.push (.checkbox doc.widgets.nextId) with
          widgets := (doc.widgets.register ⟨doc.nextRef, checkbox⟩).2 }
  | structureItem (kind : StructureType) (parent : Option (Id .structureItem))
      (attributes : StructureAttributes)
      (known : ∀ id, parent = some id → doc.structureItems.contains id) :
      Effect doc (.id .structureItem) (.ofId doc.structureItems.nextId)
        { doc.push (.structureItem doc.structureItems.nextId) with
          structureItems :=
            (doc.structureItems.register ⟨doc.nextRef, kind, parent, attributes⟩).2 }
  | page (source : PageSource) (checked : doc.checkPage source = .ok ()) :
      Effect doc (.id .page) (.ofId doc.pages.nextId) (doc.withPage source)
  | outlineItem (item : OutlineItem) (page : doc.pages.contains item.page)
      (known : ∀ id, item.parent = some id → doc.outline.contains id) :
      Effect doc (.id .outline) (.ofId doc.outline.nextId)
        { doc with outline := (doc.outline.register item).2 }

open Build

/-- A step whose success has an effect, and is answered as the effect says. -/
def Yields {α : Type} (product : Product) (answer : α → Answer) (step : Build α) : Prop :=
  ∀ (doc after : Document) (value : α), step.run doc = .ok value after →
    doc.Effect product (answer value) after

theorem Yields.map {α : Type} {product : Product} {answer : α → Answer} {step : Build α}
    (yields : Yields product answer step) : Yields product id (answer <$> step) := by
  intro doc after value ran
  obtain ⟨found, ranStep, rfl⟩ := run_map_eq_ok ran
  exact yields doc after found ranStep

/-- A check on a file or on data, and what is done once it passed. -/
theorem run_loaded_bind_eq_ok {α β : Type} {what : String} {outcome : Except LoadError α}
    {next : α → Build β} {doc after : Document} {value : β}
    (ran : (loaded what outcome >>= next).run doc = .ok value after) :
    ∃ found, outcome = .ok found ∧ (next found).run doc = .ok value after := by
  cases outcome with
  | error cause => contradiction
  | ok found => exact ⟨found, rfl, ran⟩

theorem run_check_bind_eq_ok {α β : Type} {outcome : Except Error α} {next : α → Build β}
    {doc after : Document} {value : β}
    (ran : (ofExcept outcome >>= next).run doc = .ok value after) :
    ∃ found, outcome = .ok found ∧ (next found).run doc = .ok value after := by
  cases outcome with
  | error cause => contradiction
  | ok found => exact ⟨found, rfl, ran⟩

theorem effect_query {α : Type} {question : Document → Except Error α} (answer : α → Answer) :
    Yields .nothing id (do return answer (← Build.ofExcept (question (← get)))) := by
  intro doc after value ran
  rw [run_bind_of_run (run_get doc)] at ran
  obtain ⟨found, -, ran⟩ := run_check_bind_eq_ok ran
  cases ran
  exact .same

theorem effect_addFont (face : Face) : Yields (.id .font) .ofId (addFont face) := by
  intro doc after id ran
  cases ran
  exact .font face

theorem effect_loadFont (path : String) (contents : Option Bytes) :
    Yields (.id .font) .ofId (loadFont path contents) := by
  intro doc after id ran
  rw [loadFont, loaded_eq_ofExcept] at ran
  obtain ⟨font, middle, loaded, added⟩ := run_bind_eq_ok ran
  obtain ⟨-, rfl⟩ := run_ofExcept_eq_ok loaded
  exact effect_addFont font.face middle after id added

theorem effect_charSlot (font : Id .font) (char : Char) :
    Yields (.slot font) .slot (charSlot font char) := by
  intro doc after slot ran
  obtain ⟨item, glyph, found, -, present, rfl, rfl⟩ := run_charSlot_eq_ok ran
  exact .glyph font item glyph (some char) found present

theorem effect_glyphSlot (font : Id .font) (glyph : GlyphId) (char : Option Char) :
    Yields (.slot font) .slot (glyphSlot font glyph char) := by
  intro doc after slot ran
  obtain ⟨item, found, present, rfl, rfl⟩ := run_glyphSlot_eq_ok ran
  exact .glyph font item glyph char found present

theorem effect_builtinFont (font : StandardFont) :
    Yields (.id .builtinFont) .ofId (builtinFont font) := by
  intro doc after id ran
  rw [builtinFont, run_bind_of_run (run_get doc)] at ran
  cases found : doc.findBuiltinFont? font with
  | some id =>
      rw [found] at ran
      cases ran
      exact .builtinFontAgain font id found
  | none =>
      rw [found] at ran
      cases ran
      exact .builtinFont font found

theorem effect_addJpeg (info : JpegInfo) (data : Bytes) :
    Yields (.id .image) .ofId (addJpeg info data) := by
  intro doc after id ran
  cases ran
  exact .jpeg info data

theorem effect_addBilevelImage (image : BilevelImage) :
    Yields (.id .image) .ofId (addBilevelImage image) := by
  intro doc after id ran
  obtain ⟨⟨⟩, valid, ran⟩ := run_loaded_bind_eq_ok ran
  cases ran
  exact .bilevel image valid

theorem effect_addMaskImage (image : BilevelImage) :
    Yields (.id .image) .ofId (addMaskImage image) := by
  intro doc after id ran
  obtain ⟨⟨⟩, valid, ran⟩ := run_loaded_bind_eq_ok ran
  cases ran
  exact .stencil image valid

theorem run_softMask (image : RasterImage) (doc : Document) :
    (softMask image).run doc =
      .ok (image.alpha.map fun _ => doc.nextRef) (doc.withAlpha image) := by
  rw [softMask, withAlpha]
  cases image.alpha with
  | none => rfl
  | some alpha => rfl

theorem effect_addImage (image : RasterImage) : Yields (.id .image) .ofId (addImage image) := by
  intro doc after id ran
  obtain ⟨⟨⟩, valid, ran⟩ := run_loaded_bind_eq_ok ran
  rw [run_bind_of_run (run_get doc)] at ran
  obtain ⟨space, known, ran⟩ := run_check_bind_eq_ok ran
  rw [run_bind_of_run (run_softMask image doc)] at ran
  cases ran
  exact .raster image space valid known

theorem effect_addImageSource (source : ImageSource) :
    Yields (.id .image) .ofId (addImageSource source) := by
  cases source with
  | jpeg info data => exact effect_addJpeg info data
  | raster image => exact effect_addImage image
  | bilevel image => exact effect_addBilevelImage image

theorem effect_loadImage (path : String) (contents : Option Bytes) :
    Yields (.id .image) .ofId (loadImage path contents) := by
  intro doc after id ran
  obtain ⟨source, -, ran⟩ := run_loaded_bind_eq_ok ran
  exact effect_addImageSource source doc after id ran

theorem effect_loadMaskImage (path : String) (contents : Option Bytes) :
    Yields (.id .image) .ofId (loadMaskImage path contents) := by
  intro doc after id ran
  obtain ⟨source, -, ran⟩ := run_loaded_bind_eq_ok ran
  cases source with
  | jpeg info data => contradiction
  | raster image => contradiction
  | bilevel image => exact effect_addMaskImage image doc after id ran

theorem effect_loadProfile (bytes : Bytes) :
    Yields (.id .iccColorSpace) .ofId (loadProfile bytes) := by
  intro doc after id ran
  rw [loadProfile, run_bind_of_run (run_get doc)] at ran
  obtain ⟨found, loaded, ran⟩ := run_check_bind_eq_ok ran
  cases ran
  exact .profile bytes _ _ _ loaded

theorem effect_addLab (params : Dictionary.LabParams) :
    Yields (.id .labColorSpace) .ofId (addLab params) := by
  intro doc after id ran
  cases ran
  exact .lab params

theorem effect_addSeparation (name : String) (fallback : Color) :
    Yields (.id .separation) .ofId (addSeparation name fallback) := by
  intro doc after id ran
  cases ran
  exact .separation name fallback

theorem effect_setOutputIntent (intent : OutputIntent) :
    Yields .nothing (fun _ => .done) (setOutputIntent intent) := by
  intro doc after value ran
  rw [setOutputIntent, run_bind_of_run (run_get doc)] at ran
  cases named : intent.profile with
  | none =>
      rw [named] at ran
      cases ran
      refine .outputIntent intent fun profile same => ?_
      rw [named] at same
      contradiction
  | some profile =>
      rw [named] at ran
      obtain ⟨space, known, ran⟩ := run_check_bind_eq_ok ran
      cases ran
      refine .outputIntent intent fun other same => ?_
      rw [named] at same
      cases same
      rw [ColorSpaces.profileRef] at known
      cases found : doc.colors.profiles.get? profile with
      | none =>
          rw [Registry.get, found] at known
          contradiction
      | some item => exact Registry.contains_of_get? found

theorem effect_addGraphicsState (state : GraphicsState) :
    Yields (.id .graphicsState) .ofId (addGraphicsState state) := by
  intro doc after id ran
  cases ran
  exact .graphicsState state

theorem effect_addFunction (source : FunctionSource) :
    Yields (.id .function) .ofId (addFunction source) := by
  intro doc after id ran
  rw [addFunction, run_bind_of_run (run_get doc)] at ran
  obtain ⟨function, lowered, ran⟩ := run_check_bind_eq_ok ran
  cases ran
  exact .function source function lowered

theorem effect_addShading (source : ShadingSource) :
    Yields (.id .shading) .ofId (addShading source) := by
  intro doc after id ran
  rw [addShading, run_bind_of_run (run_get doc)] at ran
  obtain ⟨shading, lowered, ran⟩ := run_check_bind_eq_ok ran
  cases ran
  exact .shading source shading lowered

theorem effect_addPattern (source : PatternSource) :
    Yields (.id .pattern) .ofId (addPattern source) := by
  intro doc after id ran
  cases source with
  | tiling cell =>
      cases ran
      exact .tiling cell
  | shading shading matrix =>
      obtain ⟨pattern, middle, made, ran⟩ := run_bind_eq_ok ran
      rw [patternObject, run_bind_of_run (run_get doc)] at made
      obtain ⟨target, known, made⟩ := run_check_bind_eq_ok made
      cases made
      cases ran
      exact .shadingPattern shading target matrix (Registry.get_eq_ok_iff.mp known)

theorem effect_addForm (source : FormSource) :
    Yields (.id .formXObject) .ofId (addForm source) := by
  intro doc after id ran
  have whole : doc.Effect (.id .formXObject) (.ofId doc.forms.nextId) (doc.withForm source) :=
    .form source
  rw [withForm, formHead, withFormResources] at whole
  rw [addForm] at ran
  by_cases silent : source.resources.isEmpty
  · rw [if_pos silent] at ran
    rw [if_pos silent, if_pos silent] at whole
    cases ran
    exact whole
  · rw [if_neg silent] at ran
    rw [if_neg silent, if_neg silent] at whole
    cases ran
    exact whole

theorem effect_embedFileData (name : String) (data : Bytes) (mimeType : Option String) :
    Yields (.id .embeddedFile) .ofId (embedFileData name data mimeType) := by
  intro doc after id ran
  cases ran
  exact .file name data mimeType

theorem effect_embedFile (path : String) (contents : Option Bytes) :
    Yields (.id .embeddedFile) .ofId (embedFile path contents) := by
  intro doc after id ran
  cases contents with
  | none => contradiction
  | some data => exact effect_embedFileData _ data none doc after id ran

theorem effect_annotate (rect : Rect Single) (kind : AnnotationKind) (color : Option Color) :
    Yields (.id .annot) .ofId (annotate rect kind color) := by
  intro doc after id ran
  rw [annotate, run_bind_of_run (run_get doc)] at ran
  obtain ⟨⟨⟩, known, ran⟩ := run_check_bind_eq_ok ran
  cases ran
  exact .annot rect kind color known

theorem effect_createCheckbox (checkbox : Checkbox) :
    Yields (.id .formWidget) .ofId (createCheckbox checkbox) := by
  intro doc after id ran
  rw [createCheckbox, run_bind_of_run (run_get doc)] at ran
  obtain ⟨⟨⟩, known, ran⟩ := run_check_bind_eq_ok ran
  cases ran
  exact .checkbox checkbox known

theorem effect_addStructureItem (kind : StructureType) (parent : Option (Id .structureItem))
    (attributes : StructureAttributes) :
    Yields (.id .structureItem) .ofId (addStructureItem kind parent attributes) := by
  intro doc after id ran
  cases parent with
  | none =>
      cases ran
      refine .structureItem kind none attributes fun id same => ?_
      contradiction
  | some parent =>
      rw [addStructureItem, run_bind_of_run (run_get doc)] at ran
      by_cases known : doc.structureItems.contains parent
      · rw [if_pos known] at ran
        cases ran
        refine .structureItem kind (some parent) attributes fun id same => ?_
        cases same
        exact known
      · rw [if_neg known] at ran
        contradiction

theorem run_takeStructParent (source : PageSource) (doc : Document) :
    (takeStructParent source).run doc = .ok (doc.pageKey source) (doc.withPageKey source) := by
  rw [takeStructParent, run_modifyGet, pageKey, withPageKey]
  split
  · rfl
  · rfl

theorem run_ensurePageGroup (doc : Document) :
    ensurePageGroup.run doc = .ok doc.groupRef doc.grouped := by
  rw [ensurePageGroup, run_bind_of_run (run_get doc), groupRef, grouped, groupRef]
  cases doc with
  | mk =>
      split
      · next group held =>
        cases held
        rfl
      · next absent =>
        cases absent
        rfl

theorem run_addPage {doc : Document} {source : PageSource}
    (checked : doc.checkPage source = .ok ()) :
    (addPage source).run doc = .ok doc.pages.nextId (doc.withPage source) := by
  rw [addPage, run_bind_of_run (run_get doc), checked, run_bind_of_run (run_ofExcept_ok () doc),
    run_bind_of_run (run_placeAll_of_checkPage checked),
    run_bind_of_run (run_takeStructParent source _),
    run_bind_of_run (run_ensurePageGroup _), run_bind_of_run (run_resources _ _),
    run_bind_of_run (run_stream _ _ _), run_bind_of_run (run_get _),
    run_bind_of_run (run_allocate _ _), run_modifyGet]
  simp only [nextRef, Store.size_allocate, withPage, withPageObjects, pageItem, pageKey, grouped,
    groupRef, withPageKey, placed, push, Registry.register]
  rfl

theorem effect_addPage (source : PageSource) : Yields (.id .page) .ofId (addPage source) := by
  intro doc after id ran
  cases checked : doc.checkPage source with
  | error error =>
      rw [addPage, run_bind_of_run (run_get doc), checked] at ran
      contradiction
  | ok =>
      rw [run_addPage checked] at ran
      cases ran
      exact .page source checked

theorem effect_addOutline (item : OutlineItem) : Yields (.id .outline) .ofId (addOutline item) := by
  intro doc after id ran
  rw [addOutline, run_bind_of_run (run_get doc)] at ran
  obtain ⟨page, found, ran⟩ := run_check_bind_eq_ok ran
  have placed : doc.pages.contains item.page :=
    Registry.contains_of_get? (Registry.get_eq_ok_iff.mp found)
  cases below : item.parent with
  | none =>
      rw [below] at ran
      cases ran
      refine .outlineItem item placed fun id same => ?_
      rw [below] at same
      contradiction
  | some parent =>
      rw [below] at ran
      by_cases known : doc.outline.contains parent
      · simp only [known, if_true] at ran
        cases ran
        refine .outlineItem item placed fun id same => ?_
        rw [below] at same
        cases same
        exact known
      · simp only [known] at ran
        contradiction

theorem effect_perform (operation : Operation) :
    Yields operation.product id (perform operation) := by
  cases operation with
  | addFont face => exact (effect_addFont face).map
  | loadFont path contents => exact (effect_loadFont path contents).map
  | charSlot font char => exact (effect_charSlot font char).map
  | glyphSlot font glyph char => exact (effect_glyphSlot font glyph char).map
  | fontSubsetCount font => exact effect_query _
  | advanceWidth font char => exact effect_query _
  | builtinFont font => exact (effect_builtinFont font).map
  | loadImage path contents => exact (effect_loadImage path contents).map
  | loadMaskImage path contents => exact (effect_loadMaskImage path contents).map
  | addImageSource source => exact (effect_addImageSource source).map
  | addBilevelImage image => exact (effect_addBilevelImage image).map
  | addMaskImage image => exact (effect_addMaskImage image).map
  | addImage image => exact (effect_addImage image).map
  | loadProfile bytes => exact (effect_loadProfile bytes).map
  | addLab params => exact (effect_addLab params).map
  | addSeparation name fallback => exact (effect_addSeparation name fallback).map
  | convertColor color target =>
      intro doc after answer ran
      cases ran
      exact .same
  | setOutputIntent intent =>
      intro doc after answer ran
      obtain ⟨value, middle, set, ran⟩ := run_bind_eq_ok ran
      cases ran
      exact effect_setOutputIntent intent doc after value set
  | addGraphicsState state => exact (effect_addGraphicsState state).map
  | addFunction source => exact (effect_addFunction source).map
  | addShading source => exact (effect_addShading source).map
  | addPattern source => exact (effect_addPattern source).map
  | addForm source => exact (effect_addForm source).map
  | embedFile path contents => exact (effect_embedFile path contents).map
  | embedFileData name data mimeType => exact (effect_embedFileData name data mimeType).map
  | annotate rect kind color => exact (effect_annotate rect kind color).map
  | createCheckbox checkbox => exact (effect_createCheckbox checkbox).map
  | addStructureItem kind parent attributes =>
      exact (effect_addStructureItem kind parent attributes).map
  | addPage source => exact (effect_addPage source).map
  | addOutline item => exact (effect_addOutline item).map
  | pageCount =>
      intro doc after answer ran
      cases ran
      exact .same
  | ref resource => exact effect_query _
  | setInfo info =>
      intro doc after answer ran
      cases ran
      exact .info info

theorem run_perform_file {operation : Operation} {name : String}
    (embeds : operation.fileName? = some name) {doc after : Document} {answer : Answer}
    (ran : (perform operation).run doc = .ok answer after) :
    ∃ data mimeType, after = doc.withFile name data mimeType := by
  cases operation with
  | embedFileData own data mimeType =>
      cases embeds
      cases ran
      exact ⟨data, mimeType, rfl⟩
  | embedFile path contents =>
      cases embeds
      cases contents with
      | none => contradiction
      | some data =>
          cases ran
          exact ⟨data, none, rfl⟩
  | _ => contradiction

/-- A failed operation changes nothing, and a successful one has one of the effects above. -/
theorem effect_apply (doc : Document) (operation : Operation) :
    (∃ error, doc.apply operation = (.error error, doc)) ∨
      ∃ answer after, doc.apply operation = (.ok answer, after) ∧
        doc.Effect operation.product answer after := by
  rw [apply]
  cases ran : (perform operation).run doc with
  | ok answer after => exact .inr ⟨answer, after, rfl, effect_perform operation _ _ _ ran⟩
  | error error after =>
      cases atomic_perform operation doc after error ran
      exact .inl ⟨error, rfl⟩

end Document

end Folio
