import Folio.Document.Operation
import Folio.Proofs.Glyphs
import Folio.Proofs.Placement

/-!
An operation that fails leaves the document as it was. Every operation checks all that can go wrong
before it changes anything; what it does after its checks cannot fail any more.
-/

namespace Folio

namespace Build

variable {α β : Type}

def Atomic (step : Build α) : Prop :=
  ∀ (doc after : Document) (error : Error), step.run doc = .error error after → after = doc

def Total (step : Build α) : Prop :=
  ∀ doc : Document, ∃ value after, step.run doc = .ok value after

abbrev Still (step : Build α) : Prop :=
  Within (fun doc after => after = doc) step

theorem total_pure (value : α) : Total (pure value) :=
  fun doc => ⟨value, doc, rfl⟩

theorem total_get : Total get :=
  fun doc => ⟨doc, doc, rfl⟩

theorem total_set (after : Document) : Total (set after) :=
  fun _ => ⟨⟨⟩, after, rfl⟩

theorem total_modifyGet (change : Document → α × Document) : Total (modifyGet change) :=
  fun doc => ⟨(change doc).1, (change doc).2, rfl⟩

theorem total_object (value : Value) : Total (object value) :=
  total_modifyGet _

theorem total_stream (entries : List Entry) (data : Bytes) : Total (stream entries data) :=
  fun doc => ⟨_, _, run_stream entries data doc⟩

theorem total_resources (bytes : Bytes) : Total (resources bytes) :=
  fun doc => ⟨_, _, run_resources bytes doc⟩

theorem Total.bind {step : Build α} {next : α → Build β} (total : Total step)
    (totalNext : ∀ value, Total (next value)) : Total (step >>= next) := by
  intro doc
  obtain ⟨value, middle, ran⟩ := total doc
  obtain ⟨result, after, ranNext⟩ := totalNext value middle
  refine ⟨result, after, ?_⟩
  rw [run_bind_of_run ran, ranNext]

theorem Total.map {step : Build α} (total : Total step) (change : α → β) :
    Total (change <$> step) :=
  total.bind fun _ => total_pure _

theorem Total.ne_error {step : Build α} (total : Total step) (doc after : Document)
    (error : Error) : step.run doc ≠ .error error after := by
  intro failed
  obtain ⟨value, middle, ran⟩ := total doc
  rw [ran] at failed
  contradiction

theorem Total.atomic {step : Build α} (total : Total step) : Atomic step :=
  fun doc after error failed => absurd failed (total.ne_error doc after error)

theorem atomic_throw (error : Error) : Atomic (throw error : Build α) := by
  intro doc after other failed
  cases failed
  rfl

theorem atomic_ofExcept (outcome : Except Error α) : Atomic (ofExcept outcome) := by
  cases outcome with
  | ok value => exact (total_pure value).atomic
  | error error => exact atomic_throw error

theorem Atomic.bind_total {step : Build α} {next : α → Build β} (atomic : Atomic step)
    (total : ∀ value, Total (next value)) : Atomic (step >>= next) := by
  intro doc after error failed
  rw [EStateM.run_bind] at failed
  cases ran : step.run doc with
  | ok value middle =>
      rw [ran] at failed
      exact absurd failed ((total value).ne_error middle after error)
  | error cause middle =>
      rw [ran] at failed
      cases failed
      exact atomic doc after error ran

theorem Atomic.bind {step : Build α} {next : α → Build β} (atomic : Atomic step)
    (still : Still step) (atomicNext : ∀ value, Atomic (next value)) :
    Atomic (step >>= next) := by
  intro doc after error failed
  rw [EStateM.run_bind] at failed
  cases ran : step.run doc with
  | ok value middle =>
      rw [ran] at failed
      have same : middle = doc := still doc middle value ran
      rw [atomicNext value middle after error failed, same]
  | error cause middle =>
      rw [ran] at failed
      cases failed
      exact atomic doc after error ran

theorem Atomic.map {step : Build α} (atomic : Atomic step) (change : α → β) :
    Atomic (change <$> step) :=
  atomic.bind_total fun _ => total_pure _

theorem still_get : Still get :=
  within_get fun _ => rfl

theorem still_ofExcept (outcome : Except Error α) : Still (ofExcept outcome) :=
  fun _ _ _ ran => (run_ofExcept_eq_ok ran).2

theorem atomic_get_bind {next : Document → Build β} (atomic : ∀ doc, Atomic (next doc)) :
    Atomic (get >>= next) :=
  total_get.atomic.bind still_get atomic

theorem atomic_ofExcept_bind {outcome : Except Error α} {next : α → Build β}
    (atomic : ∀ value, Atomic (next value)) : Atomic (ofExcept outcome >>= next) :=
  (atomic_ofExcept outcome).bind (still_ofExcept outcome) atomic

theorem loaded_eq_ofExcept (what : String) (outcome : Except LoadError α) :
    loaded what outcome = ofExcept (outcome.mapError fun cause => .load what cause) := by
  cases outcome with
  | ok value => rfl
  | error cause => rfl

theorem atomic_loaded_bind {what : String} {outcome : Except LoadError α} {next : α → Build β}
    (atomic : ∀ value, Atomic (next value)) : Atomic (loaded what outcome >>= next) := by
  rw [loaded_eq_ofExcept]
  exact atomic_ofExcept_bind atomic

end Build

namespace Document

open Build

theorem total_addFont (face : Face) : Total (addFont face) :=
  total_modifyGet _

theorem atomic_loadFont (path : String) (contents : Option Bytes) :
    Atomic (loadFont path contents) :=
  atomic_loaded_bind fun font => (total_addFont font.face).atomic

theorem atomic_glyphSlot (id : Id .font) (glyph : GlyphId) (char : Option Char) :
    Atomic (glyphSlot id glyph char) := by
  intro doc after error failed
  cases found : doc.fonts.get? id with
  | none =>
      have missing : doc.fonts.get id = .error (.unknownResource .font id.index) := by
        rw [Registry.get, found]
      simp [glyphSlot, font, missing] at failed
      exact failed.2.symm
  | some item =>
      by_cases present : glyph = 0
      · simp [glyphSlot, run_font found, present] at failed
        exact failed.2.symm
      · rw [run_glyphSlot char found present] at failed
        contradiction

theorem atomic_charSlot (id : Id .font) (char : Char) : Atomic (charSlot id char) :=
  atomic_get_bind fun _ => atomic_ofExcept_bind fun _ => atomic_ofExcept_bind fun glyph =>
    atomic_glyphSlot id glyph (some char)

theorem total_builtinFont (font : StandardFont) : Total (builtinFont font) := by
  refine total_get.bind fun doc => ?_
  split
  · exact total_pure _
  · exact (total_object _).bind fun _ => total_modifyGet _

theorem total_registerImage (target : Ref) : Total (registerImage target) :=
  total_modifyGet _

theorem total_addJpeg (info : JpegInfo) (data : Bytes) : Total (addJpeg info data) :=
  (total_modifyGet _).bind total_registerImage

theorem atomic_addBilevelImage (image : BilevelImage) : Atomic (addBilevelImage image) :=
  atomic_loaded_bind fun _ => ((total_stream _ _).bind total_registerImage).atomic

theorem atomic_addMaskImage (image : BilevelImage) : Atomic (addMaskImage image) :=
  atomic_loaded_bind fun _ => ((total_stream _ _).bind total_registerImage).atomic

theorem total_softMask (image : RasterImage) : Total (softMask image) := by
  rw [softMask]
  split
  · exact total_pure _
  · exact (total_stream _ _).bind fun _ => total_pure _

theorem atomic_addImage (image : RasterImage) : Atomic (addImage image) :=
  atomic_loaded_bind fun _ => atomic_get_bind fun _ => atomic_ofExcept_bind fun _ =>
    ((total_softMask image).bind fun _ =>
      (total_stream _ _).bind total_registerImage).atomic

theorem atomic_addImageSource (source : ImageSource) : Atomic (addImageSource source) := by
  cases source with
  | jpeg info data => exact (total_addJpeg info data).atomic
  | raster image => exact atomic_addImage image
  | bilevel image => exact atomic_addBilevelImage image

theorem atomic_loadImage (path : String) (contents : Option Bytes) :
    Atomic (loadImage path contents) :=
  atomic_loaded_bind atomic_addImageSource

theorem atomic_loadMaskImage (path : String) (contents : Option Bytes) :
    Atomic (loadMaskImage path contents) := by
  refine atomic_loaded_bind fun source => ?_
  cases source with
  | jpeg info data => exact atomic_throw _
  | raster image => exact atomic_throw _
  | bilevel image => exact atomic_addMaskImage image

theorem atomic_loadProfile (bytes : Bytes) : Atomic (loadProfile bytes) :=
  atomic_get_bind fun _ => atomic_ofExcept_bind fun _ =>
    ((total_set _).bind fun _ => total_pure _).atomic

theorem atomic_setOutputIntent (intent : OutputIntent) : Atomic (setOutputIntent intent) := by
  refine atomic_get_bind fun doc => ?_
  simp only
  split
  · exact atomic_ofExcept_bind fun _ => (total_set _).atomic
  · exact (total_set _).atomic

theorem total_addGraphicsState (state : GraphicsState) : Total (addGraphicsState state) :=
  (total_object _).bind fun _ => total_modifyGet _

theorem atomic_addFunction (source : FunctionSource) : Atomic (addFunction source) :=
  atomic_get_bind fun _ => atomic_ofExcept_bind fun _ =>
    ((total_object _).bind fun _ => total_modifyGet _).atomic

theorem atomic_addShading (source : ShadingSource) : Atomic (addShading source) :=
  atomic_get_bind fun _ => atomic_ofExcept_bind fun _ =>
    ((total_object _).bind fun _ => total_modifyGet _).atomic

theorem total_tilingObject (cell : TilingSource) : Total (tilingObject cell) :=
  (total_resources _).bind fun _ => total_stream _ _

theorem atomic_patternObject (source : PatternSource) : Atomic (patternObject source) := by
  cases source with
  | shading shading matrix =>
      exact atomic_get_bind fun _ => atomic_ofExcept_bind fun _ => (total_object _).atomic
  | tiling cell => exact (total_tilingObject cell).atomic

theorem atomic_addPattern (source : PatternSource) : Atomic (addPattern source) :=
  (atomic_patternObject source).bind_total fun _ => total_modifyGet _

theorem total_addForm (source : FormSource) : Total (addForm source) := by
  rw [addForm]
  split
  · exact (total_pure _).bind fun _ => (total_stream _ _).bind fun _ => total_modifyGet _
  · exact ((total_resources _).map _).bind fun _ =>
      (total_stream _ _).bind fun _ => total_modifyGet _

theorem total_embedFileData (name : String) (data : Bytes) (mimeType : Option String) :
    Total (embedFileData name data mimeType) :=
  (total_stream _ _).bind fun _ => (total_object _).bind fun _ => total_modifyGet _

theorem atomic_embedFile (path : String) (contents : Option Bytes) :
    Atomic (embedFile path contents) := by
  cases contents with
  | none => exact atomic_throw _
  | some data => exact (total_embedFileData _ data none).atomic

theorem atomic_annotate (rect : Rect Single) (kind : AnnotationKind) (color : Option Color) :
    Atomic (annotate rect kind color) :=
  atomic_get_bind fun _ => atomic_ofExcept_bind fun _ => atomic_get_bind fun _ =>
    ((total_modifyGet _).bind fun _ => total_modifyGet _).atomic

theorem atomic_createCheckbox (checkbox : Checkbox) : Atomic (createCheckbox checkbox) :=
  atomic_get_bind fun _ => atomic_ofExcept_bind fun _ => atomic_get_bind fun _ =>
    ((total_modifyGet _).bind fun _ => total_modifyGet _).atomic

theorem atomic_addStructureItem (kind : StructureType) (parent : Option (Id .structureItem))
    (attributes : StructureAttributes) : Atomic (addStructureItem kind parent attributes) := by
  cases parent with
  | none =>
      exact atomic_get_bind fun _ => ((total_modifyGet _).bind fun _ => total_modifyGet _).atomic
  | some parent =>
      refine atomic_get_bind fun doc => ?_
      split
      · exact atomic_get_bind fun _ =>
          ((total_modifyGet _).bind fun _ => total_modifyGet _).atomic
      · exact (atomic_throw _).bind (within_throw _) fun _ => atomic_get_bind fun _ =>
          ((total_modifyGet _).bind fun _ => total_modifyGet _).atomic

theorem total_takeStructParent (source : PageSource) : Total (takeStructParent source) :=
  total_modifyGet _

theorem total_ensurePageGroup : Total ensurePageGroup := by
  refine total_get.bind fun doc => ?_
  split
  · exact total_pure _
  · exact (total_object _).bind fun _ => (total_modifyGet _).bind fun _ => total_pure _

/-- Once a page passed its checks, everything that it lists has a place to get. -/
theorem atomic_addPage (source : PageSource) : Atomic (addPage source) := by
  intro doc after error failed
  rw [addPage, run_bind_of_run (run_get doc)] at failed
  cases checked : doc.checkPage source with
  | error cause =>
      rw [checked] at failed
      cases failed
      rfl
  | ok =>
      rw [checked, run_bind_of_run (run_ofExcept_ok () doc),
        run_bind_of_run (run_placeAll_of_checkPage checked)] at failed
      refine absurd failed (Total.ne_error ?_ _ after error)
      exact (total_takeStructParent source).bind fun _ => total_ensurePageGroup.bind fun _ =>
        (total_resources _).bind fun _ => (total_stream _ _).bind fun _ =>
          total_get.bind fun _ => (total_modifyGet _).bind fun _ => total_modifyGet _

theorem atomic_addOutline (item : OutlineItem) : Atomic (addOutline item) := by
  refine atomic_get_bind fun doc => atomic_ofExcept_bind fun _ => ?_
  simp only [Registry.register]
  split
  · split
    · exact ((total_set _).bind fun _ => total_pure _).atomic
    · exact (atomic_throw _).bind (within_throw _) fun _ =>
        ((total_set _).bind fun _ => total_pure _).atomic
  · exact ((total_set _).bind fun _ => total_pure _).atomic

theorem atomic_perform (operation : Operation) : Atomic (perform operation) := by
  cases operation with
  | addFont face => exact ((total_addFont face).map _).atomic
  | loadFont path contents => exact (atomic_loadFont path contents).map _
  | charSlot font char => exact (atomic_charSlot font char).map _
  | glyphSlot font glyph char => exact (atomic_glyphSlot font glyph char).map _
  | fontSubsetCount font =>
      exact atomic_get_bind fun _ => atomic_ofExcept_bind fun _ => (total_pure _).atomic
  | advanceWidth font char =>
      exact atomic_get_bind fun _ => atomic_ofExcept_bind fun _ => (total_pure _).atomic
  | builtinFont font => exact ((total_builtinFont font).map _).atomic
  | loadImage path contents => exact (atomic_loadImage path contents).map _
  | loadMaskImage path contents => exact (atomic_loadMaskImage path contents).map _
  | addImageSource source => exact (atomic_addImageSource source).map _
  | addBilevelImage image => exact (atomic_addBilevelImage image).map _
  | addMaskImage image => exact (atomic_addMaskImage image).map _
  | addImage image => exact (atomic_addImage image).map _
  | loadProfile bytes => exact (atomic_loadProfile bytes).map _
  | addLab params => exact ((total_modifyGet _).map _).atomic
  | addSeparation name fallback => exact ((total_modifyGet _).map _).atomic
  | convertColor color target => exact (total_get.bind fun _ => total_pure _).atomic
  | setOutputIntent intent => exact (atomic_setOutputIntent intent).bind_total fun _ => total_pure _
  | addGraphicsState state => exact ((total_addGraphicsState state).map _).atomic
  | addFunction source => exact (atomic_addFunction source).map _
  | addShading source => exact (atomic_addShading source).map _
  | addPattern source => exact (atomic_addPattern source).map _
  | addForm source => exact ((total_addForm source).map _).atomic
  | embedFile path contents => exact (atomic_embedFile path contents).map _
  | embedFileData name data mimeType =>
      exact ((total_embedFileData name data mimeType).map _).atomic
  | annotate rect kind color => exact (atomic_annotate rect kind color).map _
  | createCheckbox checkbox => exact (atomic_createCheckbox checkbox).map _
  | addStructureItem kind parent attributes =>
      exact (atomic_addStructureItem kind parent attributes).map _
  | addPage source => exact (atomic_addPage source).map _
  | addOutline item => exact (atomic_addOutline item).map _
  | pageCount => exact (total_get.bind fun _ => total_pure _).atomic
  | ref resource =>
      exact atomic_get_bind fun _ => atomic_ofExcept_bind fun _ => (total_pure _).atomic
  | setInfo info => exact ((total_modifyGet _).bind fun _ => total_pure _).atomic

/-- What an operation leaves behind: the document it found, or what a successful step made of it. -/
theorem apply_cases (doc : Document) (operation : Operation) :
    (doc.apply operation).2 = doc ∨
      ∃ answer, (perform operation).run doc = .ok answer (doc.apply operation).2 := by
  rw [apply]
  cases ran : (perform operation).run doc with
  | ok answer after => exact .inr ⟨answer, rfl⟩
  | error error after => exact .inl (atomic_perform operation doc after error ran)

/-- An operation that fails, for whatever reason, leaves every part of the document as it was. -/
theorem eq_of_apply_error {doc after : Document} {operation : Operation} {error : Error}
    (failed : doc.apply operation = (.error error, after)) : after = doc := by
  rw [apply] at failed
  cases ran : (perform operation).run doc with
  | ok answer last =>
      rw [ran] at failed
      cases failed
  | error cause last =>
      rw [ran] at failed
      have same : (Except.error cause, last) = (Except.error error, after) := failed
      cases same
      exact atomic_perform operation doc after error ran

def crowdedPage : PageSource where
  resources := []
  contents := []
  widgets := []
  annotations := [⟨0⟩, ⟨0⟩]
  marked := []
  transition := none
  boxes := none

def notedDocument : Document :=
  ((withOptions .standard).run
    [.annotate ⟨0, 0, 1, 1⟩ (.text "note" false) none]).2

theorem eq_of_apply_error_crowdedPage :
    (notedDocument.apply (.addPage crowdedPage)).1 = .error (.alreadyUsed .annot 0 0) ∧
      (notedDocument.apply (.addPage crowdedPage)).2 = notedDocument := by
  have outcome : (notedDocument.apply (.addPage crowdedPage)).1 =
      .error (.alreadyUsed .annot 0 0) := rfl
  exact ⟨outcome, eq_of_apply_error (Prod.ext outcome rfl)⟩

end Document

end Folio
