import Folio.Proofs.Effects
import Folio.Proofs.StreamHeads

/-!
Where the data of the streams of a document comes from. Operations that succeed add streams with
the data that they were given, in the order in which they are asked; only a font subset settles
later what its program and its map of characters are.
-/

namespace Folio

inductive StreamSource where
  | given (data : Bytes)
  | program (key : SubsetKey)
  | toUnicode (key : SubsetKey)

namespace Record

def source? : Record → Option StreamSource
  | .stored _ _ data => some (.given data)
  | .deflated _ data => some (.given data)
  | .subset .program key => some (.program key)
  | .subset .toUnicode key => some (.toUnicode key)
  | _ => none

/-- A record whose entries leave the lengths of its data to those that follow them. -/
def Headed : Record → Prop
  | .stored entries filter data =>
      Entry.Heads entries data.length ∧ filter ≠ some (.ofString "FlateDecode")
  | .deflated entries data => Entry.Heads entries data.length
  | _ => True

variable {compress : Bool} {entries : List Entry} {data : Bytes}

theorem headed_stream (heads : Entry.Heads entries data.length) :
    (stream compress entries data).Headed := by
  cases compress with
  | false => exact ⟨heads, nofun⟩
  | true => exact heads

@[simp] theorem source?_stream :
    (stream compress entries data).source? = some (.given data) := by
  cases compress with
  | false => rfl
  | true => rfl

end Record

namespace Store

def sources (store : Store) : List StreamSource :=
  store.records.toList.filterMap Record.source?

@[simp] theorem sources_allocate (store : Store) (record : Record) :
    (store.allocate record).2.sources = store.sources ++ record.source?.toList := by
  rw [allocate, sources, sources, Array.toList_push, List.filterMap_append, List.filterMap_cons]
  cases record.source? with
  | none => rfl
  | some source => rfl

end Store

namespace Document

structure Gains (added : List StreamSource) (before after : Document) : Prop where
  sources : after.store.sources = before.store.sources ++ added
  adds : before.store.Adds Record.Headed after.store

variable {doc after : Document} {added : List StreamSource}

theorem gains_of_store_eq (same : after.store = doc.store) : Gains [] doc after :=
  ⟨by rw [same, List.append_nil], by rw [same]; exact .refl _⟩

theorem Gains.trans {later : Document} {more : List StreamSource} (gains : Gains added doc after)
    (further : Gains more after later) : Gains (added ++ more) doc later :=
  ⟨by rw [further.sources, gains.sources, List.append_assoc], gains.adds.trans further.adds⟩

theorem Gains.congr {later : Document} (gains : Gains added doc after)
    (same : later.store = after.store) : Gains added doc later := by
  have further := gains.trans (gains_of_store_eq same)
  rwa [List.append_nil] at further

theorem gains_push (doc : Document) (record : Record) (headed : record.Headed) :
    Gains record.source?.toList doc (doc.push record) :=
  ⟨doc.store.sources_allocate record, doc.store.adds_allocate headed⟩

theorem gains_object (doc : Document) (value : Value) : Gains [] doc (doc.push (.object value)) :=
  doc.gains_push (.object value) trivial

theorem gains_stream (doc : Document) {compress : Bool} {entries : List Entry} {data : Bytes}
    (heads : Entry.Heads entries data.length) :
    Gains [.given data] doc (doc.push (.stream compress entries data)) := by
  have gains := doc.gains_push (.stream compress entries data) (Record.headed_stream heads)
  rwa [Record.source?_stream] at gains

/-- The program and the map of a subset that is opened, after the encoding that all share. -/
def glyphSources (doc : Document) (id : Id .font) (item : FontItem) (glyph : GlyphId)
    (char : Option Char) : List StreamSource :=
  let encoding := OneByte.bytes (Slots.ofCapacity doc.options.subsetCapacity).capacity
  let key : SubsetKey := ⟨id, (item.slots.assign glyph char).1.subset⟩
  (if doc.encoding.isNone then [.given encoding] else []) ++
    if (item.slots.assign glyph char).2.1 then [.program key, .toUnicode key] else []

end Document

def RasterImage.sources (image : RasterImage) : List StreamSource :=
  image.alpha.toList.map .given ++ [.given image.data]

def ImageSource.sources : ImageSource → List StreamSource
  | .jpeg _ data => [.given data]
  | .raster image => image.sources
  | .bilevel image => [.given image.data]

namespace Operation

open Document

def sources (doc : Document) : Operation → List StreamSource
  | .charSlot font char =>
      match doc.fonts.get? font with
      | none => []
      | some item =>
          match item.face.glyph? char with
          | none => []
          | some glyph => doc.glyphSources font item glyph (some char)
  | .glyphSlot font glyph char =>
      match doc.fonts.get? font with
      | none => []
      | some item => doc.glyphSources font item glyph char
  | .loadImage _ contents | .loadMaskImage _ contents =>
      match ImageSource.load contents with
      | .ok source => source.sources
      | .error _ => []
  | .addImageSource source => source.sources
  | .addBilevelImage image | .addMaskImage image => [.given image.data]
  | .addImage image => image.sources
  | .loadProfile bytes =>
      match doc.colors.findProfile? doc.store bytes with
      | some _ => []
      | none => [.given bytes]
  | .addPattern (.tiling cell) => [.given cell.contents]
  | .addForm source => [.given source.contents]
  | .embedFile _ contents => contents.toList.map .given
  | .embedFileData _ data _ => [.given data]
  | .addPage source => [.given source.contents]
  | _ => []

end Operation

namespace Document

open Build

variable {α β : Type} {doc after : Document}

def Gives (sources : Document → List StreamSource) (step : Build α) : Prop :=
  ∀ (doc after : Document) (value : α), step.run doc = .ok value after →
    Gains (sources doc) doc after

theorem Gives.map {sources : Document → List StreamSource} {step : Build α}
    (gives : Gives sources step) {change : α → β} : Gives sources (change <$> step) := by
  intro doc after value ran
  obtain ⟨found, ranStep, -⟩ := run_map_eq_ok ran
  exact gives doc after found ranStep

theorem gains_withImage (record : Record) (headed : record.Headed) :
    Gains record.source?.toList doc (doc.withImage record) :=
  (doc.gains_push record headed).congr rfl

theorem gains_withImageStream {entries : List Entry} {data : Bytes}
    (heads : Entry.Heads entries data.length) :
    Gains [.given data] doc (doc.withImage (.stream doc.options.compress entries data)) :=
  (doc.gains_stream heads).congr rfl

theorem gains_withAlpha (image : RasterImage) :
    Gains (image.alpha.toList.map .given) doc (doc.withAlpha image) := by
  rw [withAlpha]
  cases image.alpha with
  | none => exact gains_of_store_eq rfl
  | some alpha => exact doc.gains_stream (Dictionary.heads_image _ _)

theorem gives_addBilevelImage (image : BilevelImage) :
    Gives (fun _ => [.given image.data]) (addBilevelImage image) := by
  intro doc after id ran
  obtain ⟨⟨⟩, -, ran⟩ := run_loaded_bind_eq_ok ran
  cases ran
  exact gains_withImageStream (Dictionary.heads_image _ _)

theorem gives_addMaskImage (image : BilevelImage) :
    Gives (fun _ => [.given image.data]) (addMaskImage image) := by
  intro doc after id ran
  obtain ⟨⟨⟩, -, ran⟩ := run_loaded_bind_eq_ok ran
  cases ran
  exact gains_withImageStream (Dictionary.heads_streamHead nofun)

theorem gives_addImage (image : RasterImage) :
    Gives (fun _ => image.sources) (addImage image) := by
  intro doc after id ran
  obtain ⟨⟨⟩, -, ran⟩ := run_loaded_bind_eq_ok ran
  rw [run_bind_of_run (run_get doc)] at ran
  obtain ⟨space, -, ran⟩ := run_check_bind_eq_ok ran
  rw [run_bind_of_run (run_softMask image doc)] at ran
  cases ran
  exact (gains_withAlpha image).trans (gains_withImageStream (Dictionary.heads_image _ _))

theorem gives_addImageSource (source : ImageSource) :
    Gives (fun _ => source.sources) (addImageSource source) := by
  intro doc after id ran
  cases source with
  | jpeg info data =>
      cases ran
      exact gains_withImage (.stored _ _ data) ⟨heads_jpeg info data.length, by decide⟩
  | raster image => exact gives_addImage _ doc after id ran
  | bilevel image => exact gives_addBilevelImage _ doc after id ran

theorem gives_loadImage (path : String) (contents : Option Bytes) :
    Gives (Operation.loadImage path contents).sources (loadImage path contents) := by
  intro doc after id ran
  obtain ⟨source, loaded, ran⟩ := run_loaded_bind_eq_ok ran
  simp only [Operation.sources, loaded]
  exact gives_addImageSource _ doc after id ran

theorem gives_loadMaskImage (path : String) (contents : Option Bytes) :
    Gives (Operation.loadMaskImage path contents).sources (loadMaskImage path contents) := by
  intro doc after id ran
  obtain ⟨source, loaded, ran⟩ := run_loaded_bind_eq_ok ran
  simp only [Operation.sources, loaded]
  cases source with
  | jpeg info data => contradiction
  | raster image => contradiction
  | bilevel image => exact gives_addMaskImage _ doc after id ran

theorem gains_encoded (doc : Document) :
    Gains (if doc.encoding.isNone then
      [.given (OneByte.bytes (Slots.ofCapacity doc.options.subsetCapacity).capacity)] else [])
      doc doc.encoded := by
  have heads (size : Nat) :
      Entry.Heads (Dictionary.StreamHead.cmap OneByte.name .identity).entries size :=
    Dictionary.heads_streamHead nofun
  rw [encoded]
  split
  · exact (doc.gains_stream (heads _)).congr rfl
  · exact gains_of_store_eq rfl

theorem gains_withSubset (doc : Document) (key : SubsetKey) :
    Gains [.program key, .toUnicode key] doc (doc.withSubset key) :=
  ((((doc.gains_push (.subset .program key) trivial).trans
    (gains_push _ (.subset .descriptor key) trivial)).trans
      (gains_push _ (.subset .toUnicode key) trivial)).trans
        (gains_push _ (.subset .cidFont key) trivial)).trans
          (gains_push _ (.subset .font key) trivial)

theorem gains_withGlyph (doc : Document) (id : Id .font) (item : FontItem) (glyph : GlyphId)
    (char : Option Char) :
    Gains (doc.glyphSources id item glyph char) doc (doc.withGlyph id item glyph char) := by
  rw [glyphSources, withGlyph]
  cases (item.slots.assign glyph char).2.1 with
  | false => exact (doc.gains_encoded.trans (gains_of_store_eq rfl)).congr rfl
  | true => exact (doc.gains_encoded.trans (gains_withSubset _ _)).congr rfl

theorem gives_charSlot (font : Id .font) (char : Char) :
    Gives (Operation.charSlot font char).sources (charSlot font char) := by
  intro doc after slot ran
  obtain ⟨item, glyph, found, shown, -, -, rfl⟩ := run_charSlot_eq_ok ran
  simp only [Operation.sources, found, shown]
  exact doc.gains_withGlyph font item glyph (some char)

theorem gives_glyphSlot (font : Id .font) (glyph : GlyphId) (char : Option Char) :
    Gives (Operation.glyphSlot font glyph char).sources (glyphSlot font glyph char) := by
  intro doc after slot ran
  obtain ⟨item, found, -, -, rfl⟩ := run_glyphSlot_eq_ok ran
  simp only [Operation.sources, found]
  exact doc.gains_withGlyph font item glyph char

theorem gives_loadProfile (bytes : Bytes) :
    Gives (Operation.loadProfile bytes).sources (loadProfile bytes) := by
  intro doc after id ran
  rw [loadProfile, run_bind_of_run (run_get doc)] at ran
  obtain ⟨found, loaded, ran⟩ := run_check_bind_eq_ok ran
  cases ran
  rw [ColorSpaces.loadProfile, ColorSpaces.addProfile] at loaded
  simp only [Operation.sources]
  cases known : doc.colors.findProfile? doc.store bytes with
  | some known =>
      rw [known] at loaded
      cases loaded
      exact gains_of_store_eq rfl
  | none =>
      rw [known] at loaded
      cases parsed : IccProfile.parse bytes with
      | error fault =>
          rw [parsed] at loaded
          contradiction
      | ok profile =>
          have heads : Entry.Heads (Dictionary.StreamHead.colorProfile profile.space.components
              (some profile.space.colorSpace)).entries bytes.length :=
            Dictionary.heads_streamHead (by simp [Dictionary.StreamHead.size?])
          rw [parsed] at loaded
          cases loaded
          exact ((doc.gains_stream heads).trans (gains_object _ _)).congr rfl

theorem gives_addPattern (source : PatternSource) :
    Gives (Operation.addPattern source).sources (addPattern source) := by
  intro doc after id ran
  cases source with
  | shading shading matrix =>
      obtain ⟨pattern, middle, made, ran⟩ := run_bind_eq_ok ran
      rw [patternObject, run_bind_of_run (run_get doc)] at made
      obtain ⟨target, -, made⟩ := run_check_bind_eq_ok made
      cases made
      cases ran
      exact (doc.gains_object _).congr rfl
  | tiling cell =>
      cases ran
      exact ((doc.gains_object _).trans
        (gains_stream _ (Dictionary.heads_tilingPattern _ _))).congr rfl

theorem gives_addForm (source : FormSource) :
    Gives (fun _ => [.given source.contents]) (addForm source) := by
  intro doc after id ran
  rw [addForm] at ran
  by_cases silent : source.resources.isEmpty
  · rw [if_pos silent] at ran
    cases ran
    exact (doc.gains_stream (Dictionary.heads_form _ _)).congr rfl
  · rw [if_neg silent] at ran
    cases ran
    exact ((doc.gains_object _).trans (gains_stream _ (Dictionary.heads_form _ _))).congr rfl

theorem gives_embedFileData (name : String) (data : Bytes) (mimeType : Option String) :
    Gives (fun _ => [.given data]) (embedFileData name data mimeType) := by
  intro doc after id ran
  have heads : Entry.Heads (Dictionary.StreamHead.embeddedFile data.length
      (mimeType.map Name.ofString)).entries data.length :=
    Dictionary.heads_streamHead fun told => (Option.some.inj told).symm
  cases ran
  exact ((doc.gains_stream heads).trans (gains_object _ _)).congr rfl

theorem gives_embedFile (path : String) (contents : Option Bytes) :
    Gives (fun _ => contents.toList.map .given) (embedFile path contents) := by
  intro doc after id ran
  cases contents with
  | none => contradiction
  | some data => exact gives_embedFileData _ data none doc after id ran

theorem gains_grouped (doc : Document) : Gains [] doc doc.grouped := by
  rw [grouped]
  by_cases shared : doc.pageGroup.isSome
  · rw [if_pos shared]
    exact gains_of_store_eq rfl
  · rw [if_neg shared]
    exact (doc.gains_object _).congr rfl

theorem gains_withPage (doc : Document) (source : PageSource) :
    Gains [.given source.contents] doc (doc.withPage source) := by
  have resourced := doc.gains_grouped.trans
    (gains_object _ (Build.resourceValue source.resources))
  exact ((resourced.trans (gains_stream _ (Entry.heads_nil source.contents.length))).trans
    (gains_push _ (.page doc.pages.nextId) trivial)).congr rfl

theorem gives_addPage (source : PageSource) :
    Gives (fun _ => [.given source.contents]) (addPage source) := by
  intro doc after id ran
  cases checked : doc.checkPage source with
  | error error =>
      rw [addPage, run_bind_of_run (run_get doc), checked] at ran
      contradiction
  | ok =>
      rw [run_addPage checked] at ran
      cases ran
      exact doc.gains_withPage source

def silentProducts : List Operation.Product :=
  [.nothing, .id .font, .id .builtinFont, .id .labColorSpace, .id .separation,
    .id .graphicsState, .id .function, .id .shading, .id .annot, .id .formWidget,
    .id .structureItem, .id .outline]

theorem gains_of_silent {product : Operation.Product} {answer : Answer}
    (effect : doc.Effect product answer after) (silent : product ∈ silentProducts) :
    Gains [] doc after := by
  cases effect with
  | same => exact gains_of_store_eq rfl
  | info info => exact gains_of_store_eq rfl
  | font face => exact gains_of_store_eq rfl
  | builtinFont font fresh => exact (doc.gains_object _).congr rfl
  | builtinFontAgain font id found => exact gains_of_store_eq rfl
  | lab params => exact (doc.gains_object _).congr rfl
  | separation name fallback =>
      exact ((doc.gains_object _).trans (gains_object _ _)).congr rfl
  | outputIntent intent known => exact gains_of_store_eq rfl
  | graphicsState state => exact (doc.gains_object _).congr rfl
  | function source function lowered => exact (doc.gains_object _).congr rfl
  | shading source shading lowered => exact (doc.gains_object _).congr rfl
  | annot rect kind color known =>
      exact (doc.gains_push (.annot doc.annotations.nextId) trivial).congr rfl
  | checkbox checkbox known =>
      exact (doc.gains_push (.checkbox doc.widgets.nextId) trivial).congr rfl
  | structureItem kind parent attributes known =>
      exact (doc.gains_push (.structureItem doc.structureItems.nextId) trivial).congr rfl
  | outlineItem item page known => exact gains_of_store_eq rfl
  | _ => exact absurd silent (by simp [silentProducts])

theorem gives_perform (operation : Operation) : Gives operation.sources (perform operation) := by
  cases operation with
  | charSlot font char => exact (gives_charSlot font char).map
  | glyphSlot font glyph char => exact (gives_glyphSlot font glyph char).map
  | loadImage path contents => exact (gives_loadImage path contents).map
  | loadMaskImage path contents => exact (gives_loadMaskImage path contents).map
  | addImageSource source => exact (gives_addImageSource source).map
  | addBilevelImage image => exact (gives_addBilevelImage image).map
  | addMaskImage image => exact (gives_addMaskImage image).map
  | addImage image => exact (gives_addImage image).map
  | loadProfile bytes => exact (gives_loadProfile bytes).map
  | addPattern source => exact (gives_addPattern source).map
  | addForm source => exact (gives_addForm source).map
  | embedFile path contents => exact (gives_embedFile path contents).map
  | embedFileData name data mimeType => exact (gives_embedFileData name data mimeType).map
  | addPage source => exact (gives_addPage source).map
  | _ =>
      intro doc after answer ran
      exact gains_of_silent (effect_perform _ doc after answer ran)
        (by simp [Operation.product, silentProducts])

def addedSources (doc : Document) : List Operation → List StreamSource
  | [] => []
  | operation :: rest =>
      let (outcome, after) := doc.apply operation
      (match outcome with
        | .ok _ => operation.sources doc
        | .error _ => []) ++ after.addedSources rest

theorem gains_run (doc : Document) (operations : List Operation) :
    Gains (doc.addedSources operations) doc (doc.run operations).2 := by
  induction operations generalizing doc with
  | nil => exact gains_of_store_eq rfl
  | cons operation rest ih =>
      cases ran : (perform operation).run doc with
      | ok answer after =>
          have applied : doc.apply operation = (.ok answer, after) := by rw [apply, ran]
          rw [addedSources, run, applied]
          exact (gives_perform operation doc after answer ran).trans (ih after)
      | error error after =>
          cases atomic_perform operation doc after error ran
          have applied : doc.apply operation = (.error error, doc) := by rw [apply, ran]
          rw [addedSources, run, applied]
          exact ih doc

end Document

end Folio
