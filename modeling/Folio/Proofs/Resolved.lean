import Folio.Proofs.Changes
import Folio.Proofs.DictionaryRoles

/-!
The references of a document in the making. Whatever refers to an object finds one that fits, and
an object that stands by itself refers only to objects before it.
-/

namespace Folio

namespace Record

/-- The text of a record that stands by itself, where a stream may get more entries. -/
def draft? : Record → Option Body
  | .object value => some (.value value)
  | .stored entries _ data => some (.stream (.dict entries) data)
  | .deflated entries data => some (.stream (.dict entries) data)
  | _ => none

def links (record : Record) : List Link :=
  (record.draft?.map Body.links).getD []

/-- A record that fits a role. The page tree is made only at the end. -/
def Plays (role : Role) (record : Record) : Prop :=
  role ≠ .pageTree ∧ ∃ draft, record.draft? = some draft ∧ role.Fits draft

@[simp] theorem draft?_stream (compress : Bool) (entries : List Entry) (data : Bytes) :
    (stream compress entries data).draft? = some (.stream (.dict entries) data) := by
  cases compress with
  | false => rfl
  | true => rfl

@[simp] theorem links_object (value : Value) : (object value).links = value.links := rfl

@[simp] theorem links_stored (entries : List Entry) (filter : Option Name) (data : Bytes) :
    (stored entries filter data).links = (Value.dict entries).links := rfl

@[simp] theorem links_stream (compress : Bool) (entries : List Entry) (data : Bytes) :
    (stream compress entries data).links = (Value.dict entries).links := by
  rw [links, draft?_stream]
  rfl

theorem plays_object {role : Role} {value : Value} (fits : role.Fits (.value value))
    (other : role ≠ .pageTree) : (object value).Plays role :=
  ⟨other, _, rfl, fits⟩

theorem plays_stream {role : Role} {entries : List Entry} {data : Bytes} (compress : Bool)
    (fits : role.Fits (.stream (.dict entries) data)) (other : role ≠ .pageTree) :
    (stream compress entries data).Plays role :=
  ⟨other, _, draft?_stream _ _ _, fits⟩

end Record

namespace Store

def Offers (store : Store) (role : Role) (target : Ref) : Prop :=
  target.generation = 0 ∧ ∃ record, store.get? target = some record ∧ record.Plays role

def Linked (store : Store) : Prop :=
  ∀ (target : Ref) (record : Record), store.get? target = some record →
    Leads (fun role other => store.Offers role other ∧ other.number < target.number) record.links

variable {store after : Store} {role : Role} {target : Ref} {record : Record}

theorem Offers.number_le (offers : store.Offers role target) : target.number ≤ store.size := by
  obtain ⟨-, record, found, -⟩ := offers
  exact number_le_size found

theorem Offers.kept {allowed : Record → Prop} (offers : store.Offers role target)
    (adds : store.Adds allowed after) : after.Offers role target := by
  obtain ⟨generation, record, found, plays⟩ := offers
  exact ⟨generation, record, adds.kept found, plays⟩

theorem offers_allocate (plays : record.Plays role) :
    (store.allocate record).2.Offers role (.first (store.size + 1)) :=
  ⟨rfl, record, store.get?_allocate_new record, plays⟩

theorem Linked.allocate (linked : store.Linked) (leads : Leads store.Offers record.links) :
    (store.allocate record).2.Linked := by
  have adds : store.Adds (· = record) (store.allocate record).2 := store.adds_allocate rfl
  intro target held found
  rw [get?_allocate] at found
  split at found
  · next last =>
    cases found
    refine leads.mono fun offers => ⟨offers.kept adds, ?_⟩
    rw [last]
    exact Nat.lt_succ_of_le offers.number_le
  · exact (linked target held found).mono fun ⟨offers, before⟩ => ⟨offers.kept adds, before⟩

end Store

namespace Registry

variable {kind : Kind} {α : Type} {registry : Registry kind α}

def Each (registry : Registry kind α) (holds : α → Prop) : Prop :=
  ∀ (id : Id kind) (entry : α), registry.get? id = some entry → holds entry

theorem each_empty (holds : α → Prop) : (empty : Registry kind α).Each holds :=
  fun _ _ found => Option.noConfusion rfl (heq_of_eq found)

theorem Each.register {holds : α → Prop} (each : registry.Each holds) {entry : α}
    (new : holds entry) : (registry.register entry).2.Each holds := by
  intro id held found
  rw [get?_register] at found
  split at found
  · cases found
    exact new
  · exact each id held found

theorem Each.mono {holds wider : α → Prop} (each : registry.Each holds)
    (implies : ∀ {entry}, holds entry → wider entry) : registry.Each wider :=
  fun id entry found => implies (each id entry found)

theorem Each.mapM {holds : α → Prop} (each : registry.Each holds) {ids : List (Id kind)}
    {entries : List α} (found : ids.mapM registry.get = .ok entries) :
    ∀ entry ∈ entries, holds entry := by
  induction ids generalizing entries with
  | nil =>
      cases found
      exact List.forall_mem_nil _
  | cons id rest ih =>
      rw [List.mapM_cons] at found
      cases got : registry.get id with
      | error error =>
          rw [got] at found
          contradiction
      | ok first =>
          cases later : rest.mapM registry.get with
          | error error =>
              rw [got, later] at found
              contradiction
          | ok others =>
              rw [got, later] at found
              cases found
              exact List.forall_mem_cons.mpr ⟨each id first (get_eq_ok_iff.mp got), ih later⟩

end Registry

namespace Document

variable {doc : Document}

/-- Everything that the objects of a document may come to refer to is there, and fits. -/
structure Resolved (doc : Document) : Prop where
  linked : doc.store.Linked
  functions : doc.functions.Each (doc.store.Offers .function)
  shadings : doc.shadings.Each (doc.store.Offers .shading)
  forms : doc.forms.Each (doc.store.Offers .form)
  profiles : doc.colors.profiles.Each fun item =>
    doc.store.Offers .profile item.stream ∧ doc.store.Offers .colorSpace item.space
  labs : doc.colors.labs.Each (doc.store.Offers .colorSpace)
  separations : doc.colors.separations.Each fun item => doc.store.Offers .colorSpace item.space
  files : doc.files.Each fun file => doc.store.Offers (.typed "Filespec") file.filespec
  pages : doc.pages.Each fun page => doc.store.Offers .resources page.resources ∧
    doc.store.Offers .stream page.contents ∧ doc.store.Offers (.typed "Group") page.group
  pageGroup : ∀ group : Ref, doc.pageGroup = some group →
    doc.store.Offers (.typed "Group") group

theorem resolved_withConverter (options : DocumentOptions)
    (converter : Color → DeviceSpace → Color) : (withConverter options converter).Resolved where
  linked := by
    intro target record found
    rw [withConverter, withColors, Store.get?] at found
    split at found
    · contradiction
    · contradiction
  functions := Registry.each_empty _
  shadings := Registry.each_empty _
  forms := Registry.each_empty _
  profiles := Registry.each_empty _
  labs := Registry.each_empty _
  separations := Registry.each_empty _
  files := Registry.each_empty _
  pages := Registry.each_empty _
  pageGroup := fun _ held => Option.noConfusion rfl (heq_of_eq held)

theorem Resolved.withStore (resolved : doc.Resolved) {store : Store} {allowed : Record → Prop}
    (adds : doc.store.Adds allowed store) (linked : store.Linked) :
    Resolved { doc with store } where
  linked := linked
  functions := resolved.functions.mono (·.kept adds)
  shadings := resolved.shadings.mono (·.kept adds)
  forms := resolved.forms.mono (·.kept adds)
  profiles := resolved.profiles.mono fun ⟨stream, space⟩ => ⟨stream.kept adds, space.kept adds⟩
  labs := resolved.labs.mono (·.kept adds)
  separations := resolved.separations.mono (·.kept adds)
  files := resolved.files.mono (·.kept adds)
  pages := resolved.pages.mono fun ⟨resources, contents, group⟩ =>
    ⟨resources.kept adds, contents.kept adds, group.kept adds⟩
  pageGroup := fun group held => (resolved.pageGroup group held).kept adds

theorem Resolved.push (resolved : doc.Resolved) {record : Record}
    (leads : Leads doc.store.Offers record.links) : (doc.push record).Resolved :=
  have adds : doc.store.Adds (· = record) (doc.push record).store := doc.store.adds_allocate rfl
  resolved.withStore adds (resolved.linked.allocate leads)

theorem offers_push (doc : Document) {role : Role} {record : Record} (plays : record.Plays role) :
    (doc.push record).store.Offers role doc.nextRef :=
  Store.offers_allocate plays

theorem Resolved.pushObject (resolved : doc.Resolved) {value : Value}
    (leads : Leads doc.store.Offers value.links) : (doc.push (.object value)).Resolved :=
  resolved.push leads

theorem Resolved.pushLater (resolved : doc.Resolved) (record : Record)
    (later : record.draft? = none) : (doc.push record).Resolved := by
  refine resolved.push ?_
  rw [Record.links, later]
  exact leads_nil

theorem Resolved.pushStream (resolved : doc.Resolved) {entries : List Entry}
    (leads : Leads doc.store.Offers (Value.dict entries).links) (compress : Bool) (data : Bytes) :
    (doc.push (.stream compress entries data)).Resolved := by
  refine resolved.push ?_
  rw [Record.links_stream]
  exact leads

theorem offers_pushStream (doc : Document) {role : Role} {entries : List Entry} {data : Bytes}
    (compress : Bool) (fits : role.Fits (.stream (.dict entries) data))
    (other : role ≠ .pageTree) :
    (doc.push (.stream compress entries data)).store.Offers role doc.nextRef :=
  doc.offers_push (Record.plays_stream compress fits other)

theorem offers_push_of_offers {role : Role} {target : Ref} (record : Record)
    (offers : doc.store.Offers role target) : (doc.push record).store.Offers role target :=
  have adds : doc.store.Adds (· = record) (doc.push record).store := doc.store.adds_allocate rfl
  offers.kept adds

theorem Resolved.pushResources (resolved : doc.Resolved) (bytes : Bytes) :
    (doc.push (.object (Build.resourceValue bytes))).Resolved := by
  refine resolved.push ?_
  rw [Record.links_object, Build.resourceValue]
  split
  · exact leads_nil
  · exact leads_nil

theorem offers_pushResources (doc : Document) (bytes : Bytes) :
    (doc.push (.object (Build.resourceValue bytes))).store.Offers .resources doc.nextRef := by
  refine doc.offers_push (Record.plays_object ?_ nofun)
  rw [Build.resourceValue]
  split
  · exact .inl rfl
  · exact .inr ⟨bytes, rfl⟩

theorem Resolved.encoded (resolved : doc.Resolved) : doc.encoded.Resolved := by
  rw [Document.encoded]
  split
  · exact { resolved.pushStream (Dictionary.leads_encoding _ _) _ _ with }
  · exact resolved

theorem Resolved.withSubset (resolved : doc.Resolved) (key : SubsetKey) :
    (doc.withSubset key).Resolved := by
  have program := resolved.pushLater (.subset .program key) rfl
  have described := program.pushLater (.subset .descriptor key) rfl
  have mapped := described.pushLater (.subset .toUnicode key) rfl
  have descendant := mapped.pushLater (.subset .cidFont key) rfl
  exact descendant.pushLater _ rfl

theorem Resolved.withFont (resolved : doc.Resolved) (id : Id .font) (item : FontItem) :
    (doc.withFont id item).Resolved :=
  { resolved with }

theorem Resolved.withGlyph (resolved : doc.Resolved) (id : Id .font) (item : FontItem)
    (glyph : GlyphId) (char : Option Char) : (doc.withGlyph id item glyph char).Resolved := by
  rw [Document.withGlyph]
  split
  · exact (resolved.encoded.withSubset _).withFont id _
  · exact resolved.encoded.withFont id _

theorem Resolved.offers_profile (resolved : doc.Resolved) {id : Id .iccColorSpace} {target : Ref}
    (known : doc.colors.profileRef id = .ok target) : doc.store.Offers .colorSpace target := by
  rw [ColorSpaces.profileRef] at known
  obtain ⟨item, found, rfl⟩ := Registry.exists_get?_of_map_get known
  exact (resolved.profiles id item found).2

theorem Resolved.offers_profileStream (resolved : doc.Resolved) {id : Id .iccColorSpace}
    {target : Ref} (known : doc.colors.profileStream id = .ok target) :
    doc.store.Offers .profile target := by
  rw [ColorSpaces.profileStream] at known
  obtain ⟨item, found, rfl⟩ := Registry.exists_get?_of_map_get known
  exact (resolved.profiles id item found).1

theorem Resolved.offers_separation (resolved : doc.Resolved) {id : Id .separation} {target : Ref}
    (known : doc.colors.separationRef id = .ok target) : doc.store.Offers .colorSpace target := by
  rw [ColorSpaces.separationRef] at known
  obtain ⟨item, found, rfl⟩ := Registry.exists_get?_of_map_get known
  exact resolved.separations id item found

theorem Resolved.offers_intentProfile (resolved : doc.Resolved) {intent : OutputIntent}
    {profile : Option Ref} (known : doc.intentProfile intent = .ok profile) :
    ∀ target ∈ profile, doc.store.Offers .profile target := by
  intro target named
  cases chosen : intent.profile with
  | none =>
      simp only [intentProfile, chosen] at known
      cases known
      contradiction
  | some id =>
      simp only [intentProfile, chosen] at known
      cases stream : doc.colors.profileStream id with
      | error error =>
          rw [stream] at known
          contradiction
      | ok held =>
          rw [stream] at known
          cases known
          cases named
          exact resolved.offers_profileStream stream

theorem ne_ref_of_device (space : DeviceSpace) (target : Ref) : space.colorSpace ≠ .ref target := by
  cases space <;> nofun

theorem eq_of_map_ref {outcome : Except Error Ref} {space : Dictionary.ColorSpace} {target : Ref}
    (known : outcome.map .ref = .ok space) (referred : space = .ref target) :
    outcome = .ok target := by
  cases outcome with
  | error error => contradiction
  | ok other =>
      cases known
      cases referred
      rfl

theorem Resolved.offers_imageSpace (resolved : doc.Resolved) {image : RasterImage}
    {space : Dictionary.ColorSpace} (known : doc.imageSpace image = .ok space) {target : Ref}
    (referred : space = .ref target) : doc.store.Offers .colorSpace target := by
  rw [imageSpace] at known
  cases named : image.profile with
  | none =>
      rw [named] at known
      cases known
      exact absurd referred (ne_ref_of_device _ _)
  | some id =>
      rw [named] at known
      exact resolved.offers_profile (eq_of_map_ref known referred)

theorem Resolved.offers_shadingSpace (resolved : doc.Resolved) {source : ShadingSpace}
    {space : Dictionary.ColorSpace} (known : doc.shadingSpace source = .ok space) {target : Ref}
    (referred : space = .ref target) : doc.store.Offers .colorSpace target := by
  cases source with
  | device device =>
      cases known
      exact absurd referred (ne_ref_of_device _ _)
  | icc id => exact resolved.offers_profile (eq_of_map_ref known referred)
  | lab id =>
      exact resolved.labs id target (Registry.get_eq_ok_iff.mp (eq_of_map_ref known referred))
  | separation id => exact resolved.offers_separation (eq_of_map_ref known referred)

/-- A profile that is new comes with its stream and, after it, the space that names the stream. -/
theorem Resolved.loadProfile (resolved : doc.Resolved) {bytes : Bytes} {id : Id .iccColorSpace}
    {colors : ColorSpaces} {store : Store}
    (loaded : doc.colors.loadProfile doc.store bytes = .ok (id, colors, store)) :
    Resolved { doc with colors, store } := by
  rw [ColorSpaces.loadProfile, ColorSpaces.addProfile] at loaded
  split at loaded
  · cases loaded
    exact resolved
  · split at loaded
    · contradiction
    · next profile parsed =>
      cases loaded
      have streamed := resolved.pushStream
        (Dictionary.leads_profile profile.space.components profile.space) doc.colors.compress bytes
      have stream := doc.offers_pushStream doc.colors.compress
        (Dictionary.fits_profile profile.space.components (some profile.space.colorSpace) bytes)
        (by simp)
      have spaced := streamed.pushObject ((Dictionary.leads_iccBased_iff doc.nextRef).mpr stream)
      exact { spaced with
        profiles := spaced.profiles.register
          ⟨offers_push_of_offers _ stream,
            offers_push _ (Record.plays_object (Dictionary.ColorSpaceFamily.fits _) (by simp))⟩ }

theorem Resolved.addLab (resolved : doc.Resolved) (params : Dictionary.LabParams) :
    Resolved { doc with
      colors := (doc.colors.addLab doc.store params).2.1
      store := (doc.colors.addLab doc.store params).2.2 } :=
  have spaced := resolved.pushObject (Dictionary.leads_lab params)
  { spaced with
    labs := spaced.labs.register
      (offers_push _ (Record.plays_object (Dictionary.ColorSpaceFamily.fits _) nofun)) }

/-- The function that tints a colorant comes right before the space that names it. -/
theorem Resolved.addSeparation (resolved : doc.Resolved) (name : String) (fallback : Color) :
    Resolved { doc with
      colors := (doc.colors.addSeparation doc.store name fallback).2.1
      store := (doc.colors.addSeparation doc.store name fallback).2.2 } :=
  have tinted := resolved.pushObject
    ((Dictionary.Function.leads_iff (ColorSpaces.tint fallback)).mpr trivial)
  have tint : (doc.push (.object (ColorSpaces.tint fallback).value)).store.Offers .function
      doc.nextRef :=
    doc.offers_push (Record.plays_object (Dictionary.Function.fits _) nofun)
  have spaced := tinted.pushObject
    ((Dictionary.leads_separation_iff (Name.ofString name) fallback.space doc.nextRef).mpr tint)
  { spaced with
    separations := spaced.separations.register
      (offers_push _ (Record.plays_object (Dictionary.ColorSpaceFamily.fits _) nofun)) }

theorem Resolved.withImage (resolved : doc.Resolved) {record : Record}
    (leads : Leads doc.store.Offers record.links) : (doc.withImage record).Resolved :=
  { resolved.push leads with }

theorem Resolved.withAlpha (resolved : doc.Resolved) (image : RasterImage) :
    (doc.withAlpha image).Resolved := by
  rw [Document.withAlpha]
  cases image.alpha with
  | none => exact resolved
  | some alpha =>
      exact resolved.pushStream (Dictionary.leads_grayImage _ _ _) _ alpha

/-- The alpha channel of an image is an image of its own, right before it. -/
theorem offers_withAlpha {image : RasterImage} {space : Dictionary.ColorSpace} {mask : Ref}
    (masked : (doc.rasterHead image space).softMask = some mask) :
    (doc.withAlpha image).store.Offers .image mask := by
  rw [rasterHead] at masked
  rw [Document.withAlpha]
  cases layer : image.alpha with
  | none =>
      rw [layer] at masked
      contradiction
  | some alpha =>
      rw [layer] at masked
      cases masked
      exact doc.offers_pushStream _ (Dictionary.ImageHead.fits _ alpha) (by simp)

theorem Resolved.withRaster (resolved : doc.Resolved) {image : RasterImage}
    {space : Dictionary.ColorSpace} (known : doc.imageSpace image = .ok space) :
    ((doc.withAlpha image).withImage
      (.stream doc.options.compress (doc.rasterHead image space).entries image.data)).Resolved := by
  refine (resolved.withAlpha image).withImage ?_
  rw [Record.links_stream]
  refine (Dictionary.ImageHead.leads_iff _).mpr ⟨fun target referred => ?_, fun mask masked => ?_⟩
  · exact (resolved.offers_imageSpace known referred).kept (doc.adds_withAlpha image)
  · exact offers_withAlpha masked

theorem Resolved.leads_lowerFunction (resolved : doc.Resolved) {source : FunctionSource}
    {function : Dictionary.Function} (lowered : doc.lowerFunction source = .ok function) :
    Leads doc.store.Offers function.value.links := by
  rw [Dictionary.Function.leads_iff]
  cases source with
  | exponential domain c0 c1 n =>
      cases lowered
      trivial
  | stitching domain functions bounds encode =>
      rw [lowerFunction] at lowered
      cases found : functions.mapM doc.functions.get with
      | error error =>
          rw [found] at lowered
          contradiction
      | ok targets =>
          rw [found] at lowered
          cases lowered
          exact resolved.functions.mapM found

theorem Resolved.leads_lowerShading (resolved : doc.Resolved) {source : ShadingSource}
    {shading : Dictionary.Shading} (lowered : doc.lowerShading source = .ok shading) :
    Leads doc.store.Offers shading.value.links := by
  rw [Dictionary.Shading.leads_iff]
  rw [lowerShading] at lowered
  cases known : doc.shadingSpace source.space with
  | error error =>
      rw [known] at lowered
      contradiction
  | ok space =>
      cases got : doc.functions.get source.function with
      | error error =>
          rw [known, got] at lowered
          contradiction
      | ok function =>
          rw [known, got] at lowered
          cases lowered
          exact ⟨fun target => resolved.offers_shadingSpace known,
            resolved.functions _ _ (Registry.get_eq_ok_iff.mp got)⟩

theorem Resolved.withTiling (resolved : doc.Resolved) (cell : TilingSource) :
    (doc.withTiling cell).Resolved :=
  have resourced := resolved.pushResources cell.resources
  have leads := (Dictionary.TilingPattern.leads_iff (doc.tilingHead cell)).mpr
    (doc.offers_pushResources cell.resources)
  { resourced.pushStream leads doc.options.compress cell.contents with }

theorem Resolved.withFormResources (resolved : doc.Resolved) (source : FormSource) :
    (doc.withFormResources source).Resolved := by
  rw [Document.withFormResources]
  by_cases silent : source.resources.isEmpty
  · rw [if_pos silent]
    exact resolved
  · rw [if_neg silent]
    exact resolved.pushResources source.resources

theorem offers_withFormResources {source : FormSource} {target : Ref}
    (held : (doc.formHead source).resources = some target) :
    (doc.withFormResources source).store.Offers .resources target := by
  rw [formHead] at held
  rw [Document.withFormResources]
  by_cases silent : source.resources.isEmpty
  · rw [if_pos silent] at held
    contradiction
  · rw [if_neg silent] at held
    cases held
    rw [if_neg silent]
    exact doc.offers_pushResources source.resources

theorem Resolved.withForm (resolved : doc.Resolved) (source : FormSource) :
    (doc.withForm source).Resolved :=
  have resourced := resolved.withFormResources source
  have leads := (Dictionary.Form.leads_iff (doc.formHead source)).mpr
    fun _ held => offers_withFormResources held
  have formed := resourced.pushStream leads doc.options.compress source.contents
  { formed with
    forms := formed.forms.register (offers_pushStream _ _ (Dictionary.Form.fits _ _) nofun) }

/-- The filespec, not the stream of the file before it, is what others refer to. -/
theorem Resolved.withFile (resolved : doc.Resolved) (name : String) (data : Bytes)
    (mimeType : Option String) : (doc.withFile name data mimeType).Resolved :=
  have stored := resolved.pushStream
    (Dictionary.leads_embeddedFile data.length (mimeType.map Name.ofString))
    doc.options.compress data
  have file := doc.offers_pushStream doc.options.compress
    (Dictionary.fits_embeddedFile data.length (mimeType.map Name.ofString) data) nofun
  have specified := stored.pushObject
    ((Dictionary.Filespec.leads_iff ⟨textString name, doc.nextRef, none⟩).mpr file)
  { specified with
    files := specified.files.register
      (offers_push _ (Record.plays_object (Dictionary.Filespec.fits _) nofun)) }

theorem Resolved.offers_file (resolved : doc.Resolved) {id : Id .embeddedFile} {target : Ref}
    (known : doc.fileRef id = .ok target) : doc.store.Offers (.typed "Filespec") target := by
  rw [fileRef] at known
  obtain ⟨item, found, rfl⟩ := Registry.exists_get?_of_map_get known
  exact resolved.files id item found

theorem Resolved.grouped (resolved : doc.Resolved) :
    doc.grouped.Resolved ∧ doc.grouped.store.Offers (.typed "Group") doc.groupRef := by
  rw [Document.grouped, groupRef]
  cases held : doc.pageGroup with
  | some group =>
      have offers := resolved.pageGroup group held
      exact ⟨{ resolved with pageGroup := fun _ same => Option.some.inj same ▸ offers }, offers⟩
  | none =>
      have pushed := resolved.pushObject
        (Dictionary.leads_transparencyGroup doc.options.outputSpace)
      have offers := doc.offers_push (Record.plays_object
        (Dictionary.fits_transparencyGroup doc.options.outputSpace.colorSpace) (by simp))
      exact ⟨{ pushed with pageGroup := fun _ same => Option.some.inj same ▸ offers }, offers⟩

theorem offers_contents (doc : Document) (record : Record) (compress : Bool) (data : Bytes) :
    ((doc.push record).push (.stream compress [] data)).store.Offers .stream
      (.first (doc.store.size + 2)) := by
  have empty : Role.stream.Fits (.stream (.dict []) data) := trivial
  have offers := (doc.push record).offers_pushStream compress empty nofun
  rw [nextRef, show (doc.push record).store.size = doc.store.size + 1 from
    Store.size_allocate doc.store record] at offers
  exact offers

theorem Resolved.withPage (resolved : doc.Resolved) (source : PageSource) :
    (doc.withPage source).Resolved := by
  obtain ⟨grouped, group⟩ := resolved.grouped
  have resourced := grouped.pushResources source.resources
  have resources := doc.grouped.offers_pushResources source.resources
  have filled := resourced.pushStream Dictionary.leads_empty doc.options.compress source.contents
  have contents := doc.grouped.offers_contents (.object (Build.resourceValue source.resources))
    doc.options.compress source.contents
  have paged := filled.pushLater (.page doc.pages.nextId) rfl
  exact { paged with
    pages := paged.pages.register
      ⟨offers_push_of_offers _ (offers_push_of_offers _ resources),
        offers_push_of_offers _ contents,
        offers_push_of_offers _ (offers_push_of_offers _ (offers_push_of_offers _ group))⟩
    pageGroup := fun _ same => Option.some.inj same ▸
      offers_push_of_offers _ (offers_push_of_offers _ (offers_push_of_offers _ group)) }

theorem Resolved.effect (resolved : doc.Resolved) {product : Operation.Product} {answer : Answer}
    {after : Document} (effect : doc.Effect product answer after) : after.Resolved := by
  cases effect with
  | same => exact resolved
  | info info => exact { resolved with }
  | font face => exact { resolved with }
  | glyph id item glyph char found present => exact resolved.withGlyph id item glyph char
  | builtinFont font fresh =>
      exact { resolved.pushObject (Dictionary.leads_type1Font font.baseFont) with }
  | builtinFontAgain font id found => exact resolved
  | jpeg info data => exact resolved.withImage (Dictionary.leads_jpeg info)
  | bilevel image valid =>
      refine resolved.withImage ?_
      rw [Record.links_stream]
      exact Dictionary.leads_grayImage _ _ _
  | stencil image valid =>
      refine resolved.withImage ?_
      rw [Record.links_stream]
      exact Dictionary.leads_imageMask _ _
  | raster image space valid known => exact resolved.withRaster known
  | profile bytes id colors store loaded => exact resolved.loadProfile loaded
  | lab params => exact resolved.addLab params
  | separation name fallback => exact resolved.addSeparation name fallback
  | outputIntent intent known => exact { resolved with }
  | graphicsState state =>
      exact { resolved.pushObject (Dictionary.leads_graphicsState state) with }
  | function source function lowered =>
      have pushed := resolved.pushObject (resolved.leads_lowerFunction lowered)
      exact { pushed with
        functions := pushed.functions.register
          (doc.offers_push (Record.plays_object function.fits nofun)) }
  | shading source shading lowered =>
      have pushed := resolved.pushObject (resolved.leads_lowerShading lowered)
      exact { pushed with
        shadings := pushed.shadings.register
          (doc.offers_push (Record.plays_object shading.fits nofun)) }
  | shadingPattern shading target matrix found =>
      exact { resolved.pushObject ((Dictionary.leads_shadingPattern_iff target matrix).mpr
        (resolved.shadings shading target found)) with }
  | tiling cell => exact resolved.withTiling cell
  | form source => exact resolved.withForm source
  | file name data mimeType => exact resolved.withFile name data mimeType
  | annot rect kind color known => exact { resolved.pushLater _ rfl with }
  | checkbox checkbox known => exact { resolved.pushLater _ rfl with }
  | structureItem kind parent attributes known => exact { resolved.pushLater _ rfl with }
  | page source checked => exact resolved.withPage source
  | outlineItem item page known => exact { resolved with }

theorem Resolved.run (resolved : doc.Resolved) (operations : List Operation) :
    (doc.run operations).2.Resolved :=
  run_effect_induction (fun resolved effect => resolved.effect effect) resolved operations

end Document

end Folio
