import Folio.Proofs.EmbeddedFiles
import Folio.Proofs.FinishedFont
import Folio.Proofs.Resolved
import Folio.Proofs.StructureTree

/-!
What each object of a finished file refers to. An object that stands by itself is written as it is,
and the others draw on the document, which has an object for whatever they name.
-/

namespace Folio

theorem Value.entry?_append (entries more : List Entry) (key : Name) :
    Value.entry? (.dict (entries ++ more)) key =
      (Value.entry? (.dict entries) key).or (Value.entry? (.dict more) key) :=
  List.findSome?_append

/-- Entries without references that name no type do not change what a dictionary refers to. -/
theorem Value.links_append (entries : List Entry) {more : List Entry}
    (untyped : Value.entry? (.dict more) "Type" = none)
    (silent : ∀ path, Entry.linksFromAll path more = []) :
    (dict (entries ++ more)).links = (dict entries).links := by
  have family : (dict (entries ++ more)).family = (dict entries).family := by
    rw [Value.family, entry?_append, untyped, Option.or_none]
    rfl
  rw [links, links, family]
  simp [silent]

theorem Body.exists_ofStream (deflate : Bytes → Bytes) (compress : Bool) (entries : List Entry)
    (filter : Option Name) (data : Bytes) :
    ∃ more written, ofStream deflate compress entries filter data =
        .stream (.dict (entries ++ more)) written ∧
      Value.entry? (.dict more) "Type" = none ∧ ∀ path, Entry.linksFromAll path more = [] := by
  cases compress with
  | true =>
      refine ⟨_, _, rfl, ?_, fun path => ?_⟩
      · simp [Value.entry?]
      · simp
  | false =>
      refine ⟨_, _, congrArg (Body.stream · data) (congrArg Value.dict (List.append_assoc _ _ _)),
        ?_, fun path => ?_⟩
      · simp [Value.entry?]
      · simp

theorem Body.links_ofStream (deflate : Bytes → Bytes) (compress : Bool) (entries : List Entry)
    (filter : Option Name) (data : Bytes) :
    (ofStream deflate compress entries filter data).links = (Value.dict entries).links := by
  obtain ⟨more, written, spelled, untyped, silent⟩ :=
    exists_ofStream deflate compress entries filter data
  rw [spelled]
  exact Value.links_append entries untyped silent

theorem Role.fits_ofStream {role : Role} {entries : List Entry} {data : Bytes}
    (fits : role.Fits (.stream (.dict entries) data)) (deflate : Bytes → Bytes) (compress : Bool)
    (filter : Option Name) : role.Fits (.ofStream deflate compress entries filter data) := by
  obtain ⟨more, written, spelled, -⟩ :=
    Body.exists_ofStream deflate compress entries filter data
  rw [spelled]
  exact fits.append more written

theorem Body.unlayered_ofStream {entries : List Entry}
    (untyped : Value.entry? (.dict entries) "Type" = none) (deflate : Bytes → Bytes)
    (compress : Bool) (filter : Option Name) (data : Bytes) :
    (ofStream deflate compress entries filter data).Unlayered := by
  obtain ⟨more, written, spelled, untypedMore, -⟩ :=
    exists_ofStream deflate compress entries filter data
  have whole : Value.entry? (.dict (entries ++ more)) "Type" = none := by
    rw [Value.entry?_append, untyped, untypedMore]
    rfl
  rw [spelled]
  simp [Unlayered, Role.layered, whole]

namespace Body

theorem number_of_at? {bodies : List Body} {target : Ref} {body : Body}
    (place : at? bodies target = some body) :
    target.generation = 0 ∧ 1 ≤ target.number ∧ target.number ≤ bodies.length := by
  rw [at?] at place
  cases number : target.number with
  | zero =>
      rw [number] at place
      contradiction
  | succ index =>
      rw [number] at place
      obtain ⟨generation, held⟩ := Option.ite_none_right_eq_some.mp place
      obtain ⟨bound, -⟩ := List.getElem?_eq_some_iff.mp held
      exact ⟨generation, Nat.succ_pos index, bound⟩

theorem mem_of_at? {bodies : List Body} {target : Ref} {body : Body}
    (place : at? bodies target = some body) : body ∈ bodies := by
  rw [at?] at place
  split at place
  · contradiction
  · exact List.mem_of_getElem? (Option.ite_none_right_eq_some.mp place).2

theorem eq_first_of_at? {bodies : List Body} {target : Ref} {body : Body}
    (place : at? bodies target = some body) : target = .first target.number := by
  obtain ⟨number, generation⟩ := target
  cases (number_of_at? place).1
  rfl

end Body

namespace Document

/-- There is an object in a file that fits a role. Only the root of its page tree is called so. -/
structure Finds (roots : Roots) (bodies : List Body) (role : Role) (target : Ref) : Prop where
  fits : ∃ body, Body.at? bodies target = some body ∧ role.Fits body
  root : role = .pageTree → target = roots.pages

theorem Finds.widen {roots : Roots} {bodies : List Body} {role wider : Role} {target : Ref}
    (finds : Finds roots bodies role target)
    (implies : ∀ {body : Body}, role.Fits body → wider.Fits body) (other : wider ≠ .pageTree) :
    Finds roots bodies wider target := by
  obtain ⟨body, place, fits⟩ := finds.fits
  exact ⟨⟨body, place, implies fits⟩, fun same => absurd same other⟩

/-- What an object refers to is there, and comes before it if the object is in a layer. -/
structure Refers (roots : Roots) (bodies : List Body) (target : Ref) (body : Body) : Prop where
  leads : Leads (Finds roots bodies) body.links
  before : body.Unlayered ∨ ∀ link ∈ body.links, link.target.number < target.number

variable {doc closed : Document} {means : Means} {file : Bytes} {roots : Roots}
  {bodies : List Body} {deflate : Bytes → Bytes}

/-- What is written for a record that stands by itself, but for entries on data. -/
theorem lowered_of_draft {record : Record} {draft body : Body}
    (drafted : record.draft? = some draft) (lowered : doc.body roots deflate record = .ok body) :
    body.links = draft.links ∧ ∀ {role : Role}, role.Fits draft → role.Fits body := by
  cases record with
  | object value =>
      cases drafted
      cases lowered
      exact ⟨rfl, id⟩
  | stored entries filter data =>
      cases drafted
      cases lowered
      exact ⟨Body.links_ofStream _ _ _ _ _, fun fits => Role.fits_ofStream fits _ _ _⟩
  | deflated entries data =>
      cases drafted
      cases lowered
      exact ⟨Body.links_ofStream _ _ _ _ _, fun fits => Role.fits_ofStream fits _ _ _⟩
  | _ => contradiction

theorem FinishedAs.finds_of_plays (finished : doc.FinishedAs closed means file roots bodies)
    {role : Role} {target : Ref} {record : Record} (generation : target.generation = 0)
    (found : closed.store.get? target = some record) (plays : record.Plays role) :
    Finds roots bodies role target := by
  obtain ⟨other, draft, drafted, fits⟩ := plays
  obtain ⟨body, place, lowered⟩ := finished.body generation found
  exact ⟨⟨body, place, (lowered_of_draft drafted lowered).2 fits⟩, fun same => absurd same other⟩

theorem FinishedAs.finds_object (finished : doc.FinishedAs closed means file roots bodies)
    {role : Role} {target : Ref} {value : Value} (generation : target.generation = 0)
    (found : closed.store.get? target = some (.object value)) (fits : role.Fits (.value value))
    (other : role ≠ .pageTree) : Finds roots bodies role target :=
  finished.finds_of_plays generation found (Record.plays_object fits other)

theorem FinishedAs.finds_of_offers (finished : doc.FinishedAs closed means file roots bodies)
    {role : Role} {target : Ref} (offers : doc.store.Offers role target) :
    Finds roots bodies role target := by
  obtain ⟨generation, record, found, plays⟩ := offers
  exact finished.finds_of_plays generation (finished.closes.adds.kept found) plays

theorem FinishedAs.refers_of_draft (finished : doc.FinishedAs closed means file roots bodies)
    (resolved : doc.Resolved) {target : Ref} {record : Record} {draft body : Body}
    (found : doc.store.get? target = some record) (drafted : record.draft? = some draft)
    (lowered : doc.body roots means.deflate record = .ok body) :
    Refers roots bodies target body := by
  have links : record.links = body.links := by
    rw [Record.links, drafted, (lowered_of_draft drafted lowered).1]
    rfl
  have linked := resolved.linked target record found
  rw [links] at linked
  refine ⟨linked.mono fun held => finished.finds_of_offers held.1, .inr fun link member => ?_⟩
  obtain ⟨role, -, -, before⟩ := linked link member
  exact before

def partRole : SubsetPart → Role
  | .program => .fontProgram
  | .descriptor => .typed "FontDescriptor"
  | .toUnicode => .stream
  | .cidFont => .cidFont
  | .font => .typed "Font"

variable {key : SubsetKey} {part : SubsetPart} {subset : OpenSubset} {body : Body}

theorem exists_encoding_of_subsetBody (opened : doc.openSubset? key = .ok subset)
    (lowered : doc.subsetBody deflate .font key = .ok body) :
    ∃ encoding, doc.encoding = some encoding := by
  simp only [subsetBody, opened, type0Font, bind, Except.bind] at lowered
  cases shared : doc.encoding with
  | none =>
      rw [shared] at lowered
      contradiction
  | some encoding => exact ⟨encoding, rfl⟩

theorem fits_subsetBody (opened : doc.openSubset? key = .ok subset)
    (lowered : doc.subsetBody deflate part key = .ok body) :
    (partRole part).Fits body ∧ body.Unlayered := by
  cases part with
  | program =>
      obtain ⟨program, made⟩ := exists_program_of_subsetBody opened lowered
      rw [subsetBody_program opened made] at lowered
      cases lowered
      exact ⟨Role.fits_ofStream (Dictionary.fits_fontProgram _ _) _ _ _,
        Body.unlayered_ofStream (by simp [Dictionary.StreamHead.entries, Value.entry?]) _ _ _ _⟩
  | descriptor =>
      rw [subsetBody_descriptor opened] at lowered
      cases lowered
      exact Dictionary.FontDescriptor.fits _
  | toUnicode =>
      rw [subsetBody_toUnicode opened] at lowered
      cases lowered
      have stream (data : Bytes) : Role.stream.Fits (.stream (.dict []) data) := trivial
      exact ⟨Role.fits_ofStream (stream _) _ _ _, Body.unlayered_ofStream rfl _ _ _ _⟩
  | cidFont =>
      rw [subsetBody_cidFont opened] at lowered
      cases lowered
      exact Dictionary.CidFont.fits _
  | font =>
      obtain ⟨encoding, shared⟩ := exists_encoding_of_subsetBody opened lowered
      rw [subsetBody_font opened shared] at lowered
      cases lowered
      exact Dictionary.Type0Font.fits _

theorem leads_subsetBody {holds : Role → Ref → Prop} (opened : doc.openSubset? key = .ok subset)
    (lowered : doc.subsetBody deflate part key = .ok body)
    (parts : ∀ part, holds (partRole part) (subset.objects.ref part))
    (encoding : ∀ target, doc.encoding = some target → holds .encoding target) :
    Leads holds body.links := by
  cases part with
  | program =>
      obtain ⟨program, made⟩ := exists_program_of_subsetBody opened lowered
      rw [subsetBody_program opened made] at lowered
      cases lowered
      rw [Body.links_ofStream]
      exact Dictionary.leads_fontProgram _
  | descriptor =>
      rw [subsetBody_descriptor opened] at lowered
      cases lowered
      exact (Dictionary.FontDescriptor.leads_iff _).mpr fun target same =>
        Option.some.inj same ▸ parts .program
  | toUnicode =>
      rw [subsetBody_toUnicode opened] at lowered
      cases lowered
      rw [Body.links_ofStream]
      exact Dictionary.leads_empty
  | cidFont =>
      rw [subsetBody_cidFont opened] at lowered
      cases lowered
      exact (Dictionary.CidFont.leads_iff _).mpr (parts .descriptor)
  | font =>
      obtain ⟨target, shared⟩ := exists_encoding_of_subsetBody opened lowered
      rw [subsetBody_font opened shared] at lowered
      cases lowered
      exact (Dictionary.Type0Font.leads_iff _).mpr
        ⟨encoding target shared, parts .cidFont, parts .toUnicode⟩

theorem exists_openSubset {item : FontItem} {objects : SubsetObjects}
    (found : doc.fonts.get? key.font = some item)
    (held : item.subsets[key.subset]? = some objects)
    (lowered : doc.subsetBody deflate part key = .ok body) :
    ∃ glyphs, doc.openSubset? key = .ok ⟨item, glyphs, objects⟩ := by
  cases opened : item.slots.subset? key.subset with
  | some glyphs => exact ⟨glyphs, openSubset?_eq found opened held⟩
  | none =>
      have got := Registry.get_eq_ok_iff.mpr found
      simp only [subsetBody, openSubset?, got, opened, bind, Except.bind] at lowered
      contradiction

theorem FinishedAs.finds_encoding (finished : doc.FinishedAs closed means file roots bodies)
    (agree : doc.FontsAgree) {target : Ref} (shared : doc.encoding = some target) :
    Finds roots bodies .encoding target := by
  obtain ⟨generation, stored⟩ := agree.encoding shared
  exact finished.finds_of_plays generation (finished.closes.adds.kept stored)
    (Record.plays_stream _ (Dictionary.fits_encoding _ _ _) nofun)

theorem FinishedAs.refers_of_subset (finished : doc.FinishedAs closed means file roots bodies)
    (agree : doc.FontsAgree) {number : Nat}
    (stored : doc.store.get? (.first number) = some (.subset part key))
    (lowered : doc.body roots means.deflate (.subset part key) = .ok body) :
    Refers roots bodies (.first number) body := by
  obtain ⟨item, objects, found, held, -⟩ := agree.only stored
  obtain ⟨glyphs, opened⟩ := exists_openSubset found held lowered
  have parts (other : SubsetPart) : Finds roots bodies (partRole other) (objects.ref other) := by
    obtain ⟨body, place, loweredOther⟩ := finished.body (agree.generation_ref found held other)
      (finished.closes.adds.kept (agree.held found held other))
    exact ⟨⟨body, place, (fits_subsetBody opened loweredOther).1⟩, fun same => by
      cases other <;> contradiction⟩
  exact ⟨leads_subsetBody opened lowered parts fun target => finished.finds_encoding agree,
    .inl (fits_subsetBody opened lowered).2⟩

section Placed

variable (finished : doc.FinishedAs closed means file roots bodies) (sound : doc.Sound)
include finished

theorem FinishedAs.finds_pageTree : Finds roots bodies .pageTree roots.pages := by
  obtain ⟨body, place, lowered⟩ :=
    finished.body finished.closes.generation.1 finished.closes.pages
  cases lowered
  exact ⟨⟨_, place, (Dictionary.fits_pages _).1⟩, fun _ => rfl⟩

theorem FinishedAs.finds_entry {kind : Kind} {α : Type} {registry : Registry kind α}
    {object : α → Ref} {record : Id kind → Record}
    (represents : doc.store.Represents registry object record) {id : Id kind} {item : α}
    (found : registry.get? id = some item) {value : Value} {role : Role}
    (lowered : doc.body roots means.deflate (record id) = .ok (.value value))
    (fits : role.Fits (.value value)) (other : role ≠ .pageTree) :
    Finds roots bodies role (object item) := by
  obtain ⟨body, place, loweredAlso⟩ := finished.body (represents.generation found)
    (finished.closes.adds.kept (represents.held found))
  rw [lowered] at loweredAlso
  cases loweredAlso
  exact ⟨⟨_, place, fits⟩, fun same => absurd same other⟩

theorem FinishedAs.exists_structureRoot {id : Id .structureItem} {item : StructureItem}
    (found : doc.structureItems.get? id = some item) : ∃ root, roots.structure? = some root := by
  have isSome := finished.closes.structureIn.isSome
  rw [Registry.isEmpty_of_get? found] at isSome
  exact Option.isSome_iff_exists.mp isSome

theorem FinishedAs.finds_structureRoot {root : Ref} (tagged : roots.structure? = some root) :
    Finds roots bodies (.typed "StructTreeRoot") root := by
  have stored := finished.closes.structureIn.stored tagged
  obtain ⟨tree, -, -, held⟩ := stored.tree
  exact finished.finds_object (congrArg Ref.generation stored.first) held
    (Dictionary.StructTreeRoot.fits _).1 nofun

theorem FinishedAs.leads_annotationBody (resolved : doc.Resolved) {kind : AnnotationKind}
    {body : Dictionary.AnnotationBody} (made : doc.annotationBody kind = .ok body) :
    body.Leads (Finds roots bodies) := by
  cases kind with
  | text contents isOpen =>
      cases made
      trivial
  | link uri =>
      cases made
      trivial
  | fileAttachment file description =>
      rw [annotationBody] at made
      cases got : doc.fileRef file with
      | error error =>
          rw [got] at made
          contradiction
      | ok filespec =>
          rw [got] at made
          cases made
          exact finished.finds_of_offers (resolved.offers_file got)

include sound

theorem FinishedAs.finds_page {id : Id .page} {page : PageItem}
    (found : doc.pages.get? id = some page) : Finds roots bodies (.typed "Page") page.object :=
  finished.finds_entry sound.pages found (sound.body_page means.deflate found)
    (Dictionary.Page.fits _).1 nofun

theorem FinishedAs.finds_widget {id : Id .formWidget} {item : CheckboxItem}
    (found : doc.widgets.get? id = some item) :
    Finds roots bodies (.typed "Annot") item.object ∧ Finds roots bodies .widget item.object := by
  obtain ⟨entry, on, off, lowered, -, field, -⟩ := sound.body_checkbox means.deflate found
  exact ⟨finished.finds_entry sound.widgets found lowered (Dictionary.Annot.fits _).1 nofun,
    finished.finds_entry sound.widgets found lowered (Dictionary.fits_widget _ field) nofun⟩

theorem FinishedAs.finds_annot {id : Id .annot} {item : AnnotationItem}
    (found : doc.annotations.get? id = some item) :
    Finds roots bodies (.typed "Annot") item.object := by
  obtain ⟨entry, lowered, -⟩ := sound.body_annot means.deflate found
  exact finished.finds_entry sound.annotations found lowered (Dictionary.Annot.fits _).1 nofun

theorem FinishedAs.finds_element {id : Id .structureItem} {item : StructureItem}
    (found : doc.structureItems.get? id = some item) :
    Finds roots bodies (.typed "StructElem") item.object := by
  obtain ⟨root, tagged⟩ := finished.exists_structureRoot found
  obtain ⟨entry, lowered, -⟩ := sound.body_structureItem means.deflate tagged found
  exact finished.finds_entry sound.structureItems found lowered
    (Dictionary.StructElement.fits _).1 nofun

theorem FinishedAs.finds_structureAbove {root above : Ref}
    (tagged : roots.structure? = some root) {item : StructureItem}
    (spelled : doc.structureAbove? root item = some above) :
    Finds roots bodies .structureParent above := by
  rw [structureAbove?] at spelled
  cases below : item.parent with
  | none =>
      rw [below] at spelled
      cases spelled
      exact (finished.finds_structureRoot tagged).widen (fun fits => ⟨fits.1, .inr fits.2⟩)
        (by simp)
  | some parent =>
      rw [below] at spelled
      obtain ⟨held, found, rfl⟩ := Option.map_eq_some_iff.mp spelled
      exact (finished.finds_element sound found).widen (fun fits => ⟨fits.1, .inl fits.2⟩)
        (by simp)

theorem FinishedAs.finds_elementsBelow {parent : Option (Id .structureItem)} {target : Ref}
    (listed : target ∈ doc.elementsBelow parent) :
    Finds roots bodies (.typed "StructElem") target := by
  obtain ⟨id, item, found, -, rfl⟩ := mem_elementsBelow_iff.mp listed
  exact finished.finds_element sound found

theorem FinishedAs.finds_placeOf {kind : Kind} {placement : Placement kind} {id : Id kind}
    {target : Ref} (placed : doc.placeOf? placement id = some target) :
    Finds roots bodies (.typed "Page") target := by
  obtain ⟨page, -, place⟩ := Option.bind_eq_some_iff.mp placed
  obtain ⟨item, found, rfl⟩ := Option.map_eq_some_iff.mp place
  exact finished.finds_page sound found

theorem FinishedAs.refers_of_page (resolved : doc.Resolved) {number : Nat} {id : Id .page}
    (stored : doc.store.get? (.first number) = some (.page id))
    (lowered : doc.body roots means.deflate (.page id) = .ok body) :
    Refers roots bodies (.first number) body := by
  obtain ⟨page, found, -⟩ := sound.pages.only stored
  rw [sound.body_page means.deflate found] at lowered
  cases lowered
  obtain ⟨resources, contents, group⟩ := resolved.pages id page found
  refine ⟨(Dictionary.Page.leads_iff _).mpr ⟨finished.finds_pageTree,
    finished.finds_of_offers resources, finished.finds_of_offers contents,
    finished.finds_of_offers group, fun target listed => ?_⟩, .inl (Dictionary.Page.fits _).2⟩
  rcases List.mem_append.mp listed with widget | annotation
  · obtain ⟨other, -, item, foundItem, rfl⟩ := Registry.mem_targets_iff.mp widget
    exact (finished.finds_widget sound foundItem).1
  · obtain ⟨other, -, item, foundItem, rfl⟩ := Registry.mem_targets_iff.mp annotation
    exact finished.finds_annot sound foundItem

theorem FinishedAs.refers_of_checkbox (resolved : doc.Resolved) {number : Nat}
    {id : Id .formWidget} (stored : doc.store.get? (.first number) = some (.checkbox id))
    (lowered : doc.body roots means.deflate (.checkbox id) = .ok body) :
    Refers roots bodies (.first number) body := by
  obtain ⟨item, found, -⟩ := sound.widgets.only stored
  obtain ⟨entry, on, off, spelled, placed, field, shownOn, shownOff⟩ :=
    sound.body_checkbox means.deflate found
  rw [spelled] at lowered
  cases lowered
  refine ⟨(Dictionary.Annot.leads_iff entry).mpr ⟨?_, fun page named => ?_⟩,
    .inl (Dictionary.Annot.fits entry).2⟩
  · rw [field]
    exact ⟨finished.finds_of_offers (resolved.forms _ _ shownOn),
      finished.finds_of_offers (resolved.forms _ _ shownOff)⟩
  · exact finished.finds_placeOf sound (placed.symm.trans named)

theorem FinishedAs.refers_of_annot (resolved : doc.Resolved) {number : Nat} {id : Id .annot}
    (stored : doc.store.get? (.first number) = some (.annot id))
    (lowered : doc.body roots means.deflate (.annot id) = .ok body) :
    Refers roots bodies (.first number) body := by
  obtain ⟨item, found, -⟩ := sound.annotations.only stored
  obtain ⟨entry, spelled, placed, made⟩ := sound.body_annot means.deflate found
  rw [spelled] at lowered
  cases lowered
  refine ⟨(Dictionary.Annot.leads_iff entry).mpr ⟨?_, fun page named => ?_⟩,
    .inl (Dictionary.Annot.fits entry).2⟩
  · exact finished.leads_annotationBody resolved made
  · exact finished.finds_placeOf sound (placed.symm.trans named)

theorem FinishedAs.refers_of_structureItem {number : Nat} {id : Id .structureItem}
    (stored : doc.store.get? (.first number) = some (.structureItem id))
    (lowered : doc.body roots means.deflate (.structureItem id) = .ok body) :
    Refers roots bodies (.first number) body := by
  obtain ⟨item, found, -⟩ := sound.structureItems.only stored
  obtain ⟨root, tagged⟩ := finished.exists_structureRoot found
  obtain ⟨entry, spelled, above, placed, kids⟩ :=
    sound.body_structureItem means.deflate tagged found
  rw [spelled] at lowered
  cases lowered
  refine ⟨(Dictionary.StructElement.leads_iff entry).mpr ⟨?_, fun page named => ?_, ?_⟩,
    .inl (Dictionary.StructElement.fits entry).2⟩
  · exact finished.finds_structureAbove sound tagged above
  · exact finished.finds_placeOf sound (placed.symm.trans named)
  · rw [kids]
    intro kid listed
    rcases List.mem_append.mp listed with element | content
    · obtain ⟨target, below, rfl⟩ := List.mem_map.mp element
      exact finished.finds_elementsBelow sound below
    · obtain ⟨mark, -, rfl⟩ := List.mem_map.mp content
      trivial

end Placed

section Completing

variable (finished : doc.FinishedAs closed means file roots bodies) (sound : doc.Sound)
  {record : Record} {target root : Ref}
include finished

theorem FinishedAs.finds_outline (stored : doc.OutlineStored closed.store root) :
    Finds roots bodies (.typed "Outlines") root := by
  obtain ⟨first, last, -, -, held⟩ := stored.ends
  exact finished.finds_object (congrArg Ref.generation stored.first) held
    (Dictionary.Outline.fits _).1 nofun

theorem FinishedAs.finds_outlineItem (stored : doc.OutlineStored closed.store root)
    {id : Id .outline} {item : OutlineItem} (found : doc.outline.get? id = some item) :
    Finds roots bodies .outlineItem (outlineRef root id) := by
  obtain ⟨entry, -, held⟩ := stored.item found
  exact finished.finds_object rfl held (Dictionary.OutlineItem.fits entry).1 nofun

theorem FinishedAs.finds_outlineChild (stored : doc.OutlineStored closed.store root)
    {id : Id .outline} {parent : Option (Id .outline)} (listed : id ∈ doc.outlineChildren parent) :
    Finds roots bodies .outlineItem (outlineRef root id) := by
  obtain ⟨item, found, -⟩ := mem_outlineChildren_iff.mp listed
  exact finished.finds_outlineItem stored found

theorem FinishedAs.finds_outlineNear (stored : doc.OutlineStored closed.store root)
    {near : Option (Id .outline)} {parent : Option (Id .outline)}
    (listed : ∀ id ∈ near, id ∈ doc.outlineChildren parent) :
    ∀ target ∈ near.map (outlineRef root), Finds roots bodies .outlineItem target := by
  intro target member
  obtain ⟨id, held, rfl⟩ := Option.map_eq_some_iff.mp member
  exact finished.finds_outlineChild stored (listed id held)

theorem FinishedAs.refers_of_intent (resolved : doc.Resolved) (object : doc.IntentObject record)
    (lowered : doc.body roots means.deflate record = .ok body) :
    Refers roots bodies target body := by
  cases object with
  | @intent intent profile held known =>
    cases lowered
    exact ⟨(Dictionary.OutputIntent.leads_iff _).mpr fun stream named =>
        finished.finds_of_offers (resolved.offers_intentProfile known stream named),
      .inl (Dictionary.OutputIntent.fits _).2⟩

theorem FinishedAs.refers_of_fileTree (resolved : doc.Resolved) :
    Refers roots bodies target (.value (doc.fileTree.value Value.ref)) := by
  refine ⟨(Dictionary.leads_fileTree_iff _).mpr fun filespec listed => ?_,
    .inl (Dictionary.fits_fileTree _).2⟩
  rw [fileTree_eq] at listed
  obtain ⟨pair, member, rfl⟩ := List.mem_map.mp listed
  have specified : pair.2 ∈ doc.filespecs := (List.of_mem_zip (mem_zip_of_mem_listedFiles member)).2
  obtain ⟨⟨id, item⟩, registered, same⟩ := List.mem_map.mp specified
  rw [← same]
  exact finished.finds_of_offers (resolved.files id item (Registry.mem_toList_iff.mp registered))

include sound

theorem FinishedAs.finds_outlineParent (stored : doc.OutlineStored closed.store root)
    {id : Id .outline} {item : OutlineItem} (found : doc.outline.get? id = some item) :
    Finds roots bodies .outlineParent ((item.parent.map (outlineRef root)).getD root) := by
  cases below : item.parent with
  | none =>
      exact (finished.finds_outline stored).widen (fun fits => ⟨fits.1, .inr fits.2⟩) nofun
  | some parent =>
      have before := sound.outlineParents found below
      have inside : id.index < doc.outline.size :=
        of_decide_eq_true (Registry.contains_of_get? found)
      obtain ⟨held, foundParent⟩ := Registry.exists_get?_of_contains
        (decide_eq_true (Nat.lt_trans before inside))
      exact (finished.finds_outlineItem stored foundParent).widen
        (fun fits => ⟨fits.1, .inl fits.2⟩) nofun

theorem FinishedAs.refers_of_outline {outline : Option Ref}
    (outlineIn : doc.OutlineIn outline closed.store) (object : doc.OutlineObject outline record)
    (lowered : doc.body roots means.deflate record = .ok body) :
    Refers roots bodies target body := by
  cases object with
  | root rooted head final =>
      have stored := outlineIn.stored rooted
      cases lowered
      exact ⟨(Dictionary.Outline.leads_iff _).mpr
        ⟨finished.finds_outlineChild stored (List.mem_of_mem_head? head),
          finished.finds_outlineChild stored (List.mem_of_getLast? final)⟩,
        .inl (Dictionary.Outline.fits _).2⟩
  | @item root id item entry rooted found made =>
      have stored := outlineIn.stored rooted
      obtain ⟨page, known⟩ := Registry.exists_get?_of_contains (sound.outlinePages found)
      have got := Registry.get_eq_ok_iff.mpr known
      simp only [outlineEntry, pageRef, got, Except.map, bind, Except.bind, pure,
        Except.pure] at made
      have spelled := (Except.ok.inj made).symm
      cases lowered
      refine ⟨(Dictionary.OutlineItem.leads_iff entry).mpr ?_,
        .inl (Dictionary.OutlineItem.fits entry).2⟩
      rw [spelled]
      exact ⟨finished.finds_outlineParent sound stored found,
        finished.finds_outlineNear stored fun _ last =>
          (List.mem_filter.mp (List.mem_of_getLast? last)).1,
        finished.finds_outlineNear stored fun _ first =>
          (List.mem_filter.mp (List.mem_of_mem_head? first)).1,
        finished.finds_outlineNear stored fun _ first => List.mem_of_mem_head? first,
        finished.finds_outlineNear stored fun _ last => List.mem_of_getLast? last,
        finished.finds_page sound known⟩

theorem FinishedAs.refers_of_structureTree
    (object : doc.StructureObject roots.structure? record)
    (lowered : doc.body roots means.deflate record = .ok body) :
    Refers roots bodies target body := by
  cases object with
  | root rooted made =>
      cases lowered
      have stored := finished.closes.structureIn.stored rooted
      obtain ⟨tree, -, heldTree, -⟩ := stored.tree
      refine ⟨(Dictionary.StructTreeRoot.leads_iff _).mpr ⟨fun kid listed => ?_,
        finished.finds_object rfl heldTree (Dictionary.fits_parentTree tree).1 nofun⟩,
        .inl (Dictionary.StructTreeRoot.fits _).2⟩
      rw [topStructureItems_eq] at listed
      exact finished.finds_elementsBelow sound listed
  | @tree tree made =>
      cases lowered
      refine ⟨(Dictionary.leads_parentTree_iff tree).mpr fun pair listed target member => ?_,
        .inl (Dictionary.fits_parentTree tree).2⟩
      rw [sound.parentTree_eq] at made
      cases made
      obtain ⟨entry, -, held⟩ := List.mem_filterMap.mp listed
      obtain ⟨key, -, rfl⟩ := Option.map_eq_some_iff.mp held
      obtain ⟨id, -, item, found, rfl⟩ := Registry.mem_targets_iff.mp member
      exact finished.finds_element sound found

theorem FinishedAs.finds_placedField (listed : target ∈ doc.placedFields) :
    Finds roots bodies .widget target := by
  obtain ⟨⟨id, item⟩, placed, rfl⟩ := List.mem_map.mp listed
  exact (finished.finds_widget sound (Registry.mem_toList_iff.mp (List.mem_filter.mp placed).1)).2

theorem FinishedAs.refers_of_catalog {outline names : Option Ref} {intents : List Ref}
    (outlineIn : doc.OutlineIn outline closed.store) (namesIn : doc.NamesIn names closed.store)
    (intentsIn : IntentsIn intents closed.store) :
    Refers roots bodies target (.value (doc.catalogOf roots outline names intents).value) := by
  refine ⟨(Dictionary.Catalog.leads_iff _).mpr ⟨finished.finds_pageTree,
    fun root rooted => finished.finds_outline (outlineIn.stored rooted),
    fun root tagged => finished.finds_structureRoot tagged, fun held named tree same => ?_,
    fun fields shown field listed => ?_, fun intent listed => ?_⟩,
    .inl (Dictionary.Catalog.fits _).2⟩
  · obtain ⟨other, known, rfl⟩ := Option.map_eq_some_iff.mp named
    cases same
    obtain ⟨generation, stored⟩ := namesIn.stored known
    exact finished.finds_object generation stored (Dictionary.fits_fileTree _).1 nofun
  · cases (Option.ite_none_left_eq_some.mp shown).2
    exact finished.finds_placedField sound listed
  · obtain ⟨generation, entry, stored⟩ := intentsIn intent listed
    exact finished.finds_object generation stored (Dictionary.OutputIntent.fits entry).1 nofun

theorem FinishedAs.refers_of_completing (resolved : doc.Resolved) {outline names : Option Ref}
    {intents : List Ref} (outlineIn : doc.OutlineIn outline closed.store)
    (namesIn : doc.NamesIn names closed.store) (intentsIn : IntentsIn intents closed.store)
    (completing : doc.Completing roots outline names intents record)
    (lowered : doc.body roots means.deflate record = .ok body) :
    Refers roots bodies target body := by
  cases completing with
  | pages =>
      cases lowered
      refine ⟨(Dictionary.leads_pages_iff _).mpr fun kid listed => ?_,
        .inl (Dictionary.fits_pages _).2⟩
      obtain ⟨⟨id, page⟩, registered, rfl⟩ := List.mem_map.mp listed
      exact finished.finds_page sound (Registry.mem_toList_iff.mp registered)
  | outline object => exact finished.refers_of_outline sound outlineIn object lowered
  | structureTree object => exact finished.refers_of_structureTree sound object lowered
  | names =>
      cases lowered
      exact finished.refers_of_fileTree resolved
  | intent object => exact finished.refers_of_intent resolved object lowered
  | info =>
      cases lowered
      exact ⟨Dictionary.leads_info doc.info, .inl (Dictionary.unlayered_info doc.info)⟩
  | catalog =>
      cases lowered
      exact finished.refers_of_catalog sound outlineIn namesIn intentsIn

end Completing

theorem FinishedAs.refers (finished : doc.FinishedAs closed means file roots bodies)
    (sound : doc.Sound) (agree : doc.FontsAgree) (resolved : doc.Resolved) {target : Ref}
    (place : Body.at? bodies target = some body) : Refers roots bodies target body := by
  obtain ⟨record, found, lowered⟩ := finished.record place
  obtain ⟨outline, names, intents, outlineIn, namesIn, intentsIn, origin⟩ := finished.closes.whole
  have spelled : target = .first target.number := Body.eq_first_of_at? place
  rcases origin found with stored | completing
  -- Either the record was there before the document was closed, and tells by its kind what it is
  -- written from, or closing it added the record.
  · cases record with
    | reserved => exact absurd stored sound.complete
    | object value => exact finished.refers_of_draft resolved stored rfl lowered
    | stored entries filter data => exact finished.refers_of_draft resolved stored rfl lowered
    | deflated entries data => exact finished.refers_of_draft resolved stored rfl lowered
    | subset part key =>
        rw [spelled] at stored ⊢
        exact finished.refers_of_subset agree stored lowered
    | page id =>
        rw [spelled] at stored ⊢
        exact finished.refers_of_page sound resolved stored lowered
    | checkbox id =>
        rw [spelled] at stored ⊢
        exact finished.refers_of_checkbox sound resolved stored lowered
    | annot id =>
        rw [spelled] at stored ⊢
        exact finished.refers_of_annot sound resolved stored lowered
    | structureItem id =>
        rw [spelled] at stored ⊢
        exact finished.refers_of_structureItem sound stored lowered
  · exact finished.refers_of_completing sound resolved outlineIn namesIn intentsIn completing
      lowered

end Document

end Folio
