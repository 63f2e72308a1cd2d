import Folio.Proofs.GlyphRequests
import Folio.Proofs.Lowered
import Folio.Proofs.SharedRecords
import Folio.Proofs.SlotTables
import Mathlib.Logic.ExistsUnique

/-!
When a document has its shared objects: as soon as an operation succeeded that needs one, and then
one for all. What asks for them again leaves the document as it is.
-/

namespace Folio

/-- There is one such object if there is a reason for it, and none otherwise. -/
structure Store.OneIff (store : Store) (sort : SharedObject) (reason : Prop) : Prop where
  one : reason → ∃! number, store.Shows (.first number) sort
  none : ¬reason → ∀ target, ¬store.Shows target sort

namespace Document

variable {doc after : Document}

def Succeeds (doc : Document) (operations : List Operation) (sort : Operation → Prop) : Prop :=
  ∃ operation answer, (operation, .ok answer) ∈ operations.zip (doc.run operations).1 ∧
    sort operation

theorem exists_apply_of_mem_zip {operations : List Operation} {operation : Operation}
    {outcome : Except Error Answer}
    (member : (operation, outcome) ∈ operations.zip (doc.run operations).1) :
    ∃ before : Document, outcome = (before.apply operation).1 := by
  induction operations generalizing doc with
  | nil => cases member
  | cons first rest ih =>
      have member : (operation, outcome) ∈
          (first, (doc.apply first).1) :: rest.zip ((doc.apply first).2.run rest).1 := member
      rcases List.mem_cons.mp member with same | member
      · cases same
        exact ⟨doc, rfl⟩
      · exact ih member

/-- What certain outcomes bring about, and nothing else, is so after a run in which they occur. -/
theorem run_iff_of_apply {known : Document → Prop}
    {tells : Operation × Except Error Answer → Prop}
    (step : ∀ (doc : Document) (operation : Operation), known (doc.apply operation).2 ↔
      known doc ∨ tells (operation, (doc.apply operation).1))
    (doc : Document) (operations : List Operation) :
    known (doc.run operations).2 ↔
      known doc ∨ ∃ entry ∈ operations.zip (doc.run operations).1, tells entry := by
  induction operations generalizing doc with
  | nil =>
      refine ⟨.inl, ?_⟩
      rintro (before | ⟨entry, member, -⟩)
      · exact before
      · cases member
  | cons operation rest ih =>
      have later := ih (doc.apply operation).2
      rw [step, or_assoc] at later
      refine later.trans (or_congr_right ?_)
      show _ ↔ ∃ entry ∈ (operation, (doc.apply operation).1) ::
        rest.zip ((doc.apply operation).2.run rest).1, tells entry
      simp only [List.mem_cons, exists_eq_or_imp]

theorem run_iff_of_effect {known : Document → Prop} {sort : Operation.Product → Prop}
    (step : ∀ {doc after : Document} {product : Operation.Product} {answer : Answer},
      doc.Effect product answer after → (known after ↔ known doc ∨ sort product))
    (doc : Document) (operations : List Operation) :
    known (doc.run operations).2 ↔
      known doc ∨ doc.Succeeds operations fun operation => sort operation.product := by
  have applied (doc : Document) (operation : Operation) : known (doc.apply operation).2 ↔
      known doc ∨ sort operation.product ∧ ∃ answer, (doc.apply operation).1 = .ok answer := by
    rcases doc.effect_apply operation with ⟨error, failed⟩ | ⟨answer, after, done, effect⟩
    · rw [failed]
      refine (or_iff_left ?_).symm
      rintro ⟨-, answer, same⟩
      contradiction
    · rw [done, step effect]
      exact or_congr_right (and_iff_left ⟨answer, rfl⟩).symm
  refine (@run_iff_of_apply known
    (fun entry => sort entry.1.product ∧ ∃ answer, entry.2 = .ok answer)
    applied doc operations).trans (or_congr_right ?_)
  constructor
  · rintro ⟨⟨operation, outcome⟩, member, fits, answer, same⟩
    cases same
    exact ⟨operation, answer, member, fits⟩
  · rintro ⟨operation, answer, member, fits⟩
    exact ⟨(operation, .ok answer), member, fits, answer, rfl⟩

theorem pageGroup_of_effect {product : Operation.Product} {answer : Answer}
    (effect : doc.Effect product answer after) :
    after.pageGroup.isSome ↔ doc.pageGroup.isSome ∨ product = .id .page := by
  cases effect with
  | page source checked => exact iff_of_true rfl (.inr rfl)
  | glyph id item glyph char found present =>
      obtain ⟨store, fonts, encoding, same⟩ := doc.onlyFonts_withGlyph id item glyph char
      rw [same]
      exact (or_iff_left (by simp)).symm
  | _ => exact (or_iff_left (by simp)).symm

theorem isSome_encoding_withGlyph (doc : Document) (id : Id .font) (item : FontItem)
    (glyph : GlyphId) (char : Option Char) :
    (doc.withGlyph id item glyph char).encoding.isSome := by
  have present := Option.isSome_iff_ne_none.mpr doc.encoding_encoded
  rw [withGlyph]
  split
  · exact present
  · exact present

theorem encoding_of_effect {product : Operation.Product} {answer : Answer}
    (effect : doc.Effect product answer after) :
    after.encoding.isSome ↔ doc.encoding.isSome ∨ ∃ font, product = .slot font := by
  cases effect with
  | glyph id item glyph char found present =>
      exact iff_of_true (doc.isSome_encoding_withGlyph id item glyph char) (.inr ⟨id, rfl⟩)
  | _ => exact (or_iff_left (by simp)).symm

def HasGlyph (doc : Document) : Prop :=
  ∃ font item, doc.fonts.get? font = some item ∧ item.slots.glyphs ≠ []

theorem hasGlyph_withGlyph {id : Id .font} {item : FontItem} (found : doc.fonts.get? id = some item)
    (glyph : GlyphId) (char : Option Char) : (doc.withGlyph id item glyph char).HasGlyph := by
  obtain ⟨added, fonts⟩ := exists_get?_withGlyph found glyph char
  obtain ⟨place, -, taken⟩ := item.slots.exists_place_of_assign glyph char
  refine ⟨id, _, (fonts id).trans (if_pos rfl), fun empty => ?_⟩
  have empty : (item.slots.assign glyph char).2.2.glyphs = [] := empty
  rw [empty] at taken
  contradiction

theorem hasGlyph_addFont (doc : Document) (face : Face) :
    HasGlyph { doc with fonts := (doc.fonts.register
      ⟨face, .ofCapacity doc.options.subsetCapacity, []⟩).2 } ↔ doc.HasGlyph := by
  constructor
  · rintro ⟨font, item, found, glyphs⟩
    rw [Registry.get?_register] at found
    split at found
    · cases found
      exact absurd rfl glyphs
    · exact ⟨font, item, found, glyphs⟩
  · rintro ⟨font, item, found, glyphs⟩
    refine ⟨font, item, ?_, glyphs⟩
    rw [Registry.get?_register_old _ _ (Registry.contains_of_get? found)]
    exact found

theorem hasGlyph_of_effect {product : Operation.Product} {answer : Answer}
    (effect : doc.Effect product answer after) :
    after.HasGlyph ↔ doc.HasGlyph ∨ ∃ font, product = .slot font := by
  cases effect with
  | glyph id item glyph char found present =>
      exact iff_of_true (hasGlyph_withGlyph found glyph char) (.inr ⟨id, rfl⟩)
  | font face => exact (doc.hasGlyph_addFont face).trans (or_iff_left (by simp)).symm
  | _ => exact (or_iff_left (by simp)).symm

def PagesShare (doc : Document) : Prop :=
  ∀ id item, doc.pages.get? id = some item → doc.pageGroup = some item.group

theorem Change.pagesShare (change : doc.Change after) (share : doc.PagesShare) :
    after.PagesShare := by
  cases change with
  | plain plain =>
      rw [plain.same]
      exact share
  | glyph id item glyph char found =>
      obtain ⟨store, fonts, encoding, same⟩ := doc.onlyFonts_withGlyph id item glyph char
      rw [same]
      exact share
  | page source checked =>
      intro id item found
      have found : (doc.pages.register (doc.pageItem source)).2.get? id = some item := found
      rw [Registry.get?_register] at found
      split at found
      · cases found
        rfl
      · show some doc.groupRef = _
        rw [groupRef, share id item found]
        rfl
  | _ => exact share

theorem pagesShare_run (options : DocumentOptions) (converter : Color → DeviceSpace → Color)
    (operations : List Operation) :
    ((withConverter options converter).run operations).2.PagesShare :=
  have start : (withConverter options converter).PagesShare := fun _ _ found => by contradiction
  run_change_induction (fun share change => change.pagesShare share) start operations

theorem entry?_group (page : Dictionary.Page) :
    page.value.entry? "Group" = some (.ref page.group) := by
  simp [Dictionary.Page.value, PageBoxes.entries, Value.entry?]

theorem builtinFonts_of_effect {product : Operation.Product} {answer : Answer}
    (other : product ≠ .id .builtinFont) (effect : doc.Effect product answer after) :
    after.builtinFonts = doc.builtinFonts := by
  cases effect with
  | builtinFont font fresh => contradiction
  | glyph id item glyph char found present =>
      obtain ⟨store, fonts, encoding, same⟩ := doc.onlyFonts_withGlyph id item glyph char
      rw [same]
  | _ => rfl

theorem builtinFonts_apply (doc : Document) {operation : Operation}
    (other : ∀ font, operation ≠ .builtinFont font) :
    (doc.apply operation).2.builtinFonts = doc.builtinFonts := by
  have product : operation.product ≠ .id .builtinFont := by
    cases operation with
    | builtinFont font => exact absurd rfl (other font)
    | _ => simp [Operation.product]
  exact @apply_induction doc (fun after => after.builtinFonts = doc.builtinFonts) _ rfl
    (builtinFonts_of_effect product)

theorem calls_iff {font other : StandardFont} {id given : Id .builtinFont} :
    ((.builtinFont font, .ok (.ofId id)) : Operation × Except Error Answer) =
        (.builtinFont other, .ok (.ofId given)) ↔ font = other ∧ id = given := by
  constructor
  · intro same
    obtain ⟨asked, answered⟩ := Prod.ext_iff.mp same
    cases asked
    exact ⟨rfl, Id.eq_of_index_eq (Answer.id.inj (Except.ok.inj answered))⟩
  · rintro ⟨rfl, rfl⟩
    rfl

theorem registered_apply_iff {font : StandardFont} {id : Id .builtinFont} (doc : Document)
    (operation : Operation) :
    (doc.apply operation).2.Registered font id ↔ doc.Registered font id ∨
      (operation, (doc.apply operation).1) = (.builtinFont font, .ok (.ofId id)) := by
  by_cases called : ∃ other, operation = .builtinFont other
  · obtain ⟨other, rfl⟩ := called
    cases found : doc.findBuiltinFont? other with
    | some given =>
        rw [apply_builtinFont_again found, calls_iff]
        refine (or_iff_left_of_imp ?_).symm
        rintro ⟨rfl, rfl⟩
        exact registered_of_findBuiltinFont? found
    | none =>
        rw [apply_builtinFont_first found, calls_iff]
        exact registered_withBuiltinFont_iff
  · have other (font : StandardFont) : operation ≠ .builtinFont font :=
      fun same => called ⟨font, same⟩
    rw [Registered, Registered, doc.builtinFonts_apply other]
    refine (or_iff_left ?_).symm
    intro same
    exact other font (Prod.ext_iff.mp same).1

theorem registered_run_iff {font : StandardFont} {id : Id .builtinFont} (doc : Document)
    (operations : List Operation) :
    (doc.run operations).2.Registered font id ↔ doc.Registered font id ∨
      (.builtinFont font, .ok (.ofId id)) ∈ operations.zip (doc.run operations).1 := by
  have told := @run_iff_of_apply (fun doc => doc.Registered font id)
    (fun entry => entry = (.builtinFont font, .ok (.ofId id))) registered_apply_iff doc operations
  rwa [exists_eq_right] at told

theorem exists_apply_builtinFont (doc : Document) (font : StandardFont) :
    ∃ id : Id .builtinFont, (doc.apply (.builtinFont font)).1 = .ok (.ofId id) := by
  cases found : doc.findBuiltinFont? font with
  | some id => exact ⟨id, congrArg Prod.fst (apply_builtinFont_again found)⟩
  | none => exact ⟨_, congrArg Prod.fst (apply_builtinFont_first found)⟩

/-- The answer to a call is the identifier that the font has from then on. -/
theorem exists_registered_of_mem_zip {operations : List Operation} {font : StandardFont}
    {outcome : Except Error Answer}
    (member : (.builtinFont font, outcome) ∈ operations.zip (doc.run operations).1) :
    ∃ id, outcome = .ok (.ofId id) ∧ (doc.run operations).2.Registered font id := by
  obtain ⟨before, same⟩ := exists_apply_of_mem_zip member
  obtain ⟨id, answered⟩ := before.exists_apply_builtinFont font
  rw [answered] at same
  rw [same] at member
  exact ⟨id, same, (registered_run_iff doc operations).mpr (.inr member)⟩

theorem length_run (doc : Document) (operations : List Operation) :
    (doc.run operations).1.length = operations.length := by
  induction operations generalizing doc with
  | nil => rfl
  | cons operation rest ih => exact congrArg (· + 1) (ih (doc.apply operation).2)

theorem exists_mem_zip {operations : List Operation} {operation : Operation} (doc : Document)
    (member : operation ∈ operations) :
    ∃ outcome, (operation, outcome) ∈ operations.zip (doc.run operations).1 := by
  rw [← List.map_fst_zip (Nat.le_of_eq (doc.length_run operations).symm)] at member
  obtain ⟨⟨same, outcome⟩, listed, rfl⟩ := List.mem_map.mp member
  exact ⟨outcome, listed⟩

theorem RefersTo.eq (shares : doc.Shares) {sort : SharedObject} {first second : Ref}
    (refers : doc.RefersTo sort first) (also : doc.RefersTo sort second) : first = second := by
  cases sort with
  | group => exact Option.some.inj (refers.symm.trans also)
  | encoding => exact Option.some.inj (refers.symm.trans also)
  | font name =>
      obtain ⟨id, font, found, rfl⟩ := refers
      obtain ⟨other, same, foundAlso, named⟩ := also
      cases baseFont_inj named
      cases shares.distinct ⟨first, found⟩ ⟨second, foundAlso⟩
      rw [found] at foundAlso
      cases foundAlso
      rfl

theorem Shares.oneIff (shares : doc.Shares) {sort : SharedObject} {reason : Prop}
    (needed : (∃ target, doc.RefersTo sort target) ↔ reason) :
    doc.store.OneIff sort reason where
  one := by
    intro given
    obtain ⟨target, refers⟩ := needed.mpr given
    obtain ⟨generation, shows⟩ := shares.exactly.mp refers
    have first : target = .first target.number := by
      cases target
      exact congrArg (Ref.mk _) generation
    rw [first] at shows
    refine ⟨target.number, shows, fun other also => ?_⟩
    exact congrArg Ref.number (RefersTo.eq shares (shares.exactly.mpr ⟨rfl, also⟩) refers)
  none := by
    rintro absent ⟨number, generation⟩ shows
    exact absent (needed.mp ⟨.first number, shares.exactly.mpr ⟨rfl, shows⟩⟩)

theorem Shares.group_of_record (shares : doc.Shares) (sound : doc.Sound) (share : doc.PagesShare)
    {number : Nat} {id : Id .page} (record : doc.store.get? (.first number) = some (.page id)) :
    ∃ group, doc.store.Shows group .group ∧ ∀ roots deflate, ∃ value,
      doc.body roots deflate (.page id) = .ok (.value value) ∧
        value.entry? "Group" = some (.ref group) := by
  obtain ⟨item, found, -⟩ := sound.pages.only record
  have refers : doc.RefersTo .group item.group := share id item found
  refine ⟨item.group, (shares.exactly.mp refers).2, fun roots deflate => ?_⟩
  exact ⟨_, sound.body_page deflate found, entry?_group _⟩

theorem Shares.exists_standard (shares : doc.Shares) {target : Ref} {name : Name}
    (shows : doc.store.Shows target (.font name)) :
    ∃ font : StandardFont, name = font.baseFont := by
  obtain ⟨record, found, shared⟩ := shows
  have first : doc.store.Shows (.first target.number) (.font name) := ⟨record, found, shared⟩
  obtain ⟨id, font, -, named⟩ := shares.exactly.mpr ⟨rfl, first⟩
  exact ⟨font, named.symm⟩

theorem Shares.run (shares : doc.Shares) (operations : List Operation) :
    (doc.run operations).2.Shares :=
  run_effect_induction (fun shares effect => shares.of_effect effect) shares operations

variable {operations : List Operation}

theorem Shares.answer_shown (shares : doc.Shares) {font : StandardFont}
    {outcome : Except Error Answer}
    (member : (.builtinFont font, outcome) ∈ operations.zip (doc.run operations).1) :
    ∃ (id : Id .builtinFont) (target : Ref), outcome = .ok (.ofId id) ∧
      (doc.run operations).2.refOf (.builtinFont id) = .ok target ∧
      (doc.run operations).2.store.Shows target (.font font.baseFont) := by
  obtain ⟨id, same, target, found⟩ := exists_registered_of_mem_zip member
  have refers : (doc.run operations).2.RefersTo (.font font.baseFont) target :=
    ⟨id, font, found, rfl⟩
  refine ⟨id, target, same, ?_, ((shares.run operations).exactly.mp refers).2⟩
  exact congrArg (Except.map Prod.snd) (Registry.get_eq_ok_iff.mpr found)

theorem Shares.answer_eq_iff (shares : doc.Shares) {font other : StandardFont}
    {outcome also : Except Error Answer}
    (member : (.builtinFont font, outcome) ∈ operations.zip (doc.run operations).1)
    (memberAlso : (.builtinFont other, also) ∈ operations.zip (doc.run operations).1) :
    outcome = also ↔ font = other := by
  obtain ⟨id, rfl, registered⟩ := exists_registered_of_mem_zip member
  obtain ⟨given, rfl, registeredAlso⟩ := exists_registered_of_mem_zip memberAlso
  constructor
  · intro same
    cases Id.eq_of_index_eq (Answer.id.inj (Except.ok.inj same))
    obtain ⟨target, found⟩ := registered
    obtain ⟨targetAlso, foundAlso⟩ := registeredAlso
    rw [found] at foundAlso
    cases foundAlso
    rfl
  · rintro rfl
    rw [(shares.run operations).distinct registered registeredAlso]

theorem Shares.apply_builtinFont_told (shares : doc.Shares) {font : StandardFont}
    {outcome : Except Error Answer}
    (member : (.builtinFont font, outcome) ∈ operations.zip (doc.run operations).1) :
    (doc.run operations).2.apply (.builtinFont font) = (outcome, (doc.run operations).2) := by
  obtain ⟨id, rfl, registered⟩ := exists_registered_of_mem_zip member
  cases searched : (doc.run operations).2.findBuiltinFont? font with
  | none => exact absurd registered (findBuiltinFont?_eq_none_iff.mp searched id)
  | some other =>
      cases (shares.run operations).distinct registered (registered_of_findBuiltinFont? searched)
      exact apply_builtinFont_again searched

theorem shares_withConverter (options : DocumentOptions)
    (converter : Color → DeviceSpace → Color) : (withConverter options converter).Shares where
  exactly := by
    intro sort target
    constructor
    · intro refers
      cases sort with
      | group => cases refers
      | encoding => cases refers
      | font name =>
          obtain ⟨id, font, found, -⟩ := refers
          cases found
    · rintro ⟨-, record, found, -⟩
      obtain ⟨number, generation⟩ := target
      cases number with
      | zero => cases found
      | succ index => cases found
  distinct := by
    rintro font id other ⟨target, found⟩
    cases found

theorem assign_again {slots : Slots} {place : Nat} {held : AssignedGlyph}
    (taken : slots.assigned[place]? = some held) (char : Option Char) :
    slots.assign held.glyph char = (slots.slotAt place, false, slots.note place char) := by
  have known : slots.places[held.glyph]? = some place :=
    (slots.places_eq_some_iff _ _).mpr (Option.map_eq_some_iff.mpr ⟨held, taken, rfl⟩)
  have assigns := slots.assigns_assign held.glyph char
  generalize slots.assign held.glyph char = outcome at assigns ⊢
  cases assigns with
  | old other also found same =>
      have place : slots.places[held.glyph]? = some other :=
        (slots.places_eq_some_iff _ _).mpr (Option.map_eq_some_iff.mpr ⟨also, found, same⟩)
      cases known.symm.trans place
      rfl
  | new fresh =>
      rw [known] at fresh
      contradiction

/-- There is nothing to note for a glyph that has its text, or without a character. -/
theorem note_eq_self {slots : Slots} {place : Nat} {held : AssignedGlyph} {char : Option Char}
    (taken : slots.assigned[place]? = some held) (idle : char = none ∨ held.char.isSome) :
    slots.note place char = slots := by
  have noted : Slots.noteChar char held = held := by
    rcases idle with rfl | present
    · rw [Slots.noteChar_none]
      rfl
    · obtain ⟨first, named⟩ := Option.isSome_iff_exists.mp present
      obtain ⟨glyph, text⟩ := held
      cases named
      rfl
  have same : slots.assigned.modify place (Slots.noteChar char) = slots.assigned := by
    refine Array.ext_getElem? fun index => ?_
    rw [Array.getElem?_modify]
    split
    · next here =>
      rw [← here, taken, Option.map_some, noted]
    · rfl
  cases slots
  simp only [Slots.note, Slots.mk.injEq, true_and, and_true]
  exact same

theorem withFont_eq_self {font : Id .font} {item : FontItem}
    (found : doc.fonts.get? font = some item) : doc.withFont font item = doc := by
  have same : doc.fonts.entries.setIfInBounds font.index item = doc.fonts.entries := by
    refine Array.ext_getElem? fun index => ?_
    rw [Array.getElem?_setIfInBounds]
    split
    · next here =>
      rw [← here, ← found, Registry.get?, if_pos]
      exact of_decide_eq_true (Registry.contains_of_get? found)
    · rfl
  rw [withFont, Registry.replaced, same]

/-- A glyph that has a slot is only noted the character that it is asked for with. -/
theorem FontsAgree.apply_request_again (agree : doc.FontsAgree) {font : Id .font} {item : FontItem}
    {request : GlyphRequest} {place : Nat} {held : AssignedGlyph}
    (found : doc.fonts.get? font = some item) (taken : item.slots.assigned[place]? = some held)
    (shown : request.glyph? item.face = some held.glyph) :
    doc.apply (request.operation font) = (.ok (.slot (item.slots.slotAt place)),
      doc.withFont font { item with slots := item.slots.note place request.char? }) := by
  have filled : 0 * item.slots.capacity < item.slots.assigned.size := by
    obtain ⟨inside, -⟩ := Array.getElem?_eq_some_iff.mp taken
    omega
  obtain ⟨-, encoding, -, shared⟩ := @FontsAgree.exists_objects doc ⟨font, 0⟩ item _ agree found
    (Slots.subset?_eq_some_iff.mpr ⟨filled, rfl⟩)
  have encoded : doc.encoded = doc := if_neg (by rw [shared]; exact Bool.false_ne_true)
  have again := assign_again taken request.char?
  rw [apply_request_found found shown, Document.withGlyph, assignedItem, again,
    if_neg Bool.false_ne_true, encoded, assignedItem, again, List.append_nil]

theorem FontsAgree.apply_request_told (agree : doc.FontsAgree) {font : Id .font} {item : FontItem}
    {request : GlyphRequest} {place : Nat} {held : AssignedGlyph}
    (found : doc.fonts.get? font = some item) (taken : item.slots.assigned[place]? = some held)
    (shown : request.glyph? item.face = some held.glyph)
    (idle : request.char? = none ∨ held.char.isSome) :
    doc.apply (request.operation font) = (.ok (.slot (item.slots.slotAt place)), doc) := by
  rw [agree.apply_request_again found taken shown, note_eq_self taken idle]
  exact congrArg (Prod.mk _) (withFont_eq_self found)

/-- The shared objects of a document after operations that it was asked for, each for its reason. -/
structure SharesObjects (doc : Document) (operations : List Operation) : Prop where
  group : (doc.run operations).2.store.OneIff .group
    (doc.Succeeds operations fun operation => ∃ source, operation = .addPage source)
  pages : ∀ {number : Nat} {id : Id .page},
    (doc.run operations).2.store.get? (.first number) = some (.page id) →
      ∃ group, (doc.run operations).2.store.Shows group .group ∧ ∀ roots deflate, ∃ value,
        (doc.run operations).2.body roots deflate (.page id) = .ok (.value value) ∧
          value.entry? "Group" = some (.ref group)
  encoding : (doc.run operations).2.store.OneIff .encoding (doc.run operations).2.HasGlyph
  glyphs : (doc.run operations).2.HasGlyph ↔ doc.Succeeds operations fun operation =>
    ∃ font request, operation = GlyphRequest.operation font request
  fonts : ∀ font : StandardFont,
    (doc.run operations).2.store.OneIff (.font font.baseFont) (.builtinFont font ∈ operations)
  standard : ∀ {target : Ref} {name : Name},
    (doc.run operations).2.store.Shows target (.font name) →
      ∃ font : StandardFont, name = font.baseFont
  answers : ∀ {font : StandardFont} {outcome : Except Error Answer},
    (.builtinFont font, outcome) ∈ operations.zip (doc.run operations).1 →
      ∃ (id : Id .builtinFont) (target : Ref), outcome = .ok (.ofId id) ∧
        (doc.run operations).2.refOf (.builtinFont id) = .ok target ∧
        (doc.run operations).2.store.Shows target (.font font.baseFont)
  sameAnswer : ∀ {font other : StandardFont} {outcome also : Except Error Answer},
    (.builtinFont font, outcome) ∈ operations.zip (doc.run operations).1 →
    (.builtinFont other, also) ∈ operations.zip (doc.run operations).1 →
      (outcome = also ↔ font = other)
  fontAgain : ∀ {font : StandardFont} {outcome : Except Error Answer},
    (.builtinFont font, outcome) ∈ operations.zip (doc.run operations).1 →
      (doc.run operations).2.apply (.builtinFont font) = (outcome, (doc.run operations).2)
  /-- Nothing changes but the text of a glyph that has none. -/
  glyphAgain : ∀ {font : Id .font} {item : FontItem} {request : GlyphRequest} {place : Nat}
    {held : AssignedGlyph}, (doc.run operations).2.fonts.get? font = some item →
    item.slots.assigned[place]? = some held → request.glyph? item.face = some held.glyph →
      (doc.run operations).2.apply (request.operation font) =
        (.ok (.slot (item.slots.slotAt place)), (doc.run operations).2.withFont font
          { item with slots := item.slots.note place request.char? }) ∧
      (request.char? = none ∨ held.char.isSome →
        (doc.run operations).2.apply (request.operation font) =
          (.ok (.slot (item.slots.slotAt place)), (doc.run operations).2))

variable {options : DocumentOptions} {converter : Color → DeviceSpace → Color}

theorem oneIff_group_run : ((withConverter options converter).run operations).2.store.OneIff .group
    ((withConverter options converter).Succeeds operations fun operation =>
      ∃ source, operation = .addPage source) := by
  refine ((shares_withConverter options converter).run operations).oneIff ?_
  refine Option.isSome_iff_exists.symm.trans ((run_iff_of_effect pageGroup_of_effect _ _).trans ?_)
  have pageProduct (operation : Operation) :
      operation.product = .id .page ↔ ∃ source, operation = .addPage source := by
    cases operation <;> simp [Operation.product]
  simp only [pageProduct]
  exact or_iff_right Bool.false_ne_true

theorem slotProduct_iff {operation : Operation} : (∃ font, operation.product = .slot font) ↔
    ∃ font request, operation = GlyphRequest.operation font request := by
  constructor
  · rintro ⟨font, asked⟩
    cases named : operation.glyphRequest? font with
    | some request => exact ⟨font, request, Operation.glyphRequest?_eq_some_iff.mp named⟩
    | none => exact absurd asked (Operation.product_ne_slot named)
  · rintro ⟨font, request, rfl⟩
    cases request with
    | ofChar char => exact ⟨font, rfl⟩
    | ofGlyph glyph char => exact ⟨font, rfl⟩

theorem hasGlyph_run_iff : ((withConverter options converter).run operations).2.HasGlyph ↔
    (withConverter options converter).Succeeds operations fun operation =>
      ∃ font request, operation = GlyphRequest.operation font request := by
  refine (run_iff_of_effect hasGlyph_of_effect _ _).trans ?_
  simp only [slotProduct_iff]
  refine or_iff_right ?_
  rintro ⟨font, item, found, -⟩
  contradiction

theorem oneIff_encoding_run :
    ((withConverter options converter).run operations).2.store.OneIff .encoding
      ((withConverter options converter).run operations).2.HasGlyph := by
  refine ((shares_withConverter options converter).run operations).oneIff ?_
  refine Option.isSome_iff_exists.symm.trans ?_
  refine (run_iff_of_effect encoding_of_effect _ _).trans ?_
  simp only [slotProduct_iff]
  exact (or_iff_right Bool.false_ne_true).trans hasGlyph_run_iff.symm

theorem not_registered_withConverter {font : StandardFont} {id : Id .builtinFont} :
    ¬(withConverter options converter).Registered font id := by
  rintro ⟨target, found⟩
  contradiction

/-- A standard font has an identifier if it was asked for, which is then the answer. -/
theorem registered_iff_mem_zip {font : StandardFont} {id : Id .builtinFont} :
    ((withConverter options converter).run operations).2.Registered font id ↔
      (.builtinFont font, .ok (.ofId id)) ∈
        operations.zip ((withConverter options converter).run operations).1 :=
  (registered_run_iff _ operations).trans (or_iff_right not_registered_withConverter)

theorem oneIff_font_run (font : StandardFont) :
    ((withConverter options converter).run operations).2.store.OneIff (.font font.baseFont)
      (.builtinFont font ∈ operations) := by
  refine ((shares_withConverter options converter).run operations).oneIff ?_
  constructor
  · rintro ⟨target, id, other, found, named⟩
    cases baseFont_inj named
    exact (List.of_mem_zip (registered_iff_mem_zip.mp ⟨target, found⟩)).1
  · intro asked
    obtain ⟨outcome, member⟩ := exists_mem_zip (withConverter options converter) asked
    obtain ⟨id, -, target, found⟩ := exists_registered_of_mem_zip member
    exact ⟨target, id, font, found, rfl⟩

/--
Whatever a document was asked for, it has one group if it has a page, one encoding if a font has a
glyph, and one object for every standard font that was asked for. To ask again changes nothing but
the text of a glyph that has none.
-/
theorem sharesObjects_run (options : DocumentOptions) (converter : Color → DeviceSpace → Color)
    (operations : List Operation) :
    (withConverter options converter).SharesObjects operations where
  group := oneIff_group_run
  encoding := oneIff_encoding_run
  glyphs := hasGlyph_run_iff
  fonts := oneIff_font_run
  pages := ((shares_withConverter options converter).run operations).group_of_record
    (sound_run options converter operations) (pagesShare_run options converter operations)
  standard := ((shares_withConverter options converter).run operations).exists_standard
  answers := (shares_withConverter options converter).answer_shown
  sameAnswer := (shares_withConverter options converter).answer_eq_iff
  fontAgain := (shares_withConverter options converter).apply_builtinFont_told
  glyphAgain := by
    intro font item request place held found taken shown
    have agree := (fontsAgree_withConverter options converter).run operations
    exact ⟨agree.apply_request_again found taken shown,
      agree.apply_request_told found taken shown⟩

end Document

end Folio
