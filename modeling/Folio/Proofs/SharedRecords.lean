import Folio.Proofs.Finished
import Folio.Proofs.FontRun

/-!
Objects that a document has once, however many pages, glyphs and calls need them: the group of all
pages, the encoding of all font subsets, and a font object for every standard font that is used.
They are told by their types, so that no other object may pass for one of them.
-/

namespace Folio

inductive SharedObject where
  | group
  | encoding
  | font (name : Name)
deriving DecidableEq

def Value.name? (value : Value) (key : Name) : Option Name :=
  match value.entry? key with
  | some (.name found) => some found
  | _ => none

namespace Record

def shared? : Record → Option SharedObject
  | .object value =>
      if value.name? "Type" = some (.ofString "Group") then some .group
      else if value.name? "Type" = some (.ofString "Font") ∧
          value.name? "Subtype" = some (.ofString "Type1") then
        (value.name? "BaseFont").map .font
      else none
  | .stored entries _ _ | .deflated entries _ =>
      if Value.name? (.dict entries) "Type" = some (.ofString "CMap") then some .encoding else none
  | _ => none

theorem shared?_stream (compress : Bool) (entries : List Entry) (data : Bytes) :
    (stream compress entries data).shared? =
      if Value.name? (.dict entries) "Type" = some (.ofString "CMap") then some .encoding
      else none := by
  cases compress with
  | false => rfl
  | true => rfl

theorem unshared_stream {compress : Bool} {entries : List Entry} {data : Bytes}
    (kind : Option Name) (typed : Value.name? (.dict entries) "Type" = kind)
    (other : kind ≠ some (.ofString "CMap")) : (stream compress entries data).shared? = none := by
  rw [shared?_stream, typed, if_neg other]

theorem unshared_image {compress : Bool} {data : Bytes} (head : Dictionary.ImageHead) :
    (stream compress head.entries data).shared? = none :=
  unshared_stream (some (.ofString "XObject")) rfl (by decide)

theorem unshared_tilingPattern (compress : Bool) (pattern : Dictionary.TilingPattern)
    (data : Bytes) : (stream compress pattern.entries data).shared? = none :=
  unshared_stream (some (.ofString "Pattern")) rfl (by decide)

theorem unshared_form (compress : Bool) (form : Dictionary.Form) (data : Bytes) :
    (stream compress form.entries data).shared? = none :=
  unshared_stream (some (.ofString "XObject")) rfl (by decide)

theorem unshared_embeddedFile (compress : Bool) (size : Nat) (subtype : Option Name)
    (data : Bytes) :
    (stream compress (Dictionary.StreamHead.embeddedFile size subtype).entries data).shared? =
      none :=
  unshared_stream (some (.ofString "EmbeddedFile")) rfl (by decide)

theorem unshared_jpeg (info : JpegInfo) (data : Bytes) :
    (stored (Document.jpegEntries info) (some "DCTDecode") data).shared? = none :=
  @unshared_stream false (Document.jpegEntries info) data (some (.ofString "XObject")) rfl
    (by decide)

theorem unshared_resources (bytes : Bytes) :
    (Record.object (Build.resourceValue bytes)).shared? = none := by
  rw [Build.resourceValue]
  split
  · rfl
  · rfl

theorem unshared_function (function : Dictionary.Function) :
    (Record.object function.value).shared? = none := by
  cases function with
  | exponential domain c0 c1 n => rfl
  | stitching domain functions bounds encode => rfl

end Record

def Store.Shows (store : Store) (target : Ref) (sort : SharedObject) : Prop :=
  ∃ record, store.get? target = some record ∧ record.shared? = some sort

theorem Store.shows_allocate_iff {store : Store} {record : Record} {target : Ref}
    {sort : SharedObject} :
    (store.allocate record).2.Shows target sort ↔
      store.Shows target sort ∨ target.number = store.size + 1 ∧ record.shared? = some sort := by
  constructor
  · rintro ⟨held, found, shared⟩
    rw [get?_allocate] at found
    split at found
    · next new =>
      cases found
      exact .inr ⟨new, shared⟩
    · exact .inl ⟨held, found, shared⟩
  · rintro (⟨held, found, shared⟩ | ⟨new, shared⟩)
    · exact ⟨held, get?_allocate_of_get? record found, shared⟩
    · exact ⟨record, (get?_allocate ..).trans (if_pos new), shared⟩

theorem Store.Adds.shows_iff {before after : Store} {target : Ref} {sort : SharedObject}
    (adds : before.Adds (fun record => record.shared? = none) after) :
    after.Shows target sort ↔ before.Shows target sort := by
  constructor
  · rintro ⟨held, found, shared⟩
    refine ⟨held, adds.get?_of_get? (fun unshared => ?_) found, shared⟩
    rw [shared] at unshared
    contradiction
  · rintro ⟨held, found, shared⟩
    exact ⟨held, adds.kept found, shared⟩

namespace Document

variable {doc after : Document}

def Registered (doc : Document) (font : StandardFont) (id : Id .builtinFont) : Prop :=
  ∃ target, doc.builtinFonts.get? id = some (font, target)

/-- The reference that a document keeps to a shared object, for all who need the object. -/
def RefersTo (doc : Document) : SharedObject → Ref → Prop
  | .group, target => doc.pageGroup = some target
  | .encoding, target => doc.encoding = some target
  | .font name, target => ∃ id font, doc.builtinFonts.get? id = some (font, target) ∧
      Name.ofString font.baseFont = name

/-- The shared objects in the store are those that the document refers to. -/
structure Shares (doc : Document) : Prop where
  exactly : ∀ {sort : SharedObject} {target : Ref},
    doc.RefersTo sort target ↔ target.generation = 0 ∧ doc.store.Shows target sort
  distinct : ∀ {font : StandardFont} {id other : Id .builtinFont},
    doc.Registered font id → doc.Registered font other → id = other

theorem baseFont_inj {first second : StandardFont}
    (same : Name.ofString first.baseFont = Name.ofString second.baseFont) : first = second := by
  have all : ∀ first second : StandardFont, first.baseFont = second.baseFont → first = second := by
    intro first second
    cases first <;> cases second <;> simp [StandardFont.baseFont]
  exact all first second (Name.ofString_inj.mp same)

structure SameShared (before after : Document) : Prop where
  pageGroup : after.pageGroup = before.pageGroup
  encoding : after.encoding = before.encoding
  builtinFonts : after.builtinFonts = before.builtinFonts
  store : before.store.Adds (fun record => record.shared? = none) after.store

theorem SameShared.refersTo_iff (same : doc.SameShared after) {sort : SharedObject} {target : Ref} :
    after.RefersTo sort target ↔ doc.RefersTo sort target := by
  cases sort with
  | group => rw [RefersTo, RefersTo, same.pageGroup]
  | encoding => rw [RefersTo, RefersTo, same.encoding]
  | font name => rw [RefersTo, RefersTo, same.builtinFonts]

theorem Shares.of_sameShared (shares : doc.Shares) (same : doc.SameShared after) :
    after.Shares where
  exactly := by
    intro sort target
    rw [same.refersTo_iff, same.store.shows_iff, shares.exactly]
  distinct := by
    intro font id other registered also
    rw [Registered, same.builtinFonts] at registered also
    exact shares.distinct registered also

theorem SameShared.refl (doc : Document) : doc.SameShared doc :=
  ⟨rfl, rfl, rfl, .refl _⟩

theorem SameShared.trans {later : Document} (same : doc.SameShared after)
    (further : after.SameShared later) : doc.SameShared later :=
  ⟨further.pageGroup.trans same.pageGroup, further.encoding.trans same.encoding,
    further.builtinFonts.trans same.builtinFonts, same.store.trans further.store⟩

theorem sameShared_push (doc : Document) {record : Record} (unshared : record.shared? = none) :
    doc.SameShared (doc.push record) :=
  ⟨rfl, rfl, rfl, doc.store.adds_allocate unshared⟩

theorem Shares.added {record : Record} {sort : SharedObject} (shares : doc.Shares)
    (shared : record.shared? = some sort) (store : after.store = (doc.push record).store)
    (refers : ∀ {other : SharedObject} {target : Ref}, after.RefersTo other target ↔
      doc.RefersTo other target ∨ other = sort ∧ target = doc.nextRef)
    (distinct : ∀ {font : StandardFont} {id other : Id .builtinFont},
      after.Registered font id → after.Registered font other → id = other) : after.Shares where
  distinct := distinct
  exactly := by
    intro other target
    have place : target = doc.nextRef ↔
        target.generation = 0 ∧ target.number = doc.store.size + 1 := by
      cases target
      exact Ref.mk.injEq .. ▸ and_comm
    rw [refers, shares.exactly, store, push, Store.shows_allocate_iff, shared, Option.some_inj,
      place]
    constructor
    · rintro (⟨generation, shows⟩ | ⟨rfl, generation, number⟩)
      · exact ⟨generation, .inl shows⟩
      · exact ⟨generation, .inr ⟨number, rfl⟩⟩
    · rintro ⟨generation, shows | ⟨number, rfl⟩⟩
      · exact .inl ⟨generation, shows⟩
      · exact .inr ⟨rfl, generation, number⟩

theorem sameShared_withSubset (doc : Document) (key : SubsetKey) :
    doc.SameShared (doc.withSubset key) := by
  have part (doc : Document) (part : SubsetPart) :
      doc.SameShared (doc.push (.subset part key)) := doc.sameShared_push rfl
  exact ((((part _ _).trans (part _ _)).trans (part _ _)).trans (part _ _)).trans (part _ _)

theorem sameShared_withGlyph (doc : Document) (id : Id .font) (item : FontItem) (glyph : GlyphId)
    (char : Option Char) : doc.encoded.SameShared (doc.withGlyph id item glyph char) := by
  rw [withGlyph]
  split
  · have opened := doc.encoded.sameShared_withSubset ⟨id, (item.slots.assign glyph char).1.subset⟩
    exact ⟨opened.pageGroup, opened.encoding, opened.builtinFonts, opened.store⟩
  · exact ⟨rfl, rfl, rfl, .refl _⟩

theorem sameShared_withPage (doc : Document) (source : PageSource) :
    doc.grouped.SameShared (doc.withPage source) := by
  have resourced := doc.grouped.sameShared_push (Record.unshared_resources source.resources)
  have filled := resourced.trans (sameShared_push _
    (@Record.unshared_stream doc.options.compress [] source.contents none rfl (by decide)))
  exact ⟨rfl, rfl, rfl, (filled.trans (sameShared_push _ rfl)).store⟩

theorem Shares.encoded (shares : doc.Shares) : doc.encoded.Shares := by
  cases held : doc.encoding with
  | some target =>
      have same : doc.encoded = doc := if_neg (by rw [held]; exact Bool.false_ne_true)
      rw [same]
      exact shares
  | none =>
      have same : doc.encoded =
          { doc.push (encodingRecord doc.options) with encoding := some doc.nextRef } :=
        if_pos (by rw [held]; rfl)
      have shared : (encodingRecord doc.options).shared? = some .encoding := by
        rw [encodingRecord, Record.shared?_stream]
        rfl
      rw [same]
      refine shares.added shared rfl (fun {other target} => ?_) shares.distinct
      cases other with
      | group => exact (or_iff_left fun new => by cases new.1).symm
      | font name => exact (or_iff_left fun new => by cases new.1).symm
      | encoding => simp [RefersTo, held, eq_comm]

theorem Shares.grouped (shares : doc.Shares) : doc.grouped.Shares := by
  cases held : doc.pageGroup with
  | some target =>
      have same : doc.SameShared doc.grouped := by
        rw [Document.grouped, groupRef, held]
        exact ⟨held.symm, rfl, rfl, .refl _⟩
      exact shares.of_sameShared same
  | none =>
      have same : doc.grouped = { doc.push (.object (Dictionary.transparencyGroup
          doc.options.outputSpace.colorSpace)) with pageGroup := some doc.nextRef } := by
        rw [Document.grouped, groupRef, held]
        rfl
      rw [same]
      have shared : (Record.object (Dictionary.transparencyGroup
          doc.options.outputSpace.colorSpace)).shared? = some .group := rfl
      refine shares.added shared rfl (fun {other target} => ?_) shares.distinct
      cases other with
      | group => simp [RefersTo, held, eq_comm]
      | font name => exact (or_iff_left fun new => by cases new.1).symm
      | encoding => exact (or_iff_left fun new => by cases new.1).symm

def withBuiltinFont (doc : Document) (font : StandardFont) : Document :=
  { doc.push (.object (Dictionary.type1Font font.baseFont)) with
    builtinFonts := (doc.builtinFonts.register (font, doc.nextRef)).2 }

theorem findBuiltinFont?_eq_none_iff {font : StandardFont} :
    doc.findBuiltinFont? font = none ↔ ∀ id, ¬doc.Registered font id := by
  rw [findBuiltinFont?, Option.map_eq_none_iff, List.find?_eq_none]
  constructor
  · rintro absent id ⟨target, found⟩
    exact absent _ (Registry.mem_toList_iff.mpr found) (beq_self_eq_true font)
  · rintro absent ⟨id, other, target⟩ listed same
    cases eq_of_beq same
    exact absent id ⟨target, Registry.mem_toList_iff.mp listed⟩

theorem registered_of_findBuiltinFont? {font : StandardFont} {id : Id .builtinFont}
    (found : doc.findBuiltinFont? font = some id) : doc.Registered font id := by
  obtain ⟨⟨same, other, target⟩, searched, rfl⟩ := Option.map_eq_some_iff.mp found
  have passed := List.find?_some searched
  cases eq_of_beq passed
  exact ⟨target, Registry.mem_toList_iff.mp (List.mem_of_find?_eq_some searched)⟩

theorem apply_builtinFont_again {font : StandardFont} {id : Id .builtinFont}
    (found : doc.findBuiltinFont? font = some id) :
    doc.apply (.builtinFont font) = (.ok (.ofId id), doc) := by
  simp [apply, perform, builtinFont, found]

theorem apply_builtinFont_first {font : StandardFont} (fresh : doc.findBuiltinFont? font = none) :
    doc.apply (.builtinFont font) =
      (.ok (.ofId doc.builtinFonts.nextId), doc.withBuiltinFont font) := by
  simp [apply, perform, builtinFont, fresh, withBuiltinFont, push, nextRef, Registry.register]

theorem get?_withBuiltinFont (doc : Document) (font : StandardFont) (id : Id .builtinFont) :
    (doc.withBuiltinFont font).builtinFonts.get? id =
      if id = doc.builtinFonts.nextId then some (font, doc.nextRef)
      else doc.builtinFonts.get? id :=
  Registry.get?_register ..

theorem registered_withBuiltinFont_iff {font other : StandardFont} {id : Id .builtinFont} :
    (doc.withBuiltinFont font).Registered other id ↔
      doc.Registered other id ∨ font = other ∧ doc.builtinFonts.nextId = id := by
  constructor
  · rintro ⟨target, found⟩
    rw [get?_withBuiltinFont] at found
    split at found
    · next new =>
      cases found
      exact .inr ⟨rfl, new.symm⟩
    · exact .inl ⟨target, found⟩
  · rintro (⟨target, found⟩ | ⟨rfl, rfl⟩)
    · refine ⟨target, ?_⟩
      rw [get?_withBuiltinFont, if_neg (Registry.ne_nextId_of_get? found)]
      exact found
    · exact ⟨doc.nextRef, (get?_withBuiltinFont ..).trans (if_pos rfl)⟩

theorem refersTo_withBuiltinFont_iff {font : StandardFont} {name : Name} {target : Ref} :
    (doc.withBuiltinFont font).RefersTo (.font name) target ↔
      doc.RefersTo (.font name) target ∨
        SharedObject.font name = .font font.baseFont ∧ target = doc.nextRef := by
  constructor
  · rintro ⟨id, other, found, named⟩
    rw [get?_withBuiltinFont] at found
    split at found
    · cases found
      exact .inr ⟨congrArg SharedObject.font named.symm, rfl⟩
    · exact .inl ⟨id, other, found, named⟩
  · rintro (⟨id, other, found, named⟩ | ⟨same, rfl⟩)
    · refine ⟨id, other, ?_, named⟩
      rw [get?_withBuiltinFont, if_neg (Registry.ne_nextId_of_get? found)]
      exact found
    · exact ⟨doc.builtinFonts.nextId, font, (get?_withBuiltinFont ..).trans (if_pos rfl),
        (SharedObject.font.inj same).symm⟩

theorem Shares.withBuiltinFont {font : StandardFont} (shares : doc.Shares)
    (fresh : ∀ id, ¬doc.Registered font id) : (doc.withBuiltinFont font).Shares := by
  have shared : (Record.object (Dictionary.type1Font font.baseFont)).shared? =
      some (.font font.baseFont) := rfl
  refine shares.added shared rfl (fun {other target} => ?_) fun {another id other} held also => ?_
  · cases other with
    | group => exact (or_iff_left fun new => by cases new.1).symm
    | encoding => exact (or_iff_left fun new => by cases new.1).symm
    | font name => exact refersTo_withBuiltinFont_iff
  · rcases registered_withBuiltinFont_iff.mp held with before | ⟨rfl, rfl⟩
    · rcases registered_withBuiltinFont_iff.mp also with beforeAlso | ⟨rfl, rfl⟩
      · exact shares.distinct before beforeAlso
      · exact absurd before (fresh id)
    · rcases registered_withBuiltinFont_iff.mp also with beforeAlso | ⟨-, same⟩
      · exact absurd beforeAlso (fresh other)
      · exact same

theorem adds_loadProfile_unshared {spaces later : ColorSpaces} {store grown : Store} {bytes : Bytes}
    {id : Id .iccColorSpace} (loaded : spaces.loadProfile store bytes = .ok (id, later, grown)) :
    store.Adds (fun record => record.shared? = none) grown := by
  rw [ColorSpaces.loadProfile, ColorSpaces.addProfile] at loaded
  split at loaded
  · cases loaded
    exact .refl _
  · split at loaded
    · contradiction
    · next profile parsed =>
      cases loaded
      exact (store.adds_allocate (Record.unshared_stream none rfl (by decide))).trans
        (Store.adds_allocate _ rfl)

theorem sameShared_withAlpha (doc : Document) (image : RasterImage) :
    doc.SameShared (doc.withAlpha image) := by
  refine ⟨rfl, rfl, rfl, ?_⟩
  rw [withAlpha]
  cases image.alpha with
  | none => exact .refl _
  | some alpha => exact doc.store.adds_allocate (Record.unshared_image _)

theorem sameShared_withFormResources (doc : Document) (source : FormSource) :
    doc.SameShared (doc.withFormResources source) := by
  refine ⟨rfl, rfl, rfl, ?_⟩
  rw [withFormResources]
  by_cases silent : source.resources.isEmpty
  · rw [if_pos silent]
    exact .refl _
  · rw [if_neg silent]
    exact doc.store.adds_allocate (Record.unshared_resources _)

theorem sameShared_image {record : Record} (unshared : record.shared? = none) :
    doc.SameShared (doc.withImage record) :=
  ⟨rfl, rfl, rfl, doc.store.adds_allocate unshared⟩

theorem Shares.of_effect {product : Operation.Product} {answer : Answer} (shares : doc.Shares)
    (effect : doc.Effect product answer after) : after.Shares := by
  cases effect with
  | glyph id item glyph char found present =>
      exact shares.encoded.of_sameShared (doc.sameShared_withGlyph id item glyph char)
  | page source checked =>
      exact shares.grouped.of_sameShared (doc.sameShared_withPage source)
  | builtinFont font fresh =>
      exact shares.withBuiltinFont (findBuiltinFont?_eq_none_iff.mp fresh)
  | builtinFontAgain font id found => exact shares
  | jpeg info data => exact shares.of_sameShared (sameShared_image (Record.unshared_jpeg info data))
  | bilevel image valid =>
      exact shares.of_sameShared (sameShared_image (Record.unshared_image _))
  | stencil image valid =>
      exact shares.of_sameShared (sameShared_image
        (Record.unshared_stream (some (.ofString "XObject")) rfl (by decide)))
  | raster image space valid known =>
      exact shares.of_sameShared ((doc.sameShared_withAlpha image).trans
        (sameShared_image (Record.unshared_image _)))
  | profile bytes id colors store loaded =>
      exact shares.of_sameShared ⟨rfl, rfl, rfl, adds_loadProfile_unshared loaded⟩
  | lab params => exact shares.of_sameShared ⟨rfl, rfl, rfl, doc.store.adds_allocate rfl⟩
  | separation name fallback =>
      have tinted := doc.sameShared_push (Record.unshared_function (ColorSpaces.tint fallback))
      exact shares.of_sameShared ⟨rfl, rfl, rfl, (tinted.trans (sameShared_push _ rfl)).store⟩
  | graphicsState state => exact shares.of_sameShared ⟨rfl, rfl, rfl, doc.store.adds_allocate rfl⟩
  | function source function lowered =>
      exact shares.of_sameShared
        ⟨rfl, rfl, rfl, doc.store.adds_allocate (Record.unshared_function function)⟩
  | shading source shading lowered =>
      exact shares.of_sameShared ⟨rfl, rfl, rfl, doc.store.adds_allocate rfl⟩
  | shadingPattern shading target matrix found =>
      exact shares.of_sameShared ⟨rfl, rfl, rfl, doc.store.adds_allocate rfl⟩
  | tiling cell =>
      have resourced := doc.sameShared_push (Record.unshared_resources cell.resources)
      have whole := resourced.trans (sameShared_push _
        (Record.unshared_tilingPattern doc.options.compress (doc.tilingHead cell) cell.contents))
      exact shares.of_sameShared ⟨rfl, rfl, rfl, whole.store⟩
  | form source =>
      have whole := (doc.sameShared_withFormResources source).trans (sameShared_push _
        (Record.unshared_form doc.options.compress (doc.formHead source) source.contents))
      exact shares.of_sameShared ⟨rfl, rfl, rfl, whole.store⟩
  | file name data mimeType =>
      have stored := doc.sameShared_push
        (Record.unshared_embeddedFile doc.options.compress data.length
          (mimeType.map Name.ofString) data)
      exact shares.of_sameShared
        ⟨rfl, rfl, rfl, (stored.trans (sameShared_push _ rfl)).store⟩
  | annot rect kind color known =>
      exact shares.of_sameShared ⟨rfl, rfl, rfl, doc.store.adds_allocate rfl⟩
  | checkbox checkbox known =>
      exact shares.of_sameShared ⟨rfl, rfl, rfl, doc.store.adds_allocate rfl⟩
  | structureItem kind parent attributes known =>
      exact shares.of_sameShared ⟨rfl, rfl, rfl, doc.store.adds_allocate rfl⟩
  | _ => exact shares.of_sameShared ⟨rfl, rfl, rfl, .refl _⟩

end Document

end Folio
