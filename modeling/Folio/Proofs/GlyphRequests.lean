import Folio.Proofs.FontAgreement

/-!
The slots of a font depend on nothing but what the font was asked for: however the requests for
several fonts are interleaved with each other and with everything else, glyphs take their slots in
the order in which they were first asked for.
-/

namespace Folio

inductive GlyphRequest where
  | ofChar (char : Char)
  | ofGlyph (glyph : GlyphId) (char : Option Char)

namespace GlyphRequest

def glyph? (face : Face) : GlyphRequest → Option GlyphId
  | .ofChar char => (face.glyph? char).filter (· ≠ 0)
  | .ofGlyph glyph _ => (some glyph).filter (· ≠ 0)

def char? : GlyphRequest → Option Char
  | .ofChar char => some char
  | .ofGlyph _ char => char

def codePoint (request : GlyphRequest) : Nat :=
  (request.char?.map Char.toNat).getD 0

def operation (font : Id .font) : GlyphRequest → Operation
  | .ofChar char => .charSlot font char
  | .ofGlyph glyph char => .glyphSlot font glyph char

def glyphsInOrder (face : Face) (requests : List GlyphRequest) : List GlyphId :=
  (requests.filterMap (glyph? face)).eraseDups

theorem glyphsInOrder_append (face : Face) (first second : List GlyphRequest) :
    glyphsInOrder face (first ++ second) = glyphsInOrder face first ++
      ((second.filterMap (glyph? face)).removeAll (first.filterMap (glyph? face))).eraseDups := by
  rw [glyphsInOrder, List.filterMap_append, List.eraseDups_append]
  rfl

theorem glyphsInOrder_concat (face : Face) (requests : List GlyphRequest)
    (request : GlyphRequest) :
    glyphsInOrder face (requests ++ [request]) =
      match request.glyph? face with
      | none => glyphsInOrder face requests
      | some glyph =>
          if glyph ∈ glyphsInOrder face requests then glyphsInOrder face requests
          else glyphsInOrder face requests ++ [glyph] := by
  rw [glyphsInOrder_append, glyphsInOrder]
  generalize requests.filterMap (glyph? face) = glyphs
  cases asked : request.glyph? face with
  | none => simp [asked]
  | some glyph =>
      by_cases before : glyph ∈ glyphs
      · simp [asked, List.removeAll, before]
      · simp [asked, List.removeAll, before, List.eraseDups_cons]

end GlyphRequest

def Operation.glyphRequest? (font : Id .font) : Operation → Option GlyphRequest
  | .charSlot id char => if id = font then some (.ofChar char) else none
  | .glyphSlot id glyph char => if id = font then some (.ofGlyph glyph char) else none
  | _ => none

theorem Operation.glyphRequest?_eq_some_iff {font : Id .font} {operation : Operation}
    {request : GlyphRequest} :
    operation.glyphRequest? font = some request ↔ operation = request.operation font := by
  constructor
  · intro asks
    cases operation with
    | charSlot id char =>
        obtain ⟨rfl, same⟩ := Option.ite_none_right_eq_some.mp asks
        cases same
        rfl
    | glyphSlot id glyph char =>
        obtain ⟨rfl, same⟩ := Option.ite_none_right_eq_some.mp asks
        cases same
        rfl
    | _ => contradiction
  · rintro rfl
    cases request with
    | ofChar char => exact if_pos rfl
    | ofGlyph glyph char => exact if_pos rfl

theorem Operation.product_ne_slot {font : Id .font} {operation : Operation}
    (other : operation.glyphRequest? font = none) : operation.product ≠ .slot font := by
  cases operation with
  | charSlot id char =>
      rintro ⟨⟩
      exact Option.some_ne_none _ ((if_pos rfl).symm.trans other)
  | glyphSlot id glyph char =>
      rintro ⟨⟩
      exact Option.some_ne_none _ ((if_pos rfl).symm.trans other)
  | _ => simp [Operation.product]

namespace Document

variable {doc : Document} {font : Id .font} {item : FontItem}

theorem apply_request_absent (absent : doc.fonts.get? font = none) (request : GlyphRequest) :
    doc.apply (request.operation font) =
      (.error (.unknownResource .font font.index), doc) := by
  have missing : doc.fonts.get font = .error (.unknownResource .font font.index) := by
    rw [Registry.get, absent]
  cases request with
  | ofChar char => simp [GlyphRequest.operation, apply, perform, charSlot, Document.font, missing]
  | ofGlyph glyph char =>
      simp [GlyphRequest.operation, apply, perform, glyphSlot, Document.font, missing]

theorem run_glyphSlot_zero (found : doc.fonts.get? font = some item) (char : Option Char) :
    (glyphSlot font 0 char).run doc =
      .error (.glyphNotFound font.index ((char.map Char.toNat).getD 0)) doc := by
  simp [glyphSlot, run_font found]

theorem run_charSlot (found : doc.fonts.get? font = some item) (char : Char) :
    (charSlot font char).run doc =
      match item.face.glyph? char with
      | none => .error (.glyphNotFound font.index char.toNat) doc
      | some glyph => (glyphSlot font glyph (some char)).run doc := by
  rw [charSlot, Build.run_bind_of_run (run_font found), faceGlyph]
  cases item.face.glyph? char with
  | none => simp
  | some glyph => simp

theorem apply_request_missing (found : doc.fonts.get? font = some item) {request : GlyphRequest}
    (missing : request.glyph? item.face = none) :
    doc.apply (request.operation font) =
      (.error (.glyphNotFound font.index request.codePoint), doc) := by
  cases request with
  | ofChar char =>
      cases shown : item.face.glyph? char with
      | none =>
          simp [GlyphRequest.operation, apply, perform, run_charSlot found, shown,
            GlyphRequest.codePoint, GlyphRequest.char?]
      | some glyph =>
          have zero : glyph = 0 := by simpa [GlyphRequest.glyph?, shown] using missing
          simp [GlyphRequest.operation, apply, perform, run_charSlot found, shown, zero,
            run_glyphSlot_zero found, GlyphRequest.codePoint, GlyphRequest.char?]
  | ofGlyph glyph char =>
      have zero : glyph = 0 := by simpa [GlyphRequest.glyph?] using missing
      simp [GlyphRequest.operation, apply, perform, zero, run_glyphSlot_zero found,
        GlyphRequest.codePoint, GlyphRequest.char?]

theorem apply_request_found (found : doc.fonts.get? font = some item) {request : GlyphRequest}
    {glyph : GlyphId} (shown : request.glyph? item.face = some glyph) :
    doc.apply (request.operation font) =
      (.ok (.slot (item.slots.assign glyph request.char?).1),
        doc.withGlyph font item glyph request.char?) := by
  cases request with
  | ofChar char =>
      obtain ⟨inFace, present⟩ := Option.filter_eq_some_iff.mp shown
      have present : glyph ≠ 0 := of_decide_eq_true present
      simp [GlyphRequest.operation, apply, perform, run_charSlot found, inFace,
        run_glyphSlot _ found present, GlyphRequest.char?]
  | ofGlyph other char =>
      have shown : (some other).filter (· ≠ 0) = some glyph := shown
      obtain ⟨same, present⟩ := Option.filter_eq_some_iff.mp shown
      cases same
      have present : glyph ≠ 0 := of_decide_eq_true present
      simp [GlyphRequest.operation, apply, perform, run_glyphSlot _ found present,
        GlyphRequest.char?]

/-- Nothing but a request that is made of a font touches its slots. -/
inductive FontKept (font : Id .font) (before after : Document) : Prop
  | kept (same : after.fonts.get? font = before.fonts.get? font) : FontKept font before after
  | added (face : Face) (absent : before.fonts.get? font = none)
      (fresh : after.fonts.get? font =
        some ⟨face, .ofCapacity before.options.subsetCapacity, []⟩) : FontKept font before after

theorem fontKept_of_effect {product : Operation.Product} {answer : Answer} {after : Document}
    (other : product ≠ .slot font) (effect : doc.Effect product answer after) :
    FontKept font doc after := by
  cases effect with
  | font face =>
      by_cases next : font = doc.fonts.nextId
      · refine .added face ?_ ?_
        · cases found : doc.fonts.get? font with
          | none => rfl
          | some item => exact absurd next (Registry.ne_nextId_of_get? found)
        · exact (Registry.get?_register ..).trans (if_pos next)
      · exact .kept ((Registry.get?_register ..).trans (if_neg next))
  | glyph id item glyph char found present =>
      obtain ⟨added, fonts⟩ := exists_get?_withGlyph found glyph char
      refine .kept ((fonts font).trans (if_neg fun same => other ?_))
      rw [same]
  | _ => exact .kept rfl

theorem fontKept_apply (doc : Document) {operation : Operation}
    (other : operation.glyphRequest? font = none) :
    FontKept font doc (doc.apply operation).2 :=
  apply_induction (.kept rfl) (fontKept_of_effect (Operation.product_ne_slot other))

def request? (doc : Document) (font : Id .font) (operation : Operation) : Option GlyphRequest :=
  if doc.fonts.contains font then operation.glyphRequest? font else none

/-- The requests that a run makes of a font that is there, in order. -/
def requests (doc : Document) (font : Id .font) : List Operation → List GlyphRequest
  | [] => []
  | operation :: rest =>
      (doc.request? font operation).toList ++ (doc.apply operation).2.requests font rest

def slotOf? : Except Error Answer → Option Slot
  | .ok (.slot slot) => some slot
  | _ => none

def answers (doc : Document) (font : Id .font) : List Operation → List (Option Slot)
  | [] => []
  | operation :: rest =>
      ((doc.request? font operation).map fun _ => slotOf? (doc.apply operation).1).toList ++
        (doc.apply operation).2.answers font rest

/-- The glyphs with slots in a font are those it was asked for, in the order of first requests. -/
structure Remembers (doc : Document) (font : Id .font) (history : List GlyphRequest) : Prop where
  glyphs : ∀ {item}, doc.fonts.get? font = some item →
    item.slots.glyphs = GlyphRequest.glyphsInOrder item.face history
  silent : doc.fonts.get? font = none → history = []

theorem remembers_withConverter (options : DocumentOptions)
    (converter : Color → DeviceSpace → Color) (font : Id .font) :
    (withConverter options converter).Remembers font [] where
  glyphs := fun found => Option.noConfusion rfl (heq_of_eq found)
  silent := fun _ => rfl

theorem Remembers.of_kept {after : Document} {history : List GlyphRequest}
    (remembers : doc.Remembers font history) (kept : FontKept font doc after) :
    after.Remembers font history := by
  cases kept with
  | kept same =>
      refine ⟨fun found => ?_, fun absent => ?_⟩
      · exact remembers.glyphs (same.symm.trans found)
      · exact remembers.silent (same.symm.trans absent)
  | added face absent fresh =>
      refine ⟨fun found => ?_, fun missing => ?_⟩
      · rw [fresh] at found
        cases found
        rw [remembers.silent absent]
        rfl
      · rw [fresh] at missing
        contradiction

theorem Remembers.request {history : List GlyphRequest} (remembers : doc.Remembers font history)
    (found : doc.fonts.get? font = some item) (request : GlyphRequest) :
    (doc.apply (request.operation font)).2.Remembers font (history ++ [request]) := by
  have ordered := GlyphRequest.glyphsInOrder_concat item.face history request
  cases shown : request.glyph? item.face with
  | none =>
      rw [shown] at ordered
      rw [apply_request_missing found shown]
      refine ⟨fun {held} known => ?_, fun absent => ?_⟩
      · rw [found] at known
        cases known
        exact (remembers.glyphs found).trans ordered.symm
      · rw [found] at absent
        contradiction
  | some glyph =>
      rw [shown] at ordered
      rw [apply_request_found found shown]
      obtain ⟨added, fonts⟩ := exists_get?_withGlyph found glyph request.char?
      have after := (fonts font).trans (if_pos rfl)
      refine ⟨fun {held} known => ?_, fun absent => ?_⟩
      · rw [after] at known
        cases known
        have assigned := item.slots.glyphs_assign glyph request.char?
        rw [remembers.glyphs found] at assigned
        exact assigned.trans ordered.symm
      · rw [after] at absent
        contradiction

theorem Remembers.apply {history : List GlyphRequest} (remembers : doc.Remembers font history)
    (operation : Operation) :
    (doc.apply operation).2.Remembers font
      (history ++ (doc.request? font operation).toList) := by
  rw [request?]
  cases asks : operation.glyphRequest? font with
  | none =>
      rw [ite_self, Option.toList_none, List.append_nil]
      exact remembers.of_kept (doc.fontKept_apply asks)
  | some request =>
      rw [Operation.glyphRequest?_eq_some_iff.mp asks]
      cases held : doc.fonts.get? font with
      | none =>
          have unknown : ¬ doc.fonts.contains font := by
            intro contained
            obtain ⟨item, found⟩ := Registry.exists_get?_of_contains contained
            rw [held] at found
            contradiction
          rw [if_neg unknown, Option.toList_none, List.append_nil,
            apply_request_absent held]
          exact remembers
      | some item =>
          rw [if_pos (Registry.contains_of_get? held)]
          exact remembers.request held request

theorem Remembers.run {history : List GlyphRequest} (remembers : doc.Remembers font history)
    (operations : List Operation) :
    (doc.run operations).2.Remembers font (history ++ doc.requests font operations) := by
  induction operations generalizing doc history with
  | nil => exact (List.append_nil history).symm ▸ remembers
  | cons operation rest ih =>
      rw [requests, ← List.append_assoc]
      exact ih (remembers.apply operation)

theorem exists_place_of_request {final : Document} {last : FontItem} {request : GlyphRequest}
    {glyph : GlyphId} (found : doc.fonts.get? font = some item)
    (shown : request.glyph? item.face = some glyph)
    (extend : (doc.apply (request.operation font)).2.FontsExtend final)
    (held : final.fonts.get? font = some last) :
    ∃ place, last.slots.glyphs[place]? = some glyph ∧
      (doc.apply (request.operation font)).1 = .ok (.slot (last.slots.slotAt place)) := by
  rw [apply_request_found found shown] at extend ⊢
  obtain ⟨added, fonts⟩ := exists_get?_withGlyph found glyph request.char?
  obtain ⟨later, known, -, extended⟩ := extend.kept ((fonts font).trans (if_pos rfl))
  rw [held] at known
  cases known
  obtain ⟨place, slot, taken⟩ := item.slots.exists_place_of_assign glyph request.char?
  have capacity : last.slots.capacity = item.slots.capacity :=
    extended.capacity.trans (item.slots.extends_assign glyph request.char?).capacity
  refine ⟨place, extended.glyphs taken, ?_⟩
  rw [slot, Slots.slotAt, Slots.slotAt, capacity]

theorem face_eq_of_extend {final : Document} {last : FontItem} (extend : doc.FontsExtend final)
    (found : doc.fonts.get? font = some item) (held : final.fonts.get? font = some last) :
    item.face = last.face := by
  obtain ⟨later, known, face, -⟩ := extend.kept found
  rw [held] at known
  cases known
  exact face.symm

theorem slotOf?_request {final : Document} {last : FontItem} (request : GlyphRequest)
    (found : doc.fonts.get? font = some item)
    (extend : (doc.apply (request.operation font)).2.FontsExtend final)
    (held : final.fonts.get? font = some last) :
    slotOf? (doc.apply (request.operation font)).1 =
      (request.glyph? last.face).bind last.slots.get? := by
  have face := face_eq_of_extend ((doc.fontsExtend_apply _).trans extend) found held
  cases shown : request.glyph? item.face with
  | none =>
      rw [apply_request_missing found shown, ← face, shown]
      rfl
  | some glyph =>
      obtain ⟨place, taken, answered⟩ := exists_place_of_request found shown extend held
      have place : last.slots.places[glyph]? = some place := Slots.places_iff_glyphs.mpr taken
      rw [answered, ← face, shown, Option.bind_some, Slots.get?, Slots.place?, place]
      rfl

theorem answers_eq {last : FontItem} (operations : List Operation)
    (held : (doc.run operations).2.fonts.get? font = some last) :
    doc.answers font operations =
      (doc.requests font operations).map fun request =>
        (request.glyph? last.face).bind last.slots.get? := by
  induction operations generalizing doc with
  | nil => rfl
  | cons operation rest ih =>
      have later : (doc.apply operation).2.answers font rest =
          ((doc.apply operation).2.requests font rest).map fun request =>
            (request.glyph? last.face).bind last.slots.get? := ih held
      rw [answers, requests, List.map_append, later]
      congr 1
      cases asks : doc.request? font operation with
      | none => rfl
      | some request =>
          obtain ⟨contained, asked⟩ := Option.ite_none_right_eq_some.mp asks
          obtain ⟨item, found⟩ := Registry.exists_get?_of_contains contained
          cases Operation.glyphRequest?_eq_some_iff.mp asked
          have answer := slotOf?_request request found (fontsExtend_run _ rest) held
          rw [Option.map_some, Option.toList_some, Option.toList_some, List.map_singleton, answer]

/--
How a run answers the requests that it makes of a font. The place of a glyph in the order of first
requests, those of the whole run taken together, gives its slot.
-/
structure AnswersInOrder (doc : Document) (capacity : Nat) (font : Id .font)
    (operations : List Operation) : Prop where
  /-- A font that is not there has no slots to give. -/
  absent : ∀ {before after : List Operation} {request : GlyphRequest},
    operations = before ++ request.operation font :: after →
    (doc.run before).2.fonts.get? font = none →
    (doc.run before).2.apply (request.operation font) =
      (.error (.unknownResource .font font.index), (doc.run before).2)
  missing : ∀ {before after : List Operation} {request : GlyphRequest} {item : FontItem},
    operations = before ++ request.operation font :: after →
    (doc.run before).2.fonts.get? font = some item → request.glyph? item.face = none →
    (doc.run before).2.apply (request.operation font) =
      (.error (.glyphNotFound font.index request.codePoint), (doc.run before).2)
  given : ∀ {before after : List Operation} {request : GlyphRequest} {item : FontItem}
    {glyph : GlyphId}, operations = before ++ request.operation font :: after →
    (doc.run before).2.fonts.get? font = some item → request.glyph? item.face = some glyph →
    glyph ∈ GlyphRequest.glyphsInOrder item.face (doc.requests font operations) ∧
    ∃ slot, ((doc.run before).2.apply (request.operation font)).1 = .ok (.slot slot) ∧
      slot.position < 256 ∧
      ∀ place, (GlyphRequest.glyphsInOrder item.face
          (doc.requests font operations))[place]? = some glyph →
        slot = ⟨place / capacity, place % capacity⟩
  counted : ∀ {item : FontItem}, (doc.run operations).2.fonts.get? font = some item →
    (doc.run operations).2.apply (.fontSubsetCount font) =
      (.ok (.count (((GlyphRequest.glyphsInOrder item.face
        (doc.requests font operations)).length + capacity - 1) / capacity)),
        (doc.run operations).2)

theorem FontsAgree.apply_fontSubsetCount (agree : doc.FontsAgree)
    (found : doc.fonts.get? font = some item) :
    doc.apply (.fontSubsetCount font) = (.ok (.count item.slots.subsetCount), doc) := by
  have got := Registry.get_eq_ok_iff.mpr found
  simp [Document.apply, perform, fontSubsetCount, got, agree.count found, Except.map]

theorem answersInOrder_run (agree : doc.FontsAgree) (remembers : doc.Remembers font [])
    (operations : List Operation) :
    doc.AnswersInOrder (max 1 (min 255 doc.options.subsetCapacity)) font operations where
  absent := fun _ absent => apply_request_absent absent _
  missing := fun _ found missing => apply_request_missing found missing
  given := by
    rintro before after request item glyph rfl found shown
    have extend := fontsExtend_run ((doc.run before).2.apply (request.operation font)).2 after
    have final := (fontsExtend_apply _ (request.operation font)).trans extend
    obtain ⟨last, held, face, -⟩ := final.kept found
    have whole : (doc.run (before ++ request.operation font :: after)).2.fonts.get? font =
        some last := by
      rw [run_append]
      exact held
    obtain ⟨place, taken, answered⟩ := exists_place_of_request found shown extend held
    have ordered := (remembers.run (before ++ request.operation font :: after)).glyphs whole
    have capacity := (agree.run _).capacity whole
    rw [(doc.fontsExtend_run _).options] at capacity
    rw [List.nil_append, face] at ordered
    rw [← ordered]
    refine ⟨List.mem_iff_getElem?.mpr ⟨place, taken⟩, _, answered, ?_, fun other also => ?_⟩
    · have inside := Nat.mod_lt place last.slots.capacity_pos
      have largest : last.slots.capacity ≤ 255 := last.slots.capacity_le_largest
      show place % last.slots.capacity < 256
      omega
    · rw [Slots.eq_of_glyphs also taken, Slots.slotAt, capacity]
      rfl
  counted := by
    intro item found
    have ordered := (remembers.run operations).glyphs found
    have capacity := (agree.run operations).capacity found
    rw [(doc.fontsExtend_run operations).options] at capacity
    rw [(agree.run operations).apply_fontSubsetCount found, ← List.nil_append (requests _ _ _),
      ← ordered, Slots.length_glyphs, Slots.subsetCount, capacity]
    rfl

/-- What a run asks of a font decides its answers, whatever else happens in it. -/
theorem answers_eq_of_requests {other : Document} {elsewhere : Id .font} {held : FontItem}
    {operations others : List Operation} (agree : doc.FontsAgree) (also : other.FontsAgree)
    (remembers : doc.Remembers font []) (likewise : other.Remembers elsewhere [])
    (capacity : max 1 (min 255 doc.options.subsetCapacity) =
      max 1 (min 255 other.options.subsetCapacity))
    (found : (doc.run operations).2.fonts.get? font = some item)
    (known : (other.run others).2.fonts.get? elsewhere = some held)
    (face : item.face = held.face)
    (requests : doc.requests font operations = other.requests elsewhere others) :
    doc.answers font operations = other.answers elsewhere others := by
  have ordered := (remembers.run operations).glyphs found
  have orderedAlso := (likewise.run others).glyphs known
  have fits := (agree.run operations).capacity found
  have fitsAlso := (also.run others).capacity known
  rw [(doc.fontsExtend_run operations).options] at fits
  rw [(other.fontsExtend_run others).options] at fitsAlso
  have slots : item.slots.get? = held.slots.get? := by
    refine Slots.get?_congr ?_ (fits.trans (capacity.trans fitsAlso.symm))
    rw [ordered, orderedAlso, face, requests]
  rw [answers_eq operations found, answers_eq others known, face, slots, requests]

/--
Whatever a run asks for, of any number of fonts and in between of anything else, a font answers as
the order of its own requests has it. So do fonts of one face in two runs with one capacity, if
the runs ask the same of them.
-/
theorem answersInOrder_withConverter (options : DocumentOptions)
    (converter : Color → DeviceSpace → Color) (font : Id .font) (operations : List Operation) :
    (withConverter options converter).AnswersInOrder (max 1 (min 255 options.subsetCapacity)) font
        operations ∧
      ∀ {otherOptions : DocumentOptions} {otherConverter : Color → DeviceSpace → Color}
        {other : Id .font} {others : List Operation} {item held : FontItem},
        max 1 (min 255 options.subsetCapacity) = max 1 (min 255 otherOptions.subsetCapacity) →
        ((withConverter options converter).run operations).2.fonts.get? font = some item →
        ((withConverter otherOptions otherConverter).run others).2.fonts.get? other = some held →
        item.face = held.face →
        (withConverter options converter).requests font operations =
          (withConverter otherOptions otherConverter).requests other others →
        (withConverter options converter).answers font operations =
          (withConverter otherOptions otherConverter).answers other others := by
  have agree := fontsAgree_withConverter options converter
  have remembers := remembers_withConverter options converter font
  refine ⟨answersInOrder_run agree remembers operations, ?_⟩
  intro otherOptions otherConverter other others item held capacity found known face requests
  exact answers_eq_of_requests agree (fontsAgree_withConverter otherOptions otherConverter)
    remembers (remembers_withConverter otherOptions otherConverter other) capacity found known
    face requests

/-- A run that asks for glyphs of two fonts in turn, and for some that are not there. -/
def inTurn : List Operation :=
  [.charSlot ⟨1⟩ 'B', .addFont monospaceFace, .addFont monospaceFace, .charSlot ⟨0⟩ 'A',
    .charSlot ⟨1⟩ 'B', .charSlot ⟨0⟩ 'C', .glyphSlot ⟨1⟩ 0 none, .charSlot ⟨1⟩ 'A', .pageCount,
    .charSlot ⟨0⟩ 'D', .charSlot ⟨1⟩ 'C', .glyphSlot ⟨1⟩ 66 none]

def alone : List Operation :=
  [.addFont monospaceFace, .charSlot ⟨0⟩ 'B', .glyphSlot ⟨0⟩ 0 none, .charSlot ⟨0⟩ 'A',
    .charSlot ⟨0⟩ 'C', .glyphSlot ⟨0⟩ 66 none]

theorem answersInOrder_withConverter_inTurn :
    (withConverter pairOptions Color.convertDevice).answers ⟨1⟩ inTurn =
        (withConverter pairOptions Color.convertDevice).answers ⟨0⟩ alone ∧
      (withConverter pairOptions Color.convertDevice).answers ⟨0⟩ alone =
        [some ⟨0, 0⟩, none, some ⟨0, 1⟩, some ⟨1, 0⟩, some ⟨0, 0⟩] := by
  have found : ∃ item, ((withConverter pairOptions Color.convertDevice).run inTurn).2.fonts.get?
      ⟨1⟩ = some item ∧ item.face = monospaceFace := ⟨_, rfl, rfl⟩
  have known : ∃ item, ((withConverter pairOptions Color.convertDevice).run alone).2.fonts.get?
      ⟨0⟩ = some item ∧ item.face = monospaceFace := ⟨_, rfl, rfl⟩
  obtain ⟨item, found, face⟩ := found
  obtain ⟨held, known, same⟩ := known
  obtain ⟨-, decides⟩ :=
    answersInOrder_withConverter pairOptions Color.convertDevice ⟨1⟩ inTurn
  exact ⟨decides rfl found known (face.trans same.symm) rfl, rfl⟩

end Document

end Folio
