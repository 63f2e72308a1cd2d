import Folio.Proofs.Fonts

/-!
What every document that was built by operations keeps true of its fonts, and what never changes
about a font while more is asked of the document.
-/

namespace Folio

namespace Document

/-- The fonts of a document, the objects of their subsets and the shared encoding agree. -/
structure FontsAgree (doc : Document) : Prop where
  capacity : ∀ {id : Id .font} {item : FontItem}, doc.fonts.get? id = some item →
    item.slots.capacity = (Slots.ofCapacity doc.options.subsetCapacity).capacity
  count : ∀ {id : Id .font} {item : FontItem}, doc.fonts.get? id = some item →
    item.subsets.length = item.slots.subsetCount
  held : ∀ {id : Id .font} {item : FontItem} {subset : Nat} {objects : SubsetObjects},
    doc.fonts.get? id = some item → item.subsets[subset]? = some objects →
    ∀ part, doc.store.get? (objects.ref part) = some (.subset part ⟨id, subset⟩)
  only : ∀ {number : Nat} {part : SubsetPart} {key : SubsetKey},
    doc.store.get? (.first number) = some (.subset part key) →
    ∃ item objects, doc.fonts.get? key.font = some item ∧
      item.subsets[key.subset]? = some objects ∧ objects.ref part = .first number
  encoding : ∀ {target : Ref}, doc.encoding = some target →
    target.generation = 0 ∧ doc.store.get? target = some (encodingRecord doc.options)
  unopened : ∀ {id : Id .font} {item : FontItem}, doc.encoding = none →
    doc.fonts.get? id = some item → item.subsets = []

theorem FontsAgree.of_sameFonts {before after : Document} (agree : before.FontsAgree)
    (same : before.SameFonts after) : after.FontsAgree where
  capacity := by
    intro id item found
    rw [same.fonts] at found
    rw [same.options]
    exact agree.capacity found
  count := by
    intro id item found
    rw [same.fonts] at found
    exact agree.count found
  held := by
    intro id item subset objects found opened part
    rw [same.fonts] at found
    exact same.store.kept (agree.held found opened part)
  only := by
    intro number part key found
    rw [same.fonts]
    exact agree.only (same.get?_subset found)
  encoding := by
    intro target held
    rw [same.encoding] at held
    rw [same.options]
    exact ⟨(agree.encoding held).1, same.store.kept (agree.encoding held).2⟩
  unopened := by
    intro id item absent found
    rw [same.encoding] at absent
    rw [same.fonts] at found
    exact agree.unopened absent found

theorem fontsAgree_withConverter (options : DocumentOptions)
    (converter : Color → DeviceSpace → Color) : (withConverter options converter).FontsAgree where
  capacity := fun found => Option.noConfusion rfl (heq_of_eq found)
  count := fun found => Option.noConfusion rfl (heq_of_eq found)
  held := fun found => Option.noConfusion rfl (heq_of_eq found)
  only := by
    intro number part key found
    cases number with
    | zero => contradiction
    | succ index => contradiction
  encoding := fun held => Option.noConfusion rfl (heq_of_eq held)
  unopened := fun _ found => Option.noConfusion rfl (heq_of_eq found)

theorem FontsAgree.addFont {doc : Document} (agree : doc.FontsAgree) (face : Face) :
    { doc with fonts := (doc.fonts.register
        ⟨face, .ofCapacity doc.options.subsetCapacity, []⟩).2 }.FontsAgree where
  capacity := by
    intro id item found
    rw [Registry.get?_register] at found
    split at found
    · cases found
      rfl
    · exact agree.capacity found
  count := by
    intro id item found
    rw [Registry.get?_register] at found
    split at found
    · cases found
      exact (Slots.subsetCount_ofCapacity _).symm
    · exact agree.count found
  held := by
    intro id item subset objects found opened part
    rw [Registry.get?_register] at found
    split at found
    · cases found
      contradiction
    · exact agree.held found opened part
  only := by
    intro number part key found
    obtain ⟨item, objects, known, opened, same⟩ := agree.only found
    refine ⟨item, objects, ?_, opened, same⟩
    rw [Registry.get?_register_old _ _ (Registry.contains_of_get? known)]
    exact known
  encoding := agree.encoding
  unopened := by
    intro id item absent found
    rw [Registry.get?_register] at found
    split at found
    · cases found
      rfl
    · exact agree.unopened absent found

theorem FontsAgree.encoded {doc : Document} (agree : doc.FontsAgree) : doc.encoded.FontsAgree := by
  rw [Document.encoded]
  cases absent : doc.encoding with
  | some target => exact agree
  | none =>
      have plain : (encodingRecord doc.options).isSubset = false :=
        Record.not_isSubset_of_isPlain (Record.isPlain_stream _ _ _)
      have pushed := agree.of_sameFonts (doc.sameFonts_push plain)
      refine ⟨pushed.capacity, pushed.count, pushed.held, pushed.only, ?_, ?_⟩
      · intro target held
        cases held
        exact ⟨rfl, doc.store.get?_allocate_new _⟩
      · intro id item missing
        contradiction

theorem encoding_encoded (doc : Document) : doc.encoded.encoding ≠ none := by
  rw [encoded]
  cases held : doc.encoding with
  | some target =>
      intro absent
      rw [Option.isNone_some, if_neg Bool.false_ne_true, held] at absent
      contradiction
  | none => exact Option.some_ne_none _

theorem get?_withSubset (doc : Document) (key : SubsetKey) (target : Ref) :
    (doc.withSubset key).store.get? target =
      if target.number = doc.store.size + 5 then some (.subset .font key)
      else if target.number = doc.store.size + 4 then some (.subset .cidFont key)
      else if target.number = doc.store.size + 3 then some (.subset .toUnicode key)
      else if target.number = doc.store.size + 2 then some (.subset .descriptor key)
      else if target.number = doc.store.size + 1 then some (.subset .program key)
      else doc.store.get? target := by
  simp [withSubset, push, Store.get?_allocate]

theorem get?_withSubset_of_get? {doc : Document} {target : Ref} {record : Record}
    (key : SubsetKey) (found : doc.store.get? target = some record) :
    (doc.withSubset key).store.get? target = some record := by
  have bound := Store.number_le_size found
  rw [get?_withSubset, if_neg (by omega), if_neg (by omega), if_neg (by omega),
    if_neg (by omega), if_neg (by omega)]
  exact found

theorem get?_withSubset_ref (doc : Document) (key : SubsetKey) (part : SubsetPart) :
    (doc.withSubset key).store.get? ((SubsetObjects.firstAt (doc.store.size + 1)).ref part) =
      some (.subset part key) := by
  rw [get?_withSubset]
  cases part with
  | program => simp [SubsetObjects.ref, SubsetObjects.firstAt, Ref.first]
  | descriptor => simp [SubsetObjects.ref, SubsetObjects.firstAt, Ref.first]
  | toUnicode => simp [SubsetObjects.ref, SubsetObjects.firstAt, Ref.first]
  | cidFont => simp [SubsetObjects.ref, SubsetObjects.firstAt, Ref.first]
  | font => simp [SubsetObjects.ref, SubsetObjects.firstAt, Ref.first]

theorem get?_withSubset_cases {doc : Document} {key other : SubsetKey} {number : Nat}
    {part : SubsetPart}
    (found : (doc.withSubset key).store.get? (.first number) = some (.subset part other)) :
    doc.store.get? (.first number) = some (.subset part other) ∨
      other = key ∧
        (SubsetObjects.firstAt (doc.store.size + 1)).ref part = .first number := by
  rw [get?_withSubset] at found
  have five (last : SubsetPart) (offset : Nat) (place : number = doc.store.size + offset)
      (same : some (Record.subset last key) = some (Record.subset part other))
      (spelled : (SubsetObjects.firstAt (doc.store.size + 1)).ref last =
        .first (doc.store.size + offset)) :
      other = key ∧
        (SubsetObjects.firstAt (doc.store.size + 1)).ref part = .first number := by
    cases same
    rw [place]
    exact ⟨rfl, spelled⟩
  split at found
  · next place => exact .inr (five .font 5 place found rfl)
  split at found
  · next place => exact .inr (five .cidFont 4 place found rfl)
  split at found
  · next place => exact .inr (five .toUnicode 3 place found rfl)
  split at found
  · next place => exact .inr (five .descriptor 2 place found rfl)
  split at found
  · next place => exact .inr (five .program 1 place found rfl)
  · exact .inl found

theorem get?_withFont {doc : Document} {id : Id .font} {item : FontItem} (later : FontItem)
    (found : doc.fonts.get? id = some item) (other : Id .font) :
    (doc.withFont id later).fonts.get? other =
      if other = id then some later else doc.fonts.get? other :=
  Registry.get?_replaced later other (Registry.contains_of_get? found)

theorem store_withFont (doc : Document) (id : Id .font) (item : FontItem) :
    (doc.withFont id item).store = doc.store := rfl

theorem get?_withSubset_withFont {doc : Document} {id : Id .font} {item : FontItem}
    (key : SubsetKey) (later : FontItem) (found : doc.fonts.get? id = some item)
    (other : Id .font) :
    ((doc.withSubset key).withFont id later).fonts.get? other =
      if other = id then some later else doc.fonts.get? other :=
  @get?_withFont (doc.withSubset key) id item later found other

theorem FontsAgree.withFont {doc : Document} {id : Id .font} {item later : FontItem}
    (agree : doc.FontsAgree) (found : doc.fonts.get? id = some item)
    (capacity : later.slots.capacity = item.slots.capacity)
    (count : later.slots.subsetCount = item.slots.subsetCount)
    (subsets : later.subsets = item.subsets) : (doc.withFont id later).FontsAgree where
  capacity := by
    intro other held known
    rw [get?_withFont later found] at known
    split at known
    · cases known
      exact capacity.trans (agree.capacity found)
    · exact agree.capacity known
  count := by
    intro other held known
    rw [get?_withFont later found] at known
    split at known
    · cases known
      rw [subsets, count]
      exact agree.count found
    · exact agree.count known
  held := by
    intro other held subset objects known opened part
    rw [get?_withFont later found] at known
    split at known
    · next same =>
      cases known
      rw [subsets] at opened
      rw [same]
      exact agree.held found opened part
    · exact agree.held known opened part
  only := by
    intro number part key stored
    obtain ⟨held, objects, known, opened, spelled⟩ := agree.only stored
    rw [get?_withFont later found]
    by_cases same : key.font = id
    · rw [same] at known
      rw [known] at found
      cases found
      rw [if_pos same]
      exact ⟨later, objects, rfl, subsets ▸ opened, spelled⟩
    · rw [if_neg same]
      exact ⟨held, objects, known, opened, spelled⟩
  encoding := agree.encoding
  unopened := by
    intro other held absent known
    rw [get?_withFont later found] at known
    split at known
    · cases known
      rw [subsets]
      exact agree.unopened absent found
    · exact agree.unopened absent known

theorem FontsAgree.withSubset {doc : Document} {id : Id .font} {item later : FontItem}
    (agree : doc.FontsAgree) (encoded : doc.encoding ≠ none)
    (found : doc.fonts.get? id = some item)
    (capacity : later.slots.capacity = item.slots.capacity)
    (count : later.slots.subsetCount = item.slots.subsetCount + 1)
    (subsets : later.subsets = item.subsets ++ [.firstAt (doc.store.size + 1)]) :
    ((doc.withSubset ⟨id, item.slots.subsetCount⟩).withFont id later).FontsAgree where
  capacity := by
    intro other held known
    rw [get?_withSubset_withFont _ later found] at known
    split at known
    · cases known
      exact capacity.trans (agree.capacity found)
    · exact agree.capacity known
  count := by
    intro other held known
    rw [get?_withSubset_withFont _ later found] at known
    split at known
    · cases known
      rw [subsets, count, List.length_append, agree.count found]
      rfl
    · exact agree.count known
  held := by
    intro other held subset objects known opened part
    rw [get?_withSubset_withFont _ later found] at known
    split at known
    · next same =>
      cases known
      rw [same]
      rw [subsets] at opened
      rcases Nat.lt_or_ge subset item.subsets.length with old | new
      · rw [List.getElem?_append_left old] at opened
        rw [store_withFont]
        exact get?_withSubset_of_get? _ (agree.held found opened part)
      · rw [List.getElem?_append_right new] at opened
        obtain ⟨bound, last⟩ := List.getElem?_eq_some_iff.mp opened
        rw [List.length_singleton] at bound
        have place : subset = item.slots.subsetCount := by
          rw [← agree.count found]
          omega
        rw [List.getElem_singleton] at last
        rw [place, ← last, store_withFont]
        exact get?_withSubset_ref doc _ part
    · rw [store_withFont]
      exact get?_withSubset_of_get? _ (agree.held known opened part)
  only := by
    intro number part key stored
    rw [get?_withSubset_withFont _ later found]
    rw [store_withFont] at stored
    rcases get?_withSubset_cases stored with old | ⟨rfl, spelled⟩
    · obtain ⟨held, objects, known, opened, spelled⟩ := agree.only old
      by_cases same : key.font = id
      · rw [same] at known
        rw [known] at found
        cases found
        obtain ⟨bound, -⟩ := List.getElem?_eq_some_iff.mp opened
        rw [if_pos same]
        refine ⟨later, objects, rfl, ?_, spelled⟩
        rw [subsets, List.getElem?_append_left bound]
        exact opened
      · rw [if_neg same]
        exact ⟨held, objects, known, opened, spelled⟩
    · rw [if_pos rfl]
      refine ⟨later, _, rfl, ?_, spelled⟩
      show later.subsets[item.slots.subsetCount]? = _
      rw [subsets, ← agree.count found, List.getElem?_append_right (Nat.le_refl _), Nat.sub_self]
      rfl
  encoding := by
    intro target held
    rw [store_withFont]
    exact ⟨(agree.encoding held).1, get?_withSubset_of_get? _ (agree.encoding held).2⟩
  unopened := by
    intro other held absent
    exact absurd absent encoded

theorem FontsAgree.withGlyph {doc : Document} {id : Id .font} {item : FontItem}
    (agree : doc.FontsAgree) (found : doc.fonts.get? id = some item) (glyph : GlyphId)
    (char : Option Char) : (doc.withGlyph id item glyph char).FontsAgree := by
  have known : doc.encoded.fonts.get? id = some item := by rwa [fonts_encoded]
  have capacity := (item.slots.extends_assign glyph char).capacity
  have count := item.slots.subsetCount_assign glyph char
  rw [Document.withGlyph]
  split
  · next opened =>
    rw [if_pos opened] at count
    rw [Slots.subset_of_opened _ _ _ opened]
    exact agree.encoded.withSubset doc.encoding_encoded known capacity count rfl
  · next unopened =>
    rw [if_neg unopened] at count
    exact agree.encoded.withFont known capacity count (List.append_nil _)

theorem FontsAgree.step {doc after : Document} (agree : doc.FontsAgree)
    (step : doc.FontStep after) : after.FontsAgree := by
  cases step with
  | same same => exact agree.of_sameFonts same
  | font face => exact agree.addFont face
  | glyph id item glyph char found => exact agree.withGlyph found glyph char

theorem FontsAgree.apply {doc : Document} (agree : doc.FontsAgree) (operation : Operation) :
    (doc.apply operation).2.FontsAgree :=
  agree.step (doc.fontStep_apply operation)

theorem FontsAgree.run {doc : Document} (agree : doc.FontsAgree) (operations : List Operation) :
    (doc.run operations).2.FontsAgree := by
  induction operations generalizing doc with
  | nil => exact agree
  | cons operation rest ih => exact ih (agree.apply operation)

/-- What more operations leave of the fonts: the faces, and every glyph in its slot. -/
structure FontsExtend (before after : Document) : Prop where
  options : after.options = before.options
  kept : ∀ {id : Id .font} {item : FontItem}, before.fonts.get? id = some item →
    ∃ later, after.fonts.get? id = some later ∧ later.face = item.face ∧
      item.slots.Extends later.slots

theorem FontsExtend.refl (doc : Document) : doc.FontsExtend doc :=
  ⟨rfl, fun found => ⟨_, found, rfl, .refl _⟩⟩

theorem FontsExtend.trans {first second third : Document} (extend : first.FontsExtend second)
    (further : second.FontsExtend third) : first.FontsExtend third where
  options := further.options.trans extend.options
  kept := by
    intro id item found
    obtain ⟨middle, foundMiddle, faceMiddle, slotsMiddle⟩ := extend.kept found
    obtain ⟨later, foundLater, faceLater, slotsLater⟩ := further.kept foundMiddle
    exact ⟨later, foundLater, faceLater.trans faceMiddle, slotsMiddle.trans slotsLater⟩

theorem options_withGlyph (doc : Document) (id : Id .font) (item : FontItem) (glyph : GlyphId)
    (char : Option Char) : (doc.withGlyph id item glyph char).options = doc.options := by
  rw [withGlyph]
  split
  · exact doc.options_encoded
  · exact doc.options_encoded

theorem exists_get?_withGlyph {doc : Document} {id : Id .font} {item : FontItem}
    (found : doc.fonts.get? id = some item) (glyph : GlyphId) (char : Option Char) :
    ∃ added, ∀ other, (doc.withGlyph id item glyph char).fonts.get? other =
      if other = id then some (assignedItem item glyph char added)
      else doc.fonts.get? other := by
  have known : doc.encoded.fonts.get? id = some item := by rwa [fonts_encoded]
  rw [withGlyph]
  split
  · refine ⟨[.firstAt (doc.encoded.store.size + 1)], fun other => ?_⟩
    rw [get?_withSubset_withFont _ _ known, fonts_encoded]
  · refine ⟨[], fun other => ?_⟩
    rw [get?_withFont _ known, fonts_encoded]

theorem fontsExtend_withGlyph {doc : Document} {id : Id .font} {item : FontItem}
    (found : doc.fonts.get? id = some item) (glyph : GlyphId) (char : Option Char) :
    doc.FontsExtend (doc.withGlyph id item glyph char) where
  options := doc.options_withGlyph id item glyph char
  kept := by
    intro other held known
    obtain ⟨added, fonts⟩ := exists_get?_withGlyph found glyph char
    rw [fonts]
    by_cases same : other = id
    · rw [same, found] at known
      cases known
      exact ⟨_, if_pos same, rfl, item.slots.extends_assign glyph char⟩
    · exact ⟨held, (if_neg same).trans known, rfl, .refl _⟩

theorem FontStep.extend {doc after : Document} (step : doc.FontStep after) :
    doc.FontsExtend after := by
  cases step with
  | same same =>
      refine ⟨same.options, fun found => ⟨_, ?_, rfl, .refl _⟩⟩
      rw [same.fonts]
      exact found
  | font face =>
      refine ⟨rfl, fun found => ⟨_, ?_, rfl, .refl _⟩⟩
      show (doc.fonts.register _).2.get? _ = _
      rw [Registry.get?_register_old _ _ (Registry.contains_of_get? found)]
      exact found
  | glyph id item glyph char found => exact fontsExtend_withGlyph found glyph char

theorem fontsExtend_apply (doc : Document) (operation : Operation) :
    doc.FontsExtend (doc.apply operation).2 :=
  (doc.fontStep_apply operation).extend

theorem fontsExtend_run (doc : Document) (operations : List Operation) :
    doc.FontsExtend (doc.run operations).2 := by
  induction operations generalizing doc with
  | nil => exact .refl doc
  | cons operation rest ih => exact (doc.fontsExtend_apply operation).trans (ih _)

end Document

end Folio
