import Folio.Proofs.OutlineTree
import Folio.Proofs.Truncation

/-!
Finalization of a document that was built by operations. Each place that is reserved on the way is
filled when its turn comes, no object is null, and what remains to stop the work is a destination
that runs full or a face without a font program.
-/

namespace Folio

open Build

def Build.fillOr (refused : Build Unit) (target : Ref) (record : Record) : Build Unit := do
  let doc ← get
  match doc.store.fill target record with
  | (true, store) => set { doc with store }
  | (false, _) => refused

namespace Document

section FillingBy

variable (fill : Ref → Record → Build Unit)

/-! Completing a document, with the way in which places are filled left open. -/

def fillOutlineItemBy (root : Ref) (entry : Id .outline × OutlineItem) : Build Unit := do
  let found ← Build.ofExcept ((← get).outlineEntry root entry.1 entry.2)
  fill (outlineRef root entry.1) (.object found.value)

def fillOutlineRootBy (root : Ref) : Build (Option Ref) := do
  let doc ← get
  let top := doc.outlineChildren none
  match top.head?, top.getLast? with
  | some first, some last =>
      let outline : Dictionary.Outline :=
        ⟨outlineRef root first, outlineRef root last, doc.outline.size⟩
      fill root (.object outline.value)
      return some root
  | _, _ => return none

def closeOutlineBy : Build (Option Ref) := do
  let entries := (← get).outline.toList
  if entries.isEmpty then return none
  let root ← Build.reserve
  entries.forM fun _ => discard Build.reserve
  entries.forM (fillOutlineItemBy fill root)
  fillOutlineRootBy fill root

def closeStructureBy : Build (Option Ref) := do
  let doc ← get
  if doc.structureItems.isEmpty && !doc.options.tagged then return none
  let root ← Build.reserve
  let tree ← Build.ofExcept doc.parentTree
  let treeRef ← Build.object (tree.value Value.refs)
  let entry : Dictionary.StructTreeRoot := ⟨doc.topStructureItems, treeRef, tree.nextKey⟩
  fill root (.object entry.value)
  return some root

def closeBy : Build Roots := do
  let pages ← Build.reserve
  let outline ← closeOutlineBy fill
  let structure? ← closeStructureBy fill
  let names ← closeNames
  let outputIntents ← closeOutputIntent
  let info ← Build.object (← get).info.value
  let doc ← get
  let catalog : Dictionary.Catalog := {
    pages := pages
    outline := outline
    structTreeRoot := structure?
    names := names.map some
    fields := if doc.placedFields.isEmpty then none else some doc.placedFields
    outputIntents := outputIntents
    language := doc.options.language.map textString }
  let catalogRef ← Build.object catalog.value
  let kids := doc.pages.toList.map fun (_, page) => page.object
  fill pages (.object (Dictionary.pages kids))
  return ⟨pages, structure?, info, catalogRef⟩

end FillingBy

theorem closeBy_fill : closeBy Build.fill = close := rfl

end Document

/-- A way to fill places that does as a store does wherever a place is reserved. -/
def Build.Fills (fill : Ref → Record → Build Unit) : Prop :=
  ∀ {doc : Document} {target : Ref} (record : Record), doc.store.isReserved target →
    (fill target record).run doc = (Build.fill target record).run doc

theorem Build.fills_fillOr (refused : Build Unit) : Fills (fillOr refused) := by
  intro doc target record reserved
  rw [fillOr, run_bind_of_run (run_get doc), Store.fill, if_pos reserved, run_fill, Store.fill,
    if_pos reserved]
  rfl

/-- Steps that come to the same, followed by steps that do so from there. -/
theorem Build.run_bind_congr {α β : Type} {step other : Build α} {next further : α → Build β}
    {doc : Document} (same : step.run doc = other.run doc)
    (sameNext : ∀ {value : α} {after : Document}, other.run doc = .ok value after →
      (next value).run after = (further value).run after) :
    (step >>= next).run doc = (other >>= further).run doc := by
  rw [EStateM.run_bind, EStateM.run_bind, same]
  cases ran : other.run doc with
  | error error after => rfl
  | ok value after => exact sameNext ran

namespace Document

variable {doc : Document} {fill : Ref → Record → Build Unit}

/-- A step after which a place that was reserved is still to be filled. -/
abbrev Spares {α : Type} (target : Ref) (step : Build α) : Prop :=
  Within (fun before after => before.store.isReserved target → after.store.isReserved target) step

section Spares

variable {α β : Type} {target root : Ref}

theorem Spares.bind {step : Build α} {next : α → Build β} (spares : Spares target step)
    (further : ∀ value, Spares target (next value)) : Spares target (step >>= next) :=
  Within.bind (fun keeps keepsOn => keepsOn ∘ keeps) spares further

theorem spares_pure (value : α) : Spares target (pure value) :=
  within_pure (fun _ => id) value

theorem spares_get : Spares target get :=
  within_get fun _ => id

theorem spares_ofExcept (outcome : Except Error α) : Spares target (Build.ofExcept outcome) :=
  within_ofExcept (fun _ => id) outcome

theorem spares_allocate (record : Record) : Spares target (Build.allocate record) := by
  intro doc after value ran reserved
  cases ran
  rw [Store.isReserved_iff] at reserved ⊢
  exact Store.get?_allocate_of_get? record reserved

theorem spares_forM {step : α → Build PUnit} {entries : List α}
    (spares : ∀ entry, Spares target (step entry)) : Spares target (entries.forM step) := by
  induction entries with
  | nil => exact spares_pure PUnit.unit
  | cons entry rest ih => exact (spares entry).bind fun _ => ih

theorem spares_fill (record : Record) (apart : target.number ≠ root.number) :
    Spares target (Build.fill root record) := by
  intro doc after value ran reserved
  cases ran
  rw [Store.isReserved_fill_of_ne _ apart]
  exact reserved

theorem lt_nextRef (reserved : doc.store.isReserved target) :
    target.number < doc.nextRef.number :=
  Nat.lt_succ_of_le (Store.number_le_size (Store.isReserved_iff.mp reserved))

theorem isReserved_nextRef (doc : Document) :
    (doc.push .reserved).store.isReserved doc.nextRef :=
  Store.isReserved_iff.mpr (get?_push_nextRef doc .reserved)

end Spares

section Outline

variable {target root : Ref}

theorem spares_fillOutlineItem {entry : Id .outline × OutlineItem}
    (apart : target.number ≠ (outlineRef root entry.1).number) :
    Spares target (fillOutlineItem root entry) :=
  spares_get.bind fun _ => (spares_ofExcept _).bind fun _ => spares_fill _ apart

theorem spares_fillOutlineRoot (apart : target.number ≠ root.number) :
    Spares target (fillOutlineRoot root) := by
  apply spares_get.bind
  intro doc
  simp only
  split
  · exact (spares_fill _ apart).bind fun _ => spares_pure _
  · exact spares_pure _

theorem spares_closeOutline : Spares target closeOutline := by
  intro doc after value ran reserved
  rw [closeOutline, run_bind_of_run (run_get doc)] at ran
  by_cases empty : doc.outline.toList.isEmpty
  · simp only [empty, if_true] at ran
    cases ran
    exact reserved
  · simp only [empty, Bool.false_eq_true, if_false] at ran
    rw [run_bind_of_run (run_reserve doc)] at ran
    have before := lt_nextRef reserved
    have filled : Spares target (doc.outline.toList.forM (fillOutlineItem doc.nextRef)) :=
      spares_forM fun entry => spares_fillOutlineItem (by simp only [outlineRef, Ref.first]; omega)
    have rooted : Spares target (fillOutlineRoot doc.nextRef) :=
      spares_fillOutlineRoot (Nat.ne_of_lt before)
    have placed : Spares target (doc.outline.toList.forM fun _ => discard Build.reserve) :=
      spares_forM fun _ => (spares_allocate _).bind fun _ => spares_pure _
    have rest := placed.bind fun _ => filled.bind fun _ => rooted
    exact rest _ _ _ ran (spares_allocate _ _ _ _ (run_reserve doc) reserved)

end Outline

theorem run_fillOutlineItemsBy (fills : Fills fill) {root : Ref}
    {entries : List (Id .outline × OutlineItem)} (apart : (entries.map (·.1.index)).Nodup)
    (reserved : ∀ entry ∈ entries, doc.store.isReserved (outlineRef root entry.1)) :
    (entries.forM (fillOutlineItemBy fill root)).run doc =
      (entries.forM (fillOutlineItem root)).run doc := by
  induction entries generalizing doc with
  | nil => rfl
  | cons entry rest ih =>
      obtain ⟨place, places⟩ := List.forall_mem_cons.mp reserved
      obtain ⟨fresh, apart⟩ := List.nodup_cons.mp apart
      have first : (fillOutlineItemBy fill root entry).run doc =
          (fillOutlineItem root entry).run doc := by
        apply run_bind_congr rfl
        intro _ _ ran
        cases ran
        apply run_bind_congr rfl
        intro found after ran
        obtain ⟨-, rfl⟩ := run_ofExcept_eq_ok ran
        exact fills _ place
      apply run_bind_congr first
      intro _ after ran
      apply ih apart
      intro other listed
      have other_ne : (outlineRef root other.1).number ≠ (outlineRef root entry.1).number := by
        intro same
        have index : other.1.index = entry.1.index := Nat.add_left_cancel same
        exact fresh (List.mem_map.mpr ⟨other, listed, index⟩)
      exact spares_fillOutlineItem other_ne _ _ _ ran (places other listed)

theorem run_fillOutlineRootBy (fills : Fills fill) {root : Ref}
    (reserved : doc.store.isReserved root) :
    (fillOutlineRootBy fill root).run doc = (fillOutlineRoot root).run doc := by
  rw [fillOutlineRootBy, fillOutlineRoot, run_bind_of_run (run_get doc),
    run_bind_of_run (run_get doc)]
  simp only
  cases (doc.outlineChildren none).head? with
  | none => rfl
  | some first =>
      cases (doc.outlineChildren none).getLast? with
      | none => rfl
      | some last => exact run_bind_congr (fills _ reserved) fun _ => rfl

theorem run_closeOutlineBy (fills : Fills fill) (doc : Document) :
    (closeOutlineBy fill).run doc = closeOutline.run doc := by
  rw [closeOutlineBy, closeOutline, run_bind_of_run (run_get doc), run_bind_of_run (run_get doc)]
  by_cases empty : doc.outline.toList.isEmpty
  · simp only [empty, if_true]
  · simp only [empty, Bool.false_eq_true, if_false]
    have start : Build.reserve.run doc = .ok doc.nextRef (doc.pushAll [.reserved]) := by
      have reserve := run_reserve_pushAll doc []
      rwa [pushAll_nil] at reserve
    have placed := run_reserveAll doc [.reserved] doc.outline.toList
    rw [run_bind_of_run start, run_bind_of_run start, run_bind_of_run placed,
      run_bind_of_run placed, List.singleton_append, ← List.replicate_succ]
    have reserved {index : Nat} (inside : index < doc.outline.toList.length + 1) :
        (doc.pushAll (List.replicate (doc.outline.toList.length + 1) .reserved)).store.isReserved
          (.first (doc.store.size + 1 + index)) := by
      rw [Store.isReserved_iff, pushAll, Nat.add_right_comm, Store.get?_append_new,
        List.getElem?_replicate, if_pos inside]
    have apart : (doc.outline.toList.map (·.1.index)).Nodup := by
      rw [Registry.index_toList]
      exact List.nodup_range
    apply run_bind_congr
    · apply run_fillOutlineItemsBy fills apart
      intro entry listed
      have inside : entry.1.index < doc.outline.size :=
        of_decide_eq_true (Registry.contains_of_get? (Registry.mem_toList_iff.mp listed))
      rw [← Registry.length_toList] at inside
      rw [outlineRef, nextRef, Ref.first, Nat.succ_add_eq_add_succ]
      exact reserved (Nat.succ_lt_succ inside)
    · intro _ after ran
      apply run_fillOutlineRootBy fills
      have spares : Spares doc.nextRef (doc.outline.toList.forM (fillOutlineItem doc.nextRef)) := by
        apply spares_forM
        intro entry
        apply spares_fillOutlineItem
        simp only [outlineRef, Ref.first]
        omega
      exact spares _ _ _ ran (reserved (Nat.succ_pos _))

theorem spares_closeStructure {target : Ref} : Spares target closeStructure := by
  intro doc after value ran reserved
  rw [closeStructure, run_bind_of_run (run_get doc)] at ran
  by_cases untagged : doc.structureItems.isEmpty && !doc.options.tagged
  · simp only [untagged, if_true] at ran
    cases ran
    exact reserved
  · simp only [untagged, Bool.false_eq_true, if_false] at ran
    rw [run_bind_of_run (run_reserve doc)] at ran
    obtain ⟨tree, -, ran⟩ := run_check_bind_eq_ok ran
    cases ran
    rw [Store.isReserved_fill_of_ne _ (Nat.ne_of_lt (lt_nextRef reserved))]
    exact spares_allocate _ _ _ _ (run_object _ _)
      (spares_allocate _ _ _ _ (run_reserve doc) reserved)

theorem run_closeStructureBy (fills : Fills fill) (doc : Document) :
    (closeStructureBy fill).run doc = closeStructure.run doc := by
  rw [closeStructureBy, closeStructure, run_bind_of_run (run_get doc),
    run_bind_of_run (run_get doc)]
  by_cases untagged : doc.structureItems.isEmpty && !doc.options.tagged
  · simp only [untagged, if_true]
  · simp only [untagged, Bool.false_eq_true, if_false]
    rw [run_bind_of_run (run_reserve doc), run_bind_of_run (run_reserve doc)]
    apply run_bind_congr rfl
    intro tree after ran
    obtain ⟨-, rfl⟩ := run_ofExcept_eq_ok ran
    apply run_bind_congr rfl
    intro treeRef after ran
    exact run_bind_congr (fills _ (spares_allocate _ _ _ _ ran doc.isReserved_nextRef)) fun _ => rfl

theorem spares_closeNames {target : Ref} : Spares target closeNames := by
  apply spares_get.bind
  intro doc
  split
  · exact spares_pure _
  · exact (spares_allocate _).bind fun _ => spares_pure _

theorem spares_closeOutputIntent {target : Ref} : Spares target closeOutputIntent := by
  apply spares_get.bind
  intro doc
  split
  · exact spares_pure _
  · exact (spares_ofExcept _).bind fun _ => (spares_allocate _).bind fun _ => spares_pure _

theorem run_closeBy (fills : Fills fill) (doc : Document) :
    (closeBy fill).run doc = close.run doc := by
  rw [← closeBy_fill, closeBy, closeBy]
  rw [run_bind_of_run (run_reserve doc), run_bind_of_run (run_reserve doc)]
  apply run_bind_congr (run_closeOutlineBy fills _)
  intro outline outlined ran
  have reserved := spares_closeOutline _ _ _ ran doc.isReserved_nextRef
  apply run_bind_congr (run_closeStructureBy fills _)
  intro structure? structured ran
  replace reserved := spares_closeStructure _ _ _ ran reserved
  apply run_bind_congr rfl
  intro names named ran
  replace reserved := spares_closeNames _ _ _ ran reserved
  apply run_bind_congr rfl
  intro intents intended ran
  replace reserved := spares_closeOutputIntent _ _ _ ran reserved
  rw [run_bind_of_run (run_get intended), run_bind_of_run (run_get intended)]
  apply run_bind_congr rfl
  intro info informed ran
  replace reserved := spares_allocate _ _ _ _ ran reserved
  rw [run_bind_of_run (run_get informed), run_bind_of_run (run_get informed)]
  apply run_bind_congr rfl
  intro catalog cataloged ran
  replace reserved := spares_allocate _ _ _ _ ran reserved
  exact run_bind_congr (fills _ reserved) fun _ => rfl

theorem bind_ne_ok {α β : Type} {outcome : Except Error α} {next : α → Except Error β}
    {value : β} (differs : ∀ found, next found ≠ .ok value) : (outcome >>= next) ≠ .ok value := by
  cases outcome with
  | error error => nofun
  | ok found => exact differs found

theorem ofStream_ne_value {deflate : Bytes → Bytes} {compress : Bool} {entries : List Entry}
    {filter : Option Name} {data : Bytes} {value : Value} :
    (.ok (Body.ofStream deflate compress entries filter data) : Except Error Body) ≠
      .ok (.value value) := by
  cases compress with
  | false => nofun
  | true => nofun

/-- Null is written only for a place that was never filled, and for an object that is null. -/
theorem body_ne_null (doc : Document) (roots : Roots) (deflate : Bytes → Bytes) {record : Record}
    (filled : record ≠ .reserved) (solid : record ≠ .object .null) :
    doc.body roots deflate record ≠ .ok (.value .null) := by
  cases record with
  | reserved => contradiction
  | object value =>
      intro same
      rw [Body.value.inj (Except.ok.inj same)] at solid
      contradiction
  | stored entries filter data => exact ofStream_ne_value
  | deflated entries data => exact ofStream_ne_value
  | subset part key =>
      apply bind_ne_ok
      intro subset
      cases part with
      | program => exact bind_ne_ok fun program => ofStream_ne_value
      | descriptor => nofun
      | toUnicode => exact ofStream_ne_value
      | cidFont => nofun
      | font => exact bind_ne_ok fun font => nofun
  | page id => exact bind_ne_ok fun page => bind_ne_ok fun entry => nofun
  | checkbox id =>
      exact bind_ne_ok fun item => bind_ne_ok fun page => bind_ne_ok fun entry => nofun
  | annot id =>
      exact bind_ne_ok fun item => bind_ne_ok fun page => bind_ne_ok fun entry => nofun
  | structureItem id =>
      exact bind_ne_ok fun item => bind_ne_ok fun parent => bind_ne_ok fun marked => nofun

/--
Why a file cannot be finished: its destination has room for less than all of it, or it has the
program of a font subset whose face gives none.
-/
inductive Obstacle (closed : Document) (sink : Sink) (whole : Bytes) : Error → Prop
  | full {limit : Nat} (bounded : sink.room = some limit) (short : limit < whole.length) :
      Obstacle closed sink whole .io
  | program {number : Nat} {key : SubsetKey} {subset : OpenSubset} {cause : LoadError}
      (stored : closed.store.get? (.first number) = some (.subset .program key))
      (opened : closed.openSubset? key = .ok subset)
      (refused : subset.font.face.subset (subset.glyphs.map AssignedGlyph.glyph) = .error cause) :
      Obstacle closed sink whole
        (.load ("subset " ++ toString key.subset ++ " of " ++ subset.font.face.name) cause)

/-- How a document is completed, and what can go wrong from there. -/
structure Finalizes (doc closed : Document) (roots : Roots) (means : Means) (sink : Sink) :
    Prop where
  closing : close.run doc = .ok roots closed
  filled : ∀ refused : Build Unit, (closeBy (Build.fillOr refused)).run doc = .ok roots closed
  complete : ∀ target, closed.store.get? target ≠ some .reserved
  solid : ∀ {target : Ref} {record : Record}, closed.store.get? target = some record →
    closed.body roots means.deflate record ≠ .ok (.value .null)
  written : doc.finalize means sink = closed.write roots means (.start sink)
  obstacle : ∀ {error : Error}, (doc.finalize means sink).failure = some error →
    closed.Obstacle sink (doc.finalize means .unbounded).out error

theorem Sound.obstacle (sound : doc.Sound) (agree : doc.FontsAgree) {closed : Document}
    {roots : Roots} (closing : close.run doc = .ok roots closed) (means : Means) (sink : Sink)
    {error : Error} (failed : (doc.finalize means sink).failure = some error) :
    closed.Obstacle sink (doc.finalize means .unbounded).out error := by
  have unprogrammed {unbounded : Sink} (takes : unbounded.TakesAll)
      (failed : (doc.finalize means unbounded).failure = some error) :
      closed.Obstacle sink (doc.finalize means .unbounded).out error := by
    obtain ⟨_, _, bodies, key, cause, closes, stored, unprogrammed, -, stopped, -⟩ :=
      sound.endsAtProgram agree takes failed
    rw [closing] at closes
    cases closes
    obtain ⟨subset, reason, opened, refused, same⟩ := unprogrammed
    rw [failed, Option.some.injEq] at stopped
    rw [stopped, same]
    exact .program stored opened refused
  cases bounded : sink.room with
  | none => exact unprogrammed bounded failed
  | some limit =>
      have cut := (doc.truncates_finalize means bounded Sink.takesAll_unbounded).failure
      rw [failed] at cut
      split at cut
      · next short =>
        cases cut
        exact .full bounded short
      · exact unprogrammed Sink.takesAll_unbounded cut.symm

/--
Whatever was asked of a document, its finalization comes to the point where objects are written:
all places are filled, each at its time, and no object is null. From there only the destination or
a font can stop it.
-/
theorem finalizes_run (options : DocumentOptions) (converter : Color → DeviceSpace → Color)
    (operations : List Operation) (means : Means) (sink : Sink) :
    ∃ roots closed,
      ((withConverter options converter).run operations).2.Finalizes closed roots means sink := by
  have sound := sound_run options converter operations
  have agree := (fontsAgree_withConverter options converter).run operations
  have proper := (proper_withConverter options converter).run operations
  obtain ⟨roots, closed, closing, closes⟩ := sound.exists_closed
  refine ⟨roots, closed, closing, fun refused => ?_, closes.ne_reserved sound, ?_, ?_, ?_⟩
  · rw [run_closeBy (fills_fillOr refused), closing]
  · intro target record found
    refine closed.body_ne_null roots means.deflate ?_ ?_
    · rintro rfl
      exact closes.ne_reserved sound target found
    · rintro rfl
      have barred : ¬(Record.object .null).IsDictionary := nofun
      have solid := proper target _ (closes.adds.get?_of_get? barred found)
      contradiction
  · exact finalize_eq_write closing means sink
  · exact sound.obstacle agree closing means sink

end Document

end Folio
