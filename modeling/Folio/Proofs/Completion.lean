import Folio.Proofs.Closing
import Folio.Proofs.ParentTree

/-!
The objects that complete a document, for one that was built by operations: nothing goes wrong,
every place that was reserved is filled, and each object is found under its root.
-/

namespace Folio

namespace Store

def append (store : Store) (records : List Record) : Store :=
  ⟨store.records ++ records.toArray⟩

@[simp] theorem append_nil (store : Store) : store.append [] = store := by
  simp [append]

theorem allocate_append (store : Store) (before : List Record) (record : Record) :
    (store.append before).allocate record =
      (.first (store.size + before.length + 1), store.append (before ++ [record])) := by
  simp [append, allocate, size]

theorem get?_append_new (store : Store) (records : List Record) (index : Nat) :
    (store.append records).get? (.first (store.size + index + 1)) = records[index]? := by
  simp [append, get?, size, Ref.first, Array.getElem?_append_right]

theorem fill_append (store : Store) (before after : List Record) (record : Record) :
    ((store.append (before ++ .reserved :: after)).fill
      (.first (store.size + before.length + 1)) record).2 =
        store.append (before ++ record :: after) := by
  have place : (store.append (before ++ .reserved :: after)).get?
      (.first (store.size + before.length + 1)) = some .reserved := by
    rw [get?_append_new, List.getElem?_append_right (Nat.le_refl _), Nat.sub_self]
    rfl
  rw [fill, if_pos (isReserved_iff.mpr place)]
  simp only [append, Ref.first, Nat.add_sub_cancel, mk.injEq]
  rw [← Array.toList_inj]
  simp [size]

theorem adds_append {allowed : Record → Prop} (store : Store) {records : List Record}
    (each : ∀ record ∈ records, allowed record) : store.Adds allowed (store.append records) := by
  induction records generalizing store with
  | nil =>
      rw [append_nil]
      exact .refl _
  | cons record rest ih =>
      obtain ⟨first, others⟩ := List.forall_mem_cons.mp each
      have step := store.adds_allocate first
      have split : store.append (record :: rest) =
          (store.allocate record).2.append rest := by
        simp [append, allocate]
      rw [split]
      exact step.trans (ih _ others)

end Store

def Record.IsDictionary (record : Record) : Prop :=
  ∃ entries, record = .object (.dict entries)

namespace Document

def pushAll (doc : Document) (records : List Record) : Document :=
  { doc with store := doc.store.append records }

theorem run_allocate_pushAll (doc : Document) (before : List Record) (record : Record) :
    (Build.allocate record).run (doc.pushAll before) =
      .ok (.first (doc.store.size + before.length + 1)) (doc.pushAll (before ++ [record])) := by
  show EStateM.Result.ok ((doc.store.append before).allocate record).1
    { doc with store := ((doc.store.append before).allocate record).2 } = _
  rw [Store.allocate_append]
  rfl

theorem run_reserve_pushAll (doc : Document) (before : List Record) :
    Build.reserve.run (doc.pushAll before) =
      .ok (.first (doc.store.size + before.length + 1)) (doc.pushAll (before ++ [.reserved])) :=
  run_allocate_pushAll doc before .reserved

theorem run_object_pushAll (doc : Document) (before : List Record) (value : Value) :
    (Build.object value).run (doc.pushAll before) =
      .ok (.first (doc.store.size + before.length + 1))
        (doc.pushAll (before ++ [.object value])) :=
  run_allocate_pushAll doc before (.object value)

theorem run_fill_pushAll (doc : Document) (before after : List Record) (record : Record) :
    (Build.fill (.first (doc.store.size + before.length + 1)) record).run
      (doc.pushAll (before ++ Record.reserved :: after)) =
        .ok ⟨⟩ (doc.pushAll (before ++ record :: after)) := by
  show EStateM.Result.ok _ { doc with store :=
    ((doc.store.append (before ++ Record.reserved :: after)).fill _ record).2 } = _
  rw [Store.fill_append]
  rfl

/--
A step that puts objects after all others, whatever these are, each of them made as `made` says, so
that its value and the store after it are as `holds` says.
-/
def Lays {α : Type} (doc : Document) (step : Build α) (made : α → Record → Prop)
    (holds : α → Store → Prop) : Prop :=
  ∀ before : List Record, ∃ value added,
    step.run (doc.pushAll before) = .ok value (doc.pushAll (before ++ added)) ∧
      (∀ record ∈ added, made value record) ∧ holds value (doc.store.append (before ++ added))

open Build

variable {doc : Document}

def closeOutlineIn (order : List (Id .outline × OutlineItem)) : Build (Option Ref) := do
  let entries := (← get).outline.toList
  if entries.isEmpty then return none
  let root ← Build.reserve
  entries.forM fun _ => discard Build.reserve
  order.forM (fillOutlineItem root)
  fillOutlineRoot root

def outlineRecord (doc : Document) (root : Ref) (entry : Id .outline × OutlineItem) : Record :=
  match doc.outlineEntry root entry.1 entry.2 with
  | .ok found => .object found.value
  | .error _ => .reserved

def fillOutline (doc : Document) (root : Ref) (store : Store)
    (entry : Id .outline × OutlineItem) : Store :=
  (store.fill (outlineRef root entry.1) (doc.outlineRecord root entry)).2

theorem run_reserveAll {α : Type} (doc : Document) (before : List Record) (entries : List α) :
    (entries.forM fun _ => discard Build.reserve).run (doc.pushAll before) =
      .ok ⟨⟩ (doc.pushAll (before ++ List.replicate entries.length .reserved)) := by
  induction entries generalizing before with
  | nil =>
      rw [List.length_nil, List.replicate_zero, List.append_nil]
      rfl
  | cons entry rest ih =>
      have first : (discard Build.reserve).run (doc.pushAll before) =
          .ok ⟨⟩ (doc.pushAll (before ++ [.reserved])) := by
        show (Function.const Ref PUnit.unit <$> Build.allocate .reserved).run _ = _
        rw [run_map, run_allocate_pushAll]
      show ((discard Build.reserve >>= fun _ => rest.forM _).run _) = _
      rw [run_bind_of_run first, ih, List.length_cons, List.replicate_succ, List.append_assoc]
      rfl

theorem run_fillOutlineItems {root : Ref} {order : List (Id .outline × OutlineItem)}
    (each : ∀ entry ∈ order, ∃ found, doc.outlineEntry root entry.1 entry.2 = .ok found)
    (store : Store) :
    (order.forM (fillOutlineItem root)).run { doc with store } =
      .ok ⟨⟩ { doc with store := order.foldl (doc.fillOutline root) store } := by
  induction order generalizing store with
  | nil => rfl
  | cons entry rest ih =>
      obtain ⟨⟨found, made⟩, others⟩ := List.forall_mem_cons.mp each
      have first : (fillOutlineItem root entry).run { doc with store } =
          .ok ⟨⟩ { doc with store := doc.fillOutline root store entry } := by
        have same : ({ doc with store } : Document).outlineEntry root entry.1 entry.2 =
            .ok found := made
        rw [fillOutlineItem, run_bind_of_run (run_get _), same, fillOutline, outlineRecord, made]
        rfl
      show (fillOutlineItem root entry >>= fun _ => rest.forM _).run _ = _
      rw [run_bind_of_run first, ih others]
      rfl

theorem foldl_fillOutline (store : Store) (root : Ref) {before : List Record}
    {entries : List (Id .outline × OutlineItem)} {start : Nat}
    (consecutive : entries.map (fun entry => entry.1.index) = List.range' start entries.length)
    (place : root.number + 1 + start = store.size + before.length + 1) :
    entries.foldl (doc.fillOutline root)
        (store.append (before ++ List.replicate entries.length .reserved)) =
      store.append (before ++ entries.map (doc.outlineRecord root)) := by
  induction entries generalizing before start with
  | nil => rfl
  | cons entry rest ih =>
      rw [List.map_cons, List.length_cons, List.range'_succ, List.cons.injEq] at consecutive
      obtain ⟨index, consecutive⟩ := consecutive
      have first : doc.fillOutline root
          (store.append (before ++ List.replicate (rest.length + 1) .reserved)) entry =
            store.append ((before ++ [doc.outlineRecord root entry]) ++
              List.replicate rest.length .reserved) := by
        rw [fillOutline, outlineRef, index, place, List.replicate_succ, Store.fill_append,
          List.append_assoc]
        rfl
      rw [List.foldl_cons, List.length_cons, first, ih consecutive (by simp; omega),
        List.append_assoc]
      rfl

/-- The places of items are apart, so it does not matter in which order they are filled. -/
theorem foldl_fillOutline_perm (root : Ref) (store : Store)
    {order : List (Id .outline × OutlineItem)} (perm : order.Perm doc.outline.toList) :
    order.foldl (doc.fillOutline root) store =
      doc.outline.toList.foldl (doc.fillOutline root) store := by
  refine perm.foldl_eq' (fun first inFirst second inSecond store => ?_) store
  by_cases same : first = second
  · rw [same]
  · refine Store.fill_comm store (fun number => same ?_) _ _
    simp only [outlineRef, Ref.first] at number
    have index : first.1.index = second.1.index := by omega
    have found := Registry.mem_toList_iff.mp (perm.subset inFirst)
    have foundSecond := Registry.mem_toList_iff.mp (perm.subset inSecond)
    rw [Registry.get?, index] at found
    exact Prod.ext (Id.eq_of_index_eq index) (Option.some.inj (found.symm.trans foundSecond))

theorem Sound.exists_outlineEntry (sound : doc.Sound) {id : Id .outline} {item : OutlineItem}
    (found : doc.outline.get? id = some item) (root : Ref) :
    ∃ entry, doc.outlineEntry root id item = .ok entry := by
  obtain ⟨page, known⟩ := Registry.exists_get?_of_contains (sound.outlinePages found)
  have got := Registry.get_eq_ok_iff.mpr known
  simp only [outlineEntry, pageRef, got, Except.map, bind, Except.bind, pure, Except.pure]
  exact ⟨_, rfl⟩

theorem mem_outlineChildren_iff {id : Id .outline} {parent : Option (Id .outline)} :
    id ∈ doc.outlineChildren parent ↔
      ∃ item, doc.outline.get? id = some item ∧ item.parent = parent := by
  constructor
  · intro member
    obtain ⟨⟨other, item⟩, listed, rfl⟩ := List.mem_map.mp member
    obtain ⟨registered, below⟩ := List.mem_filter.mp listed
    exact ⟨item, Registry.mem_toList_iff.mp registered, eq_of_beq below⟩
  · rintro ⟨item, found, below⟩
    exact List.mem_map.mpr ⟨(id, item), List.mem_filter.mpr
      ⟨Registry.mem_toList_iff.mpr found, beq_iff_eq.mpr below⟩, rfl⟩

theorem Sound.exists_top (sound : doc.Sound) (outlined : doc.outline.isEmpty = false) :
    ∃ first last, (doc.outlineChildren none).head? = some first ∧
      (doc.outlineChildren none).getLast? = some last := by
  have contained : doc.outline.contains ⟨0⟩ := by
    rw [Registry.isEmpty, Array.isEmpty_eq_false_iff] at outlined
    exact decide_eq_true (Array.size_pos_iff.mpr outlined)
  obtain ⟨item, found⟩ := Registry.exists_get?_of_contains contained
  have parentless : item.parent = none := by
    cases below : item.parent with
    | none => rfl
    | some parent => exact absurd (sound.outlineParents found below) (Nat.not_lt_zero _)
  have member : ⟨0⟩ ∈ doc.outlineChildren none :=
    mem_outlineChildren_iff.mpr ⟨item, found, parentless⟩
  cases children : doc.outlineChildren none with
  | nil =>
      rw [children] at member
      contradiction
  | cons first rest => exact ⟨first, _, rfl, List.getLast?_eq_some_getLast (List.cons_ne_nil _ _)⟩

theorem Sound.run_closeOutlineIn (sound : doc.Sound) (before : List Record)
    {order : List (Id .outline × OutlineItem)} (perm : order.Perm doc.outline.toList)
    {root : Ref} (place : root = .first (doc.store.size + before.length + 1))
    {first last : Id .outline} (head : (doc.outlineChildren none).head? = some first)
    (final : (doc.outlineChildren none).getLast? = some last) :
    (closeOutlineIn order).run (doc.pushAll before) = .ok (some root) (doc.pushAll (before ++
      .object (Dictionary.Outline.value
        ⟨outlineRef root first, outlineRef root last, doc.outline.size⟩) ::
      doc.outline.toList.map (doc.outlineRecord root))) := by
  have each : ∀ entry ∈ order, ∃ found, doc.outlineEntry root entry.1 entry.2 = .ok found :=
    fun entry member =>
      sound.exists_outlineEntry (Registry.mem_toList_iff.mp (perm.subset member)) root
  have outlined : (doc.pushAll before).outline.toList.isEmpty = false := by
    obtain ⟨item, found, -⟩ := mem_outlineChildren_iff.mp (List.mem_of_mem_head? head)
    exact List.isEmpty_eq_false_iff.mpr
      (List.ne_nil_of_mem (Registry.mem_toList_iff.mpr found))
  have reserved := run_reserveAll doc (before ++ [.reserved]) doc.outline.toList
  have consecutive : doc.outline.toList.map (fun entry => entry.1.index) =
      List.range' 0 doc.outline.toList.length := by
    rw [Registry.index_toList, Registry.length_toList, List.range_eq_range']
  have number : root.number + 1 + 0 =
      doc.store.size + (before ++ [Record.reserved]).length + 1 := by
    rw [place, List.length_append]
    rfl
  have filled : (order.forM (fillOutlineItem root)).run (doc.pushAll ((before ++ [.reserved]) ++
      List.replicate doc.outline.toList.length .reserved)) = .ok ⟨⟩ (doc.pushAll
        (before ++ .reserved :: doc.outline.toList.map (doc.outlineRecord root))) := by
    rw [pushAll, run_fillOutlineItems each, foldl_fillOutline_perm root _ perm,
      foldl_fillOutline doc.store root consecutive number, List.append_assoc]
    rfl
  have rooted := run_fill_pushAll doc before (doc.outline.toList.map (doc.outlineRecord root))
    (.object (Dictionary.Outline.value
      ⟨outlineRef root first, outlineRef root last, doc.outline.size⟩))
  rw [← place] at rooted
  have top (records : List Record) :
      (doc.pushAll records).outlineChildren none = doc.outlineChildren none := rfl
  rw [closeOutlineIn, run_bind_of_run (run_get _)]
  simp only [outlined, Bool.false_eq_true, if_false]
  rw [run_bind_of_run (run_reserve_pushAll doc before), ← place]
  have entries : (doc.pushAll before).outline.toList = doc.outline.toList := rfl
  rw [entries, run_bind_of_run reserved, run_bind_of_run filled, fillOutlineRoot,
    run_bind_of_run (run_get _)]
  simp only [top, head, final]
  exact run_bind_of_run rooted

structure OutlineStored (doc : Document) (store : Store) (root : Ref) : Prop where
  first : root = .first root.number
  ends : ∃ first last, (doc.outlineChildren none).head? = some first ∧
    (doc.outlineChildren none).getLast? = some last ∧
      store.get? root = some (.object (Dictionary.Outline.value
        ⟨outlineRef root first, outlineRef root last, doc.outline.size⟩))
  item : ∀ {id : Id .outline} {item : OutlineItem}, doc.outline.get? id = some item →
    ∃ entry, doc.outlineEntry root id item = .ok entry ∧
      store.get? (outlineRef root id) = some (.object entry.value)

/-- An outline is there if there are items for it, and has its objects. -/
structure OutlineIn (doc : Document) (outline : Option Ref) (store : Store) : Prop where
  isSome : outline.isSome = !doc.outline.isEmpty
  stored : ∀ {root : Ref}, outline = some root → doc.OutlineStored store root

/-- What stands for an outline with a given root: the root, and an object for each item. -/
inductive OutlineObject (doc : Document) (outline : Option Ref) : Record → Prop
  | root {root : Ref} {first last : Id .outline} (rooted : outline = some root)
      (head : (doc.outlineChildren none).head? = some first)
      (final : (doc.outlineChildren none).getLast? = some last) :
      OutlineObject doc outline (.object (Dictionary.Outline.value
        ⟨outlineRef root first, outlineRef root last, doc.outline.size⟩))
  | item {root : Ref} {id : Id .outline} {item : OutlineItem} {entry : Dictionary.OutlineItem}
      (rooted : outline = some root) (found : doc.outline.get? id = some item)
      (made : doc.outlineEntry root id item = .ok entry) :
      OutlineObject doc outline (.object entry.value)

theorem OutlineObject.isDictionary {outline : Option Ref} {record : Record}
    (object : doc.OutlineObject outline record) : record.IsDictionary := by
  cases object with
  | root rooted head final => exact ⟨_, rfl⟩
  | item rooted found made => exact ⟨_, rfl⟩

theorem outlineStored_of_run {before : List Record} (sound : doc.Sound) {first last : Id .outline}
    (head : (doc.outlineChildren none).head? = some first)
    (final : (doc.outlineChildren none).getLast? = some last) {root : Ref}
    (place : root = .first (doc.store.size + before.length + 1)) :
    doc.OutlineStored (doc.store.append (before ++
      .object (Dictionary.Outline.value
        ⟨outlineRef root first, outlineRef root last, doc.outline.size⟩) ::
      doc.outline.toList.map (doc.outlineRecord root))) root where
  first := by
    rw [place]
    rfl
  ends := by
    refine ⟨first, last, head, final, ?_⟩
    rw [place, Store.get?_append_new, List.getElem?_append_right (Nat.le_refl _), Nat.sub_self]
    rfl
  item := by
    intro id item found
    obtain ⟨entry, made⟩ := sound.exists_outlineEntry found root
    refine ⟨entry, made, ?_⟩
    have number : outlineRef root id =
        .first (doc.store.size + (before.length + (id.index + 1)) + 1) := by
      rw [outlineRef, place]
      exact congrArg Ref.first (by simp only [Ref.first]; omega)
    have listed : doc.outline.toList[id.index]? = some (id, item) := by
      rw [Registry.getElem?_toList, found]
      rfl
    have record : doc.outlineRecord root (id, item) = .object entry.value := by
      rw [outlineRecord, made]
    rw [number, Store.get?_append_new, List.getElem?_append_right (Nat.le_add_right _ _),
      Nat.add_sub_cancel_left, List.getElem?_cons_succ, List.getElem?_map, listed,
      Option.map_some, record]

theorem Sound.lays_closeOutline (sound : doc.Sound) :
    doc.Lays closeOutline doc.OutlineObject doc.OutlineIn := by
  intro before
  by_cases outlined : doc.outline.isEmpty
  · refine ⟨none, [], ?_, fun record member => absurd member List.not_mem_nil, ?_, nofun⟩
    · rw [closeOutline, run_bind_of_run (run_get _), List.append_nil]
      have settled : (doc.pushAll before).outline.toList.isEmpty := by
        rw [Registry.isEmpty_toList]
        exact outlined
      simp only [settled, if_true]
      rfl
    · rw [outlined]
      rfl
  · rw [Bool.not_eq_true] at outlined
    obtain ⟨first, last, head, final⟩ := sound.exists_top outlined
    have place : Ref.first (doc.store.size + before.length + 1) =
        .first (doc.store.size + before.length + 1) := rfl
    refine ⟨_, _, sound.run_closeOutlineIn before (.refl _) place head final, ?_, ?_, ?_⟩
    · refine List.forall_mem_cons.mpr ⟨.root rfl head final, fun record member => ?_⟩
      obtain ⟨⟨id, item⟩, listed, rfl⟩ := List.mem_map.mp member
      have found := Registry.mem_toList_iff.mp listed
      obtain ⟨entry, made⟩ := sound.exists_outlineEntry found _
      rw [outlineRecord, made]
      exact .item rfl found made
    · rw [outlined]
      rfl
    · intro root same
      cases same
      exact outlineStored_of_run sound head final rfl

structure StructureStored (doc : Document) (store : Store) (root : Ref) : Prop where
  first : root = .first root.number
  tree : ∃ tree : NumberTree (List Ref), doc.parentTree = .ok tree ∧
    store.get? (.first (root.number + 1)) = some (.object (tree.value Value.refs)) ∧
      store.get? root = some (.object (Dictionary.StructTreeRoot.value
        ⟨doc.topStructureItems, .first (root.number + 1), tree.nextKey⟩))

structure StructureIn (doc : Document) (structure? : Option Ref) (store : Store) : Prop where
  isSome : structure?.isSome = (!doc.structureItems.isEmpty || doc.options.tagged)
  stored : ∀ {root : Ref}, structure? = some root → doc.StructureStored store root

/-- What stands for a structure tree with a given root: the root, and the parent tree after it. -/
inductive StructureObject (doc : Document) (structure? : Option Ref) : Record → Prop
  | root {root : Ref} {tree : NumberTree (List Ref)} (rooted : structure? = some root)
      (made : doc.parentTree = .ok tree) :
      StructureObject doc structure? (.object (Dictionary.StructTreeRoot.value
        ⟨doc.topStructureItems, .first (root.number + 1), tree.nextKey⟩))
  | tree {tree : NumberTree (List Ref)} (made : doc.parentTree = .ok tree) :
      StructureObject doc structure? (.object (tree.value Value.refs))

theorem StructureObject.isDictionary {structure? : Option Ref} {record : Record}
    (object : doc.StructureObject structure? record) : record.IsDictionary := by
  cases object with
  | root rooted made => exact ⟨_, rfl⟩
  | tree made => exact ⟨_, rfl⟩

theorem Sound.lays_closeStructure (sound : doc.Sound) :
    doc.Lays closeStructure doc.StructureObject doc.StructureIn := by
  intro before
  by_cases untagged : doc.structureItems.isEmpty && !doc.options.tagged
  · refine ⟨none, [], ?_, fun record member => absurd member List.not_mem_nil, ?_, nofun⟩
    · rw [closeStructure, run_bind_of_run (run_get _), List.append_nil]
      have settled : (doc.pushAll before).structureItems.isEmpty &&
          !(doc.pushAll before).options.tagged := untagged
      simp only [settled, if_true]
      rfl
    · simp only [Bool.and_eq_true, Bool.not_eq_true'] at untagged
      rw [untagged.1, untagged.2]
      rfl
  · rw [Bool.not_eq_true] at untagged
    have made := sound.parentTree_eq
    generalize doc.pages.toList.filterMap (fun entry => doc.parentPair? entry.2) = pairs at made
    let treeRef : Ref := .first (doc.store.size + (before ++ [Record.reserved]).length + 1)
    have place : treeRef = .first (doc.store.size + before.length + 1 + 1) := by
      simp only [treeRef, List.length_append, List.length_singleton]
      rfl
    let added : List Record :=
      [.object (Dictionary.StructTreeRoot.value
        ⟨doc.topStructureItems, treeRef, NumberTree.nextKey ⟨pairs⟩⟩),
        .object (NumberTree.value Value.refs ⟨pairs⟩)]
    have ran : closeStructure.run (doc.pushAll before) =
        .ok (some (.first (doc.store.size + before.length + 1)))
          (doc.pushAll (before ++ added)) := by
      rw [closeStructure, run_bind_of_run (run_get _)]
      have settled : ((doc.pushAll before).structureItems.isEmpty &&
          !(doc.pushAll before).options.tagged) = false := untagged
      have tree : (doc.pushAll before).parentTree = doc.parentTree := rfl
      simp only [settled, Bool.false_eq_true, if_false]
      rw [run_bind_of_run (run_reserve_pushAll doc before), tree, made,
        run_bind_of_run (run_ofExcept_ok _ _),
        run_bind_of_run (run_object_pushAll doc _ _), List.append_assoc]
      exact run_bind_of_run (run_fill_pushAll doc before [_] _)
    refine ⟨_, added, ran, ?_, ?_, ?_⟩
    · exact List.forall_mem_cons.mpr
        ⟨place ▸ .root rfl made, List.forall_mem_singleton.mpr (.tree made)⟩
    · cases empty : doc.structureItems.isEmpty with
      | false => rfl
      | true =>
          rw [empty, Bool.true_and, Bool.not_eq_false'] at untagged
          rw [untagged]
          rfl
    · intro root same
      cases same
      refine ⟨rfl, ⟨pairs⟩, made, ?_, ?_⟩
      · rw [show Ref.first ((Ref.first (doc.store.size + before.length + 1)).number + 1) =
            .first (doc.store.size + (before.length + 1) + 1) from rfl, Store.get?_append_new,
          List.getElem?_append_right (Nat.le_add_right _ _), Nat.add_sub_cancel_left]
        rfl
      · rw [Store.get?_append_new, List.getElem?_append_right (Nat.le_refl _), Nat.sub_self]
        exact congrArg (fun number => some (Record.object (Dictionary.StructTreeRoot.value
          ⟨doc.topStructureItems, number, _⟩))) place

structure NamesIn (doc : Document) (names? : Option Ref) (store : Store) : Prop where
  isSome : names?.isSome = !doc.files.isEmpty
  stored : ∀ {tree : Ref}, names? = some tree → tree.generation = 0 ∧
    store.get? tree = some (.object (doc.fileTree.value Value.ref))

theorem lays_closeNames (doc : Document) : doc.Lays closeNames
    (fun _ record => record = .object (doc.fileTree.value Value.ref)) doc.NamesIn := by
  intro before
  by_cases empty : doc.files.isEmpty
  · refine ⟨none, [], ?_, fun record member => absurd member List.not_mem_nil, ?_, nofun⟩
    · rw [closeNames, run_bind_of_run (run_get _), List.append_nil]
      have settled : (doc.pushAll before).files.isEmpty := empty
      simp only [settled, if_true]
      rfl
    · rw [empty]
      rfl
  · rw [Bool.not_eq_true] at empty
    have ran : closeNames.run (doc.pushAll before) =
        .ok (some (.first (doc.store.size + before.length + 1)))
          (doc.pushAll (before ++ [.object (doc.fileTree.value Value.ref)])) := by
      rw [closeNames, run_bind_of_run (run_get _)]
      have settled : (doc.pushAll before).files.isEmpty = false := empty
      simp only [settled, Bool.false_eq_true, if_false]
      exact run_bind_of_run (run_object_pushAll doc before _)
    refine ⟨_, _, ran, List.forall_mem_singleton.mpr rfl, ?_, ?_⟩
    · rw [empty]
      rfl
    · intro tree same
      cases same
      refine ⟨rfl, ?_⟩
      rw [Store.get?_append_new, List.getElem?_append_right (Nat.le_refl _), Nat.sub_self]
      rfl

theorem Sound.exists_intentProfile (sound : doc.Sound) {intent : OutputIntent}
    (held : doc.outputIntent = some intent) :
    ∃ profile, doc.intentProfile intent = .ok profile := by
  rw [intentProfile]
  cases named : intent.profile with
  | none => exact ⟨none, rfl⟩
  | some id =>
      obtain ⟨item, found⟩ := Registry.exists_get?_of_contains (sound.profile held named)
      have got := Registry.get_eq_ok_iff.mpr found
      simp only [ColorSpaces.profileStream, got]
      exact ⟨_, rfl⟩

inductive IntentObject (doc : Document) : Record → Prop
  | intent {intent : OutputIntent} {profile : Option Ref} (held : doc.outputIntent = some intent)
      (known : doc.intentProfile intent = .ok profile) :
      IntentObject doc (.object (Dictionary.OutputIntent.value
        ⟨intent.subtype, intent.condition.map textString, textString intent.identifier, none,
          profile⟩))

theorem IntentObject.isDictionary {record : Record} (object : doc.IntentObject record) :
    record.IsDictionary := by
  cases object with
  | intent held known => exact ⟨_, rfl⟩

def IntentsIn (targets : List Ref) (store : Store) : Prop :=
  ∀ target ∈ targets, target.generation = 0 ∧
    ∃ intent : Dictionary.OutputIntent, store.get? target = some (.object intent.value)

theorem Sound.lays_closeOutputIntent (sound : doc.Sound) :
    doc.Lays closeOutputIntent (fun _ => doc.IntentObject) IntentsIn := by
  intro before
  cases held : doc.outputIntent with
  | none =>
      refine ⟨[], [], ?_, fun record member => absurd member List.not_mem_nil,
        fun target member => absurd member List.not_mem_nil⟩
      have settled : (doc.pushAll before).outputIntent = none := held
      rw [closeOutputIntent, run_bind_of_run (run_get _), List.append_nil, settled]
      rfl
  | some intent =>
      obtain ⟨profile, known⟩ := sound.exists_intentProfile held
      have settled : (doc.pushAll before).outputIntent = some intent := held
      have named : (doc.pushAll before).intentProfile intent = .ok profile := known
      let entry : Dictionary.OutputIntent :=
        ⟨intent.subtype, intent.condition.map textString, textString intent.identifier, none,
          profile⟩
      have ran : closeOutputIntent.run (doc.pushAll before) =
          .ok [.first (doc.store.size + before.length + 1)]
            (doc.pushAll (before ++ [.object entry.value])) := by
        rw [closeOutputIntent, run_bind_of_run (run_get _), settled]
        simp only [named]
        rw [run_bind_of_run (run_ofExcept_ok _ _)]
        exact run_bind_of_run (run_object_pushAll doc before _)
      refine ⟨_, _, ran, List.forall_mem_singleton.mpr (.intent held known), ?_⟩
      refine List.forall_mem_singleton.mpr ⟨rfl, entry, ?_⟩
      rw [Store.get?_append_new, List.getElem?_append_right (Nat.le_refl _), Nat.sub_self]
      rfl

theorem pushAll_nil (doc : Document) : doc.pushAll [] = doc := by
  rw [pushAll, Store.append_nil]

theorem grows_append (store : Store) (before : List Record) {added : List Record}
    (objects : ∀ record ∈ added, record.IsDictionary) :
    (store.append before).Grows (store.append (before ++ added)) := by
  induction added generalizing before with
  | nil =>
      rw [List.append_nil]
      exact .refl _
  | cons record rest ih =>
      obtain ⟨first, others⟩ := List.forall_mem_cons.mp objects
      obtain ⟨entries, rfl⟩ := first
      have step := (store.append before).grows_allocate (.inr ⟨.dict entries, rfl⟩)
      rw [Store.allocate_append] at step
      rw [List.append_cons]
      exact step.trans (ih _ others)

theorem OutlineStored.grows {store after : Store} {root : Ref}
    (stored : doc.OutlineStored store root) (grows : store.Grows after) :
    doc.OutlineStored after root where
  first := stored.first
  ends := by
    obtain ⟨first, last, head, final, found⟩ := stored.ends
    exact ⟨first, last, head, final, grows.kept found rfl⟩
  item := by
    intro id item found
    obtain ⟨entry, made, held⟩ := stored.item found
    exact ⟨entry, made, grows.kept held rfl⟩

theorem StructureStored.grows {store after : Store} {root : Ref}
    (stored : doc.StructureStored store root) (grows : store.Grows after) :
    doc.StructureStored after root where
  first := stored.first
  tree := by
    obtain ⟨tree, made, heldTree, heldRoot⟩ := stored.tree
    exact ⟨tree, made, grows.kept heldTree rfl, grows.kept heldRoot rfl⟩

theorem OutlineIn.grows {outline : Option Ref} {store after : Store}
    (outlineIn : doc.OutlineIn outline store) (grows : store.Grows after) :
    doc.OutlineIn outline after :=
  ⟨outlineIn.isSome, fun same => (outlineIn.stored same).grows grows⟩

theorem StructureIn.grows {structure? : Option Ref} {store after : Store}
    (structureIn : doc.StructureIn structure? store) (grows : store.Grows after) :
    doc.StructureIn structure? after :=
  ⟨structureIn.isSome, fun same => (structureIn.stored same).grows grows⟩

theorem NamesIn.grows {names? : Option Ref} {store after : Store}
    (namesIn : doc.NamesIn names? store) (grows : store.Grows after) :
    doc.NamesIn names? after := by
  refine ⟨namesIn.isSome, fun same => ?_⟩
  obtain ⟨generation, stored⟩ := namesIn.stored same
  exact ⟨generation, grows.kept stored rfl⟩

theorem IntentsIn.grows {targets : List Ref} {store after : Store}
    (intentsIn : IntentsIn targets store) (grows : store.Grows after) :
    IntentsIn targets after := by
  intro target member
  obtain ⟨generation, intent, stored⟩ := intentsIn target member
  exact ⟨generation, intent, grows.kept stored rfl⟩

def catalogOf (doc : Document) (roots : Roots) (outline names : Option Ref) (intents : List Ref) :
    Dictionary.Catalog where
  pages := roots.pages
  outline := outline
  structTreeRoot := roots.structure?
  names := names.map some
  fields := if doc.placedFields.isEmpty then none else some doc.placedFields
  outputIntents := intents
  language := doc.options.language.map textString

def pageTree (doc : Document) : Value :=
  Dictionary.pages (doc.pages.toList.map fun entry => entry.2.object)

inductive Completing (doc : Document) (roots : Roots) (outline names : Option Ref)
    (intents : List Ref) : Record → Prop
  | pages : Completing doc roots outline names intents (.object doc.pageTree)
  | outline {record : Record} (object : doc.OutlineObject outline record) :
      Completing doc roots outline names intents record
  | structureTree {record : Record} (object : doc.StructureObject roots.structure? record) :
      Completing doc roots outline names intents record
  | names : Completing doc roots outline names intents (.object (doc.fileTree.value Value.ref))
  | intent {record : Record} (object : doc.IntentObject record) :
      Completing doc roots outline names intents record
  | info : Completing doc roots outline names intents (.object doc.info.value)
  | catalog : Completing doc roots outline names intents
      (.object (doc.catalogOf roots outline names intents).value)

theorem Completing.isDictionary {roots : Roots} {outline names : Option Ref} {intents : List Ref}
    {record : Record} (completing : doc.Completing roots outline names intents record) :
    record.IsDictionary := by
  cases completing with
  | outline object => exact object.isDictionary
  | structureTree object => exact object.isDictionary
  | intent object => exact object.isDictionary
  | _ => exact ⟨_, rfl⟩

structure Closed (doc closed : Document) (roots : Roots) : Prop where
  same : closed = { doc with store := closed.store }
  adds : doc.store.Adds Record.IsDictionary closed.store
  generation : roots.pages.generation = 0 ∧ roots.catalog.generation = 0
  pages : closed.store.get? roots.pages =
    some (.object (Dictionary.pages (doc.pages.toList.map fun entry => entry.2.object)))
  structureIn : doc.StructureIn roots.structure? closed.store
  catalog : ∃ catalog : Dictionary.Catalog,
    closed.store.get? roots.catalog = some (.object catalog.value) ∧
      catalog.pages = roots.pages ∧ doc.OutlineIn catalog.outline closed.store ∧
      catalog.structTreeRoot = roots.structure? ∧
      (catalog.fields = if doc.placedFields.isEmpty then none else some doc.placedFields) ∧
      ∃ names?, catalog.names = names?.map some ∧ doc.NamesIn names? closed.store
  info : roots.info.generation = 0 ∧
    closed.store.get? roots.info = some (.object doc.info.value)
  whole : ∃ outline names intents, doc.OutlineIn outline closed.store ∧
    doc.NamesIn names closed.store ∧ IntentsIn intents closed.store ∧
      ∀ {target : Ref} {record : Record}, closed.store.get? target = some record →
        doc.store.get? target = some record ∨ doc.Completing roots outline names intents record

theorem Closed.ne_reserved {closed : Document} {roots : Roots} (closes : doc.Closed closed roots)
    (sound : doc.Sound) (target : Ref) : closed.store.get? target ≠ some .reserved := by
  intro found
  rcases closes.adds.added found with before | ⟨value, same⟩
  · exact sound.complete before
  · contradiction

/-- A closed document is as sound as it was: closing adds dictionaries and nothing else. -/
theorem Closed.sound {closed : Document} {roots : Roots} (closes : doc.Closed closed roots)
    (sound : doc.Sound) : closed.Sound := by
  have complete {target : Ref} := closes.ne_reserved sound target
  have adds := closes.adds
  rw [closes.same] at complete ⊢
  exact { sound with
    complete
    pages := sound.pages.adds adds fun _ => nofun
    widgets := sound.widgets.adds adds fun _ => nofun
    annotations := sound.annotations.adds adds fun _ => nofun
    structureItems := sound.structureItems.adds adds fun _ => nofun }

/-- The page tree takes the first place that closing reserves; what stands behind it is kept. -/
theorem grows_pageTree (doc : Document) (rest : List Record) :
    (doc.store.append (.reserved :: rest)).Grows
      (doc.store.append (.object doc.pageTree :: rest)) := by
  have grows := (doc.store.append (.reserved :: rest)).grows_fill (.first (doc.store.size + 1))
    (.inr ⟨doc.pageTree, rfl⟩ : (Record.object doc.pageTree).StandsAlone)
  rw [show ((doc.store.append (.reserved :: rest)).fill (.first (doc.store.size + 1))
    (.object doc.pageTree)).2 = _ from
      doc.store.fill_append [] rest (.object doc.pageTree)] at grows
  exact grows

/-- What the first steps of closing laid is still there after all of them. -/
theorem grows_closing {first rest : List Record} (earlier : first <+: rest)
    (objects : ∀ record ∈ rest, record.IsDictionary) :
    (doc.store.append (.reserved :: first)).Grows
      (doc.store.append (.object doc.pageTree :: rest)) := by
  obtain ⟨later, rfl⟩ := earlier
  have step := grows_append doc.store (.reserved :: first) fun record member =>
    objects record (List.mem_append_right first member)
  exact step.trans (doc.grows_pageTree (first ++ later))

theorem get?_closing {rest : List Record} {index : Nat} {record : Record}
    (found : rest[index]? = some record) (complete : record.isComplete) :
    (doc.store.append (.object doc.pageTree :: rest)).get?
      (.first (doc.store.size + (index + 1) + 1)) = some record := by
  refine (doc.grows_pageTree rest).kept ?_ complete
  rw [Store.get?_append_new]
  exact found

/-- Closing a document does not fail. -/
theorem Sound.exists_closed (sound : doc.Sound) :
    ∃ roots closed, close.run doc = .ok roots closed ∧ doc.Closed closed roots := by
  obtain ⟨outline, outlined, ranOutline, madeOutline, outlineIn⟩ :=
    sound.lays_closeOutline [.reserved]
  obtain ⟨structure?, structured, ranStructure, madeStructure, structureIn⟩ :=
    sound.lays_closeStructure ([.reserved] ++ outlined)
  obtain ⟨names, named, ranNames, madeNames, namesIn⟩ :=
    doc.lays_closeNames ([.reserved] ++ outlined ++ structured)
  obtain ⟨intents, intended, ranIntents, madeIntents, intentsIn⟩ :=
    sound.lays_closeOutputIntent ([.reserved] ++ outlined ++ structured ++ named)
  let made := outlined ++ structured ++ named ++ intended
  let informed := made ++ [.object doc.info.value]
  let roots : Roots := ⟨.first (doc.store.size + 1), structure?,
    .first (doc.store.size + (made.length + 1) + 1),
    .first (doc.store.size + (informed.length + 1) + 1)⟩
  let catalog := doc.catalogOf roots outline names intents
  let rest := informed ++ [.object catalog.value]
  have start : Build.reserve.run doc = .ok roots.pages (doc.pushAll [.reserved]) := by
    have reserved := run_reserve_pushAll doc []
    rw [pushAll_nil] at reserved
    exact reserved
  have ran : close.run doc = .ok roots (doc.pushAll (.object doc.pageTree :: rest)) := by
    rw [close, run_bind_of_run start, run_bind_of_run ranOutline, run_bind_of_run ranStructure,
      run_bind_of_run ranNames, run_bind_of_run ranIntents, run_bind_of_run (run_get _)]
    refine (run_bind_of_run (run_object_pushAll doc (.reserved :: made) _)).trans ?_
    rw [run_bind_of_run (run_get _)]
    refine (run_bind_of_run (run_object_pushAll doc (.reserved :: informed) _)).trans ?_
    exact run_bind_of_run (run_fill_pushAll doc [] rest (.object doc.pageTree))
  have completing : ∀ record ∈ rest, doc.Completing roots outline names intents record := by
    intro record member
    simp only [rest, informed, made, List.mem_append, List.mem_singleton] at member
    rcases member with ((((member | member) | member) | member) | rfl) | rfl
    · exact .outline (madeOutline record member)
    · exact .structureTree (madeStructure record member)
    · exact madeNames record member ▸ .names
    · exact .intent (madeIntents record member)
    · exact .info
    · exact .catalog
  have objects : ∀ record ∈ rest, record.IsDictionary :=
    fun record member => (completing record member).isDictionary
  have upToIntents : made <+: rest :=
    (List.prefix_append made _).trans (List.prefix_append informed _)
  have upToNames := (List.prefix_append _ intended).trans upToIntents
  have upToStructure := (List.prefix_append _ named).trans upToNames
  have upToOutline := (List.prefix_append _ structured).trans upToStructure
  have outlineIn := outlineIn.grows (grows_closing upToOutline objects)
  have namesIn := namesIn.grows (grows_closing upToNames objects)
  have all := doc.store.adds_append (List.forall_mem_cons.mpr ⟨Completing.pages, completing⟩)
  have cataloged : rest[informed.length]? = some (.object catalog.value) :=
    List.getElem?_concat_length
  have told : rest[made.length]? = some (.object doc.info.value) := by
    rw [List.getElem?_append_left (by simp [informed])]
    exact List.getElem?_concat_length
  exact ⟨roots, _, ran, {
    same := rfl
    adds := all.mono Completing.isDictionary
    generation := ⟨rfl, rfl⟩
    pages := doc.store.get?_append_new _ 0
    structureIn := structureIn.grows (grows_closing upToStructure objects)
    catalog := ⟨catalog, get?_closing cataloged rfl, rfl, outlineIn, rfl, rfl, names, rfl, namesIn⟩
    info := ⟨rfl, get?_closing told rfl⟩
    whole := ⟨outline, names, intents, outlineIn, namesIn,
      intentsIn.grows (grows_closing upToIntents objects), all.added⟩ }⟩

end Document

end Folio
