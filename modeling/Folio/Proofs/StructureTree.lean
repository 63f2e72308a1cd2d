import Folio.Proofs.PagePlacement

/-!
The structure tree of a finished file. Items lead to their parents and list their children, pages
and items lead to each other through the numbers of marked content, and the parent tree says the
same once more.
-/

namespace Folio

def Value.target? : Value → Option Ref
  | .ref target => some target
  | _ => none

theorem Value.filterMap_target? (targets : List Ref) (marks : List Nat) :
    (targets.map Value.ref ++ marks.map Value.nat).filterMap Value.target? = targets := by
  have none : (marks.map Value.nat).filterMap Value.target? = [] := by
    refine List.filterMap_eq_nil_iff.mpr fun value member => ?_
    obtain ⟨mark, -, rfl⟩ := List.mem_map.mp member
    rfl
  have all : (targets.map Value.ref).filterMap Value.target? = targets := by
    rw [List.filterMap_map]
    exact List.filterMap_some
  rw [List.filterMap_append, none, all, List.append_nil]

def Value.atNumber? (number : Nat) : List Value → Option Value
  | .int key :: value :: rest => if key = number then some value else atNumber? number rest
  | _ => none

theorem Value.atNumber?_zipIdx (arrays : List (List Ref)) (start key : Nat) :
    Value.atNumber? (start + key) ((arrays.zipIdx start).flatMap fun entry =>
      [.nat entry.2, .refs entry.1]) = (arrays[key]?).map Value.refs := by
  induction arrays generalizing start key with
  | nil => rfl
  | cons array rest ih =>
      rw [List.zipIdx_cons, List.flatMap_cons]
      cases key with
      | zero => simp [Value.nat, Value.atNumber?]
      | succ key =>
          have further := ih (start + 1) key
          have apart : ¬(start : Int) = ((start + (key + 1) : Nat) : Int) := by omega
          rw [Nat.add_right_comm] at further
          simp only [Value.nat, List.cons_append, List.nil_append, Value.atNumber?, apart,
            if_false, List.getElem?_cons_succ]
          exact further

namespace Body

def childRefs (bodies : List Body) (target : Ref) : List Ref :=
  match at? bodies target with
  | some (.value held) =>
      match held.entry? "K" with
      | some (.arr children) => children.filterMap Value.target?
      | _ => []
  | _ => []

theorem childRefs_of_says {bodies : List Body} {target : Ref} {children : List Value}
    (told : Says bodies target "K" (some (.arr children))) :
    childRefs bodies target = children.filterMap Value.target? := by
  obtain ⟨entries, place, held⟩ := told
  rw [childRefs, place]
  simp only [held]

theorem childRefs_of_none {bodies : List Body} {target : Ref}
    (told : Says bodies target "K" none) : childRefs bodies target = [] := by
  obtain ⟨entries, place, held⟩ := told
  rw [childRefs, place]
  simp only [held]

/-- What the parent tree below a root has for a mark on a page. -/
def MarkLeads (bodies : List Body) (root page : Ref) (mark : Nat) (target : Ref) : Prop :=
  ∃ (key : Nat) (tree : Ref) (pairs : List Value) (targets : List Ref),
    Says bodies page "StructParents" (some (.nat key)) ∧
      Says bodies root "ParentTree" (some (.ref tree)) ∧
      Says bodies tree "Nums" (some (.arr pairs)) ∧
      Value.atNumber? key pairs = some (.refs targets) ∧ targets[mark]? = some target

end Body

namespace Document

variable {doc : Document}

/-- The objects of the items below a parent, or below the root, in order. -/
def elementsBelow (doc : Document) (parent : Option (Id .structureItem)) : List Ref :=
  (doc.structureItems.toList.filter fun entry => entry.2.parent == parent).map fun entry =>
    entry.2.object

theorem topStructureItems_eq (doc : Document) : doc.topStructureItems = doc.elementsBelow none := by
  have same : ∀ entry ∈ doc.structureItems.toList,
      entry.2.parent.isNone = (entry.2.parent == none) := by
    intro entry _
    cases entry.2.parent with
    | none => rfl
    | some parent => rfl
  exact congrArg (List.map _) (List.filter_congr same)

theorem mem_elementsBelow_iff {target : Ref} {parent : Option (Id .structureItem)} :
    target ∈ doc.elementsBelow parent ↔
      ∃ id item, doc.structureItems.get? id = some item ∧ item.parent = parent ∧
        item.object = target := by
  constructor
  · intro member
    obtain ⟨⟨id, item⟩, listed, same⟩ := List.mem_map.mp member
    obtain ⟨registered, below⟩ := List.mem_filter.mp listed
    exact ⟨id, item, Registry.mem_toList_iff.mp registered, eq_of_beq below, same⟩
  · rintro ⟨id, item, found, below, same⟩
    exact List.mem_map.mpr ⟨(id, item), List.mem_filter.mpr
      ⟨Registry.mem_toList_iff.mpr found, beq_iff_eq.mpr below⟩, same⟩

theorem Sound.object_mem_iff (sound : doc.Sound) {id : Id .structureItem} {item : StructureItem}
    (found : doc.structureItems.get? id = some item) {parent : Option (Id .structureItem)} :
    item.object ∈ doc.elementsBelow parent ↔ item.parent = parent := by
  rw [mem_elementsBelow_iff]
  constructor
  · rintro ⟨other, held, foundOther, below, same⟩
    have sameId := sound.structureItems.id_eq (fun _ _ => Record.structureItem.inj) foundOther
      found same
    rw [sameId, found] at foundOther
    cases foundOther
    exact below
  · exact fun below => ⟨id, item, found, below, rfl⟩

theorem Sound.nodup_elementsBelow (sound : doc.Sound)
    {parents : List (Option (Id .structureItem))} (nodup : parents.Nodup) :
    (parents.flatMap doc.elementsBelow).Nodup := by
  refine List.pairwise_flatMap.mpr ⟨fun parent _ => ?_, nodup.imp fun apart target first
    other second same => ?_⟩
  · refine List.pairwise_map.mpr ((doc.structureItems.pairwise_toList.filter _).imp_of_mem
      fun {first second} listed listedSecond before same => ?_)
    have found := Registry.mem_toList_iff.mp (List.mem_filter.mp listed).1
    have foundSecond := Registry.mem_toList_iff.mp (List.mem_filter.mp listedSecond).1
    have sameId := sound.structureItems.id_eq (fun _ _ => Record.structureItem.inj) found
      foundSecond same
    rw [sameId] at before
    exact Nat.lt_irrefl _ before
  · obtain ⟨id, item, found, below, rfl⟩ := mem_elementsBelow_iff.mp first
    rw [← same, sound.object_mem_iff found, below] at second
    exact apart second

/-- A piece of marked content of an item, with the object of its page. -/
def Marks (doc : Document) (page : Ref) (mark : Nat) (id : Id .structureItem) : Prop :=
  ∃ number item, doc.pages.get? number = some item ∧ item.object = page ∧
    item.marked[mark]? = some id

theorem filter_zipIdx_eq {α : Type} [BEq α] [LawfulBEq α] {entries : List α} (nodup : entries.Nodup)
    {place : Nat} (start : Nat) {entry : α} (found : entries[place]? = some entry) :
    ((entries.zipIdx start).filter fun pair => pair.1 == entry).map Prod.snd = [start + place] := by
  induction entries generalizing place start with
  | nil => contradiction
  | cons first rest ih =>
      obtain ⟨fresh, nodupRest⟩ := List.nodup_cons.mp nodup
      cases place with
      | zero =>
          cases found
          have others : (rest.zipIdx (start + 1)).filter (fun pair => pair.1 == entry) = [] := by
            refine List.filter_eq_nil_iff.mpr fun pair member same => fresh ?_
            rw [← eq_of_beq same]
            exact List.fst_mem_of_mem_zipIdx member
          simp [others]
      | succ place =>
          have listed : rest[place]? = some entry := found
          have apart : first ≠ entry := by
            rintro rfl
            exact fresh (List.mem_of_getElem? listed)
          have count : start + 1 + place = start + (place + 1) := by omega
          rw [List.zipIdx_cons, List.filter_cons_of_neg (by simpa using apart),
            ih nodupRest _ listed, count]

theorem Sound.nodup_marked (sound : doc.Sound) {number : Id .page} {page : PageItem}
    (found : doc.pages.get? number = some page) : page.marked.Nodup :=
  (List.pairwise_flatMap.mp sound.structurePlaces.nodup).1 (number, page)
    (Registry.mem_toList_iff.mpr found)

theorem Sound.exists_mark (sound : doc.Sound) (id : Id .structureItem) :
    ∃ marked : Option (Ref × Nat),
      (∀ page mark, marked = some (page, mark) ↔ doc.Marks page mark id) ∧
        doc.placeOf? doc.structurePlaces id = marked.map Prod.fst ∧
          doc.marksOf id = marked.toList.map Prod.snd := by
  cases owned : doc.structurePlaces.pageOf? id with
  | none =>
      refine ⟨none, fun page mark => ⟨nofun, ?_⟩, ?_, ?_⟩
      · rintro ⟨number, item, found, -, place⟩
        have placed := sound.structurePlaces.pageOf?_eq_some_iff.mpr
          ⟨item, found, List.mem_of_getElem? place⟩
        rw [owned] at placed
        contradiction
      · rw [placeOf?, owned]
        rfl
      · rw [marksOf, owned]
        rfl
  | some number =>
      obtain ⟨item, found, member⟩ := sound.structurePlaces.pageOf?_eq_some_iff.mp owned
      obtain ⟨place, listed⟩ := List.mem_iff_getElem?.mp member
      have nodup := sound.nodup_marked found
      refine ⟨some (item.object, place), fun page mark => ⟨?_, ?_⟩, ?_, ?_⟩
      · intro same
        cases same
        exact ⟨number, item, found, rfl, listed⟩
      · rintro ⟨other, held, foundOther, rfl, listedOther⟩
        have placed := sound.structurePlaces.pageOf?_eq_some_iff.mpr
          ⟨held, foundOther, List.mem_of_getElem? listedOther⟩
        rw [owned] at placed
        cases placed
        rw [found] at foundOther
        cases foundOther
        obtain ⟨bound, -⟩ := List.getElem?_eq_some_iff.mp listed
        rw [(List.getElem?_inj bound nodup).mp (listed.trans listedOther.symm)]
      · rw [placeOf?, owned, Option.bind_some, found]
        rfl
      · have marks := filter_zipIdx_eq nodup 0 listed
        rw [marksOf, owned, Option.bind_some, found]
        simp only [Option.toList_some, List.map_singleton]
        rw [Nat.zero_add] at marks
        exact marks

def taggedPages (doc : Document) : List PageItem :=
  (doc.pages.toList.map Prod.snd).filter fun page => !page.marked.isEmpty

theorem filterMap_structParents {pages : List PageItem}
    (keyed : ∀ page ∈ pages, page.structParents = none ↔ page.marked = []) {start count : Nat}
    (keys : pages.filterMap PageItem.structParents = List.range' start count) :
    (pages.filterMap fun page => page.structParents.map fun key => (page, key)) =
      (pages.filter fun page => !page.marked.isEmpty).zipIdx start := by
  induction pages generalizing start count with
  | nil => rfl
  | cons page rest ih =>
      obtain ⟨first, others⟩ := List.forall_mem_cons.mp keyed
      cases key : page.structParents with
      | none =>
          have untagged : page.marked = [] := first.mp key
          simp only [List.filterMap_cons, key] at keys
          simp only [List.filterMap_cons, key, Option.map_none, List.filter_cons, untagged,
            List.isEmpty_nil, Bool.not_true, Bool.false_eq_true, if_false]
          exact ih others keys
      | some number =>
          have tagged : page.marked.isEmpty = false := by
            refine List.isEmpty_eq_false_iff.mpr fun empty => ?_
            rw [first.mpr empty] at key
            contradiction
          simp only [List.filterMap_cons, key] at keys
          cases count with
          | zero => contradiction
          | succ count =>
              rw [List.range'_succ, List.cons.injEq] at keys
              obtain ⟨rfl, keys⟩ := keys
              simp only [List.filterMap_cons, key, Option.map_some, List.filter_cons, tagged,
                Bool.not_false, if_true, List.zipIdx_cons]
              rw [ih others keys]

theorem Sound.zipIdx_taggedPages (sound : doc.Sound) :
    ((doc.pages.toList.map Prod.snd).filterMap fun page =>
      page.structParents.map fun key => (page, key)) = doc.taggedPages.zipIdx := by
  have keyed : ∀ page ∈ doc.pages.toList.map Prod.snd,
      page.structParents = none ↔ page.marked = [] := by
    intro page member
    obtain ⟨⟨number, held⟩, listed, rfl⟩ := List.mem_map.mp member
    exact sound.keyed (Registry.mem_toList_iff.mp listed)
  have keys : (doc.pages.toList.map Prod.snd).filterMap PageItem.structParents =
      List.range' 0 doc.nextStructParent := by
    rw [List.filterMap_map, ← List.range_eq_range']
    exact sound.keys
  exact filterMap_structParents keyed keys

theorem Sound.structParents_of_tagged (sound : doc.Sound) {key : Nat} {page : PageItem}
    (tagged : doc.taggedPages[key]? = some page) : page.structParents = some key := by
  have member : (page, key) ∈ doc.taggedPages.zipIdx := List.mem_zipIdx_iff_getElem?.mpr tagged
  rw [← sound.zipIdx_taggedPages] at member
  obtain ⟨held, -, spelled⟩ := List.mem_filterMap.mp member
  obtain ⟨number, known, same⟩ := Option.map_eq_some_iff.mp spelled
  cases same
  exact known

def parentArrays (doc : Document) : List (List Ref) :=
  doc.taggedPages.map fun page => doc.structureItems.targets StructureItem.object page.marked

theorem Sound.parentPairs_eq (sound : doc.Sound) :
    (doc.pages.toList.filterMap fun entry => doc.parentPair? entry.2) =
      doc.parentArrays.zipIdx.map Prod.swap := by
  have pairs := congrArg (List.map fun (entry : PageItem × Nat) =>
    (entry.2, doc.structureItems.targets StructureItem.object entry.1.marked))
    sound.zipIdx_taggedPages
  rw [List.map_filterMap, List.filterMap_map] at pairs
  rw [parentArrays, List.zipIdx_map, List.map_map]
  refine (congrArg (List.filterMap · doc.pages.toList) (funext fun entry => ?_)).trans pairs
  rw [parentPair?, Function.comp_apply, Option.map_map]
  rfl

theorem Sound.keys_parentPairs (sound : doc.Sound) :
    (doc.pages.toList.filterMap fun entry => doc.parentPair? entry.2).map Prod.fst =
      List.range doc.taggedPages.length := by
  rw [sound.parentPairs_eq, List.map_map, List.range_eq_range']
  have length : doc.parentArrays.length = doc.taggedPages.length := List.length_map _
  rw [← length]
  exact List.zipIdx_map_snd 0 _

/-- What the objects of a file say of structure items, below the root of their tree. -/
structure TreeShown (doc : Document) (roots : Roots) (bodies : List Body) (root : Ref) : Prop where
  catalog : Body.Says bodies roots.catalog "StructTreeRoot" (some (.ref root))
  top : Body.Says bodies root "K" (some (.refs (doc.elementsBelow none)))
  parent : ∀ {id : Id .structureItem} {item : StructureItem},
    doc.structureItems.get? id = some item →
      ∃ above, doc.structureAbove? root item = some above ∧
        Body.Says bodies item.object "P" (some (.ref above))
  once : ∀ {id : Id .structureItem} {item : StructureItem},
    doc.structureItems.get? id = some item →
      ((root :: doc.structureItems.toList.map fun entry => entry.2.object).flatMap
        (Body.childRefs bodies)).count item.object = 1
  listed : ∀ {id : Id .structureItem} {item : StructureItem} {above : Ref},
    doc.structureItems.get? id = some item →
    above ∈ root :: doc.structureItems.toList.map (fun entry => entry.2.object) →
      (item.object ∈ Body.childRefs bodies above ↔
        Body.Says bodies item.object "P" (some (.ref above)))
  chain : ∀ {id : Id .structureItem} {item : StructureItem},
    doc.structureItems.get? id = some item →
      Relation.TransGen (fun below above => Body.Says bodies below "P" (some (.ref above)))
        item.object root
  element : ∀ {id : Id .structureItem} {item : StructureItem},
    doc.structureItems.get? id = some item →
      ∃ (marked : Option (Ref × Nat)) (children : List Value),
        (∀ page mark, marked = some (page, mark) ↔ doc.Marks page mark id) ∧
        children = (doc.elementsBelow (some id)).map .ref ++
          marked.toList.map (fun place => .nat place.2) ∧
        Body.Says bodies item.object "K" (if children = [] then none else some (.arr children)) ∧
        Body.Says bodies item.object "Pg" (marked.map fun place => .ref place.1)
  keyed : ∀ {key : Nat} {page : PageItem}, doc.taggedPages[key]? = some page →
    Body.Says bodies page.object "StructParents" (some (.nat key))
  unkeyed : ∀ {number : Id .page} {page : PageItem}, doc.pages.get? number = some page →
    page.marked = [] → Body.Says bodies page.object "StructParents" none
  tree : ∃ (tree : Ref) (arrays : List (List Ref)),
    doc.taggedPages.map (fun page => page.marked.map fun id =>
      (doc.structureItems.get? id).map StructureItem.object) = arrays.map (List.map some) ∧
    Body.Says bodies root "ParentTree" (some (.ref tree)) ∧
    Body.Says bodies tree "Nums" (some (.arr (arrays.zipIdx.flatMap fun entry =>
      [.nat entry.2, .refs entry.1])))
  nextKey : Body.Says bodies root "ParentTreeNextKey" (some (.nat doc.taggedPages.length))
  marks : ∀ {number : Id .page} {page : PageItem} {id : Id .structureItem}
    {item : StructureItem} {mark : Nat}, doc.pages.get? number = some page →
    doc.structureItems.get? id = some item →
      (Body.MarkLeads bodies root page.object mark item.object ↔
        Body.Says bodies item.object "Pg" (some (.ref page.object)) ∧
          ∃ children, Body.Says bodies item.object "K" (some (.arr children)) ∧
            Value.nat mark ∈ children)

section Finished

variable {closed : Document} {means : Means} {file : Bytes} {roots : Roots} {bodies : List Body}
  {root : Ref}

theorem FinishedAs.exists_element (finished : doc.FinishedAs closed means file roots bodies)
    (sound : doc.Sound) (tagged : roots.structure? = some root) {id : Id .structureItem}
    {item : StructureItem} (found : doc.structureItems.get? id = some item) :
    ∃ (above : Ref) (marked : Option (Ref × Nat)) (children : List Value),
      doc.structureAbove? root item = some above ∧
      Body.Says bodies item.object "P" (some (.ref above)) ∧
      (∀ page mark, marked = some (page, mark) ↔ doc.Marks page mark id) ∧
      children = (doc.elementsBelow (some id)).map .ref ++
        marked.toList.map (fun place => .nat place.2) ∧
      Body.Says bodies item.object "K" (if children = [] then none else some (.arr children)) ∧
      Body.Says bodies item.object "Pg" (marked.map fun place => .ref place.1) := by
  obtain ⟨entry, above, placed, kids, told⟩ := finished.says_structureItem sound tagged found
  obtain ⟨marked, marks, page, numbers⟩ := sound.exists_mark id
  have parent : entry.value.entry? "P" = some (.ref entry.parent) := by
    simp [Dictionary.StructElement.value, Value.entry?]
  have pageEntry : entry.value.entry? "Pg" = entry.page.map .ref := by
    simp [Dictionary.StructElement.value, Value.entry?, List.findSome?_append]
  have kidsEntry : entry.value.entry? "K" =
      if entry.kids.map Dictionary.StructKid.value = [] then none
      else some (.arr (entry.kids.map Dictionary.StructKid.value)) := by
    simp [Dictionary.StructElement.value, Value.entry?, List.findSome?_append]
  have spelled : entry.kids.map Dictionary.StructKid.value =
      (doc.elementsBelow (some id)).map .ref ++
        marked.toList.map (fun place => .nat place.2) := by
    rw [kids, numbers, List.map_append, List.map_map, List.map_map, List.map_map]
    rfl
  refine ⟨entry.parent, marked, _, above, parent ▸ told "P", marks, spelled,
    kidsEntry ▸ told "K", ?_⟩
  have toldPage := told "Pg"
  rw [pageEntry, placed, page, Option.map_map] at toldPage
  exact toldPage

theorem FinishedAs.childRefs_item (finished : doc.FinishedAs closed means file roots bodies)
    (sound : doc.Sound) (tagged : roots.structure? = some root) {id : Id .structureItem}
    {item : StructureItem} (found : doc.structureItems.get? id = some item) :
    Body.childRefs bodies item.object = doc.elementsBelow (some id) := by
  obtain ⟨above, marked, children, -, -, -, spelled, told, -⟩ :=
    finished.exists_element sound tagged found
  have targets : children.filterMap Value.target? = doc.elementsBelow (some id) := by
    have marks : marked.toList.map (fun place => Value.nat place.2) =
        (marked.toList.map Prod.snd).map Value.nat := by
      rw [List.map_map]
      rfl
    rw [spelled, marks, Value.filterMap_target?]
  by_cases empty : children = []
  · rw [if_pos empty] at told
    rw [Body.childRefs_of_none told, ← targets, empty, List.filterMap_nil]
  · rw [if_neg empty] at told
    rw [Body.childRefs_of_says told, targets]

theorem FinishedAs.root_ne (finished : doc.FinishedAs closed means file roots bodies)
    (sound : doc.Sound) (stored : doc.StructureStored closed.store root) {id : Id .structureItem}
    {item : StructureItem} (found : doc.structureItems.get? id = some item) :
    item.object ≠ root := by
  intro same
  obtain ⟨tree, -, -, heldRoot⟩ := stored.tree
  have held := finished.closes.adds.kept (sound.structureItems.held found)
  rw [same, heldRoot] at held
  exact nomatch Option.some.inj held

theorem FinishedAs.above_eq_iff (finished : doc.FinishedAs closed means file roots bodies)
    (sound : doc.Sound) (stored : doc.StructureStored closed.store root)
    {item : StructureItem} {above : Ref} (spelled : doc.structureAbove? root item = some above) :
    (above = root ↔ item.parent = none) ∧
      ∀ {parent held}, doc.structureItems.get? parent = some held →
        (above = held.object ↔ item.parent = some parent) := by
  rw [structureAbove?] at spelled
  cases below : item.parent with
  | none =>
      rw [below] at spelled
      cases spelled
      refine ⟨⟨fun _ => rfl, fun _ => rfl⟩, fun foundHeld => ⟨fun same => ?_, fun same => ?_⟩⟩
      · exact absurd same.symm (finished.root_ne sound stored foundHeld)
      · contradiction
  | some parent =>
      rw [below] at spelled
      obtain ⟨entry, foundEntry, rfl⟩ := Option.map_eq_some_iff.mp spelled
      refine ⟨⟨fun same => ?_, fun same => ?_⟩,
        fun {other held} foundHeld => ⟨fun same => ?_, fun same => ?_⟩⟩
      · exact absurd same (finished.root_ne sound stored foundEntry)
      · contradiction
      · rw [sound.structureItems.id_eq (fun _ _ => Record.structureItem.inj) foundEntry foundHeld
          same]
      · cases same
        rw [foundEntry] at foundHeld
        cases foundHeld
        rfl

theorem FinishedAs.listed_iff (finished : doc.FinishedAs closed means file roots bodies)
    (sound : doc.Sound) (tagged : roots.structure? = some root)
    (stored : doc.StructureStored closed.store root)
    (top : Body.childRefs bodies root = doc.elementsBelow none) {id : Id .structureItem}
    {item : StructureItem} (found : doc.structureItems.get? id = some item) {target : Ref}
    (member : target ∈ root :: doc.structureItems.toList.map fun entry => entry.2.object) :
    item.object ∈ Body.childRefs bodies target ↔
      Body.Says bodies item.object "P" (some (.ref target)) := by
  obtain ⟨above, -, -, spelled, told, -⟩ := finished.exists_element sound tagged found
  obtain ⟨atTop, atItem⟩ := finished.above_eq_iff sound stored spelled
  have unique : Body.Says bodies item.object "P" (some (.ref target)) ↔ above = target := by
    constructor
    · intro also
      cases told.unique also
      rfl
    · exact fun same => same ▸ told
  rw [unique]
  rcases List.mem_cons.mp member with rfl | member
  · rw [top, sound.object_mem_iff found, atTop]
  · obtain ⟨⟨parent, held⟩, listed, rfl⟩ := List.mem_map.mp member
    have foundHeld := Registry.mem_toList_iff.mp listed
    rw [finished.childRefs_item sound tagged foundHeld, sound.object_mem_iff found,
      atItem foundHeld]

theorem FinishedAs.count_item (finished : doc.FinishedAs closed means file roots bodies)
    (sound : doc.Sound) (tagged : roots.structure? = some root)
    (top : Body.childRefs bodies root = doc.elementsBelow none) {id : Id .structureItem}
    {item : StructureItem} (found : doc.structureItems.get? id = some item) :
    ((root :: doc.structureItems.toList.map fun entry => entry.2.object).flatMap
      (Body.childRefs bodies)).count item.object = 1 := by
  let parents := none :: (doc.structureItems.toList.map Prod.fst).map some
  have lists : (root :: doc.structureItems.toList.map fun entry => entry.2.object).flatMap
      (Body.childRefs bodies) = parents.flatMap doc.elementsBelow := by
    have items : (doc.structureItems.toList.map fun entry => Body.childRefs bodies entry.2.object) =
        doc.structureItems.toList.map fun entry => doc.elementsBelow (some entry.1) :=
      List.map_congr_left fun entry listed =>
        finished.childRefs_item sound tagged (Registry.mem_toList_iff.mp listed)
    rw [List.flatMap_cons, List.flatMap_cons, top, List.flatMap_map, List.flatMap_map,
      List.flatMap_map, List.flatMap_def, items, List.flatMap_def]
  have nodup : parents.Nodup := by
    refine List.nodup_cons.mpr ⟨fun member => ?_, ?_⟩
    · obtain ⟨id, -, same⟩ := List.mem_map.mp member
      contradiction
    · exact List.pairwise_map.mpr (doc.structureItems.nodup_ids.imp fun apart same =>
        apart (Option.some.inj same))
  have member : item.parent ∈ parents := by
    cases below : item.parent with
    | none => exact List.mem_cons_self
    | some parent =>
        obtain ⟨held, foundHeld⟩ := sound.exists_structureParent found below
        exact List.mem_cons_of_mem _ (List.mem_map_of_mem (List.mem_map.mpr
          ⟨(parent, held), Registry.mem_toList_iff.mpr foundHeld, rfl⟩))
  rw [lists, (sound.nodup_elementsBelow nodup).count, if_pos]
  exact List.mem_flatMap.mpr ⟨item.parent, member, (sound.object_mem_iff found).mpr rfl⟩

theorem FinishedAs.chain (finished : doc.FinishedAs closed means file roots bodies)
    (sound : doc.Sound) (tagged : roots.structure? = some root) {id : Id .structureItem}
    {item : StructureItem} (found : doc.structureItems.get? id = some item) :
    Relation.TransGen (fun below above => Body.Says bodies below "P" (some (.ref above)))
      item.object root := by
  obtain ⟨above, -, -, spelled, told, -⟩ := finished.exists_element sound tagged found
  cases below : item.parent with
  | none =>
      rw [structureAbove?, below] at spelled
      cases spelled
      exact .single told
  | some parent =>
      rw [structureAbove?, below] at spelled
      obtain ⟨held, foundHeld, rfl⟩ := Option.map_eq_some_iff.mp spelled
      have shorter : parent.index < id.index := sound.structureParents found below
      exact Relation.TransGen.trans (.single told) (finished.chain sound tagged foundHeld)
termination_by id.index

theorem Sound.tagged_of_structParents (sound : doc.Sound) {number : Id .page} {page : PageItem}
    (found : doc.pages.get? number = some page) {key : Nat}
    (keyed : page.structParents = some key) : doc.taggedPages[key]? = some page := by
  have member : (page, key) ∈ (doc.pages.toList.map Prod.snd).filterMap fun page =>
      page.structParents.map fun key => (page, key) := by
    refine List.mem_filterMap.mpr ⟨page, ?_, by rw [keyed, Option.map_some]⟩
    exact List.mem_map.mpr ⟨(number, page), Registry.mem_toList_iff.mpr found, rfl⟩
  rw [sound.zipIdx_taggedPages] at member
  exact List.mem_zipIdx_iff_getElem?.mp member

theorem FinishedAs.says_key (finished : doc.FinishedAs closed means file roots bodies)
    (sound : doc.Sound) {number : Id .page} {page : PageItem}
    (found : doc.pages.get? number = some page) :
    Body.Says bodies page.object "StructParents" (page.structParents.map .nat) := by
  have held : Value.entry? (doc.pageDictionary roots page).value "StructParents" =
      page.structParents.map .nat := by
    simp [Dictionary.Page.value, PageBoxes.entries, Value.entry?, List.findSome?_append,
      pageDictionary]
  exact held ▸ finished.says_page sound found "StructParents"

theorem Sound.targets_marked (sound : doc.Sound) {number : Id .page} {page : PageItem}
    (found : doc.pages.get? number = some page) {id : Id .structureItem} {item : StructureItem}
    (foundItem : doc.structureItems.get? id = some item) (mark : Nat) :
    (doc.structureItems.targets StructureItem.object page.marked)[mark]? = some item.object ↔
      page.marked[mark]? = some id := by
  have known := sound.structurePlaces.known found
  have spelled := congrArg (fun list : List (Option Ref) => list[mark]?)
    (Registry.map_get?_eq_targets StructureItem.object known)
  simp only [List.getElem?_map] at spelled
  constructor
  · intro target
    rw [target] at spelled
    obtain ⟨other, listed, same⟩ := Option.map_eq_some_iff.mp spelled
    obtain ⟨held, foundOther, sameObject⟩ := Option.map_eq_some_iff.mp same
    rw [listed, sound.structureItems.id_eq (fun _ _ => Record.structureItem.inj) foundOther
      foundItem sameObject]
  · intro listed
    rw [listed, Option.map_some, foundItem, Option.map_some] at spelled
    obtain ⟨target, place, same⟩ := Option.map_eq_some_iff.mp spelled.symm
    cases same
    exact place

theorem FinishedAs.markLeads_iff (finished : doc.FinishedAs closed means file roots bodies)
    (sound : doc.Sound) {tree : Ref} {number : Id .page} {page : PageItem}
    (found : doc.pages.get? number = some page)
    (toldTree : Body.Says bodies root "ParentTree" (some (.ref tree)))
    (toldPairs : Body.Says bodies tree "Nums" (some (.arr (doc.parentArrays.zipIdx.flatMap
      fun entry => [.nat entry.2, .refs entry.1]))))
    {id : Id .structureItem} {item : StructureItem}
    (foundItem : doc.structureItems.get? id = some item) (mark : Nat) :
    Body.MarkLeads bodies root page.object mark item.object ↔ page.marked[mark]? = some id := by
  have toldKey := finished.says_key sound found
  have array : ∀ key, page.structParents = some key →
      Value.atNumber? key (doc.parentArrays.zipIdx.flatMap fun entry =>
        [.nat entry.2, .refs entry.1]) =
        some (.refs (doc.structureItems.targets StructureItem.object page.marked)) := by
    intro key keyed
    have held := Value.atNumber?_zipIdx doc.parentArrays 0 key
    rw [Nat.zero_add] at held
    rw [held, parentArrays, List.getElem?_map, sound.tagged_of_structParents found keyed]
    rfl
  rw [← sound.targets_marked found foundItem]
  constructor
  · rintro ⟨key, treeAlso, pairs, targets, keyAlso, toldAlso, pairsAlso, held, place⟩
    obtain ⟨number, keyed, same⟩ := Option.map_eq_some_iff.mp (toldKey.unique keyAlso)
    have sameKey : number = key := Int.ofNat.inj (Value.int.inj same)
    cases toldTree.unique toldAlso
    cases toldPairs.unique pairsAlso
    rw [← sameKey, array number keyed] at held
    rw [Value.refs_injective (Option.some.inj held)]
    exact place
  · intro place
    have tagged : page.structParents ≠ none := by
      intro free
      rw [sound.keyed found] at free
      rw [free] at place
      exact nomatch place
    obtain ⟨key, keyed⟩ := Option.ne_none_iff_exists'.mp tagged
    rw [keyed] at toldKey
    exact ⟨key, tree, _, _, toldKey, toldTree, toldPairs, array key keyed, place⟩

theorem Sound.marks_iff (sound : doc.Sound) {number : Id .page} {page : PageItem}
    (found : doc.pages.get? number = some page) {mark : Nat} {id : Id .structureItem} :
    doc.Marks page.object mark id ↔ page.marked[mark]? = some id := by
  constructor
  · rintro ⟨other, held, foundOther, same, place⟩
    cases sound.pages.id_eq (fun _ _ => Record.page.inj) foundOther found same
    rw [found] at foundOther
    cases foundOther
    exact place
  · exact fun place => ⟨number, page, found, rfl, place⟩

/-- What an element says of its page and its marks is what the parent tree leads back from. -/
theorem FinishedAs.says_mark_iff (finished : doc.FinishedAs closed means file roots bodies)
    (sound : doc.Sound) (tagged : roots.structure? = some root) {number : Id .page}
    {page : PageItem} (found : doc.pages.get? number = some page) {id : Id .structureItem}
    {item : StructureItem} (foundItem : doc.structureItems.get? id = some item) (mark : Nat) :
    (Body.Says bodies item.object "Pg" (some (.ref page.object)) ∧
      ∃ children, Body.Says bodies item.object "K" (some (.arr children)) ∧
        Value.nat mark ∈ children) ↔ page.marked[mark]? = some id := by
  obtain ⟨above, marked, children, -, -, marks, spelled, toldKids, toldPage⟩ :=
    finished.exists_element sound tagged foundItem
  rw [← sound.marks_iff found, ← marks]
  constructor
  · rintro ⟨pageAlso, childrenAlso, kidsAlso, member⟩
    obtain ⟨⟨owner, place⟩, rfl, same⟩ := Option.map_eq_some_iff.mp (toldPage.unique pageAlso)
    cases same
    have sameKids := toldKids.unique kidsAlso
    split at sameKids
    · contradiction
    · cases sameKids
      rw [spelled] at member
      rcases List.mem_append.mp member with element | content
      · obtain ⟨target, -, same⟩ := List.mem_map.mp element
        contradiction
      · have same := Int.ofNat.inj (Value.int.inj (List.mem_singleton.mp content))
        rw [same]
  · rintro rfl
    have member : Value.nat mark ∈ children := by
      rw [spelled]
      exact List.mem_append_right _ List.mem_cons_self
    rw [if_neg (List.ne_nil_of_mem member)] at toldKids
    exact ⟨toldPage, children, toldKids, member⟩

theorem FinishedAs.says_root (finished : doc.FinishedAs closed means file roots bodies)
    (sound : doc.Sound) (tagged : roots.structure? = some root) :
    Body.Says bodies root "K" (some (.refs (doc.elementsBelow none))) ∧
      Body.Says bodies root "ParentTreeNextKey" (some (.nat doc.taggedPages.length)) ∧
      ∃ tree, Body.Says bodies root "ParentTree" (some (.ref tree)) ∧
        Body.Says bodies tree "Nums" (some (.arr (doc.parentArrays.zipIdx.flatMap fun entry =>
          [.nat entry.2, .refs entry.1]))) := by
  have stored := finished.closes.structureIn.stored tagged
  obtain ⟨tree, made, heldTree, heldRoot⟩ := stored.tree
  rw [sound.parentTree_eq] at made
  have same := Except.ok.inj made
  have generation : root.generation = 0 := congrArg Ref.generation stored.first
  have nextKey : tree.nextKey = doc.taggedPages.length := by
    rw [← same]
    exact NumberTree.nextKey_of_range sound.keys_parentPairs
  rw [topStructureItems_eq, nextKey] at heldRoot
  have told := finished.says_object generation heldRoot ⟨_, rfl⟩
  have toldTree := finished.says_object rfl heldTree ⟨_, rfl⟩ "Nums"
  have pairs : Value.entry? (tree.value Value.refs) "Nums" =
      some (.arr (doc.parentArrays.zipIdx.flatMap fun entry =>
        [.nat entry.2, .refs entry.1])) := by
    rw [← same, sound.parentPairs_eq]
    simp [NumberTree.value, Value.entry?, List.flatMap_map]
  have held : ∀ root : Dictionary.StructTreeRoot,
      root.value.entry? "K" = some (.refs root.kids) ∧
        root.value.entry? "ParentTree" = some (.ref root.parentTree) ∧
        root.value.entry? "ParentTreeNextKey" = some (.nat root.nextKey) := by
    intro root
    simp [Dictionary.StructTreeRoot.value, Value.entry?]
  obtain ⟨top, parents, next⟩ := held ⟨_, _, _⟩
  exact ⟨top ▸ told "K", next ▸ told "ParentTreeNextKey", .first (root.number + 1),
    parents ▸ told "ParentTree", pairs ▸ toldTree⟩

theorem FinishedAs.treeShown (finished : doc.FinishedAs closed means file roots bodies)
    (sound : doc.Sound) (tagged : roots.structure? = some root) :
    doc.TreeShown roots bodies root := by
  have stored := finished.closes.structureIn.stored tagged
  obtain ⟨top, nextKey, tree, toldTree, toldPairs⟩ := finished.says_root sound tagged
  have topKids : Body.childRefs bodies root = doc.elementsBelow none := by
    rw [Body.childRefs_of_says top, List.filterMap_map]
    exact List.filterMap_some
  exact {
    catalog := by
      obtain ⟨catalog, held, -, -, structTreeRoot, -⟩ := finished.closes.catalog
      have told := finished.says_object finished.closes.generation.2 held ⟨_, rfl⟩ "StructTreeRoot"
      rw [catalog.optional_entries.2.1, structTreeRoot, tagged] at told
      exact told
    top := top
    parent := by
      intro id item found
      obtain ⟨above, -, -, spelled, told, -⟩ := finished.exists_element sound tagged found
      exact ⟨above, spelled, told⟩
    once := finished.count_item sound tagged topKids
    listed := fun found member => finished.listed_iff sound tagged stored topKids found member
    chain := finished.chain sound tagged
    element := by
      intro id item found
      obtain ⟨-, marked, children, -, -, marks, spelled, kids, page⟩ :=
        finished.exists_element sound tagged found
      exact ⟨marked, children, marks, spelled, kids, page⟩
    keyed := by
      intro key page listed
      obtain ⟨⟨number, held⟩, member, rfl⟩ :=
        List.mem_map.mp (List.mem_filter.mp (List.mem_of_getElem? listed)).1
      have told := finished.says_key sound (Registry.mem_toList_iff.mp member)
      rw [sound.structParents_of_tagged listed] at told
      exact told
    unkeyed := by
      intro number page found untagged
      have told := finished.says_key sound found
      rw [(sound.keyed found).mpr untagged] at told
      exact told
    tree := by
      refine ⟨tree, doc.parentArrays, ?_, toldTree, toldPairs⟩
      rw [parentArrays, List.map_map]
      refine List.map_congr_left fun page listed => ?_
      obtain ⟨⟨number, held⟩, member, rfl⟩ := List.mem_map.mp (List.mem_filter.mp listed).1
      exact Registry.map_get?_eq_targets _
        (sound.structurePlaces.known (Registry.mem_toList_iff.mp member))
    nextKey := nextKey
    marks := by
      intro number page id item mark found foundItem
      rw [finished.markLeads_iff sound found toldTree toldPairs foundItem,
        finished.says_mark_iff sound tagged found foundItem] }

end Finished

/-- Whatever was asked of a document with structure items, its files show them as one tree. -/
theorem treeShown_run (options : DocumentOptions) (converter : Color → DeviceSpace → Color)
    (operations : List Operation) {means : Means} {sink : Sink}
    (reached : ((withConverter options converter).run operations).2 = doc)
    (tagged : doc.structureItems.isEmpty = false)
    (complete : (doc.finalize means sink).failure = none) :
    ∃ roots bodies root, Whole (doc.finalize means sink).out bodies roots means.identifier ∧
      doc.TreeShown roots bodies root := by
  have sound := sound_run options converter operations
  rw [reached] at sound
  obtain ⟨roots, closed, bodies, finished⟩ := sound.exists_finishedAs complete
  have isSome := finished.closes.structureIn.isSome
  rw [tagged] at isSome
  obtain ⟨root, known⟩ := Option.isSome_iff_exists.mp isSome
  exact ⟨roots, bodies, root, finished.whole, finished.treeShown sound known⟩

/--
A section with two paragraphs and a section without, where the second page has the paragraphs in
the other order and a page that lists one of them again is refused.
-/
def taggedDocument : Document :=
  ((withConverter .standard Color.convertDevice).run
    [.addStructureItem ⟨"Sect"⟩ none ⟨none, none, none, none⟩,
      .addStructureItem ⟨"P"⟩ (some ⟨0⟩) ⟨none, none, none, none⟩,
      .addStructureItem ⟨"P"⟩ (some ⟨0⟩) ⟨none, none, none, none⟩,
      .addStructureItem ⟨"Sect"⟩ none ⟨none, none, none, none⟩,
      .addPage (listingPage [] [] []),
      .addPage (listingPage [] [] [⟨2⟩, ⟨1⟩]),
      .addPage (listingPage [] [] [⟨1⟩, ⟨3⟩]),
      .addPage (listingPage [] [] [⟨3⟩])]).2

theorem treeShown_run_sections :
    (taggedDocument.finalize ⟨id, List.replicate 16 0⟩ .unbounded).failure = none ∧
      ∃ roots bodies root,
        Whole (taggedDocument.finalize ⟨id, List.replicate 16 0⟩ .unbounded).out bodies roots
          (List.replicate 16 0) ∧
        Body.Says bodies root "K" (some (.refs [.first 1, .first 4])) ∧
        Body.Says bodies (.first 3) "P" (some (.ref (.first 1))) ∧
        Body.Says bodies (.first 14) "StructParents" (some (.nat 1)) ∧
        Body.Says bodies root "ParentTreeNextKey" (some (.nat 2)) ∧
        Body.MarkLeads bodies root (.first 11) 0 (.first 3) ∧
        Body.Says bodies (.first 3) "Pg" (some (.ref (.first 11))) := by
  have complete : (taggedDocument.finalize ⟨id, List.replicate 16 0⟩ .unbounded).failure = none :=
    failure_finalize_unbounded (by decide +kernel)
  obtain ⟨roots, bodies, root, whole, shown⟩ := treeShown_run _ _ _ rfl (by decide) complete
  have paragraph : taggedDocument.structureItems.get? ⟨2⟩ = some _ := rfl
  have secondPage : taggedDocument.pages.get? ⟨1⟩ = some _ := rfl
  have thirdPage : taggedDocument.taggedPages[1]? = some _ := rfl
  obtain ⟨above, spelled, parent⟩ := shown.parent paragraph
  cases spelled
  obtain ⟨marked, children, marks, kids, told, page⟩ := shown.element paragraph
  have place := (marks (.first 11) 0).mpr ⟨⟨1⟩, _, secondPage, rfl, rfl⟩
  rw [place] at kids page
  have member : Value.nat 0 ∈ children := kids ▸ List.mem_append_right _ List.mem_cons_self
  rw [if_neg (List.ne_nil_of_mem member)] at told
  exact ⟨complete, roots, bodies, root, whole, shown.top, parent, shown.keyed thirdPage,
    shown.nextKey, (shown.marks secondPage paragraph).mpr ⟨page, children, told, member⟩, page⟩

end Document

end Folio
