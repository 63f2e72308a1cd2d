import Folio.Registry
import Folio.Value

/-!
Looking up what a registry holds, and replacing it.
-/

namespace Folio

theorem Id.eq_of_index_eq {kind : Kind} {first second : Id kind}
    (same : first.index = second.index) : first = second := by
  cases first
  exact congrArg Id.mk same

namespace Registry

variable {kind : Kind} {α : Type}

theorem get_eq_ok_iff {registry : Registry kind α} {id : Id kind} {entry : α} :
    registry.get id = .ok entry ↔ registry.get? id = some entry := by
  rw [get]
  cases registry.get? id with
  | none => simp
  | some found => simp

theorem exists_get?_of_map_get {β : Type} {registry : Registry kind α} {id : Id kind}
    {change : α → β} {value : β} (known : (registry.get id).map change = .ok value) :
    ∃ entry, registry.get? id = some entry ∧ change entry = value := by
  cases got : registry.get id with
  | error error =>
      rw [got] at known
      contradiction
  | ok entry =>
      rw [got] at known
      exact ⟨entry, get_eq_ok_iff.mp got, Except.ok.inj known⟩

theorem contains_of_get? {registry : Registry kind α} {id : Id kind} {entry : α}
    (found : registry.get? id = some entry) : registry.contains id := by
  obtain ⟨bound, -⟩ := Array.getElem?_eq_some_iff.mp found
  exact decide_eq_true bound

def replaced (registry : Registry kind α) (id : Id kind) (entry : α) : Registry kind α :=
  ⟨registry.entries.setIfInBounds id.index entry⟩

theorem set_of_contains {registry : Registry kind α} {id : Id kind} (entry : α)
    (contained : registry.contains id) :
    registry.set id entry = .ok (registry.replaced id entry) := by
  rw [set, if_pos contained]
  rfl

theorem get?_replaced {registry : Registry kind α} {id : Id kind} (entry : α) (other : Id kind)
    (contained : registry.contains id) :
    (registry.replaced id entry).get? other =
      if other = id then some entry else registry.get? other := by
  have bound : id.index < registry.entries.size := of_decide_eq_true contained
  rw [get?, replaced, Array.getElem?_setIfInBounds]
  by_cases same : other = id
  · rw [if_pos (congrArg Id.index same.symm), if_pos bound, if_pos same]
  · have apart : id.index ≠ other.index := fun equal => same (Id.eq_of_index_eq equal.symm)
    rw [if_neg apart, if_neg same]
    rfl

@[simp] theorem size_replaced (registry : Registry kind α) (id : Id kind) (entry : α) :
    (registry.replaced id entry).size = registry.size := by
  simp [replaced, size]

theorem get?_register (registry : Registry kind α) (entry : α) (id : Id kind) :
    (registry.register entry).2.get? id =
      if id = registry.nextId then some entry else registry.get? id := by
  by_cases same : id = registry.nextId
  · rw [if_pos same, same]
    exact get?_register_new registry entry
  · have apart : id.index ≠ registry.entries.size := fun equal => same (Id.eq_of_index_eq equal)
    rw [if_neg same, register, get?, Array.getElem?_push, if_neg apart]
    rfl

theorem ne_nextId_of_get? {registry : Registry kind α} {id : Id kind} {entry : α}
    (found : registry.get? id = some entry) : id ≠ registry.nextId := by
  rintro rfl
  have bound : registry.size < registry.size := of_decide_eq_true (contains_of_get? found)
  exact Nat.lt_irrefl _ bound

structure Extends (before after : Registry kind α) : Prop where
  kept : ∀ {id : Id kind} {entry : α}, before.get? id = some entry → after.get? id = some entry

theorem Extends.refl (registry : Registry kind α) : registry.Extends registry :=
  ⟨id⟩

theorem extends_register (registry : Registry kind α) (entry : α) :
    registry.Extends (registry.register entry).2 := by
  refine ⟨fun found => ?_⟩
  rw [get?_register_old registry entry (contains_of_get? found)]
  exact found

theorem exists_get?_of_contains {registry : Registry kind α} {id : Id kind}
    (contained : registry.contains id) : ∃ entry, registry.get? id = some entry := by
  have bound : id.index < registry.entries.size := of_decide_eq_true contained
  exact ⟨registry.entries[id.index], Array.getElem?_eq_getElem bound⟩

theorem Extends.contains {before after : Registry kind α} {id : Id kind}
    (extend : before.Extends after) (contained : before.contains id) : after.contains id := by
  obtain ⟨entry, found⟩ := exists_get?_of_contains contained
  exact contains_of_get? (extend.kept found)

theorem getElem?_toList (registry : Registry kind α) (index : Nat) :
    registry.toList[index]? = (registry.get? ⟨index⟩).map fun entry => (⟨index⟩, entry) := by
  rw [toList, List.getElem?_map, List.getElem?_zipIdx, Array.getElem?_toList, get?, Option.map_map,
    Nat.zero_add]
  rfl

theorem mem_toList_iff {registry : Registry kind α} {id : Id kind} {entry : α} :
    (id, entry) ∈ registry.toList ↔ registry.get? id = some entry := by
  constructor
  · intro listed
    obtain ⟨index, place⟩ := List.mem_iff_getElem?.mp listed
    rw [getElem?_toList] at place
    obtain ⟨held, found, same⟩ := Option.map_eq_some_iff.mp place
    cases same
    exact found
  · intro found
    refine List.mem_iff_getElem?.mpr ⟨id.index, ?_⟩
    rw [getElem?_toList, found]
    rfl

theorem toList_register (registry : Registry kind α) (entry : α) :
    (registry.register entry).2.toList = registry.toList ++ [(registry.nextId, entry)] := by
  simp [register, toList, nextId, size, List.zipIdx_append]

@[simp] theorem length_toList (registry : Registry kind α) :
    registry.toList.length = registry.size := by
  simp [toList, size]

@[simp] theorem isEmpty_toList (registry : Registry kind α) :
    registry.toList.isEmpty = registry.isEmpty := by
  rw [toList, isEmpty, ← Array.isEmpty_toList]
  cases registry.entries.toList with
  | nil => rfl
  | cons entry rest => rfl

theorem isEmpty_of_get? {registry : Registry kind α} {id : Id kind} {entry : α}
    (found : registry.get? id = some entry) : registry.isEmpty = false := by
  rw [← isEmpty_toList]
  exact List.isEmpty_eq_false_iff.mpr (List.ne_nil_of_mem (mem_toList_iff.mpr found))

theorem index_toList (registry : Registry kind α) :
    registry.toList.map (fun entry => entry.1.index) = List.range registry.size := by
  simp [toList, size, Function.comp_def, List.zipIdx_map_snd, List.range_eq_range']

theorem pairwise_toList (registry : Registry kind α) :
    registry.toList.Pairwise fun first second => first.1.index < second.1.index := by
  have ascending := List.pairwise_lt_range (n := registry.size)
  rw [← index_toList, List.pairwise_map] at ascending
  exact ascending

theorem nodup_ids (registry : Registry kind α) : (registry.toList.map Prod.fst).Nodup := by
  refine List.pairwise_map.mpr (registry.pairwise_toList.imp fun before same => ?_)
  rw [same] at before
  exact Nat.lt_irrefl _ before

theorem nodup_toList (registry : Registry kind α) : registry.toList.Nodup := by
  refine registry.pairwise_toList.imp fun before same => ?_
  rw [same] at before
  exact Nat.lt_irrefl _ before

def targets (registry : Registry kind α) (object : α → Ref) (ids : List (Id kind)) : List Ref :=
  ids.filterMap fun id => (registry.get? id).map object

variable {registry : Registry kind α} {ids : List (Id kind)}

theorem targets_cons_of_get? {object : α → Ref} {id : Id kind} {entry : α}
    (found : registry.get? id = some entry) :
    registry.targets object (id :: ids) = object entry :: registry.targets object ids := by
  rw [targets, List.filterMap_cons, found, Option.map_some]
  rfl

theorem map_get?_eq_targets (object : α → Ref) (known : ∀ id ∈ ids, registry.contains id) :
    ids.map (fun id => (registry.get? id).map object) =
      (registry.targets object ids).map some := by
  induction ids with
  | nil => rfl
  | cons id rest ih =>
      obtain ⟨first, others⟩ := List.forall_mem_cons.mp known
      obtain ⟨entry, found⟩ := exists_get?_of_contains first
      rw [targets_cons_of_get? found, List.map_cons, List.map_cons, ih others, found,
        Option.map_some]

theorem mapM_get_eq_targets (object : α → Ref) (known : ∀ id ∈ ids, registry.contains id) :
    ids.mapM (fun id => (registry.get id).map object) = .ok (registry.targets object ids) := by
  induction ids with
  | nil => rfl
  | cons id rest ih =>
      obtain ⟨first, others⟩ := List.forall_mem_cons.mp known
      obtain ⟨entry, found⟩ := exists_get?_of_contains first
      rw [targets_cons_of_get? found, List.mapM_cons, ih others, get_eq_ok_iff.mpr found]
      rfl

theorem mem_targets_iff {object : α → Ref} {target : Ref} :
    target ∈ registry.targets object ids ↔
      ∃ id ∈ ids, ∃ entry, registry.get? id = some entry ∧ object entry = target := by
  simp only [targets, List.mem_filterMap, Option.map_eq_some_iff]

def objects (registry : Registry kind α) (object : α → Option Ref) : List (Option Ref) :=
  registry.entries.toList.map object

@[simp] theorem length_objects (registry : Registry kind α) (object : α → Option Ref) :
    (registry.objects object).length = registry.size := by
  simp [objects, size]

theorem objects_register (registry : Registry kind α) (entry : α) (object : α → Option Ref) :
    (registry.register entry).2.objects object = registry.objects object ++ [object entry] := by
  simp [register, objects]

theorem getElem?_objects (registry : Registry kind α) (object : α → Option Ref) (index : Nat) :
    (registry.objects object)[index]? = (registry.get? ⟨index⟩).map object := by
  rw [objects, List.getElem?_map, Array.getElem?_toList]
  rfl

theorem objects_none (registry : Registry kind α) :
    registry.objects (fun _ => none) = List.replicate registry.size none := by
  rw [objects, List.map_const', Array.length_toList]
  rfl

end Registry

end Folio
