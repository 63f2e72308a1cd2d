import Folio.Document.Closing
import Folio.Proofs.Contents
import Folio.Proofs.CrossReference

/-!
The parent tree of a document that was built by operations. The keys of pages count from zero in
the order of the pages, so each page adds its entry at the end of the tree.
-/

namespace Folio

theorem NumberTree.insert_of_forall_lt {α : Type} {tree : NumberTree α} {key : Nat} (value : α)
    (below : ∀ pair ∈ tree.pairs, pair.1 < key) :
    (tree.insert key value).2 = ⟨tree.pairs ++ [(key, value)]⟩ := by
  rw [insert, Sorted.insert_of_forall_gt]
  exact fun pair member => Nat.compare_eq_gt.mpr (below pair member)

theorem NumberTree.nextKey_of_range {α : Type} {tree : NumberTree α} {count : Nat}
    (keys : tree.pairs.map Prod.fst = List.range count) : tree.nextKey = count := by
  have last := congrArg List.getLast? keys
  rw [List.getLast?_map, List.getLast?_range] at last
  rw [nextKey]
  by_cases empty : count = 0
  · rw [if_pos empty, Option.map_eq_none_iff] at last
    rw [last, empty]
  · rw [if_neg empty] at last
    obtain ⟨⟨key, value⟩, found, same⟩ := Option.map_eq_some_iff.mp last
    rw [found]
    simp only at same ⊢
    omega

namespace Document

variable {doc : Document}

def parentPair? (doc : Document) (page : PageItem) : Option (Nat × List Ref) :=
  page.structParents.map fun key =>
    (key, doc.structureItems.targets StructureItem.object page.marked)

def addParents (doc : Document) (tree : NumberTree (List Ref)) (entry : Id .page × PageItem) :
    Except Error (NumberTree (List Ref)) :=
  match entry.2.structParents with
  | none => .ok tree
  | some key => do return (tree.insert key (← entry.2.marked.mapM doc.structureItemRef)).2

theorem foldlM_addParents {entries : List (Id .page × PageItem)}
    (known : ∀ entry ∈ entries, ∀ id ∈ entry.2.marked, doc.structureItems.contains id)
    {start count : Nat}
    (keys : (entries.filterMap fun entry => entry.2.structParents) = List.range' start count)
    {tree : NumberTree (List Ref)} (below : ∀ pair ∈ tree.pairs, pair.1 < start) :
    entries.foldlM doc.addParents tree =
      .ok ⟨tree.pairs ++ entries.filterMap fun entry => doc.parentPair? entry.2⟩ := by
  induction entries generalizing start count tree with
  | nil =>
      rw [List.filterMap_nil, List.append_nil]
      rfl
  | cons entry rest ih =>
      obtain ⟨first, others⟩ := List.forall_mem_cons.mp known
      rw [List.foldlM_cons]
      cases key : entry.2.structParents with
      | none =>
          have absent : doc.parentPair? entry.2 = none := by
            rw [parentPair?, key, Option.map_none]
          simp only [List.filterMap_cons, key] at keys
          simp only [List.filterMap_cons, absent, addParents, key]
          exact ih others keys below
      | some number =>
          have present : doc.parentPair? entry.2 =
              some (number, doc.structureItems.targets StructureItem.object entry.2.marked) := by
            rw [parentPair?, key, Option.map_some]
          simp only [List.filterMap_cons, key] at keys
          cases count with
          | zero => contradiction
          | succ count =>
              rw [List.range'_succ, List.cons.injEq] at keys
              obtain ⟨rfl, keys⟩ := keys
              have marked : entry.2.marked.mapM doc.structureItemRef =
                  .ok (doc.structureItems.targets StructureItem.object entry.2.marked) :=
                Registry.mapM_get_eq_targets StructureItem.object first
              have added := tree.insert_of_forall_lt
                (doc.structureItems.targets StructureItem.object entry.2.marked) below
              simp only [List.filterMap_cons, present, addParents, key, marked, bind, Except.bind,
                pure, Except.pure, added]
              refine (ih others keys ?_).trans ?_
              · intro pair member
                rcases List.mem_append.mp member with before | new
                · exact Nat.lt_succ_of_lt (below pair before)
                · rw [List.mem_singleton.mp new]
                  exact Nat.lt_succ_self number
              · rw [List.append_assoc]
                rfl

theorem Sound.parentTree_eq (sound : doc.Sound) :
    doc.parentTree =
      .ok ⟨doc.pages.toList.filterMap fun entry => doc.parentPair? entry.2⟩ := by
  have known : ∀ entry ∈ doc.pages.toList, ∀ id ∈ entry.2.marked,
      doc.structureItems.contains id :=
    fun entry member => sound.structurePlaces.known (Registry.mem_toList_iff.mp member)
  have keys := sound.keys
  rw [List.range_eq_range'] at keys
  show doc.pages.toList.foldlM doc.addParents ⟨[]⟩ = _
  rw [foldlM_addParents known keys fun pair member => absurd member List.not_mem_nil]
  rfl

end Document

end Folio
