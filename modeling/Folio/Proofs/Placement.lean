import Folio.Document.Page
import Folio.Proofs.Build
import Folio.Proofs.Registry

/-!
What is listed for a page gets its place there: after the checks nothing can go wrong.
-/

namespace Folio

namespace Placement

variable {kind : Kind}

def withAll (placement : Placement kind) (ids : List (Id kind)) (page : Id .page) :
    Placement kind :=
  ⟨(ids.map fun id => (id, page)).reverse ++ placement.places⟩

theorem mark_of_free {placement : Placement kind} {id : Id kind} (page : Id .page)
    (free : placement.pageOf? id = none) :
    placement.mark id page = .ok ⟨(id, page) :: placement.places⟩ := by
  rw [mark, free]

theorem markAll_of_free {placement : Placement kind} {ids : List (Id kind)} (page : Id .page)
    (free : ∀ id ∈ ids, placement.pageOf? id = none) (nodup : ids.Nodup) :
    placement.markAll ids page = .ok (placement.withAll ids page) := by
  induction ids generalizing placement with
  | nil => rfl
  | cons id rest ih =>
      obtain ⟨fresh, nodupRest⟩ := List.nodup_cons.mp nodup
      have freeRest : ∀ other ∈ rest,
          Placement.pageOf? ⟨(id, page) :: placement.places⟩ other = none := by
        intro other member
        have different : other ≠ id := by
          intro same
          exact fresh (same ▸ member)
        rw [pageOf?, List.lookup_cons, beq_eq_false_iff_ne.mpr different]
        exact free other (List.mem_cons_of_mem id member)
      have marked := mark_of_free page (free id List.mem_cons_self)
      rw [markAll, List.foldlM_cons, marked]
      show Placement.markAll ⟨(id, page) :: placement.places⟩ rest page = _
      rw [ih freeRest nodupRest, withAll, withAll, List.map_cons, List.reverse_cons,
        List.append_assoc]
      rfl

end Placement

namespace Document

variable {kind : Kind} {α : Type}

/-- Resources that a page may list: all of them known, without a place, and listed once. -/
structure Placeable (registry : Registry kind α) (placement : Placement kind)
    (ids : List (Id kind)) : Prop where
  known : ∀ id ∈ ids, registry.contains id
  free : ∀ id ∈ ids, placement.pageOf? id = none
  nodup : ids.Nodup

theorem placeable_of_checkPlaceable {registry : Registry kind α} {placement : Placement kind}
    {page : Id .page} {seen ids : List (Id kind)}
    (checked : checkPlaceable registry placement page seen ids = .ok ()) :
    Placeable registry placement ids ∧ ∀ id ∈ ids, id ∉ seen := by
  induction ids generalizing seen with
  | nil =>
      refine ⟨⟨?_, ?_, List.nodup_nil⟩, ?_⟩
      · exact fun id member => absurd member List.not_mem_nil
      · exact fun id member => absurd member List.not_mem_nil
      · exact fun id member => absurd member List.not_mem_nil
  | cons id rest ih =>
      rw [checkPlaceable] at checked
      cases got : registry.get id with
      | error error =>
          rw [got] at checked
          contradiction
      | ok entry =>
          have known := Registry.contains_of_get? (Registry.get_eq_ok_iff.mp got)
          cases owned : placement.pageOf? id with
          | some owner =>
              have used : placement.checkUnused id =
                  .error (.alreadyUsed kind id.index owner.index) := by
                rw [Placement.checkUnused, owned]
              rw [got, used] at checked
              contradiction
          | none =>
              have unused : placement.checkUnused id = .ok () := by
                rw [Placement.checkUnused, owned]
              by_cases listed : seen.contains id
              · rw [got, unused, if_pos listed] at checked
                contradiction
              · rw [got, unused, if_neg listed] at checked
                obtain ⟨placeable, unseen⟩ := ih checked
                have unlisted : id ∉ seen := fun member =>
                  listed (List.contains_iff_mem.mpr member)
                refine ⟨⟨?_, ?_, ?_⟩, ?_⟩
                · exact List.forall_mem_cons.mpr ⟨known, placeable.known⟩
                · exact List.forall_mem_cons.mpr ⟨owned, placeable.free⟩
                · refine List.nodup_cons.mpr ⟨?_, placeable.nodup⟩
                  exact fun member => unseen id member List.mem_cons_self
                · refine List.forall_mem_cons.mpr ⟨unlisted, ?_⟩
                  exact fun other member seenOther =>
                    unseen other member (List.mem_cons_of_mem id seenOther)

theorem markAll_of_checkPlaceable {registry : Registry kind α} {placement : Placement kind}
    {page : Id .page} {ids : List (Id kind)}
    (checked : checkPlaceable registry placement page [] ids = .ok ()) :
    placement.markAll ids page = .ok (placement.withAll ids page) := by
  obtain ⟨placeable, -⟩ := placeable_of_checkPlaceable checked
  exact Placement.markAll_of_free page placeable.free placeable.nodup

def placed (doc : Document) (source : PageSource) : Document :=
  { doc with
    widgetPlaces := doc.widgetPlaces.withAll source.widgets doc.pages.nextId
    annotationPlaces := doc.annotationPlaces.withAll source.annotations doc.pages.nextId
    structurePlaces := doc.structurePlaces.withAll source.marked doc.pages.nextId }

theorem run_placeAll_of_checkPage {doc : Document} {source : PageSource}
    (checked : doc.checkPage source = .ok ()) :
    (placeAll source).run doc = .ok () (doc.placed source) := by
  rw [checkPage] at checked
  cases widgets : checkPlaceable doc.widgets doc.widgetPlaces doc.pages.nextId []
      source.widgets with
  | error error =>
      rw [widgets] at checked
      contradiction
  | ok =>
      rw [widgets] at checked
      cases annotations : checkPlaceable doc.annotations doc.annotationPlaces doc.pages.nextId []
          source.annotations with
      | error error =>
          rw [annotations] at checked
          contradiction
      | ok =>
          rw [annotations] at checked
          simp [placeAll, markAll_of_checkPlaceable widgets,
            markAll_of_checkPlaceable annotations, markAll_of_checkPlaceable checked, placed]

end Document

end Folio
