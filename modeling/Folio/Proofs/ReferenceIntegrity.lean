import Folio.Proofs.Referring

/-!
References of a finished file. Each of them, in an object or in the trailer, leads to an object of
the file that is of the kind its key calls for, and within the layers of functions, shadings,
patterns and colour spaces they all lead back, so that none of these layers has a cycle.
-/

namespace Folio

theorem Ref.token_first (number : Nat) :
    (first number).token = decimal number ++ utf8 " 0 R" := by
  have rest : 32 :: decimal 0 ++ [32, 0x52] = utf8 " 0 R" := by decide
  rw [token, List.append_assoc, ← rest]
  rfl

namespace Document

/-- The objects that a document is written as, in order, with the roots among them. -/
def WrittenAs (doc : Document) (means : Means) (roots : Roots) (bodies : List Body) : Prop :=
  ∃ closed, close.run doc = .ok roots closed ∧
    closed.store.records.toList.map (closed.body roots means.deflate) = bodies.map .ok

def fileLinks (roots : Roots) (bodies : List Body) (identifier : Bytes) : List Link :=
  bodies.flatMap Body.links ++ (trailer roots identifier bodies.length).links

/-- A function, a shading, a pattern or a colour space refers to an object. -/
def LayerRefers (bodies : List Body) (source target : Ref) : Prop :=
  ∃ body, Body.at? bodies source = some body ∧ (∃ role ∈ Role.layered, role.Fits body) ∧
    ∃ link ∈ body.links, link.target = target

structure ReferencesHold (roots : Roots) (bodies : List Body) (identifier : Bytes) : Prop where
  spelled : ∀ link ∈ fileLinks roots bodies identifier,
    link.target.token = decimal link.target.number ++ utf8 " 0 R" ∧
      1 ≤ link.target.number ∧ link.target.number ≤ bodies.length
  finds : ∀ link ∈ fileLinks roots bodies identifier,
    ∃ role, Role.at? link.path = some role ∧ Finds roots bodies role link.target
  before : ∀ {source target : Ref}, LayerRefers bodies source target →
    target.number < source.number
  acyclic : ∀ target : Ref, ¬Relation.TransGen (LayerRefers bodies) target target

variable {doc closed : Document} {means : Means} {file : Bytes} {roots : Roots}
  {bodies : List Body}

theorem Finds.spelled {role : Role} {target : Ref} (finds : Finds roots bodies role target) :
    target.token = decimal target.number ++ utf8 " 0 R" ∧
      1 ≤ target.number ∧ target.number ≤ bodies.length := by
  obtain ⟨body, place, -⟩ := finds.fits
  have token := Ref.token_first target.number
  rw [← Body.eq_first_of_at? place] at token
  exact ⟨token, (Body.number_of_at? place).2⟩

theorem lt_of_transGen {source target : Ref}
    (before : ∀ {source target : Ref}, LayerRefers bodies source target →
      target.number < source.number)
    (way : Relation.TransGen (LayerRefers bodies) source target) :
    target.number < source.number := by
  induction way with
  | single refers => exact before refers
  | tail _ refers ih => exact Nat.lt_trans (before refers) ih

theorem leads_trailer_iff {holds : Role → Ref → Prop} (roots : Roots) (identifier : Bytes)
    (count : Nat) : Leads holds (trailer roots identifier count).links ↔
      holds .info roots.info ∧ holds (.typed "Catalog") roots.catalog := by
  simp [Value.links, Value.family, trailer, Value.entry?, Role.at?, Role.table]

section Finished

variable (finished : doc.FinishedAs closed means file roots bodies)
include finished

theorem FinishedAs.leads_trailer (identifier : Bytes) :
    Leads (Finds roots bodies) (trailer roots identifier bodies.length).links := by
  obtain ⟨generation, informed⟩ := finished.closes.info
  obtain ⟨catalog, cataloged, -⟩ := finished.closes.catalog
  exact (leads_trailer_iff roots identifier bodies.length).mpr
    ⟨finished.finds_object generation informed ⟨doc.info, rfl⟩ nofun,
      finished.finds_object finished.closes.generation.2 cataloged
        (Dictionary.Catalog.fits catalog).1 nofun⟩

theorem FinishedAs.leads_fileLinks (sound : doc.Sound) (agree : doc.FontsAgree)
    (resolved : doc.Resolved) (identifier : Bytes) :
    Leads (Finds roots bodies) (fileLinks roots bodies identifier) := by
  refine leads_append.mpr ⟨leads_flatMap.mpr fun body member => ?_,
    finished.leads_trailer identifier⟩
  obtain ⟨index, held⟩ := List.mem_iff_getElem?.mp member
  have place : Body.at? bodies (.first (index + 1)) = some body := held
  exact (finished.refers sound agree resolved place).leads

theorem FinishedAs.lt_of_layerRefers (sound : doc.Sound) (agree : doc.FontsAgree)
    (resolved : doc.Resolved) {source target : Ref} (refers : LayerRefers bodies source target) :
    target.number < source.number := by
  obtain ⟨body, place, ⟨role, layered, fits⟩, link, member, rfl⟩ := refers
  rcases (finished.refers sound agree resolved place).before with unlayered | before
  · exact absurd fits (unlayered role layered)
  · exact before link member

theorem FinishedAs.referencesHold (sound : doc.Sound) (agree : doc.FontsAgree)
    (resolved : doc.Resolved) (identifier : Bytes) : ReferencesHold roots bodies identifier where
  spelled := by
    intro link member
    obtain ⟨role, -, finds⟩ := finished.leads_fileLinks sound agree resolved identifier link member
    exact finds.spelled
  finds := finished.leads_fileLinks sound agree resolved identifier
  before := finished.lt_of_layerRefers sound agree resolved
  acyclic := fun _ cycle =>
    Nat.lt_irrefl _ (lt_of_transGen (finished.lt_of_layerRefers sound agree resolved) cycle)

end Finished

/-- Whatever was asked of a document, the references of its files hold. -/
theorem referencesHold_run (options : DocumentOptions) (converter : Color → DeviceSpace → Color)
    (operations : List Operation) {means : Means} {sink : Sink}
    (reached : ((withConverter options converter).run operations).2 = doc)
    (complete : (doc.finalize means sink).failure = none) :
    ∃ roots bodies, doc.WrittenAs means roots bodies ∧
      Whole (doc.finalize means sink).out bodies roots means.identifier ∧
        ReferencesHold roots bodies means.identifier := by
  have sound := sound_run options converter operations
  have agree := (fontsAgree_withConverter options converter).run operations
  have resolved := (resolved_withConverter options converter).run operations
  rw [reached] at sound agree resolved
  obtain ⟨roots, closed, bodies, finished⟩ := sound.exists_finishedAs complete
  exact ⟨roots, bodies, ⟨closed, finished.closing, finished.lowered⟩, finished.whole,
    finished.referencesHold sound agree resolved means.identifier⟩

theorem Sound.at?_of_writtenAs (sound : doc.Sound) (written : doc.WrittenAs means roots bodies)
    {target : Ref} {value : Value} (generation : target.generation = 0)
    (found : doc.store.get? target = some (.object value)) :
    Body.at? bodies target = some (.value value) := by
  obtain ⟨closed, ran, lowered⟩ := written
  obtain ⟨rootsAlso, closedAlso, ranAlso, closes⟩ := sound.exists_closed
  rw [ran] at ranAlso
  cases ranAlso
  obtain ⟨body, place, drawn⟩ := exists_at?_of_get? lowered generation (closes.adds.kept found)
  cases drawn
  exact place

/--
A colorant, a shading in it and a pattern of the shading; a file that a note on a page opens; a form
field, an outline and a tree of structure; and functions of which one is made of the other.
-/
def linkedDocument : Document :=
  ((withConverter .standard Color.convertDevice).run
    [.addSeparation "Spot" (.gray 0),
      .addFunction (.linear [0] [1]),
      .addFunction (.stitching [0, 1] [⟨0⟩, ⟨0⟩] [0] [0, 1, 0, 1]),
      .addShading ⟨.axial 0 0 1 1, .separation ⟨0⟩, ⟨1⟩, true, true⟩,
      .addPattern (.shading ⟨0⟩ .identity),
      .addForm ⟨⟨0, 0, 1, 1⟩, none, [], []⟩,
      .createCheckbox ⟨⟨0, 0, 1, 1⟩, ⟨0⟩, ⟨0⟩, "field", true⟩,
      .embedFileData "data" [1, 2] none,
      .annotate ⟨0, 0, 1, 1⟩ (.fileAttachment ⟨0⟩ none) none,
      .addStructureItem ⟨"P"⟩ none ⟨none, none, none, none⟩,
      .addPage (listingPage [⟨0⟩] [⟨0⟩] [⟨0⟩]),
      .addOutline ⟨"start", ⟨0⟩, none⟩]).2

theorem referencesHold_run_linked :
    (linkedDocument.finalize ⟨id, List.replicate 16 0⟩ .unbounded).failure = none ∧
      ∃ roots bodies,
        Whole (linkedDocument.finalize ⟨id, List.replicate 16 0⟩ .unbounded).out bodies roots
          (List.replicate 16 0) ∧
        ReferencesHold roots bodies (List.replicate 16 0) ∧
        Body.at? bodies (.first 6) =
          some (.value (Dictionary.shadingPattern (.first 5) .identity)) ∧
        ∃ shading, Body.at? bodies (.first 5) = some shading ∧
          (shading.entry? "ShadingType").isSome := by
  have complete : (linkedDocument.finalize ⟨id, List.replicate 16 0⟩ .unbounded).failure = none :=
    failure_finalize_unbounded (by decide +kernel)
  obtain ⟨roots, bodies, written, whole, hold⟩ := referencesHold_run _ _ _ rfl complete
  have stored : linkedDocument.store.get? (.first 6) =
      some (.object (Dictionary.shadingPattern (.first 5) .identity)) := rfl
  have place := (sound_run ..).at?_of_writtenAs written rfl stored
  have named : ⟨["Pattern", "Shading"], .first 5⟩ ∈
      fileLinks roots bodies (List.replicate 16 0) := by
    refine List.mem_append_left _ (List.mem_flatMap.mpr ⟨_, Body.mem_of_at? place, ?_⟩)
    simp [Dictionary.shadingPattern, Value.links, Value.family, Value.entry?]
  obtain ⟨role, called, finds⟩ := hold.finds _ named
  have same : Role.at? ["Pattern", "Shading"] = some .shading := by decide
  cases called.symm.trans same
  obtain ⟨shading, placeShading, fits⟩ := finds.fits
  exact ⟨complete, roots, bodies, whole, hold, place, shading, placeShading, fits.2⟩

end Document

end Folio
