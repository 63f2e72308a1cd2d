import Folio.Document.Closing
import Folio.Proofs.Build
import Folio.Proofs.Store

/-!
Completing a document touches nothing but its store, and adds only objects that stand alone.
-/

namespace Folio

namespace Document

/-- The same document but for objects that were added and stand alone. -/
structure Grows (before after : Document) : Prop where
  rest : after = { before with store := after.store }
  store : before.store.Grows after.store

theorem Grows.refl (doc : Document) : doc.Grows doc :=
  ⟨rfl, .refl _⟩

theorem Grows.trans {first second third : Document} (hfirst : first.Grows second)
    (hsecond : second.Grows third) : first.Grows third where
  rest := by
    rw [hsecond.rest, hfirst.rest]
  store := hfirst.store.trans hsecond.store

theorem grows_push (doc : Document) {record : Record} (halone : record.StandsAlone) :
    doc.Grows (doc.push record) :=
  ⟨rfl, doc.store.grows_allocate halone⟩

end Document

namespace Build

variable {α β : Type}

/-- A step that only adds objects that stand alone, or fills places with them. -/
abbrev OnlyGrows (step : Build α) : Prop :=
  Within Document.Grows step

theorem onlyGrows_pure (value : α) : OnlyGrows (pure value) :=
  within_pure .refl value

theorem onlyGrows_get : OnlyGrows get :=
  within_get .refl

theorem onlyGrows_ofExcept (outcome : Except Error α) : OnlyGrows (ofExcept outcome) :=
  within_ofExcept .refl outcome

theorem onlyGrows_bind {step : Build α} {next : α → Build β} (grows : OnlyGrows step)
    (growsNext : ∀ value, OnlyGrows (next value)) : OnlyGrows (step >>= next) :=
  grows.bind .trans growsNext

theorem onlyGrows_reserve : OnlyGrows reserve :=
  within_modifyGet fun doc => doc.grows_push (.inl rfl)

theorem onlyGrows_object (value : Value) : OnlyGrows (object value) :=
  within_modifyGet fun doc => doc.grows_push (.inr ⟨value, rfl⟩)

theorem onlyGrows_fill (target : Ref) (value : Value) :
    OnlyGrows (fill target (.object value)) :=
  within_modifyGet fun doc => ⟨rfl, doc.store.grows_fill target (.inr ⟨value, rfl⟩)⟩

theorem onlyGrows_forM {step : α → Build PUnit} (grows : ∀ entry, OnlyGrows (step entry))
    (entries : List α) : OnlyGrows (entries.forM step) :=
  within_forM .refl .trans grows entries

end Build

namespace Document

open Build

theorem onlyGrows_fillOutlineItem (root : Ref) (entry : Id .outline × OutlineItem) :
    OnlyGrows (fillOutlineItem root entry) :=
  onlyGrows_bind onlyGrows_get fun _ => onlyGrows_bind (onlyGrows_ofExcept _) fun _ =>
    onlyGrows_fill _ _

theorem onlyGrows_fillOutlineRoot (root : Ref) : OnlyGrows (fillOutlineRoot root) := by
  refine onlyGrows_bind onlyGrows_get fun doc => ?_
  simp only
  split
  · exact onlyGrows_bind (onlyGrows_fill _ _) fun _ => onlyGrows_pure _
  · exact onlyGrows_pure _

theorem onlyGrows_closeOutline : OnlyGrows closeOutline := by
  refine onlyGrows_bind onlyGrows_get fun doc => ?_
  simp only
  split
  · exact onlyGrows_pure _
  · refine onlyGrows_bind onlyGrows_reserve fun root => ?_
    refine onlyGrows_bind (onlyGrows_forM (fun _ => ?_) _) fun _ => ?_
    · exact onlyGrows_bind onlyGrows_reserve fun _ => onlyGrows_pure _
    · exact onlyGrows_bind (onlyGrows_forM (onlyGrows_fillOutlineItem root) _) fun _ =>
        onlyGrows_fillOutlineRoot root

theorem onlyGrows_closeStructure : OnlyGrows closeStructure := by
  refine onlyGrows_bind onlyGrows_get fun doc => ?_
  simp only
  split
  · exact onlyGrows_pure _
  · exact onlyGrows_bind onlyGrows_reserve fun _ => onlyGrows_bind (onlyGrows_ofExcept _) fun _ =>
      onlyGrows_bind (onlyGrows_object _) fun _ => onlyGrows_bind (onlyGrows_fill _ _) fun _ =>
        onlyGrows_pure _

theorem onlyGrows_closeNames : OnlyGrows closeNames := by
  refine onlyGrows_bind onlyGrows_get fun doc => ?_
  split
  · exact onlyGrows_pure _
  · exact onlyGrows_bind (onlyGrows_object _) fun _ => onlyGrows_pure _

theorem onlyGrows_closeOutputIntent : OnlyGrows closeOutputIntent := by
  refine onlyGrows_bind onlyGrows_get fun doc => ?_
  split
  · exact onlyGrows_pure _
  · exact onlyGrows_bind (onlyGrows_ofExcept _) fun _ =>
      onlyGrows_bind (onlyGrows_object _) fun _ => onlyGrows_pure _

structure Completes (doc closed : Document) (roots : Roots) : Prop where
  grows : doc.Grows closed
  info : closed.store.get? roots.info = some (.object doc.info.value)
  info_generation : roots.info.generation = 0
  catalog : ∃ catalog : Dictionary.Catalog, catalog.pages = roots.pages ∧
    closed.store.get? roots.catalog = some (.object catalog.value)
  catalog_generation : roots.catalog.generation = 0

theorem get?_push_nextRef (doc : Document) (record : Record) :
    (doc.push record).store.get? doc.nextRef = some record :=
  doc.store.get?_allocate_new record

theorem completes_of_run_close {doc closed : Document} {roots : Roots}
    (hclose : close.run doc = .ok roots closed) : doc.Completes closed roots := by
  obtain ⟨pages, reserved, hpages, hclose⟩ := run_bind_eq_ok hclose
  obtain ⟨outline, outlined, houtline, hclose⟩ := run_bind_eq_ok hclose
  obtain ⟨structure?, structured, hstructure, hclose⟩ := run_bind_eq_ok hclose
  obtain ⟨names, named, hnames, hclose⟩ := run_bind_eq_ok hclose
  obtain ⟨intents, middle, hintents, hclose⟩ := run_bind_eq_ok hclose
  have hgrows : doc.Grows middle :=
    (onlyGrows_reserve _ _ _ hpages).trans <| (onlyGrows_closeOutline _ _ _ houtline).trans <|
      (onlyGrows_closeStructure _ _ _ hstructure).trans <|
        (onlyGrows_closeNames _ _ _ hnames).trans (onlyGrows_closeOutputIntent _ _ _ hintents)
  cases hclose
  let informed := middle.push (.object middle.info.value)
  let catalog : Dictionary.Catalog := {
    pages := pages
    outline := outline
    structTreeRoot := structure?
    names := names.map some
    fields := if informed.placedFields.isEmpty then none else some informed.placedFields
    outputIntents := intents
    language := informed.options.language.map textString }
  let cataloged := informed.push (.object catalog.value)
  have hinformed : middle.Grows informed := middle.grows_push (.inr ⟨_, rfl⟩)
  have hcataloged : informed.Grows cataloged := informed.grows_push (.inr ⟨_, rfl⟩)
  let tree := Dictionary.pages (cataloged.pages.toList.map fun entry => entry.2.object)
  have hfilled : cataloged.store.Grows (cataloged.store.fill pages (.object tree)).2 :=
    cataloged.store.grows_fill pages (.inr ⟨tree, rfl⟩)
  refine ⟨hgrows.trans (hinformed.trans (hcataloged.trans ⟨rfl, hfilled⟩)), ?_, rfl,
    ⟨catalog, rfl, ?_⟩, rfl⟩
  · have hinfo : middle.info = doc.info := by rw [hgrows.rest]
    rw [← hinfo]
    exact (hcataloged.store.trans hfilled).kept (get?_push_nextRef middle _) rfl
  · exact hfilled.kept (get?_push_nextRef informed _) rfl

end Document

end Folio
