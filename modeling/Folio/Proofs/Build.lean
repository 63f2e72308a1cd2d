import Folio.Document

/-!
Running the steps of the work on a document: each basic step as an equation, and how a step that is
made of others came to its outcome.
-/

namespace Folio

namespace Document

def nextRef (doc : Document) : Ref :=
  .first (doc.store.size + 1)

def push (doc : Document) (record : Record) : Document :=
  { doc with store := (doc.store.allocate record).2 }

@[simp] theorem size_push (doc : Document) (record : Record) :
    (doc.push record).store.size = doc.store.size + 1 :=
  doc.store.size_allocate record

end Document

namespace Build

variable {α β : Type}

@[simp] theorem run_pure (value : α) (doc : Document) :
    EStateM.run (pure value : Build α) doc = .ok value doc := rfl

@[simp] theorem run_get (doc : Document) :
    EStateM.run (get : Build Document) doc = .ok doc doc := rfl

@[simp] theorem run_set (doc after : Document) :
    EStateM.run (set after : Build PUnit) doc = .ok ⟨⟩ after := rfl

@[simp] theorem run_throw (error : Error) (doc : Document) :
    EStateM.run (throw error : Build α) doc = .error error doc := rfl

@[simp] theorem run_modify (change : Document → Document) (doc : Document) :
    EStateM.run (modify change : Build PUnit) doc = .ok ⟨⟩ (change doc) := rfl

@[simp] theorem run_modifyGet (change : Document → α × Document) (doc : Document) :
    EStateM.run (modifyGet change : Build α) doc = .ok (change doc).1 (change doc).2 := rfl

@[simp] theorem run_ofExcept_ok (value : α) (doc : Document) :
    EStateM.run (ofExcept (.ok value)) doc = .ok value doc := rfl

@[simp] theorem run_ofExcept_error (error : Error) (doc : Document) :
    EStateM.run (ofExcept (.error error) : Build α) doc = .error error doc := rfl

@[simp] theorem run_allocate (record : Record) (doc : Document) :
    EStateM.run (allocate record) doc = .ok doc.nextRef (doc.push record) := rfl

@[simp] theorem run_reserve (doc : Document) :
    EStateM.run reserve doc = .ok doc.nextRef (doc.push .reserved) := rfl

@[simp] theorem run_fill (target : Ref) (record : Record) (doc : Document) :
    EStateM.run (fill target record) doc =
      .ok ⟨⟩ { doc with store := (doc.store.fill target record).2 } := rfl

@[simp] theorem run_object (value : Value) (doc : Document) :
    EStateM.run (object value) doc = .ok doc.nextRef (doc.push (.object value)) := rfl

@[simp] theorem run_stream (entries : List Entry) (data : Bytes) (doc : Document) :
    EStateM.run (stream entries data) doc =
      .ok doc.nextRef (doc.push (.stream doc.options.compress entries data)) := rfl

def resourceValue (bytes : Bytes) : Value :=
  if bytes.all isBlank then .dict [] else .verbatim bytes

@[simp] theorem run_resources (bytes : Bytes) (doc : Document) :
    EStateM.run (resources bytes) doc =
      .ok doc.nextRef (doc.push (.object (resourceValue bytes))) := rfl

theorem run_bind_of_run {step : Build α} {next : α → Build β} {doc middle : Document} {value : α}
    (ran : step.run doc = .ok value middle) :
    (step >>= next).run doc = (next value).run middle := by
  rw [EStateM.run_bind, ran]

theorem run_bind_eq_ok {step : Build α} {next : α → Build β} {doc after : Document} {value : β}
    (hrun : (step >>= next).run doc = .ok value after) :
    ∃ first middle, step.run doc = .ok first middle ∧
      (next first).run middle = .ok value after := by
  rw [EStateM.run_bind] at hrun
  cases hstep : step.run doc with
  | ok first middle =>
      rw [hstep] at hrun
      exact ⟨first, middle, rfl, hrun⟩
  | error error middle =>
      rw [hstep] at hrun
      contradiction

theorem map_eq_bind (change : α → β) (step : Build α) :
    change <$> step = step >>= fun value => pure (change value) := rfl

@[simp] theorem run_map (change : α → β) (step : Build α) (doc : Document) :
    EStateM.run (change <$> step) doc =
      match step.run doc with
      | .ok value after => .ok (change value) after
      | .error error after => .error error after := by
  rw [map_eq_bind, EStateM.run_bind]
  cases step.run doc with
  | ok value after => rfl
  | error error after => rfl

theorem run_map_eq_ok {change : α → β} {step : Build α} {doc after : Document} {value : β}
    (ran : (change <$> step).run doc = .ok value after) :
    ∃ found, step.run doc = .ok found after ∧ change found = value := by
  rw [map_eq_bind] at ran
  obtain ⟨found, middle, ranStep, ranRest⟩ := run_bind_eq_ok ran
  cases ranRest
  exact ⟨found, ranStep, rfl⟩

theorem run_ofExcept_eq_ok {outcome : Except Error α} {doc after : Document} {value : α}
    (hrun : (ofExcept outcome).run doc = .ok value after) :
    outcome = .ok value ∧ after = doc := by
  cases outcome with
  | ok found =>
      cases hrun
      exact ⟨rfl, rfl⟩
  | error error => contradiction

/-- A step whose success takes a document to one that stands in a relation to it. -/
def Within (relation : Document → Document → Prop) (step : Build α) : Prop :=
  ∀ (doc after : Document) (value : α), step.run doc = .ok value after → relation doc after

section Within

variable {relation : Document → Document → Prop}

theorem within_pure (refl : ∀ doc, relation doc doc) (value : α) :
    Within relation (pure value) := by
  intro doc after result ran
  cases ran
  exact refl doc

theorem within_get (refl : ∀ doc, relation doc doc) : Within relation get := by
  intro doc after result ran
  cases ran
  exact refl doc

theorem within_throw (error : Error) : Within relation (throw error : Build α) := by
  intro doc after result ran
  contradiction

theorem within_ofExcept (refl : ∀ doc, relation doc doc) (outcome : Except Error α) :
    Within relation (ofExcept outcome) := by
  intro doc after result ran
  obtain ⟨-, rfl⟩ := run_ofExcept_eq_ok ran
  exact refl after

theorem within_modifyGet {change : Document → α × Document}
    (changes : ∀ doc, relation doc (change doc).2) : Within relation (modifyGet change) := by
  intro doc after result ran
  cases ran
  exact changes doc

theorem Within.bind {step : Build α} {next : α → Build β}
    (trans : ∀ {first second third}, relation first second → relation second third →
      relation first third)
    (within : Within relation step) (withinNext : ∀ value, Within relation (next value)) :
    Within relation (step >>= next) := by
  intro doc after result ran
  obtain ⟨value, middle, ranFirst, ranSecond⟩ := run_bind_eq_ok ran
  exact trans (within doc middle value ranFirst) (withinNext value middle after result ranSecond)

theorem Within.map {step : Build α} (within : Within relation step) (change : α → β) :
    Within relation (change <$> step) := by
  intro doc after result ran
  obtain ⟨value, ranStep, -⟩ := run_map_eq_ok ran
  exact within doc after value ranStep

theorem within_forM {step : α → Build PUnit} (refl : ∀ doc, relation doc doc)
    (trans : ∀ {first second third}, relation first second → relation second third →
      relation first third)
    (within : ∀ entry, Within relation (step entry)) (entries : List α) :
    Within relation (entries.forM step) := by
  induction entries with
  | nil => exact within_pure refl PUnit.unit
  | cons entry rest ih => exact (within entry).bind trans fun _ => ih

end Within

end Build

end Folio
