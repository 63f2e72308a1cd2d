import Folio.Proofs.Atomic
import Folio.Proofs.Store

/-!
Operations do not see whether streams are compressed. A document whose streams are packed the other
way answers every operation alike, and the document after it is the same but for the packing.
-/

namespace Folio

variable {compress : Bool}

def Record.repacked (compress : Bool) : Record → Record
  | .stored entries none data => .stream compress entries data
  | .deflated entries data => .stream compress entries data
  | record => record

namespace Record

@[simp] theorem repacked_object (value : Value) :
    (object value).repacked compress = .object value := rfl

theorem repacked_eq_reserved_iff {record : Record} :
    record.repacked compress = .reserved ↔ record = .reserved := by
  cases record with
  | stored entries filter data => cases filter <;> cases compress <;> simp [repacked, stream]
  | deflated entries data => cases compress <;> simp [repacked, stream]
  | _ => simp [repacked]

end Record

def Store.repacked (compress : Bool) (store : Store) : Store :=
  ⟨store.records.map (Record.repacked compress)⟩

namespace Store

@[simp] theorem get?_repacked (store : Store) (target : Ref) :
    (store.repacked compress).get? target =
      (store.get? target).map (Record.repacked compress) := by
  rw [get?, get?]
  cases target.number with
  | zero => rfl
  | succ index => simp [repacked]

@[simp] theorem fst_allocate (store : Store) (record : Record) :
    (store.allocate record).1 = .first (store.size + 1) := rfl

@[simp] theorem repacked_allocate (store : Store) (record : Record) :
    (store.allocate record).2.repacked compress =
      ((store.repacked compress).allocate (record.repacked compress)).2 := by
  simp [allocate, repacked]

@[simp] theorem isReserved_repacked (store : Store) (target : Ref) :
    (store.repacked compress).isReserved target = store.isReserved target := by
  rw [Bool.eq_iff_iff, isReserved_iff, isReserved_iff, get?_repacked]
  simp [Record.repacked_eq_reserved_iff]

@[simp] theorem repacked_fill (store : Store) (target : Ref) (record : Record) :
    (store.fill target record).2.repacked compress =
      ((store.repacked compress).fill target (record.repacked compress)).2 := by
  rw [fill, fill, isReserved_repacked]
  split
  · simp [repacked, Array.map_setIfInBounds]
  · rfl

end Store

def ColorSpaces.repacked (compress : Bool) (spaces : ColorSpaces) : ColorSpaces :=
  { spaces with compress }

namespace ColorSpaces

end ColorSpaces

def Document.repacked (compress : Bool) (doc : Document) : Document :=
  { doc with
    options := { doc.options with compress }
    colors := doc.colors.repacked compress
    store := doc.store.repacked compress }

namespace Document

end Document

namespace Build

variable {α β : Type}

def repackedResult (compress : Bool) :
    EStateM.Result Error Document α → EStateM.Result Error Document α
  | .ok value doc => .ok value (doc.repacked compress)
  | .error error doc => .error error (doc.repacked compress)

def Transparent (compress : Bool) (step : Build α) : Prop :=
  ∀ doc : Document, step.run (doc.repacked compress) = repackedResult compress (step.run doc)

theorem transparent_pure (value : α) : Transparent compress (pure value) :=
  fun _ => rfl

theorem Transparent.bind {step : Build α} {next : α → Build β}
    (transparent : Transparent compress step)
    (further : ∀ value, Transparent compress (next value)) :
    Transparent compress (step >>= next) := by
  intro doc
  rw [EStateM.run_bind, EStateM.run_bind, transparent doc]
  cases step.run doc with
  | ok value after => exact further value after
  | error error after => rfl

theorem Transparent.map {step : Build α} (transparent : Transparent compress step)
    (change : α → β) : Transparent compress (change <$> step) :=
  transparent.bind fun _ => transparent_pure _

end Build

namespace Document

open Build

end Document

end Folio
