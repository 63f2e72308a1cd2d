import Folio.Dictionary.Font
import Folio.Document.Closing
import Folio.Proofs.Finished

/-!
The references in what is written: where each of them stands, and what kind of object is called for
there. Text of the caller, which is written as it is, has no references of the document.
-/

namespace Folio

/-- A reference, and the keys that lead to it from the object that holds it. -/
structure Link where
  path : List Name
  target : Ref

mutual

@[simp] def Value.linksFrom (path : List Name) : Value → List Link
  | .ref target => [⟨path, target⟩]
  | .arr items => Value.linksFromAll path items
  | .dict entries => Entry.linksFromAll path entries
  | _ => []

@[simp] def Value.linksFromAll (path : List Name) : List Value → List Link
  | [] => []
  | value :: rest => value.linksFrom path ++ Value.linksFromAll path rest

@[simp] def Entry.linksFrom (path : List Name) : Entry → List Link
  | .field key value => value.linksFrom (path ++ [key])
  | .items key values => Value.linksFromAll (path ++ [key]) values
  | .raw _ => []

@[simp] def Entry.linksFromAll (path : List Name) : List Entry → List Link
  | [] => []
  | entry :: rest => entry.linksFrom path ++ Entry.linksFromAll path rest

end

namespace Value

/-- The type of a dictionary that names it, or the name that an array begins with. -/
def family : Value → List Name
  | .dict entries =>
      match Value.entry? (.dict entries) "Type" with
      | some (.name kind) => [kind]
      | _ => []
  | .arr (.name family :: _) => [family]
  | _ => []

/-- All references in an object. Their paths begin with the family of the object. -/
def links (value : Value) : List Link :=
  value.linksFrom value.family

@[simp] theorem linksFromAll_append (path : List Name) (first second : List Value) :
    linksFromAll path (first ++ second) = linksFromAll path first ++ linksFromAll path second := by
  induction first with
  | nil => rfl
  | cons value rest ih => simp [ih]

@[simp] theorem linksFromAll_refs (path : List Name) (targets : List Ref) :
    linksFromAll path (targets.map .ref) = targets.map (Link.mk path) := by
  induction targets with
  | nil => rfl
  | cons target rest ih => simp [ih]

theorem linksFromAll_eq_nil {path : List Name} {values : List Value}
    (none : ∀ value ∈ values, value.linksFrom path = []) : linksFromAll path values = [] := by
  induction values with
  | nil => rfl
  | cons value rest ih =>
      obtain ⟨first, others⟩ := List.forall_mem_cons.mp none
      simp [first, ih others]

theorem linksFromAll_map_eq_nil {α : Type} {path : List Name} {values : List α}
    {change : α → Value} (none : ∀ value, (change value).linksFrom path = []) :
    linksFromAll path (values.map change) = [] :=
  linksFromAll_eq_nil (by simp [none])

@[simp] theorem linksFrom_refs (path : List Name) (targets : List Ref) :
    (refs targets).linksFrom path = targets.map (Link.mk path) :=
  linksFromAll_refs path targets

@[simp] theorem linksFrom_nat (path : List Name) (number : Nat) :
    (nat number).linksFrom path = [] := rfl

@[simp] theorem linksFrom_reals (path : List Name) (numbers : List Single) :
    (reals numbers).linksFrom path = [] :=
  linksFromAll_map_eq_nil fun _ => rfl

@[simp] theorem linksFromAll_nats (path : List Name) (numbers : List Nat) :
    linksFromAll path (numbers.map nat) = [] :=
  linksFromAll_map_eq_nil fun _ => rfl

@[simp] theorem linksFromAll_bools (path : List Name) (flags : List Bool) :
    linksFromAll path (flags.map .bool) = [] :=
  linksFromAll_map_eq_nil fun _ => rfl

end Value

@[simp] theorem Rect.linksFrom_value (path : List Name) (rect : Rect Single) :
    rect.value.linksFrom path = [] := rfl

@[simp] theorem Rect.linksFrom_wholeValue (path : List Name) (rect : Rect Int) :
    rect.wholeValue.linksFrom path = [] := rfl

@[simp] theorem Matrix.linksFrom_value (path : List Name) (matrix : Matrix) :
    matrix.value.linksFrom path = [] := rfl

@[simp] theorem DateTime.linksFrom_value (path : List Name) (date : DateTime) :
    date.value.linksFrom path = [] := rfl

@[simp] theorem DashPattern.linksFrom_value (path : List Name) (dash : DashPattern) :
    dash.value.linksFrom path = [] := by
  simp [DashPattern.value]

@[simp] theorem Dictionary.CidSystemInfo.linksFrom_value (path : List Name)
    (info : Dictionary.CidSystemInfo) : info.value.linksFrom path = [] := rfl

@[simp] theorem Dictionary.LabParams.linksFrom_value (path : List Name)
    (params : Dictionary.LabParams) : params.value.linksFrom path = [] := by
  cases black : params.black with
  | none => simp [value, black, Entry.optional]
  | some black => simp [value, black, Entry.optional]

namespace Entry

@[simp] theorem linksFromAll_append (path : List Name) (first second : List Entry) :
    linksFromAll path (first ++ second) = linksFromAll path first ++ linksFromAll path second := by
  induction first with
  | nil => rfl
  | cons entry rest ih => simp [ih]

@[simp] theorem linksFrom_kind (path : List Name) (name : Name) :
    (kind name).linksFrom path = [] := rfl

@[simp] theorem linksFromAll_optional {α : Type} (path : List Name) (key : Name)
    (change : α → Value) (held : Option α) :
    linksFromAll path (optional key (held.map change)) =
      held.toList.flatMap fun value => (change value).linksFrom (path ++ [key]) := by
  cases held with
  | none => rfl
  | some value => simp [optional]

@[simp] theorem linksFromAll_unlessEmpty (path : List Name) (key : Name) (values : List Value) :
    linksFromAll path (unlessEmpty key values) = Value.linksFromAll (path ++ [key]) values := by
  cases values with
  | nil => rfl
  | cons value rest => simp [unlessEmpty]

@[simp] theorem linksFromAll_ite (path : List Name) (condition : Prop) [Decidable condition]
    (entries : List Entry) :
    linksFromAll path (if condition then entries else []) =
      if condition then linksFromAll path entries else [] := by
  split
  · rfl
  · rfl

end Entry

@[simp] theorem Transition.linksFrom_value (path : List Name) (transition : Transition) :
    transition.value.linksFrom path = [] := by
  simp [value]

@[simp] theorem PageBoxes.linksFromAll_entries (path : List Name) (boxes : PageBoxes) :
    Entry.linksFromAll path boxes.entries = [] := by
  simp [entries]

@[simp] theorem DeviceSpace.linksFrom_colorSpace (path : List Name) (space : DeviceSpace) :
    space.colorSpace.value.linksFrom path = [] := by
  cases space <;> rfl

end Folio
