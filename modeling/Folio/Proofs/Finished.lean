import Folio.Proofs.FileLayout

/-!
What a finished file holds for the objects of the document that it was made from.
-/

namespace Folio

namespace Entry

def value? (key : Name) : Entry → Option Value
  | .field name value => if name = key then some value else none
  | .items name values => if name = key then some (.arr values) else none
  | .raw _ => none

end Entry

def Value.entry? (value : Value) (key : Name) : Option Value :=
  match value with
  | .dict entries => entries.findSome? (Entry.value? key)
  | _ => none

theorem utf8_injective : Function.Injective utf8 := by
  intro first second same
  have encoded (text : String) : text.toByteArray = (utf8 text).toByteArray := by
    rw [← String.ofList_toList (s := text), String.toByteArray_ofList, List.utf8Encode,
      String.ofList_toList]
    rfl
  rw [← String.toByteArray_inj, encoded, encoded, same]

@[simp] theorem Name.ofString_inj {first second : String} :
    Name.ofString first = Name.ofString second ↔ first = second := by
  rw [Name.ofString, Name.ofString, Name.mk.injEq, utf8_injective.eq_iff]

namespace Entry

variable {key : Name}

@[simp] theorem value?_field (name : Name) (value : Value) :
    (field name value).value? key = if name = key then some value else none := rfl

@[simp] theorem value?_kind (name : Name) :
    (kind name).value? key = if "Type" = key then some (.name name) else none := rfl

@[simp] theorem findSome?_optional (name : Name) (value : Option Value) :
    (optional name value).findSome? (value? key) = if name = key then value else none := by
  cases value with
  | none => exact (ite_self none).symm
  | some value =>
      rw [optional, List.findSome?_singleton]
      rfl

@[simp] theorem findSome?_unlessEmpty (name : Name) (values : List Value) :
    (unlessEmpty name values).findSome? (value? key) =
      if name = key ∧ values ≠ [] then some (.arr values) else none := by
  cases values with
  | nil => simp [unlessEmpty]
  | cons value rest => simp [unlessEmpty, value?]

@[simp] theorem findSome?_ite (condition : Prop) [Decidable condition] (entry : Entry) :
    (if condition then [entry] else []).findSome? (value? key) =
      if condition then entry.value? key else none := by
  split
  · exact List.findSome?_singleton
  · rfl

end Entry

/--
The body of an object among those of a file, which stand in the order of their numbers. None of
them was revised.
-/
def Body.at? (bodies : List Body) (target : Ref) : Option Body :=
  match target.number with
  | 0 => none
  | index + 1 => if target.generation = 0 then bodies[index]? else none

namespace Body

def Says (bodies : List Body) (target : Ref) (key : Name) (held : Option Value) : Prop :=
  ∃ entries, at? bodies target = some (.value (.dict entries)) ∧
    Value.entry? (.dict entries) key = held

theorem Says.unique {bodies : List Body} {target : Ref} {key : Name} {held other : Option Value}
    (told : Says bodies target key held) (also : Says bodies target key other) : held = other := by
  obtain ⟨entries, place, rfl⟩ := told
  obtain ⟨others, placeAlso, rfl⟩ := also
  rw [place] at placeAlso
  cases placeAlso
  rfl

end Body

namespace Document

/-- A file that begins with the header and with objects of the given bodies. -/
def Holds (file : Bytes) (bodies : List Body) : Prop :=
  ∃ rest, file = header ++ (objectTexts 1 (bodies.map Body.bytes)).flatten ++ rest

/-- A file of objects of the given bodies, with a trailer that names its catalog. -/
def Whole (file : Bytes) (bodies : List Body) (roots : Roots) (identifier : Bytes) : Prop :=
  ∃ table place, file = header ++ (objectTexts 1 (bodies.map Body.bytes)).flatten ++ table ++
    utf8 "trailer\n" ++ (trailer roots identifier bodies.length).bytes ++
      utf8 "\nstartxref\n" ++ place ++ utf8 "\n%%EOF\n"

theorem Whole.holds {file : Bytes} {bodies : List Body} {roots : Roots} {identifier : Bytes}
    (whole : Whole file bodies roots identifier) : Holds file bodies := by
  obtain ⟨table, place, rfl⟩ := whole
  simp only [Holds, List.append_assoc]
  exact ⟨_, rfl⟩

theorem exists_at?_of_get? {doc : Document} {lower : Record → Except Error Body}
    {bodies : List Body} (lowered : doc.store.records.toList.map lower = bodies.map .ok)
    {target : Ref} {record : Record} (generation : target.generation = 0)
    (found : doc.store.get? target = some record) :
    ∃ body, Body.at? bodies target = some body ∧ lower record = .ok body := by
  rw [Store.get?] at found
  rw [Body.at?]
  cases number : target.number with
  | zero =>
      rw [number] at found
      contradiction
  | succ index =>
      rw [number] at found
      have same := congrArg (·[index]?) lowered
      simp only [List.getElem?_map, Array.getElem?_toList] at same found
      rw [found, Option.map_some] at same
      obtain ⟨body, held, spelled⟩ := Option.map_eq_some_iff.mp same.symm
      exact ⟨body, (if_pos generation).trans held, spelled.symm⟩

theorem exists_get?_of_at? {doc : Document} {lower : Record → Except Error Body}
    {bodies : List Body} (lowered : doc.store.records.toList.map lower = bodies.map .ok)
    {target : Ref} {body : Body} (place : Body.at? bodies target = some body) :
    ∃ record, doc.store.get? target = some record ∧ lower record = .ok body := by
  rw [Body.at?] at place
  rw [Store.get?]
  cases number : target.number with
  | zero =>
      rw [number] at place
      contradiction
  | succ index =>
      rw [number] at place
      have held : bodies[index]? = some body := (Option.ite_none_right_eq_some.mp place).2
      have same := congrArg (·[index]?) lowered
      simp only [List.getElem?_map, Array.getElem?_toList, held, Option.map_some] at same
      exact Option.map_eq_some_iff.mp same

def Written (doc closed : Document) (roots : Roots) (deflate : Bytes → Bytes)
    (bodies : List Body) : Prop :=
  ∀ {target : Ref} {record : Record}, target.generation = 0 →
    doc.store.get? target = some record → record.isComplete →
      ∃ body, Body.at? bodies target = some body ∧ closed.body roots deflate record = .ok body

theorem exists_whole_of_finalize {doc : Document} {means : Means} {sink : Sink}
    (complete : (doc.finalize means sink).failure = none) :
    ∃ (roots : Roots) (closed : Document) (bodies : List Body),
      close.run doc = .ok roots closed ∧
        closed.store.records.toList.map (closed.body roots means.deflate) = bodies.map .ok ∧
          Whole (doc.finalize means sink).out bodies roots means.identifier := by
  cases closing : close.run doc with
  | error error after =>
      rw [finalize, closing] at complete
      contradiction
  | ok roots closed =>
      rw [finalize_eq_write closing] at complete ⊢
      obtain ⟨bodies, lowered, out⟩ := out_write complete
      let table := utf8 "xref\n" ++ (decimal 0 ++ 32 :: decimal (bodies.length + 1) ++
        10 :: (tableLines (objectTexts 1 (bodies.map Body.bytes))).flatten)
      let place := decimal (header ++ (objectTexts 1 (bodies.map Body.bytes)).flatten).length
      refine ⟨roots, closed, bodies, rfl, lowered, table, place, ?_⟩
      simp only [table, place, out, List.append_assoc, List.cons_append]

/-- A finished file holds what was lowered for every object that was complete before. -/
theorem exists_bodies_of_finalize {doc : Document} {means : Means} {sink : Sink}
    (complete : (doc.finalize means sink).failure = none) :
    ∃ (roots : Roots) (closed : Document) (bodies : List Body), doc.Grows closed ∧
      Holds (doc.finalize means sink).out bodies ∧
        doc.Written closed roots means.deflate bodies := by
  obtain ⟨roots, closed, bodies, closing, lowered, whole⟩ := exists_whole_of_finalize complete
  have grows := (completes_of_run_close closing).grows
  exact ⟨roots, closed, bodies, grows, whole.holds, fun generation found complete =>
    exists_at?_of_get? lowered generation (grows.store.kept found complete)⟩

end Document

end Folio
