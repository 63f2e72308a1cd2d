import Folio.Proofs.Completion
import Folio.Proofs.FinishedFont
import Folio.Proofs.Identifiers

/-!
What a document hands out stays what it is. Objects are numbered in turn and never change once they
are there, identifiers count up within their kind, and each names one object of its own.
-/

namespace Folio

namespace Store

theorem Adds.isPrefix {before after : Store} {allowed : Record → Prop}
    (adds : before.Adds allowed after) : before.records.toList <+: after.records.toList := by
  refine List.prefix_iff_getElem?.mpr fun index bound => ?_
  have found : before.get? (.first (index + 1)) = some before.records.toList[index] := by
    rw [get?_first]
    exact List.getElem?_eq_getElem bound
  rw [← get?_first]
  exact adds.kept found

theorem exists_get?_iff {store : Store} {target : Ref} :
    (∃ record, store.get? target = some record) ↔
      1 ≤ target.number ∧ target.number ≤ store.size := by
  constructor
  · rintro ⟨record, found⟩
    refine ⟨Nat.pos_of_ne_zero fun zero => ?_, number_le_size found⟩
    rw [get?, zero] at found
    contradiction
  · rintro ⟨positive, bound⟩
    exact exists_get?_of_le positive bound

/-- A place is filled exactly if it was left to be filled, and the answer says whether it was. -/
structure FillsExactly (store : Store) (target : Ref) (record : Record) : Prop where
  reports : (store.fill target record).1 ↔
    target.number ≠ 0 ∧ store.get? target = some .reserved
  filled : (store.fill target record).1 → ∀ other : Ref,
    (store.fill target record).2.get? other =
      if other.number = target.number then some record else store.get? other
  refused : (store.fill target record).1 = false → (store.fill target record).2 = store

theorem fillsExactly (store : Store) (target : Ref) (record : Record) :
    store.FillsExactly target record := by
  have reports : (store.fill target record).1 = store.isReserved target := by
    rw [fill]
    split
    · next reserved => exact reserved.symm
    · next other => exact (Bool.eq_false_iff.mpr other).symm
  constructor
  · rw [reports, isReserved_iff]
    refine ⟨fun reserved => ⟨?_, reserved⟩, And.right⟩
    exact Nat.ne_of_gt (number_pos_of_isReserved (isReserved_iff.mpr reserved))
  · intro filled other
    rw [reports] at filled
    rw [get?_fill]
    simp only [filled, and_true]
  · intro refused
    rw [reports] at refused
    rw [fill, refused]
    rfl

end Store

namespace Resource

def kind : Resource → Kind
  | .subsetFont _ _ => .font
  | .builtinFont _ => .builtinFont
  | .image _ => .image
  | .icc _ => .iccColorSpace
  | .lab _ => .labColorSpace
  | .separation _ => .separation
  | .graphicsState _ => .graphicsState
  | .function _ => .function
  | .shading _ => .shading
  | .pattern _ => .pattern
  | .form _ => .formXObject
  | .file _ => .embeddedFile
  | .annot _ => .annot
  | .widget _ => .formWidget
  | .structureItem _ => .structureItem
  | .page _ => .page

def index : Resource → Nat
  | .subsetFont id _ => id.index
  | .builtinFont id => id.index
  | .image id => id.index
  | .icc id => id.index
  | .lab id => id.index
  | .separation id => id.index
  | .graphicsState id => id.index
  | .function id => id.index
  | .shading id => id.index
  | .pattern id => id.index
  | .form id => id.index
  | .file id => id.index
  | .annot id => id.index
  | .widget id => id.index
  | .structureItem id => id.index
  | .page id => id.index

/-- Fonts have an object for each of their subsets, other resources have one. -/
def isSubset : Resource → Bool
  | .subsetFont _ _ => true
  | _ => false

def ofKind? (kind : Kind) (index : Nat) : Option Resource :=
  match kind with
  | .image => some (.image ⟨index⟩)
  | .builtinFont => some (.builtinFont ⟨index⟩)
  | .iccColorSpace => some (.icc ⟨index⟩)
  | .formXObject => some (.form ⟨index⟩)
  | .formWidget => some (.widget ⟨index⟩)
  | .annot => some (.annot ⟨index⟩)
  | .structureItem => some (.structureItem ⟨index⟩)
  | .separation => some (.separation ⟨index⟩)
  | .graphicsState => some (.graphicsState ⟨index⟩)
  | .function => some (.function ⟨index⟩)
  | .shading => some (.shading ⟨index⟩)
  | .pattern => some (.pattern ⟨index⟩)
  | .labColorSpace => some (.lab ⟨index⟩)
  | .page => some (.page ⟨index⟩)
  | .embeddedFile => some (.file ⟨index⟩)
  | .font => none
  | .outline => none

theorem ofKind?_kind {resource : Resource} (single : resource.isSubset = false) :
    ofKind? resource.kind resource.index = some resource := by
  cases resource with
  | subsetFont id subset => contradiction
  | _ => rfl

theorem eq_of_kind {resource other : Resource} (single : resource.isSubset = false)
    (also : other.isSubset = false) (kind : resource.kind = other.kind)
    (index : resource.index = other.index) : resource = other := by
  have same := ofKind?_kind single
  rw [kind, index, ofKind?_kind also] at same
  exact (Option.some.inj same).symm

def Prescribes : Resource → Record → Prop
  | .subsetFont id subset, record => record = .subset .font ⟨id, subset⟩
  | resource, record => resource.kind.Prescribes resource.index record

theorem prescribes_iff {resource : Resource} (single : resource.isSubset = false)
    (record : Record) :
    resource.Prescribes record ↔ resource.kind.Prescribes resource.index record := by
  cases resource with
  | subsetFont id subset => contradiction
  | _ => rfl

end Resource

theorem Kind.not_prescribes_subset (kind : Kind) (index : Nat) (key : SubsetKey) :
    ¬ kind.Prescribes index (.subset .font key) := by
  cases kind with
  | page => nofun
  | annot => nofun
  | formWidget => nofun
  | structureItem => nofun
  | _ => simp [Prescribes, Record.kind, SubsetPart.name]

namespace Registry

variable {kind : Kind} {α : Type} {registry : Registry kind α} {id : Id kind}

theorem objects_eq_some_iff {object : α → Ref} {target : Ref} :
    (registry.objects fun entry => some (object entry))[id.index]? = some (some target) ↔
      ∃ entry, registry.get? id = some entry ∧ object entry = target := by
  simp [getElem?_objects, Option.map_eq_some_iff]

theorem exists_object_of_lt {object : α → Ref} {index : Nat}
    (bound : index < (registry.objects fun entry => some (object entry)).length) :
    ∃ target, (registry.objects fun entry => some (object entry))[index]? =
      some (some target) := by
  rw [objects, List.length_map] at bound
  refine ⟨object registry.entries.toList[index], ?_⟩
  rw [objects, List.getElem?_map, List.getElem?_eq_getElem bound]
  rfl

theorem map_get_eq_ok_iff {object : α → Ref} {target : Ref} :
    (registry.get id).map object = .ok target ↔
      (registry.objects fun entry => some (object entry))[id.index]? = some (some target) := by
  rw [objects_eq_some_iff, get]
  cases registry.get? id with
  | none => simp [Except.map]
  | some entry => simp [Except.map]

theorem get_eq_ok_iff_objects {registry : Registry kind Ref} {target : Ref} :
    registry.get id = .ok target ↔
      (registry.objects some)[id.index]? = some (some target) := by
  rw [get_eq_ok_iff]
  exact ⟨fun found => objects_eq_some_iff.mpr ⟨target, found, rfl⟩, fun found => by
    obtain ⟨entry, held, rfl⟩ := objects_eq_some_iff.mp found
    exact held⟩

end Registry

namespace Document

variable {doc after : Document}

theorem refOf_eq_ok_iff {resource : Resource} (single : resource.isSubset = false)
    {target : Ref} :
    doc.refOf resource = .ok target ↔
      (doc.objects resource.kind)[resource.index]? = some (some target) := by
  cases resource with
  | subsetFont id subset => contradiction
  | builtinFont id => exact Registry.map_get_eq_ok_iff
  | image id => exact Registry.get_eq_ok_iff_objects
  | icc id => exact Registry.map_get_eq_ok_iff
  | lab id => exact Registry.get_eq_ok_iff_objects
  | separation id => exact Registry.map_get_eq_ok_iff
  | graphicsState id => exact Registry.get_eq_ok_iff_objects
  | function id => exact Registry.get_eq_ok_iff_objects
  | shading id => exact Registry.get_eq_ok_iff_objects
  | pattern id => exact Registry.get_eq_ok_iff_objects
  | form id => exact Registry.get_eq_ok_iff_objects
  | file id => exact Registry.map_get_eq_ok_iff
  | annot id => exact Registry.map_get_eq_ok_iff
  | widget id => exact Registry.map_get_eq_ok_iff
  | structureItem id => exact Registry.map_get_eq_ok_iff
  | page id => exact Registry.map_get_eq_ok_iff

theorem exists_object_of_lt {resource : Resource} (single : resource.isSubset = false)
    (bound : resource.index < (doc.objects resource.kind).length) :
    ∃ target, (doc.objects resource.kind)[resource.index]? = some (some target) := by
  cases resource with
  | subsetFont id subset => contradiction
  | _ => exact Registry.exists_object_of_lt bound

/-- Every identifier with an object has one of its own, and that says what its kind prescribes. -/
structure Identified (doc : Document) : Prop where
  stored : ∀ {kind : Kind} {index : Nat} {target : Ref},
    (doc.objects kind)[index]? = some (some target) →
      ∃ record, doc.store.get? target = some record ∧ kind.Prescribes index record
  unique : ∀ {kind other : Kind} {index place : Nat} {target : Ref},
    (doc.objects kind)[index]? = some (some target) →
    (doc.objects other)[place]? = some (some target) → kind = other ∧ index = place

theorem identified_withConverter (options : DocumentOptions)
    (converter : Color → DeviceSpace → Color) :
    (withConverter options converter).Identified := by
  have empty (kind : Kind) : (withConverter options converter).objects kind = [] := by
    cases kind with
    | _ => rfl
  constructor
  · intro kind index target found
    rw [empty] at found
    contradiction
  · intro kind other index place target found
    rw [empty] at found
    contradiction

theorem New.cases {kind other : Kind} {object : Option Ref} (new : doc.New kind object after)
    {index : Nat} {target : Ref} (found : (after.objects other)[index]? = some (some target)) :
    (doc.objects other)[index]? = some (some target) ∨
      other = kind ∧ index = (doc.objects kind).length ∧ object = some target := by
  rw [new.objects] at found
  split at found
  · next same =>
    cases same
    rcases Nat.lt_or_ge index (doc.objects kind).length with before | last
    · rw [List.getElem?_append_left before] at found
      exact .inl found
    · rw [List.getElem?_append_right last] at found
      obtain ⟨bound, held⟩ := List.getElem?_eq_some_iff.mp found
      rw [List.length_singleton] at bound
      rw [List.getElem_singleton] at held
      exact .inr ⟨rfl, by omega, held⟩
  · exact .inl found

theorem Identified.new {kind : Kind} {object : Option Ref} (identified : doc.Identified)
    (adds : doc.store.Adds (fun record => record.isProper) after.store)
    (new : doc.New kind object after) : after.Identified where
  stored := by
    intro other index target found
    rcases new.cases found with before | ⟨rfl, rfl, same⟩
    · obtain ⟨record, stored, fits⟩ := identified.stored before
      exact ⟨record, adds.kept stored, fits⟩
    · exact new.stored same
  unique := by
    intro first second index place target found also
    have bound {kind : Kind} {index : Nat}
        (before : (doc.objects kind)[index]? = some (some target)) :
        target.number ≤ doc.store.size := by
      obtain ⟨record, stored, -⟩ := identified.stored before
      exact Store.number_le_size stored
    rcases new.cases found with before | ⟨rfl, rfl, same⟩
    · rcases new.cases also with beforeAlso | ⟨rfl, rfl, sameAlso⟩
      · exact identified.unique before beforeAlso
      · exact absurd (bound before) (Nat.not_le.mpr (new.number sameAlso))
    · rcases new.cases also with beforeAlso | ⟨rfl, rfl, sameAlso⟩
      · exact absurd (bound beforeAlso) (Nat.not_le.mpr (new.number same))
      · exact ⟨rfl, rfl⟩

theorem Identified.of_effect {product : Operation.Product} {answer : Answer}
    (identified : doc.Identified) (effect : doc.Effect product answer after) :
    after.Identified := by
  have adds := (change_of_effect effect).adds
  have handout := handout_of_effect effect
  cases handout with
  | nothing other same =>
      constructor
      · intro kind index target found
        rw [same] at found
        obtain ⟨record, stored, fits⟩ := identified.stored found
        exact ⟨record, adds.kept stored, fits⟩
      · intro kind other index place target found also
        rw [same] at found also
        exact identified.unique found also
  | again shared known => exact identified
  | new next new => exact identified.new adds new

theorem Identified.run (identified : doc.Identified) (operations : List Operation) :
    (doc.run operations).2.Identified :=
  run_effect_induction (fun identified effect => identified.of_effect effect) identified operations

theorem objects_apply (doc : Document) (operation : Operation) (kind : Kind) :
    doc.objects kind <+: (doc.apply operation).2.objects kind := by
  rcases doc.effect_apply operation with ⟨error, same⟩ | ⟨answer, after, same, effect⟩
  · simp only [same, List.prefix_rfl]
  · rw [same]
    have handout := handout_of_effect effect
    generalize operation.product = product at handout
    cases handout with
    | nothing other same =>
        simp only [same, List.prefix_rfl]
    | again shared known => exact List.prefix_rfl
    | new next new =>
        rw [new.objects]
        split
        · exact List.prefix_append ..
        · exact List.prefix_rfl

theorem objects_run (doc : Document) (operations : List Operation) (kind : Kind) :
    doc.objects kind <+: (doc.run operations).2.objects kind := by
  induction operations generalizing doc with
  | nil => exact List.prefix_rfl
  | cons operation rest ih => exact (doc.objects_apply operation kind).trans (ih _)

theorem adds_run (doc : Document) (operations : List Operation) :
    doc.store.Adds (fun record => record.isProper) (doc.run operations).2.store := by
  induction operations generalizing doc with
  | nil => exact .refl _
  | cons operation rest ih => exact (doc.change_apply operation).adds.trans (ih _)

theorem subsetFontRef_eq_ok_iff {font : Id .font} {subset : Nat} {target : Ref} :
    doc.subsetFontRef font subset = .ok target ↔
      ∃ item objects, doc.fonts.get? font = some item ∧ item.subsets[subset]? = some objects ∧
        objects.font = target := by
  rw [subsetFontRef, Registry.get]
  cases doc.fonts.get? font with
  | none => simp [bind, Except.bind]
  | some item =>
      cases opened : item.subsets[subset]? with
      | none => simp [bind, Except.bind, opened]
      | some objects => simp [bind, Except.bind, opened]

theorem exists_subsetFontRef_iff {font : Id .font} {subset : Nat} :
    (∃ target, doc.subsetFontRef font subset = .ok target) ↔
      ∃ count, doc.fontSubsetCount font = .ok count ∧ subset < count := by
  simp only [subsetFontRef_eq_ok_iff, fontSubsetCount, Registry.get]
  cases doc.fonts.get? font with
  | none => simp [Except.map]
  | some item =>
      simp only [Option.some.injEq, Except.map, Except.ok.injEq, exists_eq_left',
        exists_and_left]
      constructor
      · rintro ⟨target, objects, opened, -⟩
        exact (List.getElem?_eq_some_iff.mp opened).1
      · intro bound
        exact ⟨_, _, List.getElem?_eq_getElem bound, rfl⟩

theorem Identified.exists_stored (identified : doc.Identified) (agree : doc.FontsAgree)
    {resource : Resource} {target : Ref} (found : doc.refOf resource = .ok target) :
    ∃ record, doc.store.get? target = some record ∧ resource.Prescribes record := by
  cases single : resource.isSubset with
  | false =>
      obtain ⟨record, stored, fits⟩ := identified.stored ((refOf_eq_ok_iff single).mp found)
      exact ⟨record, stored, (Resource.prescribes_iff single record).mpr fits⟩
  | true =>
      cases resource with
      | subsetFont id subset =>
          obtain ⟨item, objects, known, opened, rfl⟩ := subsetFontRef_eq_ok_iff.mp found
          exact ⟨_, agree.held known opened .font, rfl⟩
      | _ => contradiction

theorem Identified.eq_of_refOf (identified : doc.Identified) (agree : doc.FontsAgree)
    {resource other : Resource} {target : Ref} (found : doc.refOf resource = .ok target)
    (also : doc.refOf other = .ok target) : resource = other := by
  obtain ⟨record, stored, fits⟩ := identified.exists_stored agree found
  obtain ⟨same, storedAlso, fitsAlso⟩ := identified.exists_stored agree also
  rw [stored] at storedAlso
  cases storedAlso
  cases single : resource.isSubset with
  | false =>
      cases singleAlso : other.isSubset with
      | false =>
          obtain ⟨kind, index⟩ := identified.unique ((refOf_eq_ok_iff single).mp found)
            ((refOf_eq_ok_iff singleAlso).mp also)
          exact Resource.eq_of_kind single singleAlso kind index
      | true =>
          cases other with
          | subsetFont id subset =>
              cases fitsAlso
              exact absurd ((Resource.prescribes_iff single _).mp fits)
                (Kind.not_prescribes_subset _ _ _)
          | _ => contradiction
  | true =>
      cases resource with
      | subsetFont id subset =>
          cases fits
          cases singleAlso : other.isSubset with
          | false =>
              exact absurd ((Resource.prescribes_iff singleAlso _).mp fitsAlso)
                (Kind.not_prescribes_subset _ _ _)
          | true =>
              cases other with
              | subsetFont id' subset' =>
                  cases fitsAlso
                  rfl
              | _ => contradiction
      | _ => contradiction

theorem refOf_run (agree : doc.FontsAgree) (operations : List Operation) {resource : Resource}
    {target : Ref} (found : doc.refOf resource = .ok target) :
    (doc.run operations).2.refOf resource = .ok target := by
  cases single : resource.isSubset with
  | false =>
      have before := (refOf_eq_ok_iff single).mp found
      refine (refOf_eq_ok_iff single).mpr ?_
      obtain ⟨bound, -⟩ := List.getElem?_eq_some_iff.mp before
      obtain ⟨more, whole⟩ := doc.objects_run operations resource.kind
      rw [← whole, List.getElem?_append_left bound]
      exact before
  | true =>
      cases resource with
      | subsetFont id subset =>
          obtain ⟨item, objects, known, opened, rfl⟩ := subsetFontRef_eq_ok_iff.mp found
          have kept : doc.subsetFontRef id subset = .ok objects.font := found
          have inSubset : doc.fonts.get? (SubsetKey.mk id subset).font = some item := known
          obtain ⟨number, first, only⟩ := agree.exists_number inSubset opened .font
          have stored := (doc.adds_run operations).kept ((only number).mpr rfl)
          obtain ⟨later, others, knownLater, openedLater, same⟩ :=
            (agree.run operations).only stored
          refine subsetFontRef_eq_ok_iff.mpr ⟨later, others, knownLater, openedLater, ?_⟩
          exact same.trans first.symm
      | _ => contradiction

def handed? (kind : Kind) (operation : Operation) : Except Error Answer → Option Nat
  | .ok (.id index) => if operation.product = .id kind then some index else none
  | _ => none

/-- The identifiers of a kind that a run is answered with, in turn. -/
def handedOut (doc : Document) (kind : Kind) (operations : List Operation) : List Nat :=
  (operations.zip (doc.run operations).1).filterMap fun entry => handed? kind entry.1 entry.2

theorem handedOut_cons (doc : Document) (kind : Kind) (operation : Operation)
    (rest : List Operation) :
    doc.handedOut kind (operation :: rest) =
      (handed? kind operation (doc.apply operation).1).toList ++
        (doc.apply operation).2.handedOut kind rest := by
  rw [handedOut, run, List.zip_cons_cons, List.filterMap_cons]
  cases handed? kind operation (doc.apply operation).1 with
  | none => rfl
  | some index => rfl

/-- An operation answers with the next identifier of its kind, or with one that it gave before. -/
theorem handed?_apply (doc : Document) (kind : Kind) (operation : Operation) :
    (handed? kind operation (doc.apply operation).1 = none ∧
        ((doc.apply operation).2.objects kind).length = (doc.objects kind).length) ∨
      (∃ index, handed? kind operation (doc.apply operation).1 = some index ∧
        kind.isShared ∧ index < (doc.objects kind).length ∧ (doc.apply operation).2 = doc) ∨
      (handed? kind operation (doc.apply operation).1 = some (doc.objects kind).length ∧
        ((doc.apply operation).2.objects kind).length = (doc.objects kind).length + 1) := by
  rcases doc.effect_apply operation with ⟨error, same⟩ | ⟨answer, after, same, effect⟩
  · rw [same]
    exact .inl ⟨rfl, rfl⟩
  · have handout := handout_of_effect effect
    rw [same]
    cases promised : operation.product with
    | nothing =>
        rw [promised] at handout
        cases handout with
        | nothing other same =>
            refine .inl ⟨?_, congrArg List.length (congrFun same kind)⟩
            cases answer with
            | id index => exact if_neg (by simp [promised])
            | _ => rfl
    | slot font =>
        rw [promised] at handout
        cases handout with
        | nothing other same =>
            refine .inl ⟨?_, congrArg List.length (congrFun same kind)⟩
            cases answer with
            | id index => exact if_neg (by simp [promised])
            | _ => rfl
    | id other =>
        rw [promised] at handout
        by_cases alike : kind = other
        · cases alike
          cases handout with
          | nothing apart same => exact absurd rfl (apart kind)
          | again shared known =>
              exact .inr (.inl ⟨_, if_pos promised, shared, known, rfl⟩)
          | new next new =>
              refine .inr (.inr ⟨(if_pos promised).trans (congrArg some next), ?_⟩)
              rw [new.objects, if_pos rfl, List.length_append, List.length_singleton]
        · have apart : operation.product ≠ .id kind := by
            rw [promised]
            rintro ⟨⟩
            exact alike rfl
          cases handout with
          | nothing apart same => exact absurd rfl (apart other)
          | again shared known => exact .inl ⟨if_neg apart, rfl⟩
          | new next new =>
              refine .inl ⟨if_neg apart, ?_⟩
              rw [new.objects, if_neg alike]

theorem eraseDups_range (size : Nat) : (List.range size).eraseDups = List.range size := by
  induction size with
  | zero => rfl
  | succ size ih =>
      have last : [size].removeAll (List.range size) = [size] := by
        simp [List.removeAll]
      rw [List.range_succ, List.eraseDups_append, ih, last]
      rfl

theorem eraseDups_append_cons {known : List Nat} {index : Nat} (rest : List Nat)
    (member : index ∈ known) :
    (known ++ index :: rest).eraseDups = (known ++ rest).eraseDups := by
  rw [List.eraseDups_append, List.eraseDups_append, List.cons_removeAll]
  simp [member]

/-- After those that were there, the identifiers count up; some may come again. -/
theorem handedOut_run (doc : Document) (kind : Kind) (operations : List Operation) :
    (List.range (doc.objects kind).length ++ doc.handedOut kind operations).eraseDups =
      List.range ((doc.run operations).2.objects kind).length := by
  induction operations generalizing doc with
  | nil => exact (congrArg List.eraseDups (List.append_nil _)).trans (eraseDups_range _)
  | cons operation rest ih =>
      have later := ih (doc.apply operation).2
      rw [handedOut_cons]
      rcases doc.handed?_apply kind operation with
        ⟨none, same⟩ | ⟨index, again, -, known, same⟩ | ⟨next, more⟩
      · rw [same] at later
        rw [none]
        exact later
      · rw [same] at later
        rw [again]
        refine (eraseDups_append_cons _ (List.mem_range.mpr known)).trans ?_
        have final : (doc.run (operation :: rest)).2 = (doc.run rest).2 :=
          congrArg (fun middle => (Document.run middle rest).2) same
        rw [same, final]
        exact later
      · rw [more, List.range_succ, List.append_assoc] at later
        rw [next]
        exact later

theorem handedOut_run_of_not_isShared (doc : Document) {kind : Kind}
    (own : kind.isShared = false) (operations : List Operation) :
    List.range (doc.objects kind).length ++ doc.handedOut kind operations =
      List.range ((doc.run operations).2.objects kind).length := by
  induction operations generalizing doc with
  | nil => exact List.append_nil _
  | cons operation rest ih =>
      have later := ih (doc.apply operation).2
      rw [handedOut_cons]
      rcases doc.handed?_apply kind operation with
        ⟨none, same⟩ | ⟨index, -, shared, -⟩ | ⟨next, more⟩
      · rw [same] at later
        rw [none]
        exact later
      · rw [own] at shared
        contradiction
      · rw [more, List.range_succ, List.append_assoc] at later
        rw [next]
        exact later

/-- What a run of operations leaves as it was, and what it numbers in turn. -/
structure KeepsIdentity (doc : Document) (operations : List Operation) : Prop where
  /-- Objects are numbered from 1 on without a gap, and none has number 0. -/
  numbers : ∀ target, (∃ record, (doc.run operations).2.store.get? target = some record) ↔
    1 ≤ target.number ∧ target.number ≤ (doc.run operations).2.store.size
  complete : ∀ target, (doc.run operations).2.store.get? target ≠ some .reserved
  /-- Objects stay where they are, and what they are. -/
  records : ∀ {before after : List Operation}, operations = before ++ after →
    (doc.run before).2.store.records.toList <+: (doc.run operations).2.store.records.toList
  closed : ∃ roots closed, close.run (doc.run operations).2 = .ok roots closed ∧
    (doc.run operations).2.store.records.toList <+: closed.store.records.toList
  ids : ∀ kind, (doc.handedOut kind operations).eraseDups =
    List.range (doc.handedOut kind operations).eraseDups.length
  new : ∀ {kind : Kind}, kind.isShared = false →
    doc.handedOut kind operations = List.range (doc.handedOut kind operations).length
  /-- A resource has an object exactly if its identifier was handed out. -/
  refs : ∀ {resource : Resource}, resource.isSubset = false →
    ((∃ target, (doc.run operations).2.refOf resource = .ok target) ↔
      resource.index < (doc.handedOut resource.kind operations).eraseDups.length)
  subsets : ∀ {font : Id .font} {subset : Nat},
    (∃ target, (doc.run operations).2.refOf (.subsetFont font subset) = .ok target) ↔
      ∃ count, (doc.run operations).2.fontSubsetCount font = .ok count ∧ subset < count
  stable : ∀ {before after : List Operation} {resource : Resource} {target : Ref},
    operations = before ++ after → (doc.run before).2.refOf resource = .ok target →
      (doc.run operations).2.refOf resource = .ok target
  injective : ∀ {resource other : Resource} {target : Ref},
    (doc.run operations).2.refOf resource = .ok target →
    (doc.run operations).2.refOf other = .ok target → resource = other
  stored : ∀ {resource : Resource} {target : Ref},
    (doc.run operations).2.refOf resource = .ok target →
      ∃ record, (doc.run operations).2.store.get? target = some record ∧
        resource.Prescribes record

section Start

variable (options : DocumentOptions) (converter : Color → DeviceSpace → Color) (kind : Kind)
  (operations : List Operation)

theorem objects_withConverter : (withConverter options converter).objects kind = [] := by
  cases kind with
  | _ => rfl

theorem eraseDups_handedOut_withConverter :
    ((withConverter options converter).handedOut kind operations).eraseDups =
      List.range (((withConverter options converter).run operations).2.objects kind).length := by
  have counted := (withConverter options converter).handedOut_run kind operations
  rw [objects_withConverter] at counted
  exact counted

theorem handedOut_withConverter_of_not_isShared (own : kind.isShared = false) :
    (withConverter options converter).handedOut kind operations =
      List.range (((withConverter options converter).run operations).2.objects kind).length := by
  have counted :=
    (withConverter options converter).handedOut_run_of_not_isShared own operations
  rw [objects_withConverter] at counted
  exact counted

end Start

/--
Whatever is asked of a document, its objects and identifiers are handed out in turn and keep their
meaning, until it is closed and beyond; and a place in a store is filled only if it was reserved.
-/
theorem keepsIdentity_withConverter (options : DocumentOptions)
    (converter : Color → DeviceSpace → Color) (operations : List Operation) :
    (withConverter options converter).KeepsIdentity operations ∧
      ∀ (store : Store) (target : Ref) (record : Record), store.FillsExactly target record := by
  refine ⟨?_, Store.fillsExactly⟩
  have sound := sound_run options converter operations
  have starts := fontsAgree_withConverter options converter
  have agree := starts.run operations
  have identified := (identified_withConverter options converter).run operations
  exact {
    numbers := fun _ => Store.exists_get?_iff
    complete := fun _ => sound.complete
    records := by
      rintro before after rfl
      rw [run_append]
      exact (adds_run _ after).isPrefix
    closed := by
      obtain ⟨roots, closed, ran, closing⟩ := sound.exists_closed
      exact ⟨roots, closed, ran, closing.adds.isPrefix⟩
    ids := fun kind => by rw [eraseDups_handedOut_withConverter, List.length_range]
    new := by
      intro kind own
      rw [handedOut_withConverter_of_not_isShared options converter kind operations own,
        List.length_range]
    refs := by
      intro resource single
      rw [eraseDups_handedOut_withConverter, List.length_range]
      simp only [refOf_eq_ok_iff single]
      constructor
      · rintro ⟨target, found⟩
        exact (List.getElem?_eq_some_iff.mp found).1
      · intro bound
        exact exists_object_of_lt single bound
    subsets := exists_subsetFontRef_iff
    stable := by
      rintro before after resource target rfl found
      rw [run_append]
      exact refOf_run (starts.run before) after found
    injective := identified.eq_of_refOf agree
    stored := identified.exists_stored agree }

/-- Two standard fonts, of which one is asked for again, with a page in between. -/
def fontsInTurn : List Operation :=
  [.builtinFont .helvetica, .addPage ⟨[], [], [], [], [], none, none⟩, .builtinFont .courier,
    .builtinFont .helvetica]

theorem keepsIdentity_withConverter_inTurn :
    (withOptions .standard).handedOut .builtinFont fontsInTurn = [0, 1, 0] ∧
      (∃ target, ((withOptions .standard).run fontsInTurn).2.refOf (.builtinFont ⟨1⟩) =
        .ok target) ∧
      ¬∃ target, ((withOptions .standard).run fontsInTurn).2.refOf (.builtinFont ⟨2⟩) =
        .ok target := by
  obtain ⟨keeps, -⟩ :=
    keepsIdentity_withConverter .standard Color.convertDevice fontsInTurn
  have handed : (withOptions .standard).handedOut .builtinFont fontsInTurn = [0, 1, 0] := rfl
  have refs (index : Nat) :
      (∃ target, ((withOptions .standard).run fontsInTurn).2.refOf (.builtinFont ⟨index⟩) =
        .ok target) ↔ index < 2 := by
    refine (keeps.refs rfl).trans ?_
    show index < ((withOptions .standard).handedOut .builtinFont fontsInTurn).eraseDups.length ↔ _
    rw [handed]
    rfl
  exact ⟨handed, (refs 1).mpr (by decide), fun found => absurd ((refs 2).mp found) (by decide)⟩

end Document

end Folio
