import Folio.Proofs.Bisection
import Folio.Proofs.Reading.RoundTrip
import Folio.Proofs.Sorted
import Folio.Tree

/-!
Number trees and name trees that were made by insertions: what each insertion gives back, which
pairs stay, and what a reader finds in the text of the tree.
-/

namespace Folio

/-- Insertions one after the other: what gave way each time, and the tree after them. -/
def insertEach {τ κ α : Type} (insert : τ → κ → α → Option α × τ) (tree : τ) :
    List (κ × α) → List (Option α) × τ
  | [] => ([], tree)
  | (key, value) :: rest =>
      let (replaced, tree) := insert tree key value
      let (others, tree) := insertEach insert tree rest
      (replaced :: others, tree)

namespace Sorted

variable {τ κ α : Type}

/-- What insertions gave back, and the pairs that they left in the end. -/
structure Keeps [LT κ] [DecidableEq κ] (listed : List (κ × α)) (replaced : List (Option α))
    (pairs : List (κ × α)) : Prop where
  length : replaced.length = listed.length
  replaced : ∀ before pair after, listed = before ++ pair :: after →
    replaced[before.length]? = some (lastUnder? pair.1 before)
  ascending : pairs.Pairwise fun first second => first.1 < second.1
  keys : ∀ key, key ∈ pairs.map Prod.fst ↔ key ∈ listed.map Prod.fst
  last : ∀ pair ∈ pairs, lastUnder? pair.1 listed = some pair.2

structure Inserts [Ord κ] (insert : τ → κ → α → Option α × τ) (pairs : τ → List (κ × α)) :
    Prop where
  replaced : ∀ tree key value, (insert tree key value).1 = find? key (pairs tree)
  inserted : ∀ tree key value,
    pairs (insert tree key value).2 = Sorted.insert key value (pairs tree)

theorem length_insertEach (insert : τ → κ → α → Option α × τ) (tree : τ)
    (listed : List (κ × α)) : (insertEach insert tree listed).1.length = listed.length := by
  induction listed generalizing tree with
  | nil => rfl
  | cons pair rest ih => exact congrArg (· + 1) (ih (insert tree pair.1 pair.2).2)

namespace Inserts

variable [Ord κ] {insert : τ → κ → α → Option α × τ} {pairs : τ → List (κ × α)}

theorem pairs_insertEach (inserts : Inserts insert pairs) (tree : τ) (listed : List (κ × α)) :
    pairs (insertEach insert tree listed).2 = insertAll (pairs tree) listed := by
  induction listed generalizing tree with
  | nil => rfl
  | cons pair rest ih =>
      have next := ih (insert tree pair.1 pair.2).2
      rw [inserts.inserted] at next
      exact next

theorem getElem?_insertEach (inserts : Inserts insert pairs) (tree : τ)
    (before : List (κ × α)) (pair : κ × α) (after : List (κ × α)) :
    (insertEach insert tree (before ++ pair :: after)).1[before.length]? =
      some (find? pair.1 (insertAll (pairs tree) before)) := by
  induction before generalizing tree with
  | nil => exact congrArg some (inserts.replaced tree pair.1 pair.2)
  | cons head before ih =>
      have next := ih (insert tree head.1 head.2).2
      rw [inserts.inserted] at next
      exact next

theorem keeps [Std.TransOrd κ] [Std.LawfulEqOrd κ] [DecidableEq κ] [LT κ]
    (inserts : Inserts insert pairs) {tree : τ} (empty : pairs tree = [])
    (less : ∀ {first second : κ}, compare first second = .lt → first < second)
    (listed : List (κ × α)) :
    Keeps listed (insertEach insert tree listed).1 (pairs (insertEach insert tree listed).2) where
  length := length_insertEach insert tree listed
  replaced := by
    rintro before pair after rfl
    rw [inserts.getElem?_insertEach, find?_insertAll, empty, find?, Option.or_none]
  ascending := by
    rw [inserts.pairs_insertEach, empty]
    exact (ascending_insertAll List.Pairwise.nil).imp less
  keys key := by
    rw [inserts.pairs_insertEach, empty, mem_keys_insertAll_iff List.Pairwise.nil]
    exact or_iff_right List.not_mem_nil
  last pair kept := by
    rw [inserts.pairs_insertEach, empty] at kept
    exact lastUnder?_of_mem_insertAll kept

end Inserts

end Sorted

namespace Reading

def pairsOf : List Object → List (Object × Object)
  | key :: value :: rest => (key, value) :: pairsOf rest
  | _ => []

/-- The value after a key in an array of keys and values in turn, found by halves. -/
def lookUp? (order : Object → Ordering) (items : List Object) : Option Object :=
  (Bisection.find? (fun pair => order pair.1) (pairsOf items).toArray).map Prod.snd

def orderNumber (key : Nat) : Object → Ordering
  | .number _ (some (.ofNat number)) => compare number key
  | .number _ (some (.negSucc _)) => .lt
  | _ => .gt

def orderString (key : Bytes) : Object → Ordering
  | .str bytes => compare bytes key
  | _ => .gt

/-- A tree as it is written, with keys and values in turn, and as a reader finds it by halves. -/
structure ShowsPairs {κ α : Type} [DecidableEq κ] (label : String) (keyed : κ → Value)
    (order : κ → Object → Ordering) (render : α → Value) (listed pairs : List (κ × α))
    (value : Value) : Prop where
  array : value =
    .dict [.field label (.arr (pairs.flatMap fun pair => [keyed pair.1, render pair.2]))]
  reads : (∀ pair ∈ listed, (render pair.2).isPlain) →
    readOne value.bytes = some (.dict [(utf8 label,
      .arr (pairs.flatMap fun pair => [(keyed pair.1).object, (render pair.2).object]))])
  finds : ∀ key, lookUp? (order key)
    (pairs.flatMap fun pair => [(keyed pair.1).object, (render pair.2).object]) =
      (Sorted.lastUnder? key listed).map fun held => (render held).object

section

variable {κ α : Type}

theorem pairsOf_flatMap (shownKey : κ → Object) (shown : α → Object) (pairs : List (κ × α)) :
    pairsOf (pairs.flatMap fun pair => [shownKey pair.1, shown pair.2]) =
      pairs.map fun pair => (shownKey pair.1, shown pair.2) := by
  induction pairs with
  | nil => rfl
  | cons pair rest ih => exact congrArg ((shownKey pair.1, shown pair.2) :: ·) ih

theorem lookUp?_flatMap [Ord κ] [Std.TransOrd κ] [Std.LawfulEqOrd κ] [DecidableEq κ]
    {pairs : List (κ × α)} {key : κ} {order : Object → Ordering} {shownKey : κ → Object}
    (ordered : ∀ other, order (shownKey other) = compare other key)
    (ascending : Sorted.Ascending pairs) (shown : α → Object) :
    lookUp? order (pairs.flatMap fun pair => [shownKey pair.1, shown pair.2]) =
      (Sorted.find? key pairs).map shown := by
  have turns : (pairs.map fun pair => (shownKey pair.1, shown pair.2)).Pairwise fun first second =>
      order first.1 ≠ .lt → order second.1 = .gt := by
    refine List.pairwise_map.mpr (ascending.imp fun less reached => ?_)
    rw [ordered] at reached ⊢
    exact Sorted.gt_of_lt_of_reached less reached
  rw [lookUp?, pairsOf_flatMap, Bisection.find?_toArray turns, List.find?_map, Sorted.find?_eq,
    Option.map_map, Option.map_map]
  simp only [Function.comp_def, ordered]

end

end Reading

open Reading

namespace Value

theorem arePlain_flatMap {α : Type} {values : α → List Value} {entries : List α}
    (plain : ∀ entry ∈ entries, arePlain (values entry)) : arePlain (entries.flatMap values) := by
  induction entries with
  | nil => rfl
  | cons entry rest ih =>
      obtain ⟨first, others⟩ := List.forall_mem_cons.mp plain
      rw [List.flatMap_cons, arePlain_append, first, ih others]
      rfl

theorem readOne_array (label : String) {items : List Value} (plain : arePlain items) :
    readOne (dict [.field label (.arr items)]).bytes =
      some (.dict [(utf8 label, .arr (items.map object))]) := by
  have whole : (dict [.field label (.arr items)]).isPlain := by
    show (arePlain items && true) = true
    rw [plain]
    rfl
  rw [readOne_bytes _ whole, ← objectsOfAll_eq_map]
  rfl

end Value

theorem Sorted.Inserts.shows {τ κ α : Type} [Ord κ] [Std.TransOrd κ] [Std.LawfulEqOrd κ]
    [DecidableEq κ] {insert : τ → κ → α → Option α × τ} {pairs : τ → List (κ × α)}
    (inserts : Inserts insert pairs) {tree : τ} (empty : pairs tree = []) (label : String)
    {keyed : κ → Value} {order : κ → Object → Ordering} (render : α → Value)
    (plainKey : ∀ key, (keyed key).isPlain)
    (ordered : ∀ key other, order key (keyed other).object = compare other key)
    (listed : List (κ × α)) :
    ShowsPairs label keyed order render listed (pairs (insertEach insert tree listed).2)
      (.dict [.field label (.arr ((pairs (insertEach insert tree listed).2).flatMap fun pair =>
        [keyed pair.1, render pair.2]))]) := by
  rw [inserts.pairs_insertEach, empty]
  refine ⟨rfl, fun plain => ?_, fun key => ?_⟩
  · have items : Value.arePlain ((insertAll [] listed).flatMap fun pair =>
        [keyed pair.1, render pair.2]) := by
      refine Value.arePlain_flatMap fun pair kept => ?_
      have held := plain pair (mem_of_lastUnder? (lastUnder?_of_mem_insertAll kept))
      rw [Value.arePlain, Value.arePlain, plainKey, held]
      rfl
    rw [Value.readOne_array label items, List.map_flatMap]
    rfl
  · have ascending : Ascending (insertAll [] listed) := ascending_insertAll List.Pairwise.nil
    have found := lookUp?_flatMap (ordered key) ascending fun held => (render held).object
    rw [found, find?_insertAll, find?, Option.or_none]

/-- The number after the largest of some keys, which a word holds unless the largest fills it. -/
structure IsNextKey (keys : List Nat) (next : Nat) : Prop where
  empty : keys = [] → next = 0
  above : ∀ key ∈ keys, key + 1 ≤ next
  largest : ∀ top ∈ keys, (∀ key ∈ keys, key ≤ top) → next = top + 1
  word : (∀ key ∈ keys, key < UInt64.size - 1) → next < UInt64.size

theorem isNextKey_of_largest {keys : List Nat} {top : Nat} (listed : top ∈ keys)
    (largest : ∀ key ∈ keys, key ≤ top) : IsNextKey keys (top + 1) where
  empty same := absurd listed (same ▸ List.not_mem_nil)
  above key member := Nat.succ_le_succ (largest key member)
  largest other member others :=
    congrArg (· + 1) (Nat.le_antisymm (others top listed) (largest other member))
  word below := Nat.add_lt_of_lt_sub (below top listed)

theorem NumberTree.isNextKey {α : Type} {tree : NumberTree α}
    (ascending : tree.pairs.Pairwise fun first second => first.1 < second.1) {keys : List Nat}
    (same : ∀ key, key ∈ tree.pairs.map Prod.fst ↔ key ∈ keys) : IsNextKey keys tree.nextKey := by
  rw [nextKey]
  cases last : tree.pairs.getLast? with
  | none =>
      rw [List.getLast?_eq_none_iff.mp last] at same
      have empty : keys = [] :=
        List.eq_nil_iff_forall_not_mem.mpr fun key listed =>
          List.not_mem_nil ((same key).mpr listed)
      rw [empty]
      exact ⟨fun _ => rfl, nofun, nofun, fun _ => (by decide : 0 < UInt64.size)⟩
  | some pair =>
      obtain ⟨before, split⟩ := List.getLast?_eq_some_iff.mp last
      rw [split] at ascending same
      refine isNextKey_of_largest ((same pair.1).mp ?_) fun key listed => ?_
      · exact List.mem_map_of_mem (List.mem_append_right before List.mem_cons_self)
      · obtain ⟨other, member, rfl⟩ := List.mem_map.mp ((same key).mpr listed)
        rcases List.mem_append.mp member with earlier | final
        · have across := (List.pairwise_append.mp ascending).2.2
          exact Nat.le_of_lt (across other earlier pair List.mem_cons_self)
        · exact Nat.le_of_eq (congrArg Prod.fst (List.mem_singleton.mp final))

theorem compare_bytes_eq_lt_iff {first second : Bytes} :
    compare first second = .lt ↔ first < second := by
  induction first generalizing second with
  | nil =>
      cases second with
      | nil => simp
      | cons byte second => simp
  | cons head first ih =>
      cases second with
      | nil => simp
      | cons byte second =>
          have heads : compare head byte = .lt ↔ head < byte := compareOfLessAndEq_eq_lt
          rw [List.compare_cons_cons, List.cons_lt_cons_iff, Ordering.then_eq_lt, heads,
            Std.compare_eq_iff_eq, ih]

theorem NumberTree.inserts (α : Type) :
    Sorted.Inserts (NumberTree.insert (α := α)) NumberTree.pairs :=
  ⟨fun _ _ _ => rfl, fun _ _ _ => rfl⟩

theorem NameTree.inserts (α : Type) :
    Sorted.Inserts (NameTree.insert (α := α)) NameTree.pairs :=
  ⟨fun _ _ _ => rfl, fun _ _ _ => rfl⟩

/--
After insertions in any order a tree lists each key once, in ascending order and with the value of
its last insertion, so that a reader of the text finds each key by halves.
-/
theorem tells_insertEach {α β : Type} (render : α → Value) (renderNamed : β → Value)
    (numbered : List (Nat × α)) (named : List (Bytes × β)) :
    (Sorted.Keeps numbered (insertEach NumberTree.insert .empty numbered).1
          (insertEach NumberTree.insert .empty numbered).2.pairs ∧
        ShowsPairs "Nums" .nat orderNumber render numbered
          (insertEach NumberTree.insert .empty numbered).2.pairs
          ((insertEach NumberTree.insert .empty numbered).2.value render) ∧
        IsNextKey (numbered.map Prod.fst)
          (insertEach NumberTree.insert .empty numbered).2.nextKey) ∧
      Sorted.Keeps named (insertEach NameTree.insert .empty named).1
          (insertEach NameTree.insert .empty named).2.pairs ∧
        ShowsPairs "Names" .str orderString renderNamed named
          (insertEach NameTree.insert .empty named).2.pairs
          ((insertEach NameTree.insert .empty named).2.value renderNamed) := by
  have numbers := (NumberTree.inserts α).keeps rfl Nat.compare_eq_lt.mp numbered
  have names := (NameTree.inserts β).keeps rfl compare_bytes_eq_lt_iff.mp named
  refine ⟨⟨numbers, ?_, NumberTree.isNextKey numbers.ascending numbers.keys⟩, names, ?_⟩
  · exact (NumberTree.inserts α).shows rfl "Nums" render (fun _ => rfl) (fun _ _ => rfl) numbered
  · exact (NameTree.inserts β).shows rfl "Names" renderNamed (fun _ => rfl) (fun _ _ => rfl) named

def mixedNumbers : List (Nat × Nat) :=
  [(7, 1), (2, 2), (7, 3)]

/-- Keys out of order, one that comes back, an empty one, and one that begins another. -/
def mixedNames : List (Bytes × Nat) :=
  [([0x62], 1), ([0xFF], 2), ([0x62, 0x61], 3), ([], 4), ([0x62], 5)]

theorem tells_insertEach_mixed :
    Sorted.Keeps mixedNumbers [none, none, some 1] [(2, 2), (7, 3)] ∧
      IsNextKey [7, 2, 7] 8 ∧
      (∀ pair ∈ mixedNames, (Value.nat pair.2).isPlain) ∧
      readOne ((insertEach NameTree.insert .empty mixedNames).2.value .nat).bytes =
        some (.dict [(utf8 "Names", .arr [.str [], .number [0x34] (some 4),
          .str [0x62], .number [0x35] (some 5), .str [0x62, 0x61], .number [0x33] (some 3),
          .str [0xFF], .number [0x32] (some 2)])]) := by
  have told := tells_insertEach .nat .nat mixedNumbers mixedNames
  have plain : ∀ pair ∈ mixedNames, (Value.nat pair.2).isPlain := fun _ _ => rfl
  exact ⟨told.1.1, told.1.2.2, plain, told.2.2.reads plain⟩

end Folio
