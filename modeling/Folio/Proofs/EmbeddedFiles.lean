import Folio.Proofs.FileNames
import Folio.Proofs.Lowered
import Folio.Proofs.Sorted
import Folio.Proofs.Unrefused

/-!
Embedded files and the tree that lists them in a finished file: which of them it lists, and when
it lists them all.
-/

namespace Folio

namespace Document

variable {doc after closed : Document} {roots : Roots} {means : Means} {file : Bytes}
  {bodies : List Body}

def fileNames (doc : Document) : List String :=
  doc.files.toList.map fun entry => entry.2.name

def filespecs (doc : Document) : List Ref :=
  doc.files.toList.map fun entry => entry.2.filespec

/-- The keys of the files, in the order in which these were embedded. -/
def fileKeys (doc : Document) : List Bytes :=
  (fileTexts [] doc.fileNames).map textString

theorem product_ne_of_fileName? {operation : Operation} (other : operation.fileName? = none) :
    operation.product ≠ .id .embeddedFile := by
  cases operation with
  | embedFile path contents => contradiction
  | embedFileData name data mimeType => contradiction
  | _ => simp [Operation.product]

theorem files_apply (doc : Document) {operation : Operation}
    (other : operation.fileName? = none) : (doc.apply operation).2.files = doc.files := by
  rcases doc.effect_apply operation with ⟨error, same⟩ | ⟨answer, after, same, effect⟩
  · rw [same]
  · rw [same]
    have apart := product_ne_of_fileName? other
    generalize operation.product = product at apart effect
    cases effect with
    | glyph id item glyph char found present =>
        obtain ⟨store, fonts, encoding, same⟩ := doc.onlyFonts_withGlyph id item glyph char
        rw [same]
    | file name data mimeType => contradiction
    | _ => rfl

theorem toList_files_withFile (doc : Document) (name : String) (data : Bytes)
    (mimeType : Option String) : (doc.withFile name data mimeType).files.toList =
      doc.files.toList ++ [(doc.files.nextId, ⟨name, .first (doc.store.size + 2)⟩)] := by
  rw [withFile, Registry.toList_register, nextRef, size_push]

def embeddedName? (operation : Operation) (outcome : Except Error Answer) : Option String :=
  if outcome.toBool then operation.fileName? else none

def embeddedNames (operations : List Operation) (outcomes : List (Except Error Answer)) :
    List String :=
  (operations.zip outcomes).filterMap fun entry => embeddedName? entry.1 entry.2

theorem fileNames_apply (doc : Document) (operation : Operation) :
    (doc.apply operation).2.fileNames =
      doc.fileNames ++ (embeddedName? operation (doc.apply operation).1).toList := by
  cases embeds : operation.fileName? with
  | none =>
      rw [fileNames, doc.files_apply embeds, embeddedName?, embeds, ite_self]
      exact (List.append_nil _).symm
  | some name =>
      rw [embeddedName?, embeds, apply]
      cases ran : (perform operation).run doc with
      | error error after =>
          have same : after = doc := atomic_perform operation doc after error ran
          rw [same]
          exact (List.append_nil _).symm
      | ok answer after =>
          obtain ⟨data, mimeType, rfl⟩ := run_perform_file embeds ran
          rw [fileNames, toList_files_withFile, List.map_append]
          rfl

/-- The names of the files are those under which files were embedded, one by one. -/
theorem fileNames_run (doc : Document) (operations : List Operation) :
    (doc.run operations).2.fileNames =
      doc.fileNames ++ embeddedNames operations (doc.run operations).1 := by
  induction operations generalizing doc with
  | nil => exact (List.append_nil _).symm
  | cons operation rest ih =>
      have split : embeddedNames (operation :: rest) (doc.run (operation :: rest)).1 =
          (embeddedName? operation (doc.apply operation).1).toList ++
            embeddedNames rest ((doc.apply operation).2.run rest).1 := by
        rw [run, embeddedNames, List.zip_cons_cons, List.filterMap_cons]
        cases embeddedName? operation (doc.apply operation).1 with
        | none => rfl
        | some name => rfl
      rw [split, ← List.append_assoc, ← fileNames_apply, ← ih]
      rfl

structure FilesHeld (doc : Document) : Prop where
  held : ∀ {id : Id .embeddedFile} {file : EmbeddedFile}, doc.files.get? id = some file →
    ∃ stream, doc.store.get? file.filespec =
      some (.object (Dictionary.Filespec.value ⟨textString file.name, stream, none⟩)) ∧
        file.filespec.generation = 0
  nodup : doc.filespecs.Nodup

theorem FilesHeld.embed (files : doc.FilesHeld) (name : String) (data : Bytes)
    (mimeType : Option String) : (doc.withFile name data mimeType).FilesHeld where
  held := by
    intro id file found
    rw [withFile, Registry.get?_register] at found
    split at found
    · cases found
      refine ⟨doc.nextRef, ?_, rfl⟩
      exact Store.get?_allocate_new _ _
    · obtain ⟨stream, stored, generation⟩ := files.held found
      exact ⟨stream, (doc.change_withFile name data mimeType).adds.kept stored, generation⟩
  nodup := by
    rw [filespecs, toList_files_withFile, List.map_append]
    refine List.nodup_append.mpr ⟨files.nodup, List.pairwise_singleton _ _, ?_⟩
    intro spec listed other fresh same
    obtain ⟨⟨id, file⟩, registered, rfl⟩ := List.mem_map.mp listed
    obtain ⟨stream, stored, -⟩ := files.held (Registry.mem_toList_iff.mp registered)
    have inside := Store.number_le_size stored
    have place : other = .first (doc.store.size + 2) := List.mem_singleton.mp fresh
    rw [same, place] at inside
    exact absurd inside (Nat.not_succ_le_self _ ∘ Nat.le_of_succ_le)

theorem FilesHeld.apply (files : doc.FilesHeld) (operation : Operation) :
    (doc.apply operation).2.FilesHeld := by
  cases embeds : operation.fileName? with
  | none =>
      have same := doc.files_apply embeds
      refine ⟨fun found => ?_, ?_⟩
      · rw [same] at found
        obtain ⟨stream, stored, generation⟩ := files.held found
        exact ⟨stream, (doc.change_apply operation).adds.kept stored, generation⟩
      · rw [filespecs, same]
        exact files.nodup
  | some name =>
      rcases doc.apply_cases operation with same | ⟨answer, ran⟩
      · rwa [same]
      · obtain ⟨data, mimeType, same⟩ := run_perform_file embeds ran
        rw [same]
        exact files.embed name data mimeType

theorem filesHeld_run (options : DocumentOptions) (converter : Color → DeviceSpace → Color)
    (operations : List Operation) :
    ((withConverter options converter).run operations).2.FilesHeld := by
  have start : (withConverter options converter).FilesHeld := by
    refine ⟨fun {id file} found => ?_, List.nodup_nil⟩
    have absent : (Registry.empty : Registry .embeddedFile EmbeddedFile).get? id = none := rfl
    have none := absent.symm.trans found
    contradiction
  generalize withConverter options converter = doc at start ⊢
  induction operations generalizing doc with
  | nil => exact start
  | cons operation rest ih => exact ih _ (start.apply operation)

theorem listFiles_eq (tree : NameTree Ref) (earlier : List String) (files : List EmbeddedFile) :
    listFiles tree earlier files = ⟨Sorted.insertAll tree.pairs
      (((fileTexts earlier (files.map EmbeddedFile.name)).map textString).zip
        (files.map EmbeddedFile.filespec))⟩ := by
  induction files generalizing tree earlier with
  | nil => rfl
  | cons file rest ih =>
      rw [listFiles, ih]
      rfl

def listedFiles (doc : Document) : List (Bytes × Ref) :=
  Sorted.insertAll [] (doc.fileKeys.zip doc.filespecs)

theorem fileTree_eq (doc : Document) : doc.fileTree = ⟨doc.listedFiles⟩ := by
  rw [fileTree, listFiles_eq, List.map_map, List.map_map]
  rfl

theorem length_fileTexts (earlier names : List String) :
    (fileTexts earlier names).length = names.length := by
  induction names generalizing earlier with
  | nil => rfl
  | cons name rest ih => rw [fileTexts, List.length_cons, List.length_cons, ih]

theorem length_filespecs (doc : Document) : doc.filespecs.length = doc.files.size := by
  rw [filespecs, List.length_map, Registry.length_toList]

theorem length_fileKeys (doc : Document) : doc.fileKeys.length = doc.filespecs.length := by
  rw [fileKeys, List.length_map, length_fileTexts, fileNames, filespecs, List.length_map,
    List.length_map]

theorem keys_zip (doc : Document) :
    (doc.fileKeys.zip doc.filespecs).map Prod.fst = doc.fileKeys :=
  List.map_fst_zip (Nat.le_of_eq doc.length_fileKeys)

theorem specs_zip (doc : Document) :
    (doc.fileKeys.zip doc.filespecs).map Prod.snd = doc.filespecs :=
  List.map_snd_zip (Nat.le_of_eq doc.length_fileKeys.symm)

/--
The tree of embedded files in a finished file. A key has the last of the files that would be
listed under it, so that all files are listed if and only if no two of them share a key.
-/
structure FilesListed (doc : Document) (roots : Roots) (bodies : List Body) (tree : Ref)
    (pairs : List (Bytes × Ref)) : Prop where
  catalog : Body.Says bodies roots.catalog "Names" (some (Dictionary.names (some tree)))
  tree : Body.Says bodies tree "Names"
    (some (.arr (pairs.flatMap fun (key, filespec) => [.str key, .ref filespec])))
  filespec : ∀ {id : Id .embeddedFile} {file : EmbeddedFile}, doc.files.get? id = some file →
    ∃ stream, Body.at? bodies file.filespec =
      some (.value (Dictionary.Filespec.value ⟨textString file.name, stream, none⟩))
  ascending : Sorted.Ascending pairs
  last : ∀ {key : Bytes} {filespec : Ref}, (key, filespec) ∈ pairs ↔
    ∃ before after, doc.fileKeys.zip doc.filespecs = before ++ (key, filespec) :: after ∧
      key ∉ after.map Prod.fst
  once : (pairs.map Prod.snd).Nodup
  all_iff : (∀ filespec ∈ doc.filespecs, filespec ∈ pairs.map Prod.snd) ↔ doc.fileKeys.Nodup
  length_le : pairs.length ≤ doc.files.size
  length_iff : pairs.length = doc.files.size ↔ doc.fileKeys.Nodup

theorem mem_listedFiles_iff {pair : Bytes × Ref} :
    pair ∈ doc.listedFiles ↔ ∃ before after,
      doc.fileKeys.zip doc.filespecs = before ++ pair :: after ∧ pair.1 ∉ after.map Prod.fst := by
  rw [listedFiles, Sorted.mem_insertAll_iff List.Pairwise.nil]
  simp

theorem ascending_listedFiles (doc : Document) : Sorted.Ascending doc.listedFiles :=
  Sorted.ascending_insertAll List.Pairwise.nil

theorem length_zip (doc : Document) :
    (doc.fileKeys.zip doc.filespecs).length = doc.files.size := by
  rw [List.length_zip, length_fileKeys, Nat.min_self, length_filespecs]

theorem length_listedFiles_le (doc : Document) : doc.listedFiles.length ≤ doc.files.size := by
  have most : doc.listedFiles.length ≤ 0 + (doc.fileKeys.zip doc.filespecs).length :=
    Sorted.length_insertAll_le List.Pairwise.nil
  rwa [Nat.zero_add, length_zip] at most

theorem length_listedFiles_iff (doc : Document) :
    doc.listedFiles.length = doc.files.size ↔ doc.fileKeys.Nodup := by
  have split : doc.listedFiles.length = 0 + (doc.fileKeys.zip doc.filespecs).length ↔ _ :=
    Sorted.length_insertAll_eq_iff List.Pairwise.nil
  rw [Nat.zero_add, length_zip, keys_zip] at split
  rw [split]
  exact and_iff_left fun key _ => List.not_mem_nil

theorem eq_of_nodup_map {α β : Type} {change : α → β} {entries : List α}
    (apart : (entries.map change).Nodup) {first second : α} (listed : first ∈ entries)
    (also : second ∈ entries) (same : change first = change second) : first = second := by
  obtain ⟨index, inside, rfl⟩ := List.getElem_of_mem listed
  obtain ⟨other, insideToo, rfl⟩ := List.getElem_of_mem also
  rw [← List.length_map change] at inside insideToo
  rw [← List.getElem_map change (h := inside), ← List.getElem_map change (h := insideToo)] at same
  have place := (List.getElem_inj apart).mp same
  simp only [place]

theorem mem_zip_of_mem_listedFiles {pair : Bytes × Ref} (listed : pair ∈ doc.listedFiles) :
    pair ∈ doc.fileKeys.zip doc.filespecs := by
  obtain ⟨before, after, split, -⟩ := mem_listedFiles_iff.mp listed
  rw [split]
  exact List.mem_append_right _ List.mem_cons_self

theorem FilesHeld.nodup_listed (files : doc.FilesHeld) :
    (doc.listedFiles.map Prod.snd).Nodup := by
  have apart := files.nodup
  rw [← specs_zip] at apart
  rw [List.nodup_iff_pairwise_ne, List.pairwise_map]
  refine doc.ascending_listedFiles.imp_of_mem fun listed also less same => ?_
  have one := eq_of_nodup_map apart (mem_zip_of_mem_listedFiles listed)
    (mem_zip_of_mem_listedFiles also) same
  exact Sorted.ne_of_lt less (congrArg Prod.fst one)

theorem FilesHeld.all_iff (files : doc.FilesHeld) :
    (∀ filespec ∈ doc.filespecs, filespec ∈ doc.listedFiles.map Prod.snd) ↔
      doc.fileKeys.Nodup := by
  constructor
  · intro all
    have most := files.nodup.length_le_of_subset all
    rw [length_filespecs, List.length_map] at most
    exact doc.length_listedFiles_iff.mp (Nat.le_antisymm doc.length_listedFiles_le most)
  · intro apart filespec known
    rw [← specs_zip] at known
    obtain ⟨pair, member, rfl⟩ := List.mem_map.mp known
    obtain ⟨before, after, split⟩ := List.append_of_mem member
    rw [← keys_zip, split, List.map_append, List.map_cons] at apart
    have last := (List.nodup_cons.mp (List.nodup_append.mp apart).2.1).1
    exact List.mem_map.mpr ⟨pair, mem_listedFiles_iff.mpr ⟨before, after, split, last⟩, rfl⟩

theorem FinishedAs.filesListed (finished : doc.FinishedAs closed means file roots bodies)
    (files : doc.FilesHeld) (embedded : doc.files.isEmpty = false) :
    ∃ tree, doc.FilesListed roots bodies tree doc.listedFiles := by
  obtain ⟨catalog, stored, -, -, -, -, names?, named, namesIn⟩ := finished.closes.catalog
  have listed := namesIn.isSome
  rw [embedded] at listed
  obtain ⟨tree, rfl⟩ := Option.isSome_iff_exists.mp listed
  obtain ⟨generation, storedTree⟩ := namesIn.stored rfl
  rw [fileTree_eq] at storedTree
  refine ⟨tree, ?_, ?_, fun found => ?_, doc.ascending_listedFiles, mem_listedFiles_iff,
    files.nodup_listed, files.all_iff, doc.length_listedFiles_le, doc.length_listedFiles_iff⟩
  · have told := finished.says_object finished.closes.generation.2 stored ⟨_, rfl⟩ "Names"
    rw [catalog.names_entry, named] at told
    exact told
  · exact finished.says_object generation storedTree ⟨_, rfl⟩ "Names"
  · obtain ⟨stream, held, first⟩ := files.held found
    obtain ⟨body, place, lowered⟩ := finished.body first (finished.closes.adds.kept held)
    cases lowered
    exact ⟨stream, place⟩

/--
Whatever was asked of a document, a finished file with embedded files lists the last of those that
share a key, and each of them at most once. There are as many as were embedded if and only if the
keys differ; and they do, as long as no name begins with the bytes of a mark, unless a name reads
like another that was used as often as it says.
-/
theorem filesListed_run (options : DocumentOptions) (converter : Color → DeviceSpace → Color)
    {operations : List Operation} {outcomes : List (Except Error Answer)} {doc : Document}
    (reached : (withConverter options converter).run operations = (outcomes, doc))
    (embedded : embeddedNames operations outcomes ≠ []) {means : Means} {sink : Sink}
    (complete : (doc.finalize means sink).failure = none) :
    doc.fileNames = embeddedNames operations outcomes ∧
      doc.files.size = (embeddedNames operations outcomes).length ∧
      (∃ roots bodies tree pairs,
        Whole (doc.finalize means sink).out bodies roots means.identifier ∧
          doc.FilesListed roots bodies tree pairs) ∧
      ((∀ name ∈ embeddedNames operations outcomes, ¬['\u00FE', '\u00FF'] <+: name.toList) →
        (doc.fileKeys.Nodup ↔ ∀ {name : String} {count : Nat}, 0 < count →
          count < (embeddedNames operations outcomes).count name →
            counted name count ∉ embeddedNames operations outcomes)) := by
  have names := fileNames_run (withConverter options converter) operations
  have sound := sound_run options converter operations
  have files := filesHeld_run options converter operations
  rw [reached] at names sound files
  have names : doc.fileNames = embeddedNames operations outcomes := names
  have size : doc.files.size = (embeddedNames operations outcomes).length := by
    rw [← names, fileNames, List.length_map, Registry.length_toList]
  have filled : doc.files.isEmpty = false := by
    rw [← Registry.isEmpty_toList]
    refine List.isEmpty_eq_false_iff.mpr fun empty => embedded ?_
    rw [← names, fileNames, empty, List.map_nil]
  obtain ⟨roots, closed, bodies, finished⟩ := sound.exists_finishedAs complete
  obtain ⟨tree, listed⟩ := finished.filesListed files filled
  refine ⟨names, size, ⟨roots, bodies, tree, _, finished.whole, listed⟩, fun unmarked => ?_⟩
  rw [← names] at unmarked ⊢
  rw [fileKeys, nodup_map_textString_iff unmarked, nodup_fileTexts_nil_iff]

def embed (name : String) : Operation :=
  .embedFileData name [0x61] none

def twinDocument : Document :=
  ((withConverter .standard Color.convertDevice).run [embed "x", embed "y", embed "x"]).2

theorem filesListed_run_twins :
    (twinDocument.finalize ⟨id, List.replicate 16 0⟩ .unbounded).failure = none ∧
      ∃ (roots : Roots) (bodies : List Body) (tree : Ref) (pairs : List (Bytes × Ref)),
        Whole (twinDocument.finalize ⟨id, List.replicate 16 0⟩ .unbounded).out bodies roots
          (List.replicate 16 0) ∧
        twinDocument.FilesListed roots bodies tree pairs ∧ pairs.length = 3 ∧
        ∀ filespec ∈ [Ref.first 2, .first 4, .first 6], filespec ∈ pairs.map Prod.snd := by
  have complete :
      (twinDocument.finalize ⟨id, List.replicate 16 0⟩ .unbounded).failure = none :=
    failure_finalize_unbounded (by decide +kernel)
  have apart : twinDocument.fileKeys.Nodup := by decide +kernel
  have reached : (withConverter .standard Color.convertDevice).run
      [embed "x", embed "y", embed "x"] = (_, twinDocument) := rfl
  obtain ⟨-, -, ⟨roots, bodies, tree, pairs, whole, listed⟩, -⟩ :=
    filesListed_run .standard Color.convertDevice reached (by decide +kernel) complete
  exact ⟨complete, roots, bodies, tree, pairs, whole, listed, listed.length_iff.mpr apart,
    listed.all_iff.mpr apart⟩

/-- Files of one name, and one with the name that the second of them is listed under. -/
def crowdedOperations : List Operation :=
  [embed "x", embed "x", embed "x (1)"]

def crowdedDocument : Document :=
  ((withConverter .standard Color.convertDevice).run crowdedOperations).2

/-- Three files are embedded and two are listed: the second gives way to the third. -/
theorem crowdedDocument_loses_file :
    ((withConverter .standard Color.convertDevice).run crowdedOperations).1 =
        [.ok (.id 0), .ok (.id 1), .ok (.id 2)] ∧
      (crowdedDocument.finalize ⟨id, List.replicate 16 0⟩ .unbounded).failure = none ∧
      ∃ (roots : Roots) (bodies : List Body) (tree : Ref),
        Whole (crowdedDocument.finalize ⟨id, List.replicate 16 0⟩ .unbounded).out bodies roots
          (List.replicate 16 0) ∧
        Body.Says bodies roots.catalog "Names" (some (Dictionary.names (some tree))) ∧
        Body.Says bodies tree "Names" (some (.arr
          [.str (utf8 "x"), .ref (.first 2), .str (utf8 "x (1)"), .ref (.first 6)])) ∧
        Body.at? bodies (.first 4) =
          some (.value (Dictionary.Filespec.value ⟨utf8 "x", .first 3, none⟩)) := by
  have complete :
      (crowdedDocument.finalize ⟨id, List.replicate 16 0⟩ .unbounded).failure = none :=
    failure_finalize_unbounded (by decide +kernel)
  have two : crowdedDocument.listedFiles =
      [(utf8 "x", .first 2), (utf8 "x (1)", .first 6)] := by decide +kernel
  have sound : crowdedDocument.Sound := sound_run _ _ _
  have files : crowdedDocument.FilesHeld := filesHeld_run _ _ _
  obtain ⟨roots, closed, bodies, finished⟩ := sound.exists_finishedAs complete
  obtain ⟨tree, listed⟩ := finished.filesListed files (by decide +kernel)
  have told := listed.tree
  rw [two] at told
  have stored : crowdedDocument.store.get? (.first 4) =
      some (.object (Dictionary.Filespec.value ⟨textString "x", .first 3, none⟩)) := rfl
  have name : textString "x" = utf8 "x" := by decide +kernel
  obtain ⟨body, place, lowered⟩ := finished.body rfl (finished.closes.adds.kept stored)
  cases lowered
  rw [name] at place
  exact ⟨rfl, complete, roots, bodies, tree, finished.whole, listed.catalog, told,
    place⟩

end Document

end Folio
