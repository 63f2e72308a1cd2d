import Folio.Proofs.FileLayout
import Folio.Proofs.FontAgreement
import Folio.Proofs.StreamSources

/-!
Streams read back from a finished file. A reader that follows the table to an object and its
dictionary to the end of its data finds the data of every stream that was added, in the order in
which the streams were added, and finds no further streams.
-/

namespace Folio

open Reading

namespace Record

theorem source?_of_standsAlone {record : Record} (alone : record.StandsAlone) :
    record.source? = none := by
  rcases alone with rfl | ⟨value, rfl⟩
  · rfl
  · rfl

theorem headed_of_standsAlone {record : Record} (alone : record.StandsAlone) : record.Headed := by
  rcases alone with rfl | ⟨value, rfl⟩
  · trivial
  · trivial

end Record

namespace Store

theorem Grows.source?_eq {before after : Store} (grows : before.Grows after) {target : Ref}
    {record grown : Record} (found : before.get? target = some record)
    (foundAfter : after.get? target = some grown) : grown.source? = record.source? := by
  cases record with
  | reserved =>
      rcases grows.added foundAfter with earlier | alone
      · rw [found] at earlier
        cases earlier
        rfl
      · exact Record.source?_of_standsAlone alone
  | _ =>
      have kept := grows.kept found rfl
      rw [foundAfter] at kept
      cases kept
      rfl

theorem Grows.map_source? {before after : Store} (grows : before.Grows after) :
    after.records.toList.map Record.source? =
      before.records.toList.map Record.source? ++
        List.replicate (after.size - before.size) none := by
  have bound := grows.size_le
  refine List.ext_getElem? fun index => ?_
  rw [List.getElem?_map, ← get?_first, List.getElem?_append, List.length_map, Array.length_toList]
  by_cases old : index < before.records.size
  · obtain ⟨record, found⟩ : ∃ record, before.get? (.first (index + 1)) = some record :=
      exists_get?_of_le (Nat.succ_pos index) old
    obtain ⟨grown, foundAfter⟩ : ∃ grown, after.get? (.first (index + 1)) = some grown :=
      exists_get?_of_le (Nat.succ_pos index) (Nat.le_trans old bound)
    rw [if_pos old, List.getElem?_map, ← get?_first, found, foundAfter, Option.map_some,
      Option.map_some, grows.source?_eq found foundAfter]
  · rw [if_neg old, List.getElem?_replicate]
    cases foundAfter : after.get? (.first (index + 1)) with
    | none =>
        have outside : ¬index < after.size := by
          intro inside
          obtain ⟨grown, held⟩ : ∃ grown, after.get? (.first (index + 1)) = some grown :=
            exists_get?_of_le (Nat.succ_pos index) inside
          rw [foundAfter] at held
          contradiction
        rw [Option.map_none, if_neg]
        unfold size at outside ⊢
        omega
    | some grown =>
        have inside : index < after.size := number_le_size foundAfter
        rcases grows.added foundAfter with earlier | alone
        · exact absurd (number_le_size earlier) old
        · rw [Option.map_some, Record.source?_of_standsAlone alone, if_pos]
          unfold size at inside ⊢
          omega

/-- Objects that stand alone are no streams, so the streams of a store stay as they are. -/
theorem Grows.sources_eq {before after : Store} (grows : before.Grows after) :
    after.sources = before.sources := by
  have mapped (store : Store) :
      store.sources = (store.records.toList.map Record.source?).filterMap id := by
    rw [sources, List.filterMap_map]
    rfl
  have none (count : Nat) : (List.replicate count (none : Option StreamSource)).filterMap id = [] :=
    List.filterMap_eq_nil_iff.mpr fun source listed => (List.eq_of_mem_replicate listed)
  rw [mapped after, grows.map_source?, List.filterMap_append, none, List.append_nil, mapped before]

end Store

def streamsFrom : (first : Nat) → List Record → List (Nat × StreamSource)
  | _, [] => []
  | first, record :: rest => (record.source?.map (first, ·)).toList ++ streamsFrom (first + 1) rest

def Body.streamNumbers : (first : Nat) → List Body → List Nat
  | _, [] => []
  | first, .value _ :: rest => streamNumbers (first + 1) rest
  | first, .stream _ _ :: rest => first :: streamNumbers (first + 1) rest

theorem map_snd_streamsFrom (first : Nat) (records : List Record) :
    (streamsFrom first records).map Prod.snd = records.filterMap Record.source? := by
  induction records generalizing first with
  | nil => rfl
  | cons record rest ih =>
      rw [streamsFrom, List.map_append, ih, List.filterMap_cons]
      cases record.source? with
      | none => rfl
      | some source => rfl

theorem exists_of_mem_streamsFrom {first : Nat} {records : List Record}
    {stream : Nat × StreamSource} (listed : stream ∈ streamsFrom first records) :
    ∃ index record, records[index]? = some record ∧ stream.1 = first + index ∧
      record.source? = some stream.2 := by
  induction records generalizing first with
  | nil => contradiction
  | cons record rest ih =>
      rw [streamsFrom, List.mem_append] at listed
      rcases listed with here | later
      · obtain ⟨source, told, rfl⟩ := Option.map_eq_some_iff.mp (Option.mem_toList.mp here)
        exact ⟨0, record, rfl, rfl, told⟩
      · obtain ⟨index, found, held, number, told⟩ := ih later
        exact ⟨index + 1, found, held, by omega, told⟩

namespace Document

def sourceData (doc : Document) : StreamSource → Except Error Bytes
  | .given data => .ok data
  | .program key => do subsetProgram key (← doc.openSubset? key)
  | .toUnicode key => do
      return (ToUnicode.ofTexts ((← doc.openSubset? key).glyphs.map AssignedGlyph.text)).bytes

def Writes (doc : Document) (deflate : Bytes → Bytes) (written : Body) :
    Option StreamSource → Prop
  | none => ∃ value, written = .value value
  | some source => ∃ plain, doc.sourceData source = .ok plain ∧ written.Carries deflate plain

variable {doc : Document} {roots : Roots} {deflate : Bytes → Bytes} {written : Body}

theorem exists_of_bind_eq_ok {α β : Type} {outcome : Except Error α} {next : α → Except Error β}
    {value : β} (ended : (outcome >>= next) = .ok value) :
    ∃ found, outcome = .ok found ∧ next found = .ok value := by
  cases outcome with
  | ok found => exact ⟨found, rfl, ended⟩
  | error error => contradiction

theorem writes_subsetBody {part : SubsetPart} {key : SubsetKey}
    (lowered : doc.subsetBody deflate part key = .ok written) :
    doc.Writes deflate written (Record.subset part key).source? := by
  obtain ⟨subset, opened, lowered⟩ := exists_of_bind_eq_ok lowered
  cases part with
  | program =>
      obtain ⟨program, made, lowered⟩ := exists_of_bind_eq_ok lowered
      have heads : Entry.Heads (Dictionary.StreamHead.fontProgram program.length).entries
          program.length :=
        Dictionary.heads_streamHead fun told => (Option.some.inj told).symm
      cases lowered
      refine ⟨program, ?_, Body.carries_ofStream heads nofun⟩
      rw [sourceData, opened]
      exact made
  | descriptor =>
      cases lowered
      exact ⟨_, rfl⟩
  | toUnicode =>
      cases lowered
      refine ⟨_, ?_, Body.carries_ofStream (Entry.heads_nil _) nofun⟩
      rw [sourceData, opened]
      rfl
  | cidFont =>
      cases lowered
      exact ⟨_, rfl⟩
  | font =>
      obtain ⟨font, -, lowered⟩ := exists_of_bind_eq_ok lowered
      cases lowered
      exact ⟨_, rfl⟩

theorem exists_value_of_bind {α : Type} {found : Except Error α} {next : α → Except Error Body}
    (further : ∀ item, next item = .ok written → ∃ value, written = .value value)
    (lowered : found >>= next = .ok written) : ∃ value, written = .value value := by
  obtain ⟨item, -, ended⟩ := exists_of_bind_eq_ok lowered
  exact further item ended

theorem writes_body {record : Record} (headed : record.Headed)
    (lowered : doc.body roots deflate record = .ok written) :
    doc.Writes deflate written record.source? := by
  have plain {value : Value} (ended : (.ok (.value value) : Except Error Body) = .ok written) :
      ∃ value, written = .value value :=
    ⟨value, (Except.ok.inj ended).symm⟩
  cases record with
  | reserved =>
      cases lowered
      exact ⟨_, rfl⟩
  | object value =>
      cases lowered
      exact ⟨_, rfl⟩
  | stored entries filter data =>
      cases lowered
      exact ⟨data, rfl, Body.carries_ofStream headed.1 headed.2⟩
  | deflated entries data =>
      cases lowered
      exact ⟨data, rfl, Body.carries_ofStream headed nofun⟩
  | subset part key => exact writes_subsetBody lowered
  | page id => exact exists_value_of_bind (fun _ => exists_value_of_bind fun _ => plain) lowered
  | checkbox id =>
      exact exists_value_of_bind (fun _ => exists_value_of_bind fun _ =>
        exists_value_of_bind fun _ => plain) lowered
  | annot id =>
      exact exists_value_of_bind (fun _ => exists_value_of_bind fun _ =>
        exists_value_of_bind fun _ => plain) lowered
  | structureItem id =>
      exact exists_value_of_bind (fun _ => exists_value_of_bind fun _ =>
        exists_value_of_bind fun _ => plain) lowered

theorem Writes.streamNumbers {source : Option StreamSource}
    (writes : doc.Writes deflate written source) (first : Nat) (bodies : List Body) :
    Body.streamNumbers first (written :: bodies) =
      (source.map fun _ => first).toList ++ Body.streamNumbers (first + 1) bodies := by
  cases source with
  | none =>
      obtain ⟨value, rfl⟩ := writes
      rfl
  | some source =>
      obtain ⟨plain, -, carries⟩ := writes
      cases carries with
      | stored heads other => rfl
      | deflated heads => rfl

theorem map_fst_streamsFrom {records : List Record} {bodies : List Body}
    (headed : ∀ record ∈ records, record.Headed)
    (lowered : records.map (doc.body roots deflate) = bodies.map .ok) (first : Nat) :
    (streamsFrom first records).map Prod.fst = Body.streamNumbers first bodies := by
  induction records generalizing bodies first with
  | nil =>
      cases bodies with
      | nil => rfl
      | cons written rest => contradiction
  | cons record records ih =>
      cases bodies with
      | nil => contradiction
      | cons written bodies =>
          obtain ⟨here, later⟩ := List.cons.inj lowered
          obtain ⟨headedHere, headedLater⟩ := List.forall_mem_cons.mp headed
          rw [(writes_body headedHere here).streamNumbers, streamsFrom, List.map_append,
            ih headedLater later]
          cases record.source? with
          | none => rfl
          | some source => rfl

/-- A reader that follows the table to an object finds a stream of data there. -/
def Extracts (file : Bytes) (deflate : Bytes → Bytes) (number : Nat) (plain : Bytes) : Prop :=
  ∃ place object rest, objectPlace? file number = some place ∧
    streamObject? (file.drop place) = some (object, rest) ∧
      object.number = number ∧ object.Carries deflate plain

/-- All streams of a file, in the order of their numbers, and what they were made from. -/
structure StreamsExtracted (doc : Document) (deflate : Bytes → Bytes) (file : Bytes)
    (bodies : List Body) (streams : List (Nat × StreamSource)) : Prop where
  tabled : Tabled file (objectTexts 1 (bodies.map Body.bytes))
  numbers : streams.map Prod.fst = Body.streamNumbers 1 bodies
  extracted : ∀ stream ∈ streams, ∃ plain,
    doc.sourceData stream.2 = .ok plain ∧ Extracts file deflate stream.1 plain

theorem getElem?_objectTexts (first index : Nat) (texts : List Bytes) :
    (objectTexts first texts)[index]? =
      texts[index]?.map (objectText (first + index)) := by
  induction texts generalizing first index with
  | nil => rfl
  | cons text rest ih =>
      cases index with
      | zero => rfl
      | succ index =>
          have number : first + 1 + index = first + (index + 1) := by omega
          rw [objectTexts, List.getElem?_cons_succ, ih, number, List.getElem?_cons_succ]

theorem Tabled.extracts {file : Bytes} {bodies : List Body}
    (tabled : Tabled file (objectTexts 1 (bodies.map Body.bytes))) {index : Nat} {plain : Bytes}
    (found : bodies[index]? = some written) (carries : written.Carries deflate plain) :
    Extracts file deflate (index + 1) plain := by
  have text : (objectTexts 1 (bodies.map Body.bytes))[index]? =
      some (objectText (1 + index) written.bytes) := by
    rw [getElem?_objectTexts, List.getElem?_map, found]
    rfl
  obtain ⟨bound, -⟩ := List.getElem?_eq_some_iff.mp text
  obtain ⟨rest, there⟩ := tabled.drop_objectPlace text
  obtain ⟨object, read, number, told⟩ := carries.exists_streamObject? (1 + index) rest
  refine ⟨_, object, rest, tabled.objectPlace? bound, ?_, ?_, told⟩
  · rw [there, read]
  · rw [number, Nat.add_comm]

theorem extracts_of_mem_streamsFrom {file : Bytes} {records : List Record} {bodies : List Body}
    (headed : ∀ record ∈ records, record.Headed)
    (lowered : records.map (doc.body roots deflate) = bodies.map .ok)
    (tabled : Tabled file (objectTexts 1 (bodies.map Body.bytes))) {stream : Nat × StreamSource}
    (listed : stream ∈ streamsFrom 1 records) :
    ∃ plain, doc.sourceData stream.2 = .ok plain ∧ Extracts file deflate stream.1 plain := by
  obtain ⟨index, record, held, number, told⟩ := exists_of_mem_streamsFrom listed
  have place := congrArg (·[index]?) lowered
  simp only [List.getElem?_map, held, Option.map_some] at place
  obtain ⟨written, found, spelled⟩ := Option.map_eq_some_iff.mp place.symm
  have writes := writes_body (headed record (List.mem_of_getElem? held)) spelled.symm
  rw [told] at writes
  obtain ⟨plain, settled, carries⟩ := writes
  refine ⟨plain, settled, ?_⟩
  rw [number, Nat.add_comm]
  exact tabled.extracts found carries

/-- Whatever closing adds stands alone, so that all records are as those before it were. -/
theorem Grows.headed {closed : Document} (grows : doc.Grows closed)
    (headed : ∀ {target : Ref} {record : Record}, doc.store.get? target = some record →
      record.Headed) :
    ∀ record ∈ closed.store.records.toList, record.Headed := by
  intro record listed
  obtain ⟨index, held⟩ := List.mem_iff_getElem?.mp listed
  rw [← Store.get?_first] at held
  exact (grows.store.added held).elim headed Record.headed_of_standsAlone

theorem exists_streamsExtracted {means : Means} {sink : Sink}
    (headed : ∀ {target : Ref} {record : Record}, doc.store.get? target = some record →
      record.Headed)
    (complete : (doc.finalize means sink).failure = none) :
    ∃ roots closed bodies streams,
      close.run doc = .ok roots closed ∧
        closed.store.records.toList.map (closed.body roots means.deflate) = bodies.map .ok ∧
        streams.map Prod.snd = doc.store.sources ∧
        StreamsExtracted doc means.deflate (doc.finalize means sink).out bodies streams := by
  cases closing : close.run doc with
  | error error after =>
      rw [finalize, closing] at complete
      contradiction
  | ok roots closed =>
      rw [finalize_eq_write closing] at complete ⊢
      obtain ⟨bodies, lowered, tabled⟩ := tabled_write complete
      have grows := (completes_of_run_close closing).grows
      have headedAll := grows.headed headed
      have drawn := lowered
      rw [show closed.body = doc.body by rw [grows.rest]; rfl] at drawn
      refine ⟨roots, closed, bodies, streamsFrom 1 closed.store.records.toList, rfl, lowered, ?_,
        tabled, map_fst_streamsFrom headedAll drawn 1,
        fun stream listed => extracts_of_mem_streamsFrom headedAll drawn tabled listed⟩
      rw [map_snd_streamsFrom]
      exact grows.store.sources_eq

/--
A finished file holds the data that was added, and nothing else as a stream: in the order in which
the streams were added, each is read back from its place in the file, however its data looks.
-/
theorem streamsExtracted_run (options : DocumentOptions) (converter : Color → DeviceSpace → Color)
    (fingerprint : Bytes → Bytes) (operations : List Operation) {means : Means} {sink : Sink}
    (complete : (((withColors options converter fingerprint).run operations).2.finalize means
      sink).failure = none) :
    ∃ roots closed bodies streams,
      close.run ((withColors options converter fingerprint).run operations).2 =
          .ok roots closed ∧
        closed.store.records.toList.map (closed.body roots means.deflate) = bodies.map .ok ∧
        streams.map Prod.snd =
          (withColors options converter fingerprint).addedSources operations ∧
        StreamsExtracted ((withColors options converter fingerprint).run operations).2
          means.deflate (((withColors options converter fingerprint).run operations).2.finalize
            means sink).out bodies streams := by
  have gains := gains_run (withColors options converter fingerprint) operations
  have headed {target : Ref} {record : Record}
      (found : ((withColors options converter fingerprint).run operations).2.store.get? target =
        some record) : record.Headed := by
    refine (gains.adds.added found).resolve_left fun earlier => ?_
    rw [withColors, Store.get?] at earlier
    split at earlier
    · contradiction
    · contradiction
  obtain ⟨roots, closed, bodies, streams, closing, lowered, added, extracted⟩ :=
    exists_streamsExtracted headed complete
  exact ⟨roots, closed, bodies, streams, closing, lowered, added.trans gains.sources, extracted⟩

/-- An empty file, a file that goes on behind its end, data that looks like other objects, and a
font with a single glyph. -/
def misleadingStreams : List Operation :=
  [.embedFileData "empty" [] none, .embedFileData "lines" (utf8 "\r\n\n") (some "text/plain"),
    .addImageSource (.jpeg ⟨1, 1, 8, .gray, false⟩ (utf8 "\nendstream\nendobj\n")),
    .addPage misleadingPage, .addFont monospaceFace, .charSlot ⟨0⟩ 'A']

theorem streamsExtracted_run_misleading :
    (((withColors pairOptions Color.convertDevice id).run misleadingStreams).2.finalize
        ⟨id, List.replicate 16 0⟩ .unbounded).failure = none ∧
      ∃ (bodies : List Body) (streams : List (Nat × StreamSource)),
        streams.map Prod.snd =
            [.given [], .given (utf8 "\r\n\n"), .given (utf8 "\nendstream\nendobj\n"),
              .given misleadingPage.contents, .given (OneByte.bytes 2), .program ⟨⟨0⟩, 0⟩,
              .toUnicode ⟨⟨0⟩, 0⟩] ∧
          StreamsExtracted ((withColors pairOptions Color.convertDevice id).run
              misleadingStreams).2 id
            (((withColors pairOptions Color.convertDevice id).run misleadingStreams).2.finalize
              ⟨id, List.replicate 16 0⟩ .unbounded).out bodies streams := by
  have complete : (((withColors pairOptions Color.convertDevice id).run
      misleadingStreams).2.finalize ⟨id, List.replicate 16 0⟩ .unbounded).failure = none :=
    failure_finalize_unbounded (by decide +kernel)
  obtain ⟨roots, closed, bodies, streams, -, -, added, extracted⟩ :=
    streamsExtracted_run pairOptions Color.convertDevice id misleadingStreams complete
  exact ⟨complete, bodies, streams, added, extracted⟩

end Document

end Folio
