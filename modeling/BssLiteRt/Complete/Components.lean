import BssLiteRt.Archive.RoundTrip
import BssLiteRt.Complete.Staging

/-!
Owns the components of an AAR as the publication scripts read them: which entries
they are, and that the two readers find the same ones.
-/

namespace BssLiteRt.Complete

open BssLiteRt.Library BssLiteRt.Python BssLiteRt.Archive

/-! ### Reading an entry by its name -/

section Entries

variable {stored : List ZipEntry} {name : String}

theorem readEntry_ok_iff {data : Bytes} :
    readEntry stored name = .ok data ↔ (entryDict stored).get? name = some data := by
  have lookups (entries : List ZipEntry) :
      (entries.map fun entry => (entry.info.filename, entry.data)).lookup name =
        (entries.find? fun entry => entry.info.filename = name).map ZipEntry.data := by
    induction entries with
    | nil => rfl
    | cons first rest inductionHypothesis =>
        rw [List.map_cons, List.lookup_cons, List.find?_cons]
        by_cases same : name = first.info.filename
        · simp [same]
        · simp [beq_false_of_ne same, Ne.symm same, inductionHypothesis]
  rw [entryDict, Dict.get?_ofPairs, ← List.map_reverse, lookups, readEntry]
  cases stored.reverse.find? fun entry => entry.info.filename = name <;> simp

theorem mem_entryDict_iff : name ∈ entryDict stored ↔ name ∈ filenames stored := by
  rw [entryDict, Dict.mem_ofPairs_iff, List.map_map]
  rfl

/-- Distinct file names identify the data of the entries. -/
theorem get?_entryDict_of_unique
    (unique : (filenames (stored.filter fun entry => !entry.info.isDir)).Nodup) {entry : ZipEntry}
    (member : entry ∈ stored.filter fun entry => !entry.info.isDir) :
    (entryDict stored).get? entry.info.filename = some entry.data := by
  have named : entry.info.filename ∈ filenames stored :=
    List.mem_map_of_mem (List.mem_of_mem_filter member)
  obtain ⟨data, found⟩ := Dict.mem_iff_get?.mp (mem_entryDict_iff.mpr named)
  obtain ⟨other, otherStored, same⟩ := List.mem_map.mp (Dict.mem_of_get?_ofPairs found)
  obtain ⟨sameName, rfl⟩ := Prod.mk.inj same
  have otherFile : other ∈ stored.filter fun entry => !entry.info.isDir := by
    refine List.mem_filter.mpr ⟨otherStored, ?_⟩
    rw [ZipInfo.isDir, sameName]
    exact (List.mem_filter.mp member).2
  rw [found, List.inj_on_of_nodup_map unique otherFile member sameName]

end Entries

/-! ### Reading the components -/

section Components

variable {py : StandardLibrary} {stored : List ZipEntry} {aar : Bytes}

/-- The record of an entry of the archive. -/
def recordOf (py : StandardLibrary) (stored : List ZipEntry) (name : String) : Option Json :=
  ((entryDict stored).get? name).map (componentRecord py)

theorem recordComponents_ok {names : List String} {start : Dict String Json}
    (present : ∀ name ∈ names, name ∈ filenames stored) :
    ∃ components, recordComponents py stored names start = .ok components ∧
      ∀ name, components.get? name =
        if name ∈ names ∧ isComponent name = true then recordOf py stored name
        else start.get? name := by
  induction names generalizing start with
  | nil => exact ⟨start, rfl, fun name => by simp⟩
  | cons first rest inductionHypothesis =>
      obtain ⟨head, tail⟩ := List.forall_mem_cons.mp present
      unfold recordComponents
      cases component : isComponent first with
      | false =>
          obtain ⟨components, returned, found⟩ := @inductionHypothesis start tail
          refine ⟨components, returned, fun name => ?_⟩
          rw [found]
          by_cases same : name = first
          · simp [same, component]
          · simp [same]
      | true =>
          obtain ⟨data, inArchive⟩ := Dict.mem_iff_get?.mp (mem_entryDict_iff.mpr head)
          obtain ⟨components, returned, found⟩ :=
            @inductionHypothesis (start.set first (componentRecord py data)) tail
          refine ⟨components, ?_, fun name => ?_⟩
          · simp [readEntry_ok_iff.mpr inArchive, returned]
          · rw [found, Dict.get?_set]
            by_cases same : name = first
            · simp [same, component, recordOf, inArchive]
            · simp [same]

/-- Both readers of an archive without duplicate entries find its components. -/
theorem readComponents_ok (opened : py.zipfile.read aar = .ok stored)
    (unique : (filenames (stored.filter fun entry => !entry.info.isDir)).Nodup) :
    ∃ components : Dict String Json,
      (∀ message, readComponents py message aar = .ok components) ∧
      ∀ name, components.get? name =
        if name ∈ filenames (stored.filter fun entry => !entry.info.isDir) ∧
          isComponent name = true then recordOf py stored name else none := by
  have present : ∀ name ∈ (filenames (stored.filter fun entry => !entry.info.isDir)).insertionSort
      (· ≤ ·), name ∈ filenames stored := by
    intro name member
    rw [List.mem_insertionSort] at member
    obtain ⟨entry, kept, rfl⟩ := List.mem_map.mp member
    exact List.mem_map_of_mem (List.mem_of_mem_filter kept)
  obtain ⟨components, returned, found⟩ := @recordComponents_ok py _ _ Dict.empty present
  refine ⟨components, fun message => ?_, fun name => ?_⟩
  · rw [readComponents, opened, ok_bind]
    simp [unique.dedup, returned]
  · simp only [found, List.mem_insertionSort, Dict.get?_empty]

/-- The components of an archive that holds canonical entries. -/
theorem readComponents_write {items : List (String × Bytes)} (canonical : CanonicalItems items) :
    ∃ components : Dict String Json,
      (∀ message, readComponents py message (py.zipfile.write (items.map archived)) =
        .ok components) ∧
      ∀ name, components.get? name =
        if isComponent name = true then (canonical.dict.get? name).map (componentRecord py)
        else none := by
  have files := canonical.files_archived
  have unique : (filenames ((items.map archived).filter fun entry => !entry.info.isDir)).Nodup := by
    rw [files, canonical.filenames_archived]
    exact canonical.unique
  obtain ⟨components, returned, found⟩ := readComponents_ok (py.zipfile.read_write _) unique
  refine ⟨components, returned, fun name => ?_⟩
  rw [found, files, recordOf, canonical.entryDict_archived, canonical.filenames_archived]
  by_cases member : name ∈ items.map Prod.fst
  · simp [member]
  · have absent : canonical.dict.get? name = none := Dict.get?_eq_none_iff.mpr member
    simp [member, absent]

theorem get?_recordedComponents (entries : Dict String Bytes) (name : String) :
    (recordedComponents py entries).get? name =
      if isRecorded name = true then (entries.get? name).map (componentRecord py) else none := by
  rw [recordedComponents, Dict.get?_mapValues, get?_ofPairs_sortByKey, Dict.get?_filter]
  cases entries.get? name <;> cases isRecorded name <;> simp [Option.filter]

end Components

end BssLiteRt.Complete
