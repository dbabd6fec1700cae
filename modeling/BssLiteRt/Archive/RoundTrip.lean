import BssLiteRt.Archive.Readers
import BssLiteRt.Python.Concrete

/-!
Owns the round trip of the archive format: what `archive_bytes` accepts, what
every reader finds in the result, and that the bytes depend only on the
normalised entries.
-/

namespace BssLiteRt.Archive

open BssLiteRt.Library BssLiteRt.Python

section RoundTrip

variable {py : StandardLibrary} {entries : Dict String Bytes} {data : Bytes}

/-- Some name is rejected, or two names normalise to the same name. -/
def Refused (py : StandardLibrary) (entries : Dict String Bytes) : Prop :=
  (∃ name ∈ entries, ∃ error, validateEntryName py name = .error error) ∨
    ∃ first ∈ entries, ∃ second ∈ entries,
      first ≠ second ∧ normalizeName first = normalizeName second

theorem isNormalName_normalizeName {name : String} (accepted : rejectsName name = false)
    (nulFree : '\x00' ∉ name.toList) : IsNormalName (normalizeName name) := by
  refine ⟨accepts_normalizeName accepted, normalizeName_idempotent accepted, ?_⟩
  intro member
  exact nulFree (mem_normalizeName member (by decide) (by decide))

/-- The entries `archive_bytes` stores are canonical. -/
theorem canonicalItems_sortByKey (accepted : ∀ item ∈ entries.items, rejectsName item.1 = false)
    (unique : ((entries.items.map safeItem).map Prod.fst).Nodup)
    (nulFree : ∀ name ∈ entries, '\x00' ∉ name.toList) :
    CanonicalItems (sortByKey (entries.items.map safeItem)) where
  normal := by
    intro safe member
    obtain ⟨item, itemMember, rfl⟩ := List.mem_map.mp (mem_sortByKey.mp member)
    apply isNormalName_normalizeName (accepted item itemMember)
    exact nulFree item.1 (List.mem_map_of_mem itemMember)
  unique := ((sortByKey_perm _).map Prod.fst).nodup_iff.mpr unique
  sorted := sortByKey_pairwise _

theorem safeItem_of_normal {item : String × Bytes} (normal : normalizeName item.1 = item.1) :
    safeItem item = item :=
  Prod.ext normal rfl

/-- Archiving canonical entries stores them as they are. -/
theorem CanonicalItems.archiveBytes_dict {items : List (String × Bytes)}
    (canonical : CanonicalItems items) :
    archiveBytes py canonical.dict = .ok (py.zipfile.write (items.map archived)) := by
  have safe : canonical.dict.items.map safeItem = items :=
    (List.map_congr_left fun item member =>
      safeItem_of_normal (canonical.normal item member).2.1).trans items.map_id
  rw [archiveBytes_ok_iff, safe]
  refine ⟨fun item member => (canonical.normal item member).1, canonical.unique, ?_⟩
  rw [sortByKey_eq_self canonical.sorted]

/-- The entries an archive was made of are read back under their normalised
names. -/
theorem canonical_of_archiveBytes (nulFree : ∀ name ∈ entries, '\x00' ∉ name.toList)
    (returned : archiveBytes py entries = .ok data) :
    ∃ items, ∃ canonical : CanonicalItems items,
      canonical.dict.items.Perm (entries.items.map safeItem) ∧
        data = py.zipfile.write (items.map archived) := by
  obtain ⟨accepted, unique, written⟩ := archiveBytes_ok_iff.mp returned
  exact ⟨_, canonicalItems_sortByKey accepted unique nulFree, sortByKey_perm _, written.symm⟩

/-- Entries under normalised names are read back as they are. -/
theorem readBack_of_normal (normal : ∀ name ∈ entries, IsNormalised name)
    (returned : archiveBytes py entries = .ok data) :
    ∃ items, ∃ canonical : CanonicalItems items,
      (∀ name, canonical.dict.get? name = entries.get? name) ∧
        data = py.zipfile.write (items.map archived) := by
  have nulFree : ∀ name ∈ entries, '\x00' ∉ name.toList := fun name member =>
    (normal name member).2
  obtain ⟨items, canonical, stored, written⟩ := canonical_of_archiveBytes nulFree returned
  have safe : entries.items.map safeItem = entries.items := by
    refine (List.map_congr_left ?_).trans entries.items.map_id
    intro item member
    exact safeItem_of_normal (normal item.1 (List.mem_map_of_mem member)).1
  rw [safe] at stored
  have lookups : ∀ name, canonical.dict.get? name = entries.get? name := fun name =>
    Dict.get?_of_perm stored name
  exact ⟨items, canonical, lookups, written⟩

theorem archiveBytes_of_normal (py : StandardLibrary)
    (normal : ∀ name ∈ entries, IsNormalName name) :
    ∃ data, archiveBytes py entries = .ok data := by
  have itemNormal : ∀ item ∈ entries.items, IsNormalName item.1 := fun item member =>
    normal item.1 (List.mem_map_of_mem member)
  have safe : entries.items.map safeItem = entries.items := by
    refine (List.map_congr_left ?_).trans entries.items.map_id
    exact fun item member => safeItem_of_normal (itemNormal item member).2.1
  refine ⟨_, archiveBytes_ok_iff.mpr ⟨fun item member => (itemNormal item member).1, ?_, rfl⟩⟩
  rw [safe]
  exact entries.unique

/-- The normalised names are distinct when no two names normalise to the same. -/
theorem nodup_safeItem_iff :
    ((entries.items.map safeItem).map Prod.fst).Nodup ↔
      ∀ first ∈ entries, ∀ second ∈ entries,
        normalizeName first = normalizeName second → first = second := by
  have names : (entries.items.map safeItem).map Prod.fst = entries.keys.map normalizeName := by
    rw [Dict.keys, List.map_map, List.map_map]
    rfl
  rw [names]
  exact List.nodup_map_iff_inj_on entries.unique

theorem rejects_iff_raises (name : String) :
    rejectsName name = true ↔ ∃ error, validateEntryName py name = .error error := by
  unfold validateEntryName
  cases rejectsName name <;> simp [raise]

theorem archiveBytes_raises_iff :
    (∃ error, archiveBytes py entries = .error error) ↔ Refused py entries := by
  constructor
  · rintro ⟨error, raised⟩
    by_contra served
    rw [Refused, not_or] at served
    obtain ⟨noneRejected, noneMerged⟩ := served
    have accepted : ∀ item ∈ entries.items, rejectsName item.1 = false := by
      intro item member
      apply Bool.eq_false_iff.mpr
      intro rejected
      exact noneRejected ⟨item.1, List.mem_map_of_mem member, (rejects_iff_raises _).mp rejected⟩
    have unique : ((entries.items.map safeItem).map Prod.fst).Nodup := by
      rw [nodup_safeItem_iff]
      intro first firstMember second secondMember same
      by_contra different
      exact noneMerged ⟨first, firstMember, second, secondMember, different, same⟩
    have returns := (@archiveBytes_ok_iff py entries _).mpr ⟨accepted, unique, rfl⟩
    rw [raised] at returns
    cases returns
  · intro refused
    cases outcome : archiveBytes py entries with
    | error error => exact ⟨error, rfl⟩
    | ok data =>
        obtain ⟨accepted, unique, -⟩ := archiveBytes_ok_iff.mp outcome
        rcases refused with ⟨name, member, raised⟩ | ⟨first, inFirst, second, inSecond, merged⟩
        · obtain ⟨item, itemMember, rfl⟩ := List.mem_map.mp member
          have rejected := (rejects_iff_raises item.1).mpr raised
          rw [accepted item itemMember] at rejected
          cases rejected
        · exact absurd (nodup_safeItem_iff.mp unique first inFirst second inSecond merged.2) merged.1

/-- The order of the entries does not matter. -/
theorem archiveBytes_of_perm {other : Dict String Bytes} (same : other.items.Perm entries.items)
    (returned : archiveBytes py entries = .ok data) : archiveBytes py other = .ok data := by
  obtain ⟨accepted, unique, written⟩ := archiveBytes_ok_iff.mp returned
  have safeSame : (other.items.map safeItem).Perm (entries.items.map safeItem) := same.map safeItem
  rw [archiveBytes_ok_iff]
  refine ⟨fun item member => accepted item (same.mem_iff.mp member), ?_, ?_⟩
  · exact (safeSame.map Prod.fst).nodup_iff.mpr unique
  · rw [← sortByKey_eq_of_perm unique safeSame.symm, written]

/-- The archive format round-trips and is canonical. -/
theorem archive_round_trip (py : StandardLibrary) (entries : Dict String Bytes)
    (nulFree : ∀ name ∈ entries, '\x00' ∉ name.toList) :
    ((∃ error, archiveBytes py entries = .error error) ↔ Refused py entries) ∧
      (∀ data, archiveBytes py entries = .ok data →
        ∃ readBack : Dict String Bytes,
          readBack.items.Perm
              (entries.items.map fun item => (normalizeName item.1, item.2)) ∧
            (∀ label, readArchiveBytes py data label = .ok readBack) ∧
            (∀ pathName, readNormalizedArchive py pathName data = .ok readBack) ∧
            (∃ files, archiveEntries py data = .ok (readBack, files) ∧
              ∀ label, verifyNormalized files label = .ok ()) ∧
            archiveBytes py readBack = .ok data) ∧
      ∀ other : Dict String Bytes, other.items.Perm entries.items →
        ∀ data, archiveBytes py entries = .ok data ↔ archiveBytes py other = .ok data := by
  refine ⟨archiveBytes_raises_iff, fun data returned => ?_, fun other same data => ?_⟩
  · obtain ⟨items, canonical, stored, rfl⟩ := canonical_of_archiveBytes nulFree returned
    refine ⟨canonical.dict, stored, canonical.readArchiveBytes_write,
      canonical.readNormalizedArchive_write, ⟨_, canonical.archiveEntries_write, ?_⟩, ?_⟩
    · exact canonical.verifyNormalized_archived
    · exact canonical.archiveBytes_dict
  · exact ⟨archiveBytes_of_perm same, archiveBytes_of_perm same.symm⟩

/-- Two entries, the first under a name that is not normalised. -/
def twoEntries : Dict String Bytes :=
  ⟨[("res//raw/./a.bin", [1, 2]), ("classes.jar", [3])], by decide⟩

theorem archive_round_trip_two_entries :
    ∃ data, archiveBytes concreteLibrary twoEntries = .ok data ∧
      ∃ readBack : Dict String Bytes,
        readBack.items.Perm [("res/raw/a.bin", [1, 2]), ("classes.jar", [3])] ∧
          (∀ label, readArchiveBytes concreteLibrary data label = .ok readBack) ∧
          archiveBytes concreteLibrary readBack = .ok data := by
  have facts := archive_round_trip concreteLibrary twoEntries (by decide)
  have returned := (@archiveBytes_ok_iff concreteLibrary twoEntries _).mpr
    ⟨by decide, by decide, rfl⟩
  obtain ⟨readBack, stored, readArchive, -, -, again⟩ := facts.2.1 _ returned
  exact ⟨_, returned, readBack, stored, readArchive, again⟩

end RoundTrip

end BssLiteRt.Archive
