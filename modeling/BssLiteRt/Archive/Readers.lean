import BssLiteRt.Archive.Deterministic
import Mathlib.Data.List.Dedup

/-!
Owns the readers of archives in the packaging and verification scripts:
`read_archive_bytes`, `read_normalized_archive`, and `archive_entries` with
`verify_normalized`. Each lists the entries that are not directories and keeps
the last data of each name.
-/

namespace BssLiteRt.Archive

open BssLiteRt.Library BssLiteRt.Python

/-- `[info for info in archive.infolist() if not info.is_dir()]` -/
def fileEntries (py : StandardLibrary) (data : Bytes) : Py (List ZipEntry) := do
  let entries ← py.zipfile.read data
  return entries.filter fun entry => !entry.info.isDir

/-- `{info.filename: archive.read(info) for info in infos}` -/
def entryDict (files : List ZipEntry) : Dict String Bytes :=
  Dict.ofPairs (files.map fun entry => (entry.info.filename, entry.data))

/-- `entries[name]` -/
def entryOf (entries : Dict String Bytes) (name : String) : Py Bytes :=
  match entries.get? name with
  | some data => .ok data
  | none => raise .keyError ("'" ++ name ++ "'")

theorem entryOf_ok_iff {entries : Dict String Bytes} {name : String} {data : Bytes} :
    entryOf entries name = .ok data ↔ entries.get? name = some data := by
  unfold entryOf
  cases entries.get? name <;> simp

/-- `archive.read(name)`, which finds the last entry of a name. -/
def readEntry (stored : List ZipEntry) (name : String) : Py Bytes :=
  match stored.reverse.find? fun entry => entry.info.filename = name with
  | some entry => .ok entry.data
  | none => raise .keyError ("There is no item named '" ++ name ++ "' in the archive")

def filenames (files : List ZipEntry) : List String :=
  files.map fun entry => entry.info.filename

/-- `names == sorted(names)` -/
def isSorted (names : List String) : Bool :=
  names = names.insertionSort (· ≤ ·)

/-- The loop over the headers that two of the readers share, with its two
messages for a file name. -/
def checkHeaders (timestampMessage modeMessage : String → String) : List ZipEntry → Py Unit
  | [] => .ok ()
  | entry :: rest => do
      raiseIf (entry.info.dateTime ≠ FIXED_ZIP_TIME) .valueError
        (timestampMessage entry.info.filename)
      raiseIf (entry.info.externalAttr >>> 16 ≠ 0o100644) .valueError
        (modeMessage entry.info.filename)
      checkHeaders timestampMessage modeMessage rest

/-- `read_archive_bytes` of `package_bounded_gpu_aar.py`. -/
def readArchiveBytes (py : StandardLibrary) (data : Bytes) (label : String) :
    Py (Dict String Bytes) := do
  let files ← fileEntries py data
  let entries := entryDict files
  raiseIf (entries.items.length ≠ files.length) .valueError
    ("Archive contains duplicate entries: " ++ label)
  return entries

/-- `read_normalized_archive` of `verify_downloadable_runtime_bundles.py`, on the
contents of a file with the given name. -/
def readNormalizedArchive (py : StandardLibrary) (pathName : String) (data : Bytes) :
    Py (Dict String Bytes) := do
  let files ← fileEntries py data
  let names := filenames files
  raiseIf (!isSorted names || names.length ≠ names.dedup.length) .valueError
    ("Archive entries are not unique and sorted: " ++ pathName)
  checkHeaders (fun name => "Archive timestamp is not normalized: " ++ pathName ++ "/" ++ name)
    (fun name => "Archive mode is not normalized: " ++ pathName ++ "/" ++ name) files
  return entryDict files

/-- `archive_entries` of `verify_bounded_gpu_aar.py`. -/
def archiveEntries (py : StandardLibrary) (data : Bytes) :
    Py (Dict String Bytes × List ZipEntry) := do
  let files ← fileEntries py data
  let entries := entryDict files
  raiseIf (entries.items.length ≠ files.length) .valueError "Archive contains duplicate entries"
  return (entries, files)

/-- `verify_normalized` of `verify_bounded_gpu_aar.py`. -/
def verifyNormalized (files : List ZipEntry) (label : String) : Py Unit := do
  raiseIf (!isSorted (filenames files)) .valueError (label ++ " entries are not sorted")
  checkHeaders (fun name => label ++ " timestamp is not normalized: " ++ name)
    (fun name => label ++ " mode is not normalized: " ++ name) files

/-- The names a reader returns hold no NUL. -/
theorem readArchiveBytes_nulFree {py : StandardLibrary} {data : Bytes} {label : String}
    {entries : Dict String Bytes} (returned : readArchiveBytes py data label = .ok entries) :
    ∀ name ∈ entries, '\x00' ∉ name.toList := by
  unfold readArchiveBytes at returned
  simp only [bind_eq_ok, raiseIf_eq_ok, exists_unit] at returned
  obtain ⟨files, -, -, returned⟩ := returned
  obtain rfl := Except.ok.inj returned
  intro name member
  obtain ⟨stored, found⟩ := Dict.mem_iff_get?.mp member
  obtain ⟨entry, -, same⟩ := List.mem_map.mp (Dict.mem_of_get?_ofPairs found)
  rw [← (Prod.mk.inj same).1]
  exact entry.info.nulFree

/-! ### Canonical archives -/

/-- The name under which an archive stores an entry is the name itself. -/
def IsNormalName (name : String) : Prop :=
  rejectsName name = false ∧ normalizeName name = name ∧ '\x00' ∉ name.toList

instance (name : String) : Decidable (IsNormalName name) :=
  inferInstanceAs (Decidable (_ ∧ _ ∧ _))

/-- A name that `archive_bytes` keeps, if it accepts it. -/
def IsNormalised (name : String) : Prop :=
  normalizeName name = name ∧ '\x00' ∉ name.toList

instance (name : String) : Decidable (IsNormalised name) :=
  inferInstanceAs (Decidable (_ ∧ _))

/-- Entries as `archive_bytes` stores them: normal names, in strict order. -/
structure CanonicalItems (items : List (String × Bytes)) : Prop where
  normal : ∀ item ∈ items, IsNormalName item.1
  unique : (items.map Prod.fst).Nodup
  sorted : items.Pairwise fun left right => left.1 ≤ right.1

section Canonical

variable {py : StandardLibrary} {items : List (String × Bytes)}

theorem entryInfo_filename {name : String} (nulFree : '\x00' ∉ name.toList) :
    (entryInfo name).filename = name := by
  have whole : name.toList.takeWhile (· ≠ '\x00') = name.toList := by
    apply List.takeWhile_eq_self_iff.mpr
    intro char member
    exact decide_eq_true fun same => nulFree (same ▸ member)
  show String.ofList (name.toList.takeWhile (· ≠ '\x00')) = name
  rw [whole, String.ofList_toList]

theorem isDir_entryInfo {name : String} (normal : IsNormalName name) :
    (entryInfo name).isDir = false := by
  rw [ZipInfo.isDir, entryInfo_filename normal.2.2]
  apply Bool.eq_false_iff.mpr
  intro directory
  rw [List.isSuffixOf_iff_suffix, ← normal.2.1] at directory
  exact not_isDir_normalizeName normal.1 directory

namespace CanonicalItems

/-- Canonical entries are no directories. -/
theorem files_archived (canonical : CanonicalItems items) :
    (items.map archived).filter (fun entry => !entry.info.isDir) = items.map archived := by
  apply List.filter_eq_self.mpr
  intro entry member
  obtain ⟨item, itemMember, rfl⟩ := List.mem_map.mp member
  simp [archived, isDir_entryInfo (canonical.normal item itemMember)]

theorem fileEntries_write (canonical : CanonicalItems items) :
    fileEntries py (py.zipfile.write (items.map archived)) = .ok (items.map archived) := by
  rw [fileEntries, py.zipfile.read_write]
  exact congrArg Except.ok canonical.files_archived

theorem pairs_archived (canonical : CanonicalItems items) :
    (items.map archived).map (fun entry => (entry.info.filename, entry.data)) = items := by
  rw [List.map_map]
  refine (List.map_congr_left ?_).trans items.map_id
  intro item member
  exact Prod.ext (entryInfo_filename (canonical.normal item member).2.2) rfl

/-- The dictionary of a canonical archive. -/
def dict (canonical : CanonicalItems items) : Dict String Bytes :=
  ⟨items, canonical.unique⟩

theorem entryDict_archived (canonical : CanonicalItems items) :
    entryDict (items.map archived) = canonical.dict := by
  rw [entryDict, canonical.pairs_archived, Dict.ofPairs_of_nodup canonical.unique]
  rfl

theorem filenames_archived (canonical : CanonicalItems items) :
    filenames (items.map archived) = items.map Prod.fst := by
  have names := congrArg (List.map Prod.fst) (canonical.pairs_archived)
  rwa [List.map_map] at names

theorem isSorted_filenames (canonical : CanonicalItems items) :
    isSorted (filenames (items.map archived)) = true := by
  rw [canonical.filenames_archived, isSorted, decide_eq_true_iff, ← keys_sortByKey,
    sortByKey_eq_self canonical.sorted]

theorem checkHeaders_archived (timestampMessage modeMessage : String → String) :
    checkHeaders timestampMessage modeMessage (items.map archived) = .ok () := by
  induction items with
  | nil => rfl
  | cons item rest inductionHypothesis =>
      have mode : (archived item).info.externalAttr >>> 16 = 0o100644 := by
        show (0o100644 <<< 16) >>> 16 = 0o100644
        decide
      have time : (archived item).info.dateTime = FIXED_ZIP_TIME := rfl
      rw [List.map_cons, checkHeaders]
      simp [mode, time, inductionHypothesis]

theorem readArchiveBytes_write (canonical : CanonicalItems items) (label : String) :
    readArchiveBytes py (py.zipfile.write (items.map archived)) label = .ok canonical.dict := by
  unfold readArchiveBytes
  rw [canonical.fileEntries_write, ok_bind, canonical.entryDict_archived]
  simp [dict]

theorem readNormalizedArchive_write (canonical : CanonicalItems items) (pathName : String) :
    readNormalizedArchive py pathName (py.zipfile.write (items.map archived)) =
      .ok canonical.dict := by
  have unique : (filenames (items.map archived)).dedup = filenames (items.map archived) := by
    rw [canonical.filenames_archived]
    exact canonical.unique.dedup
  unfold readNormalizedArchive
  rw [canonical.fileEntries_write, ok_bind]
  simp [unique, canonical.isSorted_filenames, checkHeaders_archived, canonical.entryDict_archived]

theorem archiveEntries_write (canonical : CanonicalItems items) :
    archiveEntries py (py.zipfile.write (items.map archived)) =
      .ok (canonical.dict, items.map archived) := by
  unfold archiveEntries
  rw [canonical.fileEntries_write, ok_bind, canonical.entryDict_archived]
  simp [dict]

theorem verifyNormalized_archived (canonical : CanonicalItems items) (label : String) :
    verifyNormalized (items.map archived) label = .ok () := by
  rw [verifyNormalized, canonical.isSorted_filenames, checkHeaders_archived]
  rfl

end CanonicalItems

end Canonical

end BssLiteRt.Archive
