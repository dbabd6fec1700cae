import BssLiteRt.Downloadable.Build

/-!
Owns `verify_downloadable_runtime_bundles.py` on the contents of a directory, and
what each of its checks accepts.
-/

namespace BssLiteRt.Downloadable

open BssLiteRt.Library BssLiteRt.Python BssLiteRt.Archive

/-! ### The checks -/

/-- `require_file` -/
def requireFile (py : StandardLibrary) (dist : Directory) (path : String) (size sha256 : Json) :
    Py Unit :=
  match dist.lookup path with
  | some data =>
      raiseIf (!matchesBlob py data size sha256) .valueError
        ("Release asset identity mismatch: " ++ dist.joinedName path)
  | none => raise .valueError ("Release asset identity mismatch: " ++ dist.joinedName path)

/-- `read_normalized_archive(dist / path)` -/
def readBundle (py : StandardLibrary) (dist : Directory) (path : String) :
    Py (Dict String Bytes) := do
  let data ← dist.readBytes path
  readNormalizedArchive py (dist.joinedName path) data

/-- `set(entries) == names` -/
def hasExactly (entries : Dict String Bytes) (names : List String) : Bool :=
  (∀ name ∈ entries.keys, name ∈ names) ∧ ∀ name ∈ names, name ∈ entries.keys

def verifyApiAar (py : StandardLibrary) (dist : Directory) (path : String) (contract : Contract)
    (contractBytes : Bytes) : Py Unit := do
  let entries ← readBundle py dist path
  raiseIf (entries.keys.any fun name => startsWith name "jni/") .valueError
    "Pure API AAR contains native libraries"
  raiseIf (entries.get? contract.apiAar.embeddedContractPath ≠ some contractBytes) .valueError
    "Pure API AAR does not contain the exact downloadable contract"
  raiseIf ("META-INF/bss-litert/bounded-gpu-runtime-contract.json" ∈ entries) .valueError
    "Pure API AAR retained the packaged-runtime contract"
  match entries.get? "classes.jar" with
  | none => raise .valueError "Pure API AAR classes.jar identity mismatch"
  | some classes =>
      let expected ← contract.classesJarSha256
      raiseIf (!(Json.str (py.hashlib.sha256 classes)).pyEq expected) .valueError
        "Pure API AAR classes.jar identity mismatch"

/-- `manifest["component"] != component or manifest["abi"] != abi` -/
def differsFrom (manifest : Json) (component : String) (abi : Json) : Py Bool := do
  let found ← getItem manifest "component"
  if !found.pyEq (.str component) then return true
  let found ← getItem manifest "abi"
  return !found.pyEq abi

def verifyCpuBundle (py : StandardLibrary) (dist : Directory) (path abi : String)
    (metadata : CpuAbi) (contract : Contract) : Py Unit := do
  let entries ← readBundle py dist path
  let libraryName := contract.cpuCore.libraryName
  raiseIf (!hasExactly entries ["manifest.json", libraryName]) .valueError
    ("Unexpected CPU bundle entries: " ++ dist.joinedName path)
  let library ← entryOf entries libraryName
  raiseIf (!matchesBlob py library metadata.byteSize metadata.sha256) .valueError
    ("CPU library identity mismatch: " ++ abi)
  let manifestBytes ← entryOf entries "manifest.json"
  let manifest ← py.json.loadsBytes manifestBytes
  raiseIf (← differsFrom manifest "cpu-core" (.str abi)) .valueError
    ("CPU manifest identity mismatch: " ++ abi)
  let files ← getItem manifest "files"
  let expected := fileManifest libraryName metadata.byteSize metadata.sha256 metadata.elfClass
    metadata.machine metadata.soname (metadata.needed contract)
  raiseIf (!files.pyEq (.arr [.ofDict expected])) .valueError
    ("CPU manifest file contract mismatch: " ++ abi)
  raiseIf (manifestBytes ≠ jsonBytes manifest) .valueError
    ("CPU manifest is not canonical JSON: " ++ abi)

/-- The loop of `verify_gpu_bundle` over the files of the contract. -/
def verifyGpuLibraries (py : StandardLibrary) (entries : Dict String Bytes) :
    List GpuFile → Py Unit
  | [] => .ok ()
  | metadata :: rest => do
      let library ← entryOf entries metadata.path
      raiseIf (!matchesBlob py library metadata.byteSize metadata.sha256) .valueError
        ("GPU library identity mismatch: " ++ metadata.path)
      verifyGpuLibraries py entries rest

def verifyGpuBundle (py : StandardLibrary) (dist : Directory) (path : String)
    (contract : Contract) : Py Unit := do
  let metadata := contract.boundedGpu
  let entries ← readBundle py dist path
  raiseIf (!hasExactly entries ("manifest.json" :: metadata.files.map fun file => file.path))
    .valueError "Unexpected bounded GPU bundle entries"
  verifyGpuLibraries py entries metadata.files
  let manifestBytes ← entryOf entries "manifest.json"
  let manifest ← py.json.loadsBytes manifestBytes
  raiseIf (← differsFrom manifest "bounded-gpu" metadata.abi) .valueError
    "Bounded GPU manifest identity mismatch"
  let profile ← getItem manifest "profile"
  raiseIf (!profile.pyEq metadata.profile) .valueError "Bounded GPU profile mismatch"
  let requiredCore ← getItem manifest "requiredCore"
  let librarySha256 ← getItem requiredCore "librarySha256"
  raiseIf (!librarySha256.pyEq metadata.requiredCoreSha256) .valueError
    "Bounded GPU core dependency mismatch"
  raiseIf (manifestBytes ≠ jsonBytes manifest) .valueError
    "Bounded GPU manifest is not canonical JSON"

/-! ### Checksums -/

/-- The loop of `verify_checksums` over the lines. -/
def readChecksums (lines : List (List Char)) (actual : Dict String String) :
    Py (Dict String String) :=
  match lines with
  | [] => .ok actual
  | line :: rest =>
      match splitTwoSpaces line with
      | none => raise .valueError "not enough values to unpack (expected 2, got 1)"
      | some (digest, name) => readChecksums rest (actual.set (String.ofList name) (String.ofList digest))

def verifyChecksums (py : StandardLibrary) (dist : Directory) : Py Unit := do
  let text ← readTextAscii (← dist.readBytes "SHA256SUMS")
  let expected := (checkedFiles dist.files).mapValues fun _ data => py.hashlib.sha256 data
  let actual ← readChecksums (splitLines text.toList) Dict.empty
  raiseIf (¬ actual.items.Perm expected.items) .valueError
    "SHA256SUMS does not cover the exact release assets"

/-! ### The index -/

/-- The key under which the verifier files a record. -/
def recordKey (record : Json) : Py (Json × Json) := do
  let component ← getItem record "component"
  let abi ← getItem record "abi"
  let component ← hashKey component
  let abi ← hashKey abi
  return (component, abi)

/-- `{(value["component"], value["abi"]): value for value in index["bundles"]}` -/
def indexRecords (records : List Json) (indexed : Dict (Json × Json) Json) :
    Py (Dict (Json × Json) Json) :=
  match records with
  | [] => .ok indexed
  | record :: rest => do
      let key ← recordKey record
      indexRecords rest (indexed.set key record)

/-- `repr` of a value that is no container. -/
def reprScalar (py : StandardLibrary) (value : Json) : String :=
  match value with
  | .str text => py.repr text
  | other => py.str other

/-- `indexed[(component, abi)]` -/
def indexedRecord (py : StandardLibrary) (indexed : Dict (Json × Json) Json) (component : String)
    (abi : Json) : Py Json := do
  let key ← hashKey abi
  match indexed.get? (.str component, key) with
  | some record => return record
  | none => raise .keyError ("(" ++ py.repr component ++ ", " ++ reprScalar py abi ++ ")")

/-- `require_file(path, record["byteSize"], record["sha256"])` -/
def requireRecordedFile (py : StandardLibrary) (dist : Directory) (path : String) (record : Json) :
    Py Unit := do
  let byteSize ← getItem record "byteSize"
  let sha256 ← getItem record "sha256"
  requireFile py dist path byteSize sha256

/-- The loop of `main` over the CPU ABIs of the contract. -/
def verifyCpuRecords (py : StandardLibrary) (dist : Directory) (contract : Contract)
    (indexed : Dict (Json × Json) Json) : List (String × CpuAbi) → Py Unit
  | [] => .ok ()
  | (abi, metadata) :: rest => do
      let record ← indexedRecord py indexed "cpu-core" (.str abi)
      let fileName ← getItem record "fileName"
      raiseIf (!(Json.str (dist.joinedName metadata.bundleFileName)).pyEq fileName) .valueError
        ("CPU index file name mismatch: " ++ abi)
      requireRecordedFile py dist metadata.bundleFileName record
      verifyCpuBundle py dist metadata.bundleFileName abi metadata contract
      verifyCpuRecords py dist contract indexed rest

def verifyApiRecord (py : StandardLibrary) (dist : Directory) (contract : Contract)
    (contractBytes : Bytes) (index : Json) : Py Unit := do
  let apiMetadata ← getItem index "apiAar"
  let apiPath ← asStr (← getItem apiMetadata "fileName")
  requireRecordedFile py dist apiPath apiMetadata
  verifyApiAar py dist apiPath contract contractBytes

def verifyGpuRecord (py : StandardLibrary) (dist : Directory) (contract : Contract)
    (indexed : Dict (Json × Json) Json) : Py Unit := do
  let record ← indexedRecord py indexed "bounded-gpu" contract.boundedGpu.abi
  requireRecordedFile py dist contract.boundedGpu.bundleFileName record
  verifyGpuBundle py dist contract.boundedGpu.bundleFileName contract

def readIndex (py : StandardLibrary) (dist : Directory) : Py Json := do
  readJson py (← dist.readBytes "downloadable-runtime-index.json")

/-- `main` on a dist directory. -/
def verifyMain (py : StandardLibrary) (contract : Contract) (contractBytes : Bytes)
    (dist : Directory) : Py Unit := do
  let index ← readIndex py dist
  verifyApiRecord py dist contract contractBytes index
  let bundles ← elements (← getItem index "bundles")
  let indexed ← indexRecords bundles Dict.empty
  verifyCpuRecords py dist contract indexed contract.cpuCore.abis.items
  verifyGpuRecord py dist contract indexed
  let released ← dist.readBytes "downloadable-runtime-contract.json"
  raiseIf (released ≠ contractBytes) .valueError "Release contract differs from the source contract"
  verifyChecksums py dist
  let _ ← getItem index "releaseVersion"

/-! ### What the checks accept -/

section Accepted

variable {py : StandardLibrary} {dist : Directory} {contract : Contract} {contractBytes : Bytes}

theorem requireFile_ok_iff {path : String} {size sha256 : Json} :
    requireFile py dist path size sha256 = .ok () ↔
      ∃ data, dist.lookup path = some data ∧ matchesBlob py data size sha256 = true := by
  unfold requireFile
  cases dist.lookup path <;> simp

theorem requireRecordedFile_ok_iff {path : String} {record : Json} :
    requireRecordedFile py dist path record = .ok () ↔
      ∃ byteSize sha256 data, record.field? "byteSize" = some byteSize ∧
        record.field? "sha256" = some sha256 ∧ dist.lookup path = some data ∧
        matchesBlob py data byteSize sha256 = true := by
  unfold requireRecordedFile
  simp [bind_eq_ok, getItem_ok_iff, requireFile_ok_iff]

theorem readBundle_ok_iff {path : String} {entries : Dict String Bytes} :
    readBundle py dist path = .ok entries ↔
      ∃ data, dist.lookup path = some data ∧
        readNormalizedArchive py (dist.joinedName path) data = .ok entries := by
  unfold readBundle
  simp [bind_eq_ok, readBytes_ok_iff]

theorem differsFrom_ok_false_iff {manifest abi : Json} {component : String} :
    differsFrom manifest component abi = .ok false ↔
      manifest.field? "component" = some (.str component) ∧
        ∃ found, manifest.field? "abi" = some found ∧ found.pyEq abi = true := by
  unfold differsFrom
  simp only [bind_eq_ok, getItem_ok_iff, Bool.not_eq_true', pure_eq_ok]
  constructor
  · rintro ⟨found, componentFound, later⟩
    split at later
    · cases later
    · rename_i same
      obtain ⟨foundAbi, abiFound, differs⟩ := bind_eq_ok.mp later
      rw [Bool.not_eq_false, Json.pyEq_str_iff] at same
      rw [Except.ok.injEq, Bool.not_eq_false'] at differs
      exact ⟨same ▸ componentFound, foundAbi, getItem_ok_iff.mp abiFound, differs⟩
  · rintro ⟨componentFound, foundAbi, abiFound, same⟩
    refine ⟨_, componentFound, ?_⟩
    simp [getItem_ok_iff.mpr abiFound, same]

theorem differsFrom_text_ok_false_iff {manifest : Json} {component abi : String} :
    differsFrom manifest component (.str abi) = .ok false ↔
      manifest.field? "component" = some (.str component) ∧
        manifest.field? "abi" = some (.str abi) := by
  rw [differsFrom_ok_false_iff]
  refine and_congr_right fun _ => ?_
  simp [Json.pyEq_str_iff]

theorem verifyApiAar_ok_iff {path : String} :
    verifyApiAar py dist path contract contractBytes = .ok () ↔
      ∃ entries classes expected, readBundle py dist path = .ok entries ∧
        (∀ name ∈ entries, startsWith name "jni/" = false) ∧
        entries.get? contract.apiAar.embeddedContractPath = some contractBytes ∧
        OLD_CONTRACT_ENTRY ∉ entries ∧ entries.get? "classes.jar" = some classes ∧
        contract.classesJarSha256 = .ok expected ∧
        (Json.str (py.hashlib.sha256 classes)).pyEq expected = true := by
  unfold verifyApiAar
  have noneNative (entries : Dict String Bytes) :
      (entries.keys.any fun name => startsWith name "jni/") = false ↔
        ∀ name ∈ entries, startsWith name "jni/" = false := by
    rw [List.any_eq_false]
    simp only [Bool.not_eq_true]
    rfl
  simp only [bind_eq_ok, raiseIf_eq_ok, exists_unit, noneNative, decide_eq_false_iff_not, ne_eq,
    not_not]
  constructor
  · rintro ⟨entries, opened, noNative, embedded, noOld, later⟩
    split at later
    · cases later
    · rename_i classes found
      obtain ⟨expected, declared, same⟩ := bind_eq_ok.mp later
      exact ⟨entries, classes, expected, opened, noNative, embedded, noOld, found, declared,
        by simpa using same⟩
  · rintro ⟨entries, classes, expected, opened, noNative, embedded, noOld, found, declared, same⟩
    refine ⟨entries, opened, noNative, embedded, noOld, ?_⟩
    simp [found, declared, same]

theorem verifyApiRecord_ok_iff {index : Json} :
    verifyApiRecord py dist contract contractBytes index = .ok () ↔
      ∃ api path, index.field? "apiAar" = some api ∧ api.field? "fileName" = some (.str path) ∧
        requireRecordedFile py dist path api = .ok () ∧
        verifyApiAar py dist path contract contractBytes = .ok () := by
  unfold verifyApiRecord
  simp only [bind_eq_ok, exists_unit, getItem_ok_iff, asStr_ok_iff]
  constructor
  · rintro ⟨api, found, _, named, path, rfl, recorded, verified⟩
    exact ⟨api, path, found, named, recorded, verified⟩
  · rintro ⟨api, path, found, named, recorded, verified⟩
    exact ⟨api, found, _, named, path, rfl, recorded, verified⟩

theorem verifyCpuBundle_ok_iff {path abi : String} {metadata : CpuAbi} :
    verifyCpuBundle py dist path abi metadata contract = .ok () ↔
      ∃ entries library manifestBytes manifest, readBundle py dist path = .ok entries ∧
        hasExactly entries ["manifest.json", contract.cpuCore.libraryName] = true ∧
        entries.get? contract.cpuCore.libraryName = some library ∧
        matchesBlob py library metadata.byteSize metadata.sha256 = true ∧
        entries.get? "manifest.json" = some manifestBytes ∧
        py.json.loadsBytes manifestBytes = .ok manifest ∧
        (manifest.field? "component" = some (.str "cpu-core") ∧
          manifest.field? "abi" = some (.str abi)) ∧
        (∃ files, manifest.field? "files" = some files ∧
          files.pyEq (.arr [.ofDict (cpuFileManifest contract metadata)]) = true) ∧
        manifestBytes = jsonBytes manifest := by
  unfold verifyCpuBundle
  simp only [bind_eq_ok, raiseIf_eq_ok, exists_unit, entryOf_ok_iff, getItem_ok_iff,
    Bool.not_eq_false', decide_eq_false_iff_not, ne_eq, not_not]
  constructor
  · rintro ⟨entries, opened, names, library, found, matched, manifestBytes, present, manifest,
      loaded, differs, compared, same, files, listed, agrees, canonical⟩
    rw [same] at compared
    exact ⟨entries, library, manifestBytes, manifest, opened, names, found, matched, present,
      loaded, differsFrom_text_ok_false_iff.mp compared, ⟨files, listed, agrees⟩, canonical⟩
  · rintro ⟨entries, library, manifestBytes, manifest, opened, names, found, matched, present,
      loaded, identity, ⟨files, listed, agrees⟩, canonical⟩
    exact ⟨entries, opened, names, library, found, matched, manifestBytes, present, manifest,
      loaded, false, differsFrom_text_ok_false_iff.mpr identity, rfl, files, listed, agrees, canonical⟩

theorem verifyGpuLibraries_ok_iff {entries : Dict String Bytes} {files : List GpuFile} :
    verifyGpuLibraries py entries files = .ok () ↔
      ∀ file ∈ files, ∃ library, entries.get? file.path = some library ∧
        matchesBlob py library file.byteSize file.sha256 = true := by
  induction files with
  | nil => simp [verifyGpuLibraries]
  | cons file rest inductionHypothesis =>
      rw [verifyGpuLibraries, List.forall_mem_cons, ← inductionHypothesis]
      simp only [bind_eq_ok, raiseIf_eq_ok, exists_unit, entryOf_ok_iff, Bool.not_eq_false']
      constructor
      · rintro ⟨library, found, matched, later⟩
        exact ⟨⟨library, found, matched⟩, later⟩
      · rintro ⟨⟨library, found, matched⟩, later⟩
        exact ⟨library, found, matched, later⟩

theorem verifyGpuBundle_ok_iff {path : String} :
    verifyGpuBundle py dist path contract = .ok () ↔
      ∃ entries manifestBytes manifest, readBundle py dist path = .ok entries ∧
        hasExactly entries
          ("manifest.json" :: contract.boundedGpu.files.map fun file => file.path) = true ∧
        verifyGpuLibraries py entries contract.boundedGpu.files = .ok () ∧
        entries.get? "manifest.json" = some manifestBytes ∧
        py.json.loadsBytes manifestBytes = .ok manifest ∧
        (manifest.field? "component" = some (.str "bounded-gpu") ∧
          ∃ abi, manifest.field? "abi" = some abi ∧ abi.pyEq contract.boundedGpu.abi = true) ∧
        (∃ profile, manifest.field? "profile" = some profile ∧
          profile.pyEq contract.boundedGpu.profile = true) ∧
        (∃ requiredCore librarySha256, manifest.field? "requiredCore" = some requiredCore ∧
          requiredCore.field? "librarySha256" = some librarySha256 ∧
          librarySha256.pyEq contract.boundedGpu.requiredCoreSha256 = true) ∧
        manifestBytes = jsonBytes manifest := by
  unfold verifyGpuBundle
  simp only [bind_eq_ok, raiseIf_eq_ok, exists_unit, entryOf_ok_iff, getItem_ok_iff,
    Bool.not_eq_false', decide_eq_false_iff_not, ne_eq, not_not]
  constructor
  · rintro ⟨entries, opened, names, libraries, manifestBytes, present, manifest, loaded, differs,
      compared, same, profile, profiled, profileAgrees, requiredCore, required, librarySha256, core,
      coreAgrees, canonical⟩
    rw [same] at compared
    exact ⟨entries, manifestBytes, manifest, opened, names, libraries, present, loaded,
      differsFrom_ok_false_iff.mp compared, ⟨profile, profiled, profileAgrees⟩,
      ⟨requiredCore, librarySha256, required, core, coreAgrees⟩, canonical⟩
  · rintro ⟨entries, manifestBytes, manifest, opened, names, libraries, present, loaded, identity,
      ⟨profile, profiled, profileAgrees⟩, ⟨requiredCore, librarySha256, required, core, coreAgrees⟩,
      canonical⟩
    exact ⟨entries, opened, names, libraries, manifestBytes, present, manifest, loaded, false,
      differsFrom_ok_false_iff.mpr identity, rfl, profile, profiled, profileAgrees, requiredCore,
      required, librarySha256, core, coreAgrees, canonical⟩

/-- What the verifier has checked of one CPU ABI of the contract. -/
structure CpuAccepted (py : StandardLibrary) (dist : Directory) (contract : Contract)
    (indexed : Dict (Json × Json) Json) (abi : String) (metadata : CpuAbi) (record : Json) :
    Prop where
  found : indexed.get? (.str "cpu-core", .str abi) = some record
  fileName : record.field? "fileName" = some (.str (dist.joinedName metadata.bundleFileName))
  recorded : requireRecordedFile py dist metadata.bundleFileName record = .ok ()
  bundle : verifyCpuBundle py dist metadata.bundleFileName abi metadata contract = .ok ()

theorem indexedRecord_ok_iff {indexed : Dict (Json × Json) Json} {component : String}
    {abi record : Json} :
    indexedRecord py indexed component abi = .ok record ↔
      ∃ key, hashKey abi = .ok key ∧ indexed.get? (.str component, key) = some record := by
  rw [indexedRecord, bind_eq_ok]
  refine exists_congr fun key => and_congr_right fun _ => ?_
  cases indexed.get? (.str component, key) <;> simp

theorem indexedRecord_text_ok_iff {indexed : Dict (Json × Json) Json} {component abi : String}
    {record : Json} :
    indexedRecord py indexed component (.str abi) = .ok record ↔
      indexed.get? (.str component, .str abi) = some record := by
  have hashed : hashKey (.str abi) = .ok (.str abi) := rfl
  rw [indexedRecord_ok_iff, hashed]
  simp

theorem verifyCpuRecords_ok_iff {indexed : Dict (Json × Json) Json}
    {abis : List (String × CpuAbi)} :
    verifyCpuRecords py dist contract indexed abis = .ok () ↔
      ∀ item ∈ abis, ∃ record, CpuAccepted py dist contract indexed item.1 item.2 record := by
  induction abis with
  | nil => simp [verifyCpuRecords]
  | cons item rest inductionHypothesis =>
      obtain ⟨abi, metadata⟩ := item
      rw [verifyCpuRecords, List.forall_mem_cons, ← inductionHypothesis]
      simp only [bind_eq_ok, raiseIf_eq_ok, exists_unit, indexedRecord_text_ok_iff, getItem_ok_iff,
        Bool.not_eq_false']
      constructor
      · rintro ⟨record, found, fileName, named, same, recorded, bundle, later⟩
        have equal := Json.str_pyEq_iff.mp same
        exact ⟨⟨record, found, equal ▸ named, recorded, bundle⟩, later⟩
      · rintro ⟨⟨record, accepted⟩, later⟩
        exact ⟨record, accepted.found, _, accepted.fileName, Json.pyEq_refl _, accepted.recorded,
          accepted.bundle, later⟩

/-- What the verifier has checked of the bounded GPU bundle. -/
structure GpuAccepted (py : StandardLibrary) (dist : Directory) (contract : Contract)
    (indexed : Dict (Json × Json) Json) (record : Json) : Prop where
  found : ∃ key, hashKey contract.boundedGpu.abi = .ok key ∧
    indexed.get? (.str "bounded-gpu", key) = some record
  recorded : requireRecordedFile py dist contract.boundedGpu.bundleFileName record = .ok ()
  bundle : verifyGpuBundle py dist contract.boundedGpu.bundleFileName contract = .ok ()

theorem verifyGpuRecord_ok_iff {indexed : Dict (Json × Json) Json} :
    verifyGpuRecord py dist contract indexed = .ok () ↔
      ∃ record, GpuAccepted py dist contract indexed record := by
  unfold verifyGpuRecord
  simp only [bind_eq_ok, exists_unit, indexedRecord_ok_iff]
  constructor
  · rintro ⟨record, found, recorded, bundle⟩
    exact ⟨record, found, recorded, bundle⟩
  · rintro ⟨record, accepted⟩
    exact ⟨record, accepted.found, accepted.recorded, accepted.bundle⟩

/-- What the verifier has checked of a whole directory. -/
structure Accepted (py : StandardLibrary) (contract : Contract) (contractBytes : Bytes)
    (dist : Directory) (index : Json) (records : List Json)
    (indexed : Dict (Json × Json) Json) : Prop where
  opened : readIndex py dist = .ok index
  api : verifyApiRecord py dist contract contractBytes index = .ok ()
  listed : ∃ bundles, index.field? "bundles" = some bundles ∧ elements bundles = .ok records
  filed : indexRecords records Dict.empty = .ok indexed
  cpu : ∀ item ∈ contract.cpuCore.abis.items,
    ∃ record, CpuAccepted py dist contract indexed item.1 item.2 record
  gpu : ∃ record, GpuAccepted py dist contract indexed record
  released : dist.lookup "downloadable-runtime-contract.json" = some contractBytes
  checksums : verifyChecksums py dist = .ok ()
  releaseVersion : ∃ version, index.field? "releaseVersion" = some version

theorem verifyMain_ok_iff :
    verifyMain py contract contractBytes dist = .ok () ↔
      ∃ index records indexed, Accepted py contract contractBytes dist index records indexed := by
  unfold verifyMain
  simp only [bind_eq_ok, raiseIf_eq_ok, exists_unit, getItem_ok_iff, readBytes_ok_iff,
    verifyCpuRecords_ok_iff, verifyGpuRecord_ok_iff, decide_eq_false_iff_not, ne_eq, not_not,
    pure_eq_ok]
  constructor
  · rintro ⟨index, opened, api, bundles, listed, records, each, indexed, filed, cpu, gpu, released,
      found, same, checksums, version, versioned, -⟩
    exact ⟨index, records, indexed, opened, api, ⟨bundles, listed, each⟩, filed, cpu, gpu,
      same ▸ found, checksums, version, versioned⟩
  · rintro ⟨index, records, indexed, accepted⟩
    obtain ⟨bundles, listed, each⟩ := accepted.listed
    obtain ⟨version, versioned⟩ := accepted.releaseVersion
    exact ⟨index, accepted.opened, accepted.api, bundles, listed, records, each, indexed,
      accepted.filed, accepted.cpu, accepted.gpu, contractBytes, accepted.released, rfl,
      accepted.checksums, version, versioned, trivial⟩

end Accepted

end BssLiteRt.Downloadable
