import BssLiteRt.Downloadable.Agreement

/-!
Owns the truth of an accepted release index: when each of its records describes
its bundle, and an accepted index with a record that does not.
-/

namespace BssLiteRt.Downloadable

open BssLiteRt.Library BssLiteRt.Python BssLiteRt.Archive

/-- An accepted index is true in every record exactly when every record fits. -/
theorem accepted_index_true_iff (py : StandardLibrary) (contract : Contract)
    (contractBytes : Bytes) (dist : Directory)
    (verified : verifyMain py contract contractBytes dist = .ok ()) :
    ∃ records, releaseRecords py dist = .ok records ∧
      ((∀ record ∈ records, RecordTrue py contract dist record) ↔
        ∀ record ∈ records, RecordFits py contract dist records record) := by
  obtain ⟨index, records, indexed, accepted⟩ := verifyMain_ok_iff.mp verified
  exact ⟨records, accepted.releaseRecords_eq, forall₂_congr fun record _ =>
    accepted.recordTrue_iff⟩

/-! ### A shadowed record -/

/-- No CPU ABI, and a GPU bundle that holds its manifest only. -/
def bareContract : Contract where
  schemaVersion := numberDocument 1
  releaseVersion := textDocument "1.0"
  releaseTag := textDocument "downloadable-runtime-v1.0"
  runtimeArtifactVersion := textDocument "1.0"
  baseLiteRtVersion := textDocument "2.1.5"
  androidMinApi := numberDocument 23
  sourceAar := ⟨.obj [("classesJarSha256", .str (concreteLibrary.hashlib.sha256 []))], by
    rw [Json.wellFormed_obj]
    simp⟩
  apiAar := {
    fileName := "api.aar"
    embeddedContractPath := "META-INF/contract.json" }
  cpuCore := {
    libraryName := "libLiteRt.so"
    systemDependencies := textDocument "libc.so"
    abis := Dict.empty }
  boundedGpu := {
    abi := textDocument "arm64-v8a"
    bundleFileName := "gpu.zip"
    requiredCoreSha256 := textDocument "core"
    profile := numberDocument 1
    files := [] }

def bareContractBytes : Bytes := jsonBytes bareContract.document

def apiItems : List (String × Bytes) :=
  [("META-INF/contract.json", bareContractBytes), ("classes.jar", [])]

theorem apiItems_canonical : CanonicalItems apiItems where
  normal := List.forall_mem_cons.mpr ⟨by decide, List.forall_mem_singleton.mpr (by decide)⟩
  unique := by
    show ["META-INF/contract.json", "classes.jar"].Nodup
    decide
  sorted := by
    rw [apiItems, List.pairwise_pair]
    decide

def bareManifest : Json :=
  .obj [("abi", .str "arm64-v8a"), ("component", .str "bounded-gpu"), ("profile", .int 1),
    ("requiredCore", .obj [("librarySha256", .str "core")])]

def gpuItems : List (String × Bytes) :=
  [("manifest.json", jsonBytes bareManifest)]

theorem gpuItems_canonical : CanonicalItems gpuItems where
  normal := List.forall_mem_singleton.mpr (by decide)
  unique := List.nodup_singleton _
  sorted := List.pairwise_singleton _ _

def apiArchive : Bytes := concreteLibrary.zipfile.write (apiItems.map archived)

def gpuArchive : Bytes := concreteLibrary.zipfile.write (gpuItems.map archived)

/-- A record of an older GPU bundle, which is not in the directory. -/
def staleRecord : Json :=
  .obj [("abi", .str "arm64-v8a"), ("byteSize", .int 5), ("component", .str "bounded-gpu"),
    ("fileName", .str "gpu-old.zip"), ("manifestSha256", .str "0"), ("sha256", .str "0")]

def freshRecord : Json :=
  .obj [("abi", .str "arm64-v8a"), ("byteSize", .int gpuArchive.length),
    ("component", .str "bounded-gpu"), ("fileName", .str "gpu.zip"),
    ("manifestSha256", .str (concreteLibrary.hashlib.sha256 (jsonBytes bareManifest))),
    ("sha256", .str (concreteLibrary.hashlib.sha256 gpuArchive))]

def apiRecord : Json :=
  .obj [("byteSize", .int apiArchive.length), ("fileName", .str "api.aar"),
    ("sha256", .str (concreteLibrary.hashlib.sha256 apiArchive))]

def staleIndex : Json :=
  .obj [("apiAar", apiRecord), ("bundles", .arr [staleRecord, freshRecord]),
    ("releaseVersion", .str "1.0")]

def staleFiles : Dict String Bytes where
  items := [("api.aar", apiArchive), ("gpu.zip", gpuArchive),
    ("downloadable-runtime-contract.json", bareContractBytes),
    ("downloadable-runtime-index.json", jsonBytes staleIndex)]
  unique := by simp

/-- A directory whose index lists the older bundle before the one it holds. -/
def staleDirectory : Directory where
  name := "dist"
  files := (writeChecksums concreteLibrary staleFiles).toOption.getD staleFiles
  elsewhere := fun _ => none

theorem staleFiles_checked : ∃ sums,
    writeChecksums concreteLibrary staleFiles = .ok (staleFiles.set "SHA256SUMS" sums) := by
  apply writeChecksums_of_ascii
  have ascii : ∀ name ∈ ["api.aar", "gpu.zip", "downloadable-runtime-contract.json",
      "downloadable-runtime-index.json"], name.toList.all isAscii = true := by decide
  exact ascii

theorem staleFiles_whole : ∀ name ∈ staleFiles, IsWhole name := by
  have whole : ∀ name ∈ ["api.aar", "gpu.zip", "downloadable-runtime-contract.json",
      "downloadable-runtime-index.json"], IsWhole name := by decide
  exact whole

theorem staleDirectory_lookup {name : String} {data : Bytes} (plain : IsPlain name)
    (found : staleFiles.get? name = some data) (notSums : name ≠ "SHA256SUMS") :
    staleDirectory.lookup name = some data := by
  obtain ⟨sums, checked⟩ := staleFiles_checked
  have files : staleDirectory.files = staleFiles.set "SHA256SUMS" sums := by
    rw [staleDirectory, checked]
    rfl
  rw [lookup_plain plain, files, Dict.get?_set, if_neg notSums, found]

theorem wellFormed_gpuRecord (byteSize : Int) (fileName manifestSha256 sha256 : String) :
    (Json.obj [("abi", .str "arm64-v8a"), ("byteSize", .int byteSize),
      ("component", .str "bounded-gpu"), ("fileName", .str fileName),
      ("manifestSha256", .str manifestSha256), ("sha256", .str sha256)]).WellFormed := by
  simp [Json.wellFormed_obj]

theorem wellFormed_apiRecord (byteSize : Int) (fileName sha256 : String) :
    (Json.obj [("byteSize", .int byteSize), ("fileName", .str fileName),
      ("sha256", .str sha256)]).WellFormed := by
  simp [Json.wellFormed_obj]

theorem wellFormed_records : bareManifest.WellFormed ∧ staleRecord.WellFormed ∧
    freshRecord.WellFormed ∧ apiRecord.WellFormed := by
  refine ⟨?_, wellFormed_gpuRecord _ _ _ _, wellFormed_gpuRecord _ _ _ _, wellFormed_apiRecord _ _ _⟩
  apply Json.wellFormed_obj.mpr
  simp [Json.wellFormed_obj]

theorem wellFormed_staleIndex : staleIndex.WellFormed := by
  obtain ⟨-, stale, fresh, api⟩ := wellFormed_records
  rw [staleIndex, Json.wellFormed_obj]
  simp [Json.wellFormed_arr, stale, fresh, api]

theorem staleRecord_names :
    Names staleRecord.sortKeys ⟨"bounded-gpu", textDocument "arm64-v8a", "gpu-old.zip"⟩ where
  component := @field?_sorted _ (.str "bounded-gpu") _ wellFormed_records.2.1 rfl
  abi := ⟨_, @field?_sorted _ (.str "arm64-v8a") _ wellFormed_records.2.1 rfl, Json.pyEq_refl _⟩
  fileName := @field?_sorted _ (.str "gpu-old.zip") _ wellFormed_records.2.1 rfl

theorem freshRecord_names :
    Names freshRecord.sortKeys ⟨"bounded-gpu", textDocument "arm64-v8a", "gpu.zip"⟩ where
  component := @field?_sorted _ (.str "bounded-gpu") _ wellFormed_records.2.2.1 rfl
  abi := ⟨_, @field?_sorted _ (.str "arm64-v8a") _ wellFormed_records.2.2.1 rfl, Json.pyEq_refl _⟩
  fileName := @field?_sorted _ (.str "gpu.zip") _ wellFormed_records.2.2.1 rfl

theorem stale_api : verifyApiRecord concreteLibrary staleDirectory bareContract
    bareContractBytes staleIndex.sortKeys = .ok () := by
  have found : staleDirectory.lookup "api.aar" = some apiArchive :=
    staleDirectory_lookup (by decide) rfl (by decide)
  have wellFormed := wellFormed_records.2.2.2
  have recorded : requireRecordedFile concreteLibrary staleDirectory "api.aar"
      apiRecord.sortKeys = .ok () := by
    rw [requireRecordedFile_ok_iff]
    exact ⟨_, _, apiArchive, @field?_sorted _ (.int apiArchive.length) _ wellFormed rfl,
      @field?_sorted _ (.str (concreteLibrary.hashlib.sha256 apiArchive)) _ wellFormed rfl, found,
      matchesBlob_self _ _⟩
  have verified : verifyApiAar concreteLibrary staleDirectory "api.aar" bareContract
      bareContractBytes = .ok () := by
    rw [verifyApiAar_ok_iff]
    have noNative : ∀ name ∈ apiItems.map Prod.fst, startsWith name "jni/" = false := by decide
    exact ⟨apiItems_canonical.dict, [], _,
      readBundle_ok_iff.mpr ⟨_, found, apiItems_canonical.readNormalizedArchive_write _⟩, noNative,
      rfl, by decide, rfl, rfl, Json.pyEq_refl _⟩
  rw [verifyApiRecord_ok_iff]
  exact ⟨apiRecord.sortKeys, "api.aar", field?_sorted wellFormed_staleIndex rfl,
    @field?_sorted _ (.str "api.aar") _ wellFormed rfl, recorded, verified⟩

theorem stale_gpu : requireRecordedFile concreteLibrary staleDirectory "gpu.zip"
      freshRecord.sortKeys = .ok () ∧
    verifyGpuBundle concreteLibrary staleDirectory "gpu.zip" bareContract = .ok () := by
  obtain ⟨manifest, -, fresh, -⟩ := wellFormed_records
  have found : staleDirectory.lookup "gpu.zip" = some gpuArchive :=
    staleDirectory_lookup (by decide) rfl (by decide)
  have core : (Json.obj [("librarySha256", .str "core")]).WellFormed := by
    rw [Json.wellFormed_obj]
    simp
  have coreFound : (Json.obj [("librarySha256", .str "core")]).sortKeys.field? "librarySha256" =
      some (.str "core") := @field?_sorted _ (.str "core") _ core rfl
  refine ⟨?_, ?_⟩
  · rw [requireRecordedFile_ok_iff]
    exact ⟨_, _, gpuArchive, @field?_sorted _ (.int gpuArchive.length) _ fresh rfl,
      @field?_sorted _ (.str (concreteLibrary.hashlib.sha256 gpuArchive)) _ fresh rfl, found,
      matchesBlob_self _ _⟩
  · rw [verifyGpuBundle_ok_iff]
    exact ⟨gpuItems_canonical.dict, jsonBytes bareManifest, bareManifest.sortKeys,
      readBundle_ok_iff.mpr ⟨_, found, gpuItems_canonical.readNormalizedArchive_write _⟩, rfl, rfl,
      rfl, concreteLibrary.json.loadsBytes_dumps _ manifest,
      ⟨@field?_sorted _ (.str "bounded-gpu") _ manifest rfl,
        _, @field?_sorted _ (.str "arm64-v8a") _ manifest rfl, Json.pyEq_refl _⟩,
      ⟨_, @field?_sorted _ (.int 1) _ manifest rfl, Json.pyEq_refl _⟩,
      ⟨_, _, field?_sorted manifest rfl, coreFound, Json.pyEq_refl _⟩, (jsonBytes_sortKeys _).symm⟩

/-- The verifier accepts the directory. -/
theorem stale_accepted : ∃ indexed, Accepted concreteLibrary bareContract bareContractBytes
    staleDirectory staleIndex.sortKeys [staleRecord.sortKeys, freshRecord.sortKeys] indexed := by
  let key : Json × Json := (.str "bounded-gpu", .str "arm64-v8a")
  refine ⟨(Dict.empty.set key staleRecord.sortKeys).set key freshRecord.sortKeys, ?_⟩
  constructor
  case opened =>
    apply readIndex_of_written wellFormed_staleIndex
    exact staleDirectory_lookup (by decide) rfl (by decide)
  case api => exact stale_api
  case listed => exact ⟨_, field?_sorted wellFormed_staleIndex rfl, rfl⟩
  case filed =>
    have hashed : hashKey (textDocument "arm64-v8a") = .ok (.str "arm64-v8a") := rfl
    rw [indexRecords, staleRecord_names.key hashed, ok_bind, indexRecords,
      freshRecord_names.key hashed, ok_bind]
    rfl
  case cpu => exact fun item member => absurd member List.not_mem_nil
  case gpu => exact ⟨_, ⟨_, rfl, Dict.get?_set_self _ _ _⟩, stale_gpu.1, stale_gpu.2⟩
  case released => exact staleDirectory_lookup (by decide) rfl (by decide)
  case checksums =>
    obtain ⟨sums, checked⟩ := staleFiles_checked
    apply verifyChecksums_of_writeChecksums checked staleFiles_whole
    rw [staleDirectory, checked]
    rfl
  case releaseVersion =>
    exact ⟨_, @field?_sorted _ (.str "1.0") _ wellFormed_staleIndex rfl⟩

theorem stale_verified :
    verifyMain concreteLibrary bareContract bareContractBytes staleDirectory = .ok () := by
  obtain ⟨indexed, accepted⟩ := stale_accepted
  exact verifyMain_ok_iff.mpr ⟨_, _, indexed, accepted⟩

/-- An accepted index with a record that names no file of the directory. -/
theorem stale_record_accepted :
    verifyMain concreteLibrary bareContract bareContractBytes staleDirectory = .ok () ∧
      ∃ records, releaseRecords concreteLibrary staleDirectory = .ok records ∧
        ¬ ∀ record ∈ records, RecordTrue concreteLibrary bareContract staleDirectory record := by
  obtain ⟨indexed, accepted⟩ := stale_accepted
  refine ⟨stale_verified, _, accepted.releaseRecords_eq, ?_⟩
  intro allTrue
  obtain ⟨bundle, declared, names, -⟩ := allTrue _ List.mem_cons_self
  have named := Option.some.inj (names.fileName.symm.trans staleRecord_names.fileName)
  rw [List.mem_singleton.mp declared] at named
  exact absurd (Json.str.inj named) (by decide)

theorem accepted_index_true_iff_stale :
    ∃ records, releaseRecords concreteLibrary staleDirectory = .ok records ∧
      ((∀ record ∈ records, RecordTrue concreteLibrary bareContract staleDirectory record) ↔
        ∀ record ∈ records,
          RecordFits concreteLibrary bareContract staleDirectory records record) :=
  accepted_index_true_iff concreteLibrary bareContract bareContractBytes staleDirectory
    stale_verified

end BssLiteRt.Downloadable
