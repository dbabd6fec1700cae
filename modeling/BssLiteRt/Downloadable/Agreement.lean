import BssLiteRt.Downloadable.Bundles

/-!
Owns the agreement of the builder and the verifier of a release: the verifier
accepts every release the builder makes, and every library in it is the one of
the source AAR.
-/

namespace BssLiteRt.Downloadable

open BssLiteRt.Library BssLiteRt.Python BssLiteRt.Archive

/-! ### The index -/

section Index

variable {py : StandardLibrary} {contract : Contract} {dist : Directory}

/-- A record as the verifier loads it. -/
def loadedRecord (py : StandardLibrary) (contract : Contract) (record : BundleRecord) : Json :=
  (Json.ofDict (record.indexed py contract)).sortKeys

theorem wellFormed_indexed (record : BundleRecord) :
    (Json.ofDict (record.indexed py contract)).WellFormed := by
  rw [Json.wellFormed_ofDict]
  simp [BundleRecord.indexed, record.abi.property]

theorem field?_loadedRecord {record : BundleRecord} {key : String} {value : Json}
    (found : (record.indexed py contract).get? key = some value) :
    (loadedRecord py contract record).field? key = some value.sortKeys :=
  field?_loaded (wellFormed_indexed record) found

theorem names_loadedRecord (record : BundleRecord) :
    Names (loadedRecord py contract record) ⟨record.component, record.abi, record.fileName⟩ where
  component := @field?_loadedRecord py contract record "component" (.str record.component) rfl
  abi := ⟨_, @field?_loadedRecord py contract record "abi" record.abi rfl, Json.pyEq_sortKeys _⟩
  fileName := @field?_loadedRecord py contract record "fileName" (.str record.fileName) rfl

theorem requireRecordedFile_of_record {record : BundleRecord} {data : Bytes} {path : String}
    (size : record.byteSize = data.length) (hash : record.sha256 = py.hashlib.sha256 data)
    (found : dist.lookup path = some data) :
    requireRecordedFile py dist path (loadedRecord py contract record) = .ok () := by
  rw [requireRecordedFile_ok_iff]
  refine ⟨.int record.byteSize, .str record.sha256, data,
    @field?_loadedRecord py contract record "byteSize" (.int record.byteSize) rfl,
    @field?_loadedRecord py contract record "sha256" (.str record.sha256) rfl, found, ?_⟩
  rw [size, hash, matchesBlob_self]

/-- An index that is written is read back with sorted keys. -/
theorem readIndex_of_written {index : Json} (wellFormed : index.WellFormed)
    (found : dist.lookup "downloadable-runtime-index.json" = some (jsonBytes index)) :
    readIndex py dist = .ok index.sortKeys := by
  rw [readIndex, readBytes_ok_iff.mpr found, ok_bind, readJson_jsonBytes py wellFormed]

theorem wellFormed_releaseIndex (apiAar : Bytes) (records : List BundleRecord) :
    (Json.ofDict (releaseIndex py contract apiAar records)).WellFormed := by
  have bundles : (Json.arr ((sortedRecords records).map fun record =>
      .ofDict (record.indexed py contract))).WellFormed := by
    rw [Json.wellFormed_arr, List.forall_mem_map]
    exact fun record _ => wellFormed_indexed record
  have api : (Json.obj [("fileName", .str contract.apiAar.fileName),
      ("byteSize", .int apiAar.length), ("sha256", .str (py.hashlib.sha256 apiAar)),
      ("downloadUrl", .str (baseUrl py contract ++ "/" ++ contract.apiAar.fileName))]).WellFormed := by
    rw [Json.wellFormed_obj]
    simp
  rw [Json.wellFormed_ofDict]
  simp only [releaseIndex, List.forall_mem_cons]
  exact ⟨trivial, contract.schemaVersion.property, contract.releaseVersion.property,
    contract.releaseTag.property, contract.runtimeArtifactVersion.property,
    contract.sourceAar.property, api, bundles, by simp⟩

/-- The records of a release as the verifier loads them. -/
def loadedRecords (py : StandardLibrary) (contract : Contract) (records : List BundleRecord) :
    List Json :=
  (sortedRecords records).map (loadedRecord py contract)

theorem mem_loadedRecords {records : List BundleRecord} {record : Json} :
    record ∈ loadedRecords py contract records ↔
      ∃ bundle ∈ records, loadedRecord py contract bundle = record := by
  have same : (sortedRecords records).Perm records := List.perm_insertionSort _ records
  rw [loadedRecords, List.mem_map]
  simp only [same.mem_iff]

theorem bundles_loaded (apiAar : Bytes) (records : List BundleRecord) :
    ∃ bundles,
      (Json.ofDict (releaseIndex py contract apiAar records)).sortKeys.field? "bundles" =
          some bundles ∧
        elements bundles = .ok (loadedRecords py contract records) := by
  refine ⟨_, field?_loaded (wellFormed_releaseIndex apiAar records) rfl, ?_⟩
  rw [Json.sortKeys_arr, List.map_map]
  rfl

/-- The record of the API AAR in the index. -/
theorem verifyApiRecord_of_index {contractBytes apiAar : Bytes} {records : List BundleRecord}
    (found : dist.lookup contract.apiAar.fileName = some apiAar)
    (verified : verifyApiAar py dist contract.apiAar.fileName contract contractBytes = .ok ()) :
    verifyApiRecord py dist contract contractBytes
      (Json.ofDict (releaseIndex py contract apiAar records)).sortKeys = .ok () := by
  let api := Json.obj [("fileName", .str contract.apiAar.fileName),
    ("byteSize", .int apiAar.length), ("sha256", .str (py.hashlib.sha256 apiAar)),
    ("downloadUrl", .str (baseUrl py contract ++ "/" ++ contract.apiAar.fileName))]
  have wellFormed : api.WellFormed := by
    rw [Json.wellFormed_obj]
    simp
  have field (key : String) (value : Json) (stored : api.field? key = some value) :
      api.sortKeys.field? key = some value.sortKeys := by
    rw [Json.field?_sortKeys wellFormed, stored]
    rfl
  rw [verifyApiRecord_ok_iff]
  refine ⟨api.sortKeys, contract.apiAar.fileName,
    field?_loaded (wellFormed_releaseIndex apiAar records) rfl,
    field "fileName" (.str contract.apiAar.fileName) rfl, ?_, verified⟩
  rw [requireRecordedFile_ok_iff]
  exact ⟨.int apiAar.length, .str (py.hashlib.sha256 apiAar), apiAar,
    field "byteSize" (.int apiAar.length) rfl,
    field "sha256" (.str (py.hashlib.sha256 apiAar)) rfl, found, matchesBlob_self py apiAar⟩

/-- Records that have a component and an ABI can be filed. -/
theorem indexRecords_total {records : List Json} (keyed : ∀ record ∈ records, ∃ key,
      recordKey record = .ok key) (start : Dict (Json × Json) Json) :
    ∃ indexed, indexRecords records start = .ok indexed := by
  induction records generalizing start with
  | nil => exact ⟨start, rfl⟩
  | cons record rest inductionHypothesis =>
      obtain ⟨⟨key, found⟩, later⟩ := List.forall_mem_cons.mp keyed
      rw [indexRecords, found]
      exact inductionHypothesis later _

/-- The one record with a key is the last one. -/
theorem lastRecord_of_unique {records : List Json} {record : Json} {key : Json × Json}
    (member : record ∈ records) (keyed : recordKey record = .ok key)
    (unique : ∀ other ∈ records, recordKey other = .ok key → other = record) :
    lastRecord key records = some record := by
  cases found : lastRecord key records with
  | none =>
      have none := List.find?_eq_none.mp found record (List.mem_reverse.mpr member)
      exact absurd keyed (by simpa using none)
  | some last =>
      have inRecords := List.mem_reverse.mp (List.mem_of_find?_eq_some found)
      have lastKeyed : recordKey last = .ok key := by simpa using List.find?_some found
      rw [unique last inRecords lastKeyed]

/-- Records of distinct components and ABIs are found under them. -/
theorem indexed_loadedRecords {records : List BundleRecord}
    (hashable : ∀ record ∈ records, ∃ key, hashKey record.abi = .ok key)
    (distinct : (records.map fun record => (record.component, record.abi.val.normal)).Nodup) :
    ∃ indexed, indexRecords (loadedRecords py contract records) Dict.empty = .ok indexed ∧
      ∀ record ∈ records, indexed.get? (.str record.component, record.abi.val.normal) =
        some (loadedRecord py contract record) := by
  have keyOf : ∀ record ∈ records, recordKey (loadedRecord py contract record) =
      .ok (.str record.component, record.abi.val.normal) := by
    intro record member
    obtain ⟨key, hashed⟩ := hashable record member
    obtain rfl := hashKey_eq_ok hashed
    exact (names_loadedRecord record).key hashed
  have keyed : ∀ record ∈ loadedRecords py contract records,
      ∃ key, recordKey record = .ok key := by
    intro record member
    obtain ⟨bundle, bundleMember, rfl⟩ := mem_loadedRecords.mp member
    exact ⟨_, keyOf bundle bundleMember⟩
  obtain ⟨indexed, filed⟩ := indexRecords_total keyed Dict.empty
  refine ⟨indexed, filed, fun record member => ?_⟩
  rw [indexRecords_ok filed, Dict.get?_empty, Option.or_none]
  apply lastRecord_of_unique (mem_loadedRecords.mpr ⟨record, member, rfl⟩) (keyOf record member)
  intro other otherMember otherKeyed
  obtain ⟨bundle, bundleMember, rfl⟩ := mem_loadedRecords.mp otherMember
  rw [keyOf bundle bundleMember, Except.ok.injEq, Prod.mk.injEq, Json.str.injEq] at otherKeyed
  have same : (bundle.component, bundle.abi.val.normal) =
      (record.component, record.abi.val.normal) :=
    Prod.ext otherKeyed.1 otherKeyed.2
  rw [List.inj_on_of_nodup_map distinct bundleMember member same]

end Index

/-! ### The release -/

section Release

variable {py : StandardLibrary} {sourceEntries : Dict String Bytes} {contract : Contract}
  {contractBytes apiAar : Bytes} {cpu : List (BundleRecord × Bytes)} {gpu : BundleRecord × Bytes}
  {licenses : List (String × Bytes)} {unchecked output : Dict String Bytes} {dist : Directory}

theorem releaseFiles_names
    (released : Released py sourceEntries contract contractBytes apiAar cpu gpu licenses unchecked
      output) :
    (releaseFiles py contract contractBytes apiAar (cpu ++ [gpu]) licenses).map Prod.fst ++
      ["SHA256SUMS"] = writtenNames contract := by
  have gpuName : gpu.1.fileName = contract.boundedGpu.bundleFileName := by
    obtain ⟨_, recorded⟩ := released.gpuBuilt.record
    exact congrArg BundleRecord.fileName recorded
  have cpuNames := cpuBuilt_names released.cpuBuilt
  simp only [releaseFiles, writtenNames, List.map_append, List.map_cons, List.cons_append,
    cpuNames, released.licensed]
  simp [bundleFile, gpuName]

/-- The verifier finds the files of the release under their names. -/
theorem Released.lookup
    (released : Released py sourceEntries contract contractBytes apiAar cpu gpu licenses unchecked
      output) (fits : FileNames contract.fileNames) (files : dist.files = output)
    {name : String} {data : Bytes}
    (member : (name, data) ∈ releaseFiles py contract contractBytes apiAar (cpu ++ [gpu])
      licenses) :
    dist.lookup name = some data := by
  have names := fits.perm (fileNames_perm contract)
  rw [← releaseFiles_names released] at names
  have distinct := List.nodup_append.mp names.distinct
  have isName := List.mem_map_of_mem (f := Prod.fst) member
  have notSums : name ≠ "SHA256SUMS" := distinct.2.2 name isName _ List.mem_cons_self
  obtain ⟨sums, -, written⟩ := bind_eq_ok.mp released.checked
  rw [lookup_plain (names.plain name (List.mem_append_left _ isName)), files,
    ← Except.ok.inj written, Dict.get?_set, if_neg notSums]
  exact released.holds.get?_of_mem distinct.1 member

theorem Released.bundle_lookup
    (released : Released py sourceEntries contract contractBytes apiAar cpu gpu licenses unchecked
      output) (fits : FileNames contract.fileNames) (files : dist.files = output) :
    ∀ bundle ∈ cpu ++ [gpu], dist.lookup bundle.1.fileName = some bundle.2 := by
  intro bundle member
  apply released.lookup fits files
  have isFile : bundleFile bundle ∈ (cpu ++ [gpu]).map bundleFile := List.mem_map_of_mem member
  simp only [releaseFiles, List.mem_append, List.mem_cons]
  exact Or.inl (Or.inl (Or.inr isFile))

theorem cpuBuilt_exists {abis : List (String × CpuAbi)} {bundles : List (BundleRecord × Bytes)}
    (built : List.Forall₂ (CpuBuilt py sourceEntries contract) abis bundles) :
    ∀ item ∈ abis, ∃ bundle ∈ bundles, CpuBuilt py sourceEntries contract item bundle := by
  induction built with
  | nil => simp
  | cons first _ inductionHypothesis =>
      rw [List.forall_mem_cons]
      refine ⟨⟨_, List.mem_cons_self, first⟩, fun item member => ?_⟩
      obtain ⟨bundle, inRest, itemBuilt⟩ := inductionHypothesis item member
      exact ⟨bundle, List.mem_cons_of_mem _ inRest, itemBuilt⟩

theorem cpuBuilt_components {abis : List (String × CpuAbi)} {bundles : List (BundleRecord × Bytes)}
    (built : List.Forall₂ (CpuBuilt py sourceEntries contract) abis bundles) :
    (bundles.map Prod.fst).map (fun record => (record.component, record.abi.val.normal)) =
      abis.map fun item => ("cpu-core", Json.str item.1) := by
  induction built with
  | nil => rfl
  | cons first _ inductionHypothesis =>
      obtain ⟨_, recorded⟩ := first.record
      rw [List.map_cons, List.map_cons, List.map_cons, inductionHypothesis, recorded]
      rfl

theorem components_distinct
    (released : Released py sourceEntries contract contractBytes apiAar cpu gpu licenses unchecked
      output) :
    (((cpu ++ [gpu]).map Prod.fst).map fun record =>
      (record.component, record.abi.val.normal)).Nodup := by
  have gpuComponent : (gpu.1.component, gpu.1.abi.val.normal) =
      ("bounded-gpu", contract.boundedGpu.abi.val.normal) := by
    obtain ⟨_, recorded⟩ := released.gpuBuilt.record
    rw [recorded]
    rfl
  have abis : ((sortByKey contract.cpuCore.abis.items).map Prod.fst).Nodup :=
    ((sortByKey_perm _).map Prod.fst).nodup_iff.mpr contract.cpuCore.abis.unique
  have cpuNodup : ((sortByKey contract.cpuCore.abis.items).map fun item =>
      ("cpu-core", Json.str item.1)).Nodup := by
    have paired := abis.map (f := fun abi => ("cpu-core", Json.str abi)) fun _ _ same =>
      Json.str.inj (Prod.mk.inj same).2
    rwa [List.map_map] at paired
  rw [List.map_append, List.map_append, cpuBuilt_components released.cpuBuilt, List.nodup_append]
  refine ⟨cpuNodup, List.nodup_singleton _, ?_⟩
  intro cpuPair cpuMember gpuPair gpuMember
  obtain ⟨item, -, rfl⟩ := List.mem_map.mp cpuMember
  rw [List.map_singleton, List.map_singleton, gpuComponent, List.mem_singleton] at gpuMember
  rw [gpuMember]
  simp

/-- The bundle of an ABI is a plain file of the release. -/
theorem plain_bundleFileName (fits : FileNames contract.fileNames) {item : String × CpuAbi}
    (member : item ∈ contract.cpuCore.abis.items) : IsPlain item.2.bundleFileName := by
  apply (fits.perm (fileNames_perm contract)).plain
  have written : item.2.bundleFileName ∈ (sortByKey contract.cpuCore.abis.items).map
      fun item => item.2.bundleFileName :=
    List.mem_map.mpr ⟨item, mem_sortByKey.mpr member, rfl⟩
  exact List.mem_cons_of_mem _ (List.mem_append_left _ written)

/-- The ABIs of a release are texts but for the one of the GPU bundle. -/
theorem cpuBuilt_abis {abis : List (String × CpuAbi)} {bundles : List (BundleRecord × Bytes)}
    (built : List.Forall₂ (CpuBuilt py sourceEntries contract) abis bundles) :
    ∀ bundle ∈ bundles, ∃ abi, bundle.1.abi = textDocument abi := by
  induction built with
  | nil => simp
  | @cons item _ _ _ first _ inductionHypothesis =>
      obtain ⟨_, recorded⟩ := first.record
      rw [List.forall_mem_cons, recorded]
      exact ⟨⟨item.1, rfl⟩, inductionHypothesis⟩

theorem Released.hashable
    (released : Released py sourceEntries contract contractBytes apiAar cpu gpu licenses unchecked
      output) (gpuHashable : ∃ key, hashKey contract.boundedGpu.abi = .ok key) :
    ∀ record ∈ (cpu ++ [gpu]).map Prod.fst, ∃ key, hashKey record.abi = .ok key := by
  rw [List.forall_mem_map, List.forall_mem_append, List.forall_mem_singleton]
  constructor
  · intro bundle member
    obtain ⟨abi, isText⟩ := cpuBuilt_abis released.cpuBuilt bundle member
    exact ⟨.str abi, by rw [isText]; rfl⟩
  · obtain ⟨_, recorded⟩ := released.gpuBuilt.record
    rw [recorded]
    exact gpuHashable

/-- Every check of the verifier accepts the release when the ABI of its GPU bundle
can be a key of a dictionary. -/
theorem Released.accepted
    (released : Released py sourceEntries contract contractBytes apiAar cpu gpu licenses unchecked
      output) (fits : FileNames contract.fileNames) (paths : EntryPaths contract)
    (sourceNormal : ∀ name ∈ sourceEntries, IsNormalised name) (files : dist.files = output)
    (gpuHashable : ∃ key, hashKey contract.boundedGpu.abi = .ok key) :
    ∃ index records indexed, Accepted py contract contractBytes dist index records indexed := by
  have lookup {name : String} {data : Bytes} := @Released.lookup _ _ _ _ _ _ _ _ _ _ dist
    released fits files name data
  have wellFormed := @wellFormed_releaseIndex py contract apiAar ((cpu ++ [gpu]).map Prod.fst)
  obtain ⟨indexed, filed, found⟩ := @indexed_loadedRecords py contract _
    (released.hashable gpuHashable) (components_distinct released)
  have names := fits.perm (fileNames_perm contract)
  rw [← releaseFiles_names released] at names
  have bundleLookup := released.bundle_lookup fits files
  refine ⟨(Json.ofDict (releaseIndex py contract apiAar ((cpu ++ [gpu]).map Prod.fst))).sortKeys,
    loadedRecords py contract ((cpu ++ [gpu]).map Prod.fst), indexed, ?_⟩
  constructor
  case opened =>
    have atIndex : dist.lookup "downloadable-runtime-index.json" = some (jsonBytes (.ofDict
        (releaseIndex py contract apiAar ((cpu ++ [gpu]).map Prod.fst)))) := by
      apply lookup
      simp [releaseFiles]
    exact readIndex_of_written wellFormed atIndex
  case api =>
    have dataFound : dist.lookup contract.apiAar.fileName = some apiAar := by
      apply lookup
      simp [releaseFiles]
    exact verifyApiRecord_of_index dataFound
      (verifyApiAar_of_built paths sourceNormal released.api dataFound)
  case listed => exact bundles_loaded apiAar _
  case filed => exact filed
  case cpu =>
    intro item member
    obtain ⟨bundle, bundleMember, built⟩ :=
      cpuBuilt_exists released.cpuBuilt item (mem_sortByKey.mpr member)
    have inAll : bundle ∈ cpu ++ [gpu] := List.mem_append_left _ bundleMember
    obtain ⟨manifestBytes, recorded⟩ := built.record
    have recordFound := found bundle.1 (List.mem_map_of_mem inAll)
    have dataFound := bundleLookup bundle inAll
    have recordName := (@names_loadedRecord py contract bundle.1).fileName
    rw [recorded] at recordFound dataFound recordName
    refine ⟨_, recordFound, ?_, requireRecordedFile_of_record rfl rfl dataFound,
      verifyCpuBundle_of_built paths built dataFound⟩
    rw [joinedName_plain (plain_bundleFileName fits member)]
    exact recordName
  case gpu =>
    have inAll : gpu ∈ cpu ++ [gpu] := List.mem_append_right _ List.mem_cons_self
    obtain ⟨manifestBytes, recorded⟩ := released.gpuBuilt.record
    have recordFound := found gpu.1 (List.mem_map_of_mem inAll)
    have dataFound := bundleLookup gpu inAll
    rw [recorded] at recordFound dataFound
    obtain ⟨key, hashed⟩ := gpuHashable
    have isNormal := hashKey_eq_ok hashed
    exact ⟨_, ⟨key, hashed, isNormal ▸ recordFound⟩, requireRecordedFile_of_record rfl rfl dataFound,
      verifyGpuBundle_of_built paths released.gpuBuilt dataFound⟩
  case released =>
    apply lookup
    simp [releaseFiles]
  case checksums =>
    apply verifyChecksums_of_writeChecksums released.checked _ files
    intro name member
    exact names.whole name (List.mem_append_left _ (released.holds.mem_names member))
  case releaseVersion =>
    exact ⟨_, field?_loaded wellFormed rfl⟩

/-- A bundle holds, next to its manifest, these libraries: each the source entry at
its path. -/
def HoldsLibraries (py : StandardLibrary) (dist : Directory) (fileName : String)
    (sourceEntries : Dict String Bytes) (libraries : List (String × String)) : Prop :=
  ∃ entries, readBundle py dist fileName = .ok entries ∧
    (∀ name ∈ entries, name = "manifest.json" ∨ name ∈ libraries.map Prod.fst) ∧
    ∀ library ∈ libraries, ∃ data, entries.get? library.1 = some data ∧
      sourceEntries.get? library.2 = some data

theorem holdsLibraries_cpu (paths : EntryPaths contract) {item : String × CpuAbi}
    {bundle : BundleRecord × Bytes} (built : CpuBuilt py sourceEntries contract item bundle)
    (found : dist.lookup item.2.bundleFileName = some bundle.2) :
    HoldsLibraries py dist item.2.bundleFileName sourceEntries
      [(contract.cpuCore.libraryName, item.2.sourcePath)] := by
  obtain ⟨library, manifest, inSource, -, -, archived, -⟩ := built
  obtain ⟨opened, reads, same⟩ :=
    readBundle_of_archived (cpuEntries_normal paths) archived found
  refine ⟨opened, reads, ?_, ?_⟩
  · intro name member
    rw [Dict.mem_iff_get?, same, ← Dict.mem_iff_get?, mem_cpuEntries paths] at member
    exact List.mem_cons.mp member
  · rw [List.forall_mem_singleton]
    refine ⟨library, ?_, inSource⟩
    rw [same, get?_cpuEntries paths, if_neg paths.libraryApart, if_pos rfl]

theorem holdsLibraries_gpu (paths : EntryPaths contract) {bundle : BundleRecord × Bytes}
    (built : GpuBuilt py sourceEntries contract bundle)
    (found : dist.lookup contract.boundedGpu.bundleFileName = some bundle.2) :
    HoldsLibraries py dist contract.boundedGpu.bundleFileName sourceEntries
      (contract.boundedGpu.files.map fun file => (file.path, file.sourcePath)) := by
  obtain ⟨opened, _, _, reads, -, -, -, each, names⟩ := gpuBuilt_entries paths built found
  refine ⟨opened, reads, ?_, ?_⟩
  · intro name member
    rw [List.map_map]
    exact List.mem_cons.mp ((names name).mp member)
  · rw [List.forall_mem_map]
    intro file member
    obtain ⟨library, inSource, inBundle, -⟩ := each file member
    exact ⟨library, inBundle, inSource⟩

/-- The verifier looks the GPU bundle up under its ABI. -/
theorem hashable_of_verified (verified : verifyMain py contract contractBytes dist = .ok ()) :
    ∃ key, hashKey contract.boundedGpu.abi = .ok key := by
  obtain ⟨_, _, _, accepted⟩ := verifyMain_ok_iff.mp verified
  obtain ⟨_, gpu⟩ := accepted.gpu
  obtain ⟨key, hashed, -⟩ := gpu.found
  exact ⟨key, hashed⟩

/-- The verifier accepts what the builder makes exactly when the ABI of the GPU bundle
is neither a list nor an object, and the libraries are those of the source AAR. -/
theorem built_release_verifies (py : StandardLibrary) (sourceAar : Bytes) (label : String)
    (contract : Contract) (contractBytes : Bytes) (output : Dict String Bytes) (dist : Directory)
    (fits : FileNames contract.fileNames) (paths : EntryPaths contract)
    (sourceNormal : ∀ sourceEntries, readArchiveBytes py sourceAar label = .ok sourceEntries →
      ∀ name ∈ sourceEntries, normalizeName name = name)
    (built : buildRelease py sourceAar label contract contractBytes = .ok output)
    (files : dist.files = output) :
    (verifyMain py contract contractBytes dist = .ok () ↔
        ∃ key, hashKey contract.boundedGpu.abi = .ok key) ∧
      ∃ sourceEntries, readArchiveBytes py sourceAar label = .ok sourceEntries ∧
        (∀ item ∈ contract.cpuCore.abis.items,
          HoldsLibraries py dist item.2.bundleFileName sourceEntries
            [(contract.cpuCore.libraryName, item.2.sourcePath)]) ∧
        HoldsLibraries py dist contract.boundedGpu.bundleFileName sourceEntries
          (contract.boundedGpu.files.map fun file => (file.path, file.sourcePath)) := by
  obtain ⟨sourceEntries, apiAar, cpu, gpu, licenses, unchecked, opened, released⟩ :=
    buildRelease_ok fits built
  have normal : ∀ name ∈ sourceEntries, IsNormalised name := fun name member =>
    ⟨sourceNormal sourceEntries opened name member, readArchiveBytes_nulFree opened name member⟩
  refine ⟨⟨hashable_of_verified, fun hashable => ?_⟩, sourceEntries, opened, ?_, ?_⟩
  · exact verifyMain_ok_iff.mpr (released.accepted fits paths normal files hashable)
  · intro item member
    obtain ⟨bundle, bundleMember, cpuBuilt⟩ :=
      cpuBuilt_exists released.cpuBuilt item (mem_sortByKey.mpr member)
    obtain ⟨manifestBytes, recorded⟩ := cpuBuilt.record
    have found := released.bundle_lookup fits files bundle (List.mem_append_left _ bundleMember)
    rw [recorded] at found
    exact holdsLibraries_cpu paths cpuBuilt found
  · obtain ⟨manifestBytes, recorded⟩ := released.gpuBuilt.record
    have found := released.bundle_lookup fits files gpu
      (List.mem_append_right _ List.mem_cons_self)
    rw [recorded] at found
    exact holdsLibraries_gpu paths released.gpuBuilt found

end Release

/-! ### A release -/

section Sample

open BssLiteRt.Python (concreteLibrary)

variable {abi : Document}

def numberDocument (number : Int) : Document := ⟨.int number, trivial⟩

def sampleSource : Dict String Bytes where
  items := [("LICENSE", [1]), ("THIRD_PARTY_NOTICE.txt", [2]), ("classes.jar", [3]),
    ("jni/arm64-v8a/libGpu.so", [4]), ("jni/arm64-v8a/libLiteRt.so", [5, 6])]
  unique := by decide

theorem sampleSource_canonical : CanonicalItems sampleSource.items where
  normal := by decide
  unique := sampleSource.unique
  sorted := by decide

def sampleSourceAar : Bytes :=
  concreteLibrary.zipfile.write (sampleSource.items.map archived)

def sampleAbi : CpuAbi where
  sourcePath := "jni/arm64-v8a/libLiteRt.so"
  bundleFileName := "cpu-arm64-v8a.zip"
  byteSize := numberDocument 2
  sha256 := textDocument (concreteLibrary.hashlib.sha256 [5, 6])
  elfClass := textDocument "ELF64"
  machine := textDocument "AArch64"
  soname := textDocument "libLiteRt.so"
  systemDependenciesOverride := none

def sampleGpuFile : GpuFile where
  sourcePath := "jni/arm64-v8a/libGpu.so"
  path := "libGpu.so"
  byteSize := numberDocument 1
  sha256 := textDocument (concreteLibrary.hashlib.sha256 [4])
  elfClass := textDocument "ELF64"
  machine := textDocument "AArch64"
  soname := textDocument "libGpu.so"
  needed := textDocument "libc.so"
  runtimeLoads := some (textDocument "libOpenCL.so")

/-- One CPU ABI, and a GPU bundle with one library for the given ABI. -/
def sampleContract (abi : Document) : Contract where
  schemaVersion := numberDocument 1
  releaseVersion := textDocument "1.0"
  releaseTag := textDocument "downloadable-runtime-v1.0"
  runtimeArtifactVersion := textDocument "1.0"
  baseLiteRtVersion := textDocument "2.1.5"
  androidMinApi := numberDocument 23
  sourceAar := ⟨.obj [("fileName", .str "source.aar"), ("sha256", .str "00"),
    ("classesJarSha256", .str (concreteLibrary.hashlib.sha256 [3]))], by
      rw [Json.wellFormed_obj]
      simp⟩
  apiAar := {
    fileName := "api.aar"
    embeddedContractPath := "META-INF/bss-litert/downloadable-runtime-contract.json" }
  cpuCore := {
    libraryName := "libLiteRt.so"
    systemDependencies := textDocument "libc.so"
    abis := ⟨[("arm64-v8a", sampleAbi)], List.nodup_singleton _⟩ }
  boundedGpu := {
    abi := abi
    bundleFileName := "gpu-arm64-v8a.zip"
    requiredCoreSha256 := textDocument (concreteLibrary.hashlib.sha256 [5, 6])
    profile := numberDocument 1
    files := [sampleGpuFile] }

theorem sample_fileNames : FileNames (sampleContract abi).fileNames := by
  have named : (sampleContract abi).fileNames =
      (sampleContract (textDocument "arm64-v8a")).fileNames := rfl
  rw [named]
  constructor
  case plain => decide
  case ascii => decide
  case whole => decide
  case distinct => decide
  case lasting => decide

theorem sample_entryPaths : EntryPaths (sampleContract abi) where
  libraryNormal := show IsNormalised "libLiteRt.so" by decide
  libraryApart := show "libLiteRt.so" ≠ "manifest.json" by decide
  gpuNormal := List.forall_mem_singleton.mpr (show IsNormalised "libGpu.so" by decide)
  gpuApart := List.forall_mem_singleton.mpr (show "libGpu.so" ≠ "manifest.json" by decide)
  gpuDistinct := List.nodup_singleton _
  embeddedNormal :=
    show IsNormalised "META-INF/bss-litert/downloadable-runtime-contract.json" by decide
  embeddedNotClasses :=
    show "META-INF/bss-litert/downloadable-runtime-contract.json" ≠ "classes.jar" by decide
  embeddedNotOld :=
    show "META-INF/bss-litert/downloadable-runtime-contract.json" ≠ OLD_CONTRACT_ENTRY by decide
  embeddedNotNative := show
    startsWith "META-INF/bss-litert/downloadable-runtime-contract.json" "jni/" = false by decide

theorem sample_opened :
    readArchiveBytes concreteLibrary sampleSourceAar "source.aar" = .ok sampleSource :=
  sampleSource_canonical.readArchiveBytes_write "source.aar"

theorem sample_api (contractBytes : Bytes) :
    ∃ data, ApiBuilt concreteLibrary sampleSource (sampleContract abi) contractBytes data := by
  have normal : ∀ name ∈ (apiEntries sampleSource (sampleContract abi) contractBytes).keys,
      IsNormalName name := by
    show ∀ name ∈ ["LICENSE", "THIRD_PARTY_NOTICE.txt", "classes.jar",
      "META-INF/bss-litert/downloadable-runtime-contract.json"], IsNormalName name
    decide
  obtain ⟨data, archived⟩ := archiveBytes_of_normal concreteLibrary normal
  exact ⟨data, ⟨[3], _, rfl, rfl, Json.pyEq_refl _⟩, archived⟩

theorem sample_common (component : String) (named : Document) :
    ∃ manifest, commonManifest (sampleContract abi) component named = .ok manifest :=
  ⟨_, rfl⟩

theorem sample_cpu : ∃ bundle,
    CpuBuilt concreteLibrary sampleSource (sampleContract abi) ("arm64-v8a", sampleAbi)
      bundle := by
  obtain ⟨common, described⟩ := @sample_common abi "cpu-core" (textDocument "arm64-v8a")
  have manifest : ∃ manifest, cpuManifest (sampleContract abi) "arm64-v8a" sampleAbi = .ok manifest :=
    ⟨_, bind_eq_ok.mpr ⟨common, described, rfl⟩⟩
  obtain ⟨manifest, manifestOk⟩ := manifest
  have normal : ∀ name ∈ cpuEntries (sampleContract abi) manifest [5, 6], IsNormalName name := by
    intro name member
    rcases List.mem_cons.mp ((mem_cpuEntries sample_entryPaths).mp member) with rfl | isLibrary
    · decide
    · rw [List.mem_singleton.mp isLibrary]
      show IsNormalName "libLiteRt.so"
      decide
  obtain ⟨data, archived⟩ := archiveBytes_of_normal concreteLibrary normal
  have matched : matchesBlob concreteLibrary [5, 6] sampleAbi.byteSize sampleAbi.sha256 = true :=
    matchesBlob_self concreteLibrary [5, 6]
  exact ⟨(recordOf concreteLibrary "cpu-core" (textDocument "arm64-v8a")
    sampleAbi.bundleFileName (jsonBytes (.ofDict manifest)) data, data),
    [5, 6], manifest, rfl, matched, manifestOk, archived, rfl⟩

theorem sample_gpu :
    ∃ bundle, GpuBuilt concreteLibrary sampleSource (sampleContract abi) bundle := by
  obtain ⟨common, described⟩ := @sample_common abi "bounded-gpu" abi
  have manifest : ∃ manifest, gpuManifest (sampleContract abi) = .ok manifest :=
    ⟨_, bind_eq_ok.mpr ⟨common, described, rfl⟩⟩
  obtain ⟨manifest, manifestOk⟩ := manifest
  have added : ∃ files entries, addGpuFiles concreteLibrary sampleSource
      (sampleContract abi).boundedGpu.files [] Dict.empty = .ok (files, entries) ∧
      entries.keys = ["libGpu.so"] := by
    have matched : matchesBlob concreteLibrary [4] sampleGpuFile.byteSize sampleGpuFile.sha256 =
        true := matchesBlob_self concreteLibrary [4]
    have found : sourceEntry sampleSource sampleGpuFile.sourcePath = .ok [4] := rfl
    refine ⟨[.ofDict (gpuFileManifest sampleGpuFile)], Dict.empty.set "libGpu.so" [4], ?_, rfl⟩
    show addGpuFiles concreteLibrary sampleSource [sampleGpuFile] [] Dict.empty = _
    rw [addGpuFiles, found, ok_bind, requireBlob, matched]
    rfl
  obtain ⟨files, entries, addedOk, keys⟩ := added
  have normal (data : Bytes) :
      ∀ name ∈ entries.set "manifest.json" data, IsNormalName name := by
    intro name member
    rcases Dict.mem_set_iff.mp member with rfl | inEntries
    · decide
    · rw [Dict.mem_iff_keys, keys] at inEntries
      rw [List.mem_singleton.mp inEntries]
      decide
  obtain ⟨data, archived⟩ := archiveBytes_of_normal concreteLibrary (normal
    (jsonBytes (.ofDict (manifest.set "files" (.arr files)))))
  exact ⟨(recordOf concreteLibrary "bounded-gpu" abi "gpu-arm64-v8a.zip"
    (jsonBytes (.ofDict (manifest.set "files" (.arr files)))) data, data),
    manifest, files, entries, manifestOk, addedOk, archived, rfl⟩

theorem sample_built (abi : Document) (contractBytes : Bytes) : ∃ output,
    buildRelease concreteLibrary sampleSourceAar "source.aar" (sampleContract abi) contractBytes =
      .ok output := by
  obtain ⟨apiAar, apiBuilt⟩ := @sample_api abi contractBytes
  obtain ⟨⟨cpuRecord, cpuData⟩, cpuBuilt⟩ := @sample_cpu abi
  obtain ⟨⟨gpuRecord, gpuData⟩, gpuBuilt⟩ := @sample_gpu abi
  have api := buildApiAar_ok_iff.mpr ⟨apiAar, apiBuilt, @rfl _ (place Dict.empty _ _)⟩
  have cpu (output : Dict String Bytes) :=
    buildCpuBundle_ok_iff.mpr ⟨cpuData, cpuBuilt, @rfl _ (place output _ _)⟩
  have gpu (output : Dict String Bytes) :=
    buildGpuBundle_ok_iff.mpr ⟨gpuData, gpuBuilt, @rfl _ (place output _ _)⟩
  have sorted : sortByKey (sampleContract abi).cpuCore.abis.items = [("arm64-v8a", sampleAbi)] := rfl
  have cpuBundles (output : Dict String Bytes) :
      buildCpuBundles concreteLibrary sampleSource (sampleContract abi)
        (sortByKey (sampleContract abi).cpuCore.abis.items) output =
      .ok (place output "cpu-arm64-v8a.zip" cpuData, [cpuRecord]) := by
    rw [sorted, buildCpuBundles, cpu]
    rfl
  have licenses (output : Dict String Bytes) : writeLicenses sampleSource licenseMapping output =
      .ok ((output.set "LICENSE-LiteRT.txt" [1]).set "THIRD_PARTY_NOTICE-LiteRT.txt" [2]) := rfl
  let written := (((place (place (place Dict.empty "api.aar" apiAar) "cpu-arm64-v8a.zip" cpuData)
    "gpu-arm64-v8a.zip" gpuData).set "LICENSE-LiteRT.txt" [1]).set "THIRD_PARTY_NOTICE-LiteRT.txt"
      [2]).set "downloadable-runtime-contract.json" contractBytes
  have apiRead : readOutput written "api.aar" = .ok apiAar := by
    rw [readOutput_ok_iff]
    simp [written, get?_place, Dict.get?_set, temporaryName]
  let indexed := written.set "downloadable-runtime-index.json" (jsonBytes (.ofDict
    (releaseIndex concreteLibrary (sampleContract abi) apiAar ([cpuRecord] ++ [gpuRecord]))))
  have names : ∀ name ∈ indexed, name ∈ (sampleContract abi).fileNames := by
    intro name member
    show name ∈ (sampleContract (textDocument "arm64-v8a")).fileNames
    simp only [indexed, written, Dict.mem_set_iff] at member
    rcases member with rfl | rfl | rfl | rfl | placed
    · decide
    · decide
    · decide
    · decide
    rcases mem_place placed with rfl | placed
    · decide
    rcases mem_place placed with rfl | placed
    · decide
    rcases mem_place placed with rfl | placed
    · decide
    · exact absurd placed List.not_mem_nil
  obtain ⟨sums, checked⟩ := @writeChecksums_of_ascii concreteLibrary indexed fun name member =>
    sample_fileNames.ascii name (names name member)
  refine ⟨indexed.set "SHA256SUMS" sums, ?_⟩
  rw [buildRelease, sample_opened, ok_bind, api, ok_bind, cpuBundles, ok_bind]
  show (buildGpuBundle concreteLibrary sampleSource (sampleContract abi) _ >>= _) = _
  rw [gpu, ok_bind]
  show (writeLicenses sampleSource licenseMapping _ >>= _) = _
  rw [licenses, ok_bind]
  show (readOutput written "api.aar" >>= _) = _
  rw [apiRead, ok_bind]
  exact checked

theorem sample_sourceNormal : ∀ sourceEntries,
    readArchiveBytes concreteLibrary sampleSourceAar "source.aar" = .ok sourceEntries →
      ∀ name ∈ sourceEntries, normalizeName name = name := by
  intro sourceEntries opened name member
  rw [sample_opened] at opened
  obtain rfl := Except.ok.inj opened
  obtain ⟨item, itemMember, rfl⟩ := List.mem_map.mp member
  exact (sampleSource_canonical.normal item itemMember).2.1

end Sample

/-- A release for one ABI, which the verifier accepts. -/
theorem built_release_verifies_one_abi :
    ∃ contract output, contract = sampleContract (textDocument "arm64-v8a") ∧
      buildRelease concreteLibrary sampleSourceAar "source.aar" contract
        (jsonBytes contract.document) = .ok output ∧
      verifyMain concreteLibrary contract (jsonBytes contract.document)
        ⟨"dist", output, fun _ => none⟩ = .ok () := by
  obtain ⟨output, built⟩ := sample_built (textDocument "arm64-v8a")
    (jsonBytes (sampleContract (textDocument "arm64-v8a")).document)
  exact ⟨_, output, rfl, built, (built_release_verifies concreteLibrary sampleSourceAar "source.aar"
    _ _ output ⟨"dist", output, fun _ => none⟩ sample_fileNames sample_entryPaths
    sample_sourceNormal built rfl).1.mpr ⟨.str "arm64-v8a", rfl⟩⟩

def listedAbi : Document :=
  ⟨.arr [.str "arm64-v8a"], by simp [Json.wellFormed_arr]⟩

/-- An ABI that is a list is copied into every document, and the verifier cannot look
it up. -/
theorem listed_abi_not_verified :
    ∃ contract output, contract = sampleContract listedAbi ∧
      FileNames contract.fileNames ∧ EntryPaths contract ∧
      buildRelease concreteLibrary sampleSourceAar "source.aar" contract
        (jsonBytes contract.document) = .ok output ∧
      verifyMain concreteLibrary contract (jsonBytes contract.document)
        ⟨"dist", output, fun _ => none⟩ ≠ .ok () := by
  obtain ⟨output, built⟩ :=
    sample_built listedAbi (jsonBytes (sampleContract listedAbi).document)
  refine ⟨_, output, rfl, sample_fileNames, sample_entryPaths, built, fun verified => ?_⟩
  obtain ⟨key, hashed⟩ := hashable_of_verified verified
  cases hashed

end BssLiteRt.Downloadable
