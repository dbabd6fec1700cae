import BssLiteRt.Archive.RoundTrip
import BssLiteRt.Downloadable.Records

/-!
Owns the agreement of the builder and the verifier on one archive: the API AAR,
the CPU bundles and the bounded GPU bundle with their manifests.
-/

namespace BssLiteRt.Downloadable

open BssLiteRt.Library BssLiteRt.Python BssLiteRt.Archive

/-- The entry paths a contract may choose. -/
structure EntryPaths (contract : Contract) : Prop where
  libraryNormal : IsNormalised contract.cpuCore.libraryName
  libraryApart : contract.cpuCore.libraryName ≠ "manifest.json"
  gpuNormal : ∀ file ∈ contract.boundedGpu.files, IsNormalised file.path
  gpuApart : ∀ file ∈ contract.boundedGpu.files, file.path ≠ "manifest.json"
  gpuDistinct : (contract.boundedGpu.files.map fun file => file.path).Nodup
  embeddedNormal : IsNormalised contract.apiAar.embeddedContractPath
  embeddedNotClasses : contract.apiAar.embeddedContractPath ≠ "classes.jar"
  embeddedNotOld : contract.apiAar.embeddedContractPath ≠ OLD_CONTRACT_ENTRY
  embeddedNotNative : startsWith contract.apiAar.embeddedContractPath "jni/" = false

/-! ### Documents -/

section Documents

variable {contract : Contract} {component : String} {abi : Document} {manifest : Dict String Json}

theorem wellFormed_fileManifest (path : String)
    {byteSize sha256 elfClass machine soname needed : Document} :
    (Json.ofDict (fileManifest path byteSize sha256 elfClass machine soname needed)).WellFormed := by
  have elf : (Json.obj [("class", elfClass.val), ("machine", machine.val), ("soname", soname.val),
      ("needed", needed.val)]).WellFormed := by
    rw [Json.wellFormed_obj]
    simp [elfClass.property, machine.property, soname.property, needed.property]
  rw [Json.wellFormed_ofDict]
  simp only [fileManifest, List.forall_mem_cons]
  exact ⟨trivial, byteSize.property, sha256.property, elf, by simp⟩

theorem wellFormed_gpuFileManifest (metadata : GpuFile) :
    (Json.ofDict (gpuFileManifest metadata)).WellFormed := by
  unfold gpuFileManifest
  cases metadata.runtimeLoads with
  | none => exact wellFormed_fileManifest _
  | some runtimeLoads => exact (wellFormed_fileManifest _).set runtimeLoads.property

/-- What the common part of a manifest holds. -/
theorem commonManifest_ok (described : commonManifest contract component abi = .ok manifest) :
    (Json.ofDict manifest).WellFormed ∧ manifest.get? "component" = some (.str component) ∧
      manifest.get? "abi" = some abi.val := by
  unfold commonManifest at described
  obtain ⟨fileName, nameFound, described⟩ := bind_eq_ok.mp described
  obtain ⟨sha256, hashFound, described⟩ := bind_eq_ok.mp described
  obtain rfl := Except.ok.inj described
  have nameWellFormed := contract.sourceAar.property.field? (getItem_ok_iff.mp nameFound)
  have hashWellFormed := contract.sourceAar.property.field? (getItem_ok_iff.mp hashFound)
  have source : (Json.obj [("fileName", fileName), ("sha256", sha256)]).WellFormed := by
    rw [Json.wellFormed_obj]
    simp [nameWellFormed, hashWellFormed]
  refine ⟨?_, by simp [Dict.get?, List.lookup_cons], by simp [Dict.get?, List.lookup_cons]⟩
  rw [Json.wellFormed_ofDict]
  simp only [List.forall_mem_cons]
  exact ⟨trivial, contract.schemaVersion.property, contract.releaseVersion.property,
    contract.runtimeArtifactVersion.property, contract.baseLiteRtVersion.property,
    contract.androidMinApi.property, trivial, abi.property, source, by simp⟩

theorem cpuManifest_ok {abi : String} {metadata : CpuAbi}
    (described : cpuManifest contract abi metadata =
      .ok manifest) :
    (Json.ofDict manifest).WellFormed ∧ manifest.get? "component" = some (.str "cpu-core") ∧
      manifest.get? "abi" = some (.str abi) ∧
      manifest.get? "files" = some (.arr [.ofDict (cpuFileManifest contract metadata)]) := by
  obtain ⟨common, commonOk, described⟩ := bind_eq_ok.mp described
  obtain rfl := Except.ok.inj described
  obtain ⟨wellFormed, atComponent, atAbi⟩ := commonManifest_ok commonOk
  have capabilities : (Json.arr [.str "cpu"]).WellFormed := by
    simp [Json.wellFormed_arr]
  have files : (Json.arr [.ofDict (cpuFileManifest contract metadata)]).WellFormed := by
    rw [Json.wellFormed_arr, List.forall_mem_singleton]
    exact wellFormed_fileManifest _
  refine ⟨(wellFormed.set capabilities).set files, ?_, ?_, ?_⟩
  · simp [Dict.get?_set, atComponent]
  · simp [Dict.get?_set, atAbi, textDocument]
  · simp

theorem gpuManifest_ok {files : List Json} (described : gpuManifest contract = .ok manifest)
    (filesWellFormed : ∀ file ∈ files, file.WellFormed) :
    (Json.ofDict (manifest.set "files" (.arr files))).WellFormed ∧
      manifest.get? "component" = some (.str "bounded-gpu") ∧
      manifest.get? "abi" = some contract.boundedGpu.abi.val ∧
      manifest.get? "profile" = some contract.boundedGpu.profile ∧
      manifest.get? "requiredCore" = some (.obj [("abi", contract.boundedGpu.abi),
        ("librarySha256", contract.boundedGpu.requiredCoreSha256)]) := by
  obtain ⟨common, commonOk, described⟩ := bind_eq_ok.mp described
  obtain rfl := Except.ok.inj described
  obtain ⟨wellFormed, atComponent, atAbi⟩ := commonManifest_ok commonOk
  have capabilities : (Json.arr [.str "gpu-opencl-bounded-fp32"]).WellFormed := by
    simp [Json.wellFormed_arr]
  have requiredCore : (Json.obj [("abi", contract.boundedGpu.abi.val),
      ("librarySha256", contract.boundedGpu.requiredCoreSha256.val)]).WellFormed := by
    rw [Json.wellFormed_obj]
    simp [contract.boundedGpu.abi.property, contract.boundedGpu.requiredCoreSha256.property]
  refine ⟨(((wellFormed.set capabilities).set requiredCore).set
    contract.boundedGpu.profile.property).set (Json.wellFormed_arr.mpr filesWellFormed),
    ?_, ?_, ?_, ?_⟩
  · simp [Dict.get?_set, atComponent]
  · simp [Dict.get?_set, atAbi]
  · simp
  · simp [Dict.get?_set]

end Documents

/-! ### Bundles -/

section Bundles

variable {py : StandardLibrary} {sourceEntries : Dict String Bytes} {contract : Contract}
  {contractBytes : Bytes} {dist : Directory}

theorem hasExactly_iff {entries : Dict String Bytes} {names : List String} :
    hasExactly entries names = true ↔ ∀ name, name ∈ entries ↔ name ∈ names := by
  rw [hasExactly, decide_eq_true_iff]
  constructor
  · intro both name
    exact ⟨both.1 name, both.2 name⟩
  · intro same
    exact ⟨fun name => (same name).mp, fun name => (same name).mpr⟩

/-- An archive made of entries under normalised names opens with the same entries. -/
theorem readBundle_of_archived {entries : Dict String Bytes} {data : Bytes} {path : String}
    (normal : ∀ name ∈ entries, IsNormalised name)
    (returned : archiveBytes py entries = .ok data) (found : dist.lookup path = some data) :
    ∃ opened, readBundle py dist path = .ok opened ∧
      ∀ name, opened.get? name = entries.get? name := by
  obtain ⟨items, canonical, same, rfl⟩ := readBack_of_normal normal returned
  exact ⟨canonical.dict,
    readBundle_ok_iff.mpr ⟨_, found, canonical.readNormalizedArchive_write _⟩, same⟩

theorem get?_cpuEntries (paths : EntryPaths contract) (manifest : Dict String Json)
    (library : Bytes) (name : String) :
    (cpuEntries contract manifest library).get? name =
      if name = "manifest.json" then some (jsonBytes (.ofDict manifest))
      else if name = contract.cpuCore.libraryName then some library else none := by
  have unique : ([("manifest.json", jsonBytes (.ofDict manifest)),
      (contract.cpuCore.libraryName, library)].map Prod.fst).Nodup := by
    simp [Ne.symm paths.libraryApart]
  rw [cpuEntries, Dict.get?_ofPairs_of_nodup unique, List.lookup_cons, List.lookup_cons,
    List.lookup_nil]
  by_cases isManifest : name = "manifest.json"
  · simp [isManifest]
  · by_cases isLibrary : name = contract.cpuCore.libraryName
    · simp [isLibrary, paths.libraryApart, beq_false_of_ne paths.libraryApart]
    · simp [isManifest, isLibrary, beq_false_of_ne isManifest, beq_false_of_ne isLibrary]

theorem mem_cpuEntries (paths : EntryPaths contract) {manifest : Dict String Json}
    {library : Bytes} {name : String} :
    name ∈ cpuEntries contract manifest library ↔
      name ∈ ["manifest.json", contract.cpuCore.libraryName] := by
  rw [Dict.mem_iff_get?, get?_cpuEntries paths]
  by_cases isManifest : name = "manifest.json" <;>
    by_cases isLibrary : name = contract.cpuCore.libraryName <;>
    simp [isManifest, isLibrary, paths.libraryApart]

theorem cpuEntries_normal (paths : EntryPaths contract) {manifest : Dict String Json}
    {library : Bytes} : ∀ name ∈ cpuEntries contract manifest library, IsNormalised name := by
  intro name member
  rcases List.mem_cons.mp ((mem_cpuEntries paths).mp member) with rfl | isLibrary
  · decide
  · rw [List.mem_singleton.mp isLibrary]
    exact paths.libraryNormal

/-- The verifier accepts the CPU bundles of the builder. -/
theorem verifyCpuBundle_of_built (paths : EntryPaths contract) {item : String × CpuAbi}
    {bundle : BundleRecord × Bytes} (built : CpuBuilt py sourceEntries contract item bundle)
    (found : dist.lookup item.2.bundleFileName = some bundle.2) :
    verifyCpuBundle py dist item.2.bundleFileName item.1 item.2 contract = .ok () := by
  obtain ⟨library, manifest, -, matched, described, archived, -⟩ := built
  obtain ⟨wellFormed, atComponent, atAbi, atFiles⟩ := cpuManifest_ok described
  obtain ⟨opened, reads, same⟩ :=
    readBundle_of_archived (cpuEntries_normal paths) archived found
  have lookups (name : String) := (same name).trans (get?_cpuEntries paths manifest library name)
  rw [verifyCpuBundle_ok_iff]
  refine ⟨opened, library, jsonBytes (.ofDict manifest), (Json.ofDict manifest).sortKeys, reads,
    ?_, ?_, matched, ?_, py.json.loadsBytes_dumps _ wellFormed, ⟨?_, ?_⟩,
    ⟨_, field?_loaded wellFormed atFiles, Json.pyEq_sortKeys _⟩, (jsonBytes_sortKeys _).symm⟩
  · rw [hasExactly_iff]
    intro name
    rw [Dict.mem_iff_get?, same name, ← Dict.mem_iff_get?, mem_cpuEntries paths]
  · rw [lookups, if_neg paths.libraryApart, if_pos rfl]
  · rw [lookups, if_pos rfl]
  · exact field?_loaded wellFormed atComponent
  · exact field?_loaded wellFormed atAbi

/-- What the GPU bundle of the builder holds. -/
theorem gpuBuilt_entries (paths : EntryPaths contract) {bundle : BundleRecord × Bytes}
    (built : GpuBuilt py sourceEntries contract bundle)
    (found : dist.lookup contract.boundedGpu.bundleFileName = some bundle.2) :
    ∃ opened manifest files, readBundle py dist contract.boundedGpu.bundleFileName = .ok opened ∧
      gpuManifest contract = .ok manifest ∧ (∀ file ∈ files, file.WellFormed) ∧
      opened.get? "manifest.json" =
        some (jsonBytes (.ofDict (manifest.set "files" (.arr files)))) ∧
      (∀ file ∈ contract.boundedGpu.files, ∃ library,
        sourceEntries.get? file.sourcePath = some library ∧
        opened.get? file.path = some library ∧
        matchesBlob py library file.byteSize file.sha256 = true) ∧
      ∀ name, name ∈ opened ↔
        name ∈ "manifest.json" :: contract.boundedGpu.files.map fun file => file.path := by
  obtain ⟨manifest, files, entries, described, added, archived, -⟩ := built
  obtain ⟨rfl, each, others⟩ := addGpuFiles_ok paths.gpuDistinct added
  have filed (name : String) (isEntry : name ∈ entries) :
      ∃ file ∈ contract.boundedGpu.files, file.path = name := by
    by_contra absent
    simp only [not_exists, not_and] at absent
    obtain ⟨data, present⟩ := Dict.mem_iff_get?.mp isEntry
    rw [others name absent] at present
    cases present
  have normal : ∀ name ∈ entries.set "manifest.json" (jsonBytes (.ofDict (manifest.set "files"
      (.arr ([] ++ contract.boundedGpu.files.map fun file => .ofDict (gpuFileManifest file)))))),
      IsNormalised name := by
    intro name member
    obtain ⟨data, present⟩ := Dict.mem_iff_get?.mp member
    rw [Dict.get?_set] at present
    split at present
    · rename_i same
      rw [same]
      decide
    · obtain ⟨file, fileMember, rfl⟩ := filed name (Dict.mem_iff_get?.mpr ⟨data, present⟩)
      exact paths.gpuNormal file fileMember
  obtain ⟨opened, reads, same⟩ := readBundle_of_archived normal archived found
  refine ⟨opened, manifest, _, reads, described, ?_, by rw [same, Dict.get?_set_self], ?_, ?_⟩
  · rw [List.nil_append, List.forall_mem_map]
    exact fun file _ => wellFormed_gpuFileManifest file
  · intro file member
    obtain ⟨library, inSource, inBundle, matched⟩ := each file member
    refine ⟨library, inSource, ?_, matched⟩
    rw [same, Dict.get?_set, if_neg (paths.gpuApart file member), inBundle]
  · intro name
    rw [Dict.mem_iff_get?, same, ← Dict.mem_iff_get?, Dict.mem_set_iff, List.mem_cons,
      List.mem_map]
    refine or_congr Iff.rfl ⟨filed name, ?_⟩
    rintro ⟨file, member, rfl⟩
    obtain ⟨library, -, inBundle, -⟩ := each file member
    exact Dict.mem_iff_get?.mpr ⟨library, inBundle⟩

/-- The verifier accepts the GPU bundle of the builder. -/
theorem verifyGpuBundle_of_built (paths : EntryPaths contract) {bundle : BundleRecord × Bytes}
    (built : GpuBuilt py sourceEntries contract bundle)
    (found : dist.lookup contract.boundedGpu.bundleFileName = some bundle.2) :
    verifyGpuBundle py dist contract.boundedGpu.bundleFileName contract = .ok () := by
  obtain ⟨opened, manifest, files, reads, described, filesWellFormed, present, each, names⟩ :=
    gpuBuilt_entries paths built found
  obtain ⟨wellFormed, atComponent, atAbi, atProfile, atCore⟩ :=
    gpuManifest_ok described filesWellFormed
  have field {key : String} {value : Json} (atKey : manifest.get? key = some value)
      (notFiles : key ≠ "files") :
      (Json.ofDict (manifest.set "files" (.arr files))).sortKeys.field? key =
        some value.sortKeys := by
    apply field?_loaded wellFormed
    rw [Dict.get?_set, if_neg notFiles, atKey]
  have core : (Json.obj [("abi", contract.boundedGpu.abi.val),
      ("librarySha256", contract.boundedGpu.requiredCoreSha256.val)]).WellFormed := by
    rw [Json.wellFormed_obj]
    simp [contract.boundedGpu.abi.property, contract.boundedGpu.requiredCoreSha256.property]
  rw [verifyGpuBundle_ok_iff]
  refine ⟨opened, _, _, reads, hasExactly_iff.mpr names, ?_, present,
    py.json.loadsBytes_dumps _ wellFormed,
    ⟨field atComponent (by decide), _, field atAbi (by decide), Json.pyEq_sortKeys _⟩,
    ⟨_, field atProfile (by decide), Json.pyEq_sortKeys _⟩,
    ⟨_, contract.boundedGpu.requiredCoreSha256.val.sortKeys, field atCore (by decide), ?_,
      Json.pyEq_sortKeys _⟩, (jsonBytes_sortKeys _).symm⟩
  · rw [verifyGpuLibraries_ok_iff]
    intro file member
    obtain ⟨library, -, inBundle, matched⟩ := each file member
    exact ⟨library, inBundle, matched⟩
  · rw [Json.field?_sortKeys core]
    simp [Json.field?, List.lookup_cons]

theorem mem_apiEntries {name : String} (member : name ∈ apiEntries sourceEntries contract
      contractBytes) :
    name = contract.apiAar.embeddedContractPath ∨
      name ∈ sourceEntries ∧ startsWith name "jni/" = false ∧ name ≠ OLD_CONTRACT_ENTRY := by
  rw [apiEntries, Dict.mem_set_iff] at member
  refine member.imp_right fun kept => ?_
  obtain ⟨data, found⟩ := Dict.mem_iff_get?.mp kept
  rw [Dict.get?_filter, Option.filter_eq_some_iff] at found
  refine ⟨Dict.mem_iff_get?.mpr ⟨data, found.1⟩, ?_⟩
  simpa using found.2

/-- The verifier accepts the API AAR of the builder. -/
theorem verifyApiAar_of_built (paths : EntryPaths contract)
    (sourceNormal : ∀ name ∈ sourceEntries, IsNormalised name) {data : Bytes} {path : String}
    (built : ApiBuilt py sourceEntries contract contractBytes data)
    (found : dist.lookup path = some data) :
    verifyApiAar py dist path contract contractBytes = .ok () := by
  have normal : ∀ name ∈ apiEntries sourceEntries contract contractBytes, IsNormalised name := by
    intro name member
    rcases mem_apiEntries member with rfl | kept
    · exact paths.embeddedNormal
    · exact sourceNormal name kept.1
  obtain ⟨opened, reads, same⟩ := readBundle_of_archived normal built.archived found
  obtain ⟨classes, expected, inSource, declared, agrees⟩ := built.classes
  have members (name : String) : name ∈ opened ↔
      name ∈ apiEntries sourceEntries contract contractBytes := by
    rw [Dict.mem_iff_get?, same, ← Dict.mem_iff_get?]
  rw [verifyApiAar_ok_iff]
  refine ⟨opened, classes, expected, reads, ?_, ?_, ?_, ?_, declared, agrees⟩
  · intro name member
    rcases mem_apiEntries ((members name).mp member) with rfl | kept
    · exact paths.embeddedNotNative
    · exact kept.2.1
  · rw [same, apiEntries, Dict.get?_set_self]
  · rw [members]
    intro member
    rcases mem_apiEntries member with old | kept
    · exact paths.embeddedNotOld old.symm
    · exact kept.2.2 rfl
  · rw [same, apiEntries, Dict.get?_set, if_neg (Ne.symm paths.embeddedNotClasses),
      Dict.get?_filter, inSource]
    rfl

end Bundles

end BssLiteRt.Downloadable
