import BssLiteRt.Downloadable.Checksums
import Mathlib.Data.List.Forall2

/-!
Owns what a successful build leaves in the release directory: the files by name,
and how the bytes of each came about.
-/

namespace BssLiteRt.Downloadable

open BssLiteRt.Library BssLiteRt.Python BssLiteRt.Archive

/-! ### File names -/

/-- The file names a contract gives a release. -/
def Contract.fileNames (contract : Contract) : List String :=
  contract.apiAar.fileName ::
    (contract.cpuCore.abis.items.map fun item => item.2.bundleFileName) ++
    [contract.boundedGpu.bundleFileName] ++ licenseMapping.map Prod.fst ++
    ["downloadable-runtime-contract.json", "downloadable-runtime-index.json", "SHA256SUMS"]

/-- Names that can stand side by side in a release directory. -/
structure FileNames (names : List String) : Prop where
  plain : ∀ name ∈ names, IsPlain name
  ascii : ∀ name ∈ names, name.toList.all isAscii = true
  whole : ∀ name ∈ names, IsWhole name
  distinct : names.Nodup
  lasting : ∀ name ∈ names, ∀ other ∈ names, name ≠ temporaryName other

theorem FileNames.perm {names others : List String} (fits : FileNames names)
    (same : names.Perm others) : FileNames others where
  plain := fun name member => fits.plain name (same.mem_iff.mpr member)
  ascii := fun name member => fits.ascii name (same.mem_iff.mpr member)
  whole := fun name member => fits.whole name (same.mem_iff.mpr member)
  distinct := same.nodup_iff.mp fits.distinct
  lasting := fun name member other otherMember =>
    fits.lasting name (same.mem_iff.mpr member) other (same.mem_iff.mpr otherMember)

theorem FileNames.fresh {front later : List String} {name : String}
    (fits : FileNames (front ++ name :: later)) : name ∉ front := by
  intro member
  have apart := (List.nodup_append.mp fits.distinct).2.2
  exact apart name member name List.mem_cons_self rfl

/-! ### Files by name -/

/-- The directory holds exactly these files. -/
def Holds (output : Dict String Bytes) (assets : List (String × Bytes)) : Prop :=
  ∀ name, output.get? name = assets.lookup name

section Holds

variable {output : Dict String Bytes} {assets : List (String × Bytes)} {name : String}
  {data : Bytes} {later : List String}

theorem Holds.set (holds : Holds output assets) (fresh : name ∉ assets.map Prod.fst) :
    Holds (output.set name data) (assets ++ [(name, data)]) := by
  intro other
  rw [Dict.get?_set, List.lookup_append, List.lookup_cons, List.lookup_nil, holds other]
  split
  · rename_i same
    rw [same, Dict.lookup_eq_none_iff_notMem.mpr fresh]
    simp
  · rename_i different
    simp [beq_false_of_ne different]

/-- `write_archive` adds its file and leaves no other, when its temporary file
hits none. -/
theorem Holds.place (holds : Holds output assets)
    (fits : FileNames (assets.map Prod.fst ++ name :: later)) :
    Holds (place output name data) (assets ++ [(name, data)]) := by
  have fresh := fits.fresh
  have temporaryAbsent : temporaryName name ∉ assets.map Prod.fst := by
    intro member
    exact fits.lasting _ (List.mem_append_left _ member) name
      (List.mem_append_right _ List.mem_cons_self) rfl
  intro other
  rw [get?_place]
  split
  · rename_i temporary
    rw [temporary, List.lookup_append, Dict.lookup_eq_none_iff_notMem.mpr temporaryAbsent, List.lookup_cons,
      beq_false_of_ne (temporaryName_ne name)]
    rfl
  · rw [← holds.set fresh other, Dict.get?_set]

theorem names_next : (assets ++ [(name, data)]).map Prod.fst ++ later =
    assets.map Prod.fst ++ name :: later := by
  rw [List.map_append, List.append_assoc]
  rfl

theorem Holds.get?_of_mem (holds : Holds output assets)
    (distinct : (assets.map Prod.fst).Nodup) (member : (name, data) ∈ assets) :
    output.get? name = some data := by
  rw [holds name]
  exact (Dict.lookup_eq_some_iff_mem distinct).mpr member

theorem Holds.mem_names (holds : Holds output assets) (member : name ∈ output) :
    name ∈ assets.map Prod.fst := by
  obtain ⟨data, found⟩ := Dict.mem_iff_get?.mp member
  by_contra absent
  rw [holds name, Dict.lookup_eq_none_iff_notMem.mpr absent] at found
  cases found

end Holds

/-! ### What is built -/

section Built

variable {py : StandardLibrary} {sourceEntries : Dict String Bytes} {contract : Contract}
  {contractBytes : Bytes} {output next : Dict String Bytes} {assets : List (String × Bytes)}
  {later : List String}

/-- The entries of the API AAR. -/
def apiEntries (sourceEntries : Dict String Bytes) (contract : Contract) (contractBytes : Bytes) :
    Dict String Bytes :=
  (sourceEntries.filter fun name _ => !startsWith name "jni/" && name ≠ OLD_CONTRACT_ENTRY).set
    contract.apiAar.embeddedContractPath contractBytes

structure ApiBuilt (py : StandardLibrary) (sourceEntries : Dict String Bytes) (contract : Contract)
    (contractBytes : Bytes) (data : Bytes) : Prop where
  classes : ∃ classes expected, sourceEntries.get? "classes.jar" = some classes ∧
    contract.classesJarSha256 = .ok expected ∧
    (Json.str (py.hashlib.sha256 classes)).pyEq expected = true
  archived : archiveBytes py (apiEntries sourceEntries contract contractBytes) = .ok data

theorem writeArchive_ok_iff {name : String} {entries : Dict String Bytes} :
    writeArchive py output name entries = .ok next ↔
      ∃ data, archiveBytes py entries = .ok data ∧ next = place output name data := by
  unfold writeArchive
  rw [bind_eq_ok]
  simp only [pure_eq_ok, Except.ok.injEq, @eq_comm _ _ next]

theorem buildApiAar_ok_iff :
    buildApiAar py sourceEntries contract contractBytes output = .ok next ↔
      ∃ data, ApiBuilt py sourceEntries contract contractBytes data ∧
        next = place output contract.apiAar.fileName data := by
  unfold buildApiAar
  constructor
  · intro built
    split at built
    · cases built
    · rename_i classes found
      simp only [bind_eq_ok, raiseIf_eq_ok, exists_unit, writeArchive_ok_iff,
        Bool.not_eq_false'] at built
      obtain ⟨expected, declared, same, data, archived, placed⟩ := built
      exact ⟨data, ⟨⟨classes, expected, found, declared, same⟩, archived⟩, placed⟩
  · rintro ⟨data, ⟨⟨classes, expected, found, declared, same⟩, archived⟩, placed⟩
    simp only [found, bind_eq_ok, raiseIf_eq_ok, exists_unit, writeArchive_ok_iff,
      Bool.not_eq_false']
    exact ⟨expected, declared, same, data, archived, placed⟩

theorem sourceEntry_ok_iff {path : String} {data : Bytes} :
    sourceEntry sourceEntries path = .ok data ↔ sourceEntries.get? path = some data := by
  unfold sourceEntry
  cases sourceEntries.get? path <;> simp

/-- The file of a bundle. -/
def bundleFile (bundle : BundleRecord × Bytes) : String × Bytes :=
  (bundle.1.fileName, bundle.2)

/-- The entries of a CPU bundle. -/
def cpuEntries (contract : Contract) (manifest : Dict String Json) (library : Bytes) :
    Dict String Bytes :=
  .ofPairs [("manifest.json", jsonBytes (.ofDict manifest)), (contract.cpuCore.libraryName, library)]

/-- How the bundle of a CPU ABI came about. -/
def CpuBuilt (py : StandardLibrary) (sourceEntries : Dict String Bytes) (contract : Contract)
    (item : String × CpuAbi) (bundle : BundleRecord × Bytes) : Prop :=
  ∃ library manifest, sourceEntries.get? item.2.sourcePath = some library ∧
    matchesBlob py library item.2.byteSize item.2.sha256 = true ∧
    cpuManifest contract item.1 item.2 = .ok manifest ∧
    archiveBytes py (cpuEntries contract manifest library) = .ok bundle.2 ∧
    bundle.1 = recordOf py "cpu-core" (textDocument item.1) item.2.bundleFileName
      (jsonBytes (.ofDict manifest)) bundle.2

theorem CpuBuilt.record {item : String × CpuAbi} {bundle : BundleRecord × Bytes}
    (built : CpuBuilt py sourceEntries contract item bundle) :
    ∃ manifestBytes, bundle.1 =
      recordOf py "cpu-core" (textDocument item.1) item.2.bundleFileName manifestBytes bundle.2 := by
  obtain ⟨_, _, -, -, -, -, recorded⟩ := built
  exact ⟨_, recorded⟩

theorem bundleRecord_place {component name : String} {abi : Document}
    {manifestBytes data : Bytes} {record : BundleRecord} :
    bundleRecord py (place output name data) component abi name manifestBytes = .ok record ↔
      record = recordOf py component abi name manifestBytes data := by
  have read : readOutput (place output name data) name = .ok data := by
    rw [readOutput_ok_iff, get?_place, if_neg (temporaryName_ne name).symm, if_pos rfl]
  unfold bundleRecord
  rw [read, ok_bind, pure_eq_ok, Except.ok.injEq, eq_comm]

theorem buildCpuBundle_ok_iff {abi : String} {metadata : CpuAbi} {record : BundleRecord} :
    buildCpuBundle py sourceEntries contract abi metadata output = .ok (next, record) ↔
      ∃ data, CpuBuilt py sourceEntries contract (abi, metadata) (record, data) ∧
        next = place output metadata.bundleFileName data := by
  unfold buildCpuBundle requireBlob
  simp only [bind_eq_ok, raiseIf_eq_ok, exists_unit, writeArchive_ok_iff, sourceEntry_ok_iff,
    Bool.not_eq_false', pure_eq_ok, Except.ok.injEq, Prod.mk.injEq]
  constructor
  · rintro ⟨library, found, matched, manifest, described, _, ⟨data, archived, rfl⟩, _, recorded,
      rfl, rfl⟩
    exact ⟨data, ⟨library, manifest, found, matched, described, archived,
      bundleRecord_place.mp recorded⟩, rfl⟩
  · rintro ⟨data, ⟨library, manifest, found, matched, described, archived, recorded⟩, rfl⟩
    exact ⟨library, found, matched, manifest, described, _, ⟨data, archived, rfl⟩, record,
      bundleRecord_place.mpr recorded, rfl, rfl⟩

theorem buildCpuBundles_ok {abis : List (String × CpuAbi)} {records : List BundleRecord}
    (fits : FileNames
      (assets.map Prod.fst ++ (abis.map (fun item => item.2.bundleFileName) ++ later)))
    (holds : Holds output assets)
    (built : buildCpuBundles py sourceEntries contract abis output = .ok (next, records)) :
    ∃ bundles, List.Forall₂ (CpuBuilt py sourceEntries contract) abis bundles ∧
      records = bundles.map Prod.fst ∧ Holds next (assets ++ bundles.map bundleFile) := by
  induction abis generalizing output assets records with
  | nil =>
      obtain ⟨rfl, rfl⟩ := Prod.mk.inj (Except.ok.inj built)
      exact ⟨[], List.Forall₂.nil, rfl, by rwa [List.map_nil, List.append_nil]⟩
  | cons item rest inductionHypothesis =>
      obtain ⟨abi, metadata⟩ := item
      rw [buildCpuBundles] at built
      obtain ⟨⟨middle, record⟩, first, built⟩ := bind_eq_ok.mp built
      obtain ⟨⟨final, more⟩, others, built⟩ := bind_eq_ok.mp built
      obtain ⟨rfl, rfl⟩ := Prod.mk.inj (Except.ok.inj built)
      obtain ⟨data, cpuBuilt, rfl⟩ := buildCpuBundle_ok_iff.mp first
      have fileName : record.fileName = metadata.bundleFileName := by
        obtain ⟨_, recorded⟩ := cpuBuilt.record
        exact congrArg BundleRecord.fileName recorded
      rw [List.map_cons, List.cons_append] at fits
      have placed := @Holds.place _ _ _ data _ holds fits
      rw [← @names_next _ _ data] at fits
      obtain ⟨bundles, eachBuilt, rfl, held⟩ := inductionHypothesis fits placed others
      refine ⟨(record, data) :: bundles, List.Forall₂.cons cpuBuilt eachBuilt, rfl, ?_⟩
      rw [List.map_cons, bundleFile, fileName]
      rwa [List.append_assoc] at held

/-- Bundles stand under the names of the contract. -/
theorem cpuBuilt_names {abis : List (String × CpuAbi)} {bundles : List (BundleRecord × Bytes)}
    (built : List.Forall₂ (CpuBuilt py sourceEntries contract) abis bundles) :
    (bundles.map bundleFile).map Prod.fst = abis.map fun item => item.2.bundleFileName := by
  induction built with
  | nil => rfl
  | cons first _ inductionHypothesis =>
      obtain ⟨_, recorded⟩ := first.record
      rw [List.map_cons, List.map_cons, List.map_cons, inductionHypothesis, bundleFile, recorded]
      rfl

/-- How the bounded GPU bundle came about. -/
def GpuBuilt (py : StandardLibrary) (sourceEntries : Dict String Bytes) (contract : Contract)
    (bundle : BundleRecord × Bytes) : Prop :=
  ∃ manifest files entries, gpuManifest contract = .ok manifest ∧
    addGpuFiles py sourceEntries contract.boundedGpu.files [] Dict.empty = .ok (files, entries) ∧
    archiveBytes py (entries.set "manifest.json"
      (jsonBytes (.ofDict (manifest.set "files" (.arr files))))) = .ok bundle.2 ∧
    bundle.1 = recordOf py "bounded-gpu" contract.boundedGpu.abi
      contract.boundedGpu.bundleFileName
      (jsonBytes (.ofDict (manifest.set "files" (.arr files)))) bundle.2

theorem GpuBuilt.record {bundle : BundleRecord × Bytes}
    (built : GpuBuilt py sourceEntries contract bundle) :
    ∃ manifestBytes, bundle.1 = recordOf py "bounded-gpu" contract.boundedGpu.abi
      contract.boundedGpu.bundleFileName manifestBytes bundle.2 := by
  obtain ⟨_, _, _, -, -, -, recorded⟩ := built
  exact ⟨_, recorded⟩

theorem buildGpuBundle_ok_iff {record : BundleRecord} :
    buildGpuBundle py sourceEntries contract output = .ok (next, record) ↔
      ∃ data, GpuBuilt py sourceEntries contract (record, data) ∧
        next = place output contract.boundedGpu.bundleFileName data := by
  unfold buildGpuBundle
  constructor
  · intro built
    obtain ⟨manifest, described, built⟩ := bind_eq_ok.mp built
    obtain ⟨⟨files, entries⟩, added, built⟩ := bind_eq_ok.mp built
    obtain ⟨middle, written, built⟩ := bind_eq_ok.mp built
    obtain ⟨_, recorded, built⟩ := bind_eq_ok.mp built
    obtain ⟨rfl, rfl⟩ := Prod.mk.inj (Except.ok.inj built)
    obtain ⟨data, archived, rfl⟩ := writeArchive_ok_iff.mp written
    exact ⟨data, ⟨manifest, files, entries, described, added, archived,
      bundleRecord_place.mp recorded⟩, rfl⟩
  · rintro ⟨data, ⟨manifest, files, entries, described, added, archived, recorded⟩, rfl⟩
    have written := (@writeArchive_ok_iff py output _ contract.boundedGpu.bundleFileName _).mpr
      ⟨data, archived, rfl⟩
    have recordedOk := (@bundleRecord_place py output _ _ _ _ _ _).mpr recorded
    simp only [described, ok_bind, added, written, recordedOk, pure_eq_ok]

/-- The libraries of the GPU bundle are those of the source. -/
theorem addGpuFiles_ok {files : List GpuFile} {manifests results : List Json}
    {start entries : Dict String Bytes}
    (distinct : (files.map fun file => file.path).Nodup)
    (added : addGpuFiles py sourceEntries files manifests start = .ok (results, entries)) :
    results = manifests ++ (files.map fun file => Json.ofDict (gpuFileManifest file)) ∧
      (∀ file ∈ files, ∃ library, sourceEntries.get? file.sourcePath = some library ∧
        entries.get? file.path = some library ∧
        matchesBlob py library file.byteSize file.sha256 = true) ∧
      ∀ name, (∀ file ∈ files, file.path ≠ name) → entries.get? name = start.get? name := by
  induction files generalizing manifests start with
  | nil =>
      obtain ⟨rfl, rfl⟩ := Prod.mk.inj (Except.ok.inj added)
      exact ⟨by simp, by simp, fun _ _ => rfl⟩
  | cons file rest inductionHypothesis =>
      rw [List.map_cons, List.nodup_cons] at distinct
      unfold addGpuFiles requireBlob at added
      simp only [bind_eq_ok, raiseIf_eq_ok, exists_unit, sourceEntry_ok_iff,
        Bool.not_eq_false'] at added
      obtain ⟨library, found, matched, added⟩ := added
      obtain ⟨resultsEq, each, others⟩ := inductionHypothesis distinct.2 added
      have apart : ∀ other ∈ rest, other.path ≠ file.path := by
        intro other member same
        exact distinct.1 (List.mem_map.mpr ⟨other, member, same⟩)
      refine ⟨by rw [resultsEq, List.append_assoc]; rfl, ?_, ?_⟩
      · rw [List.forall_mem_cons]
        refine ⟨⟨library, found, ?_, matched⟩, each⟩
        rw [others file.path apart, Dict.get?_set_self]
      · intro name absent
        rw [List.forall_mem_cons] at absent
        rw [others name absent.2, Dict.get?_set, if_neg (Ne.symm absent.1)]

/-! ### The whole release -/

/-- The files of a release without `SHA256SUMS`. -/
def releaseFiles (py : StandardLibrary) (contract : Contract) (contractBytes apiAar : Bytes)
    (bundles : List (BundleRecord × Bytes)) (licenses : List (String × Bytes)) :
    List (String × Bytes) :=
  (contract.apiAar.fileName, apiAar) :: bundles.map bundleFile ++ licenses ++
    [("downloadable-runtime-contract.json", contractBytes),
      ("downloadable-runtime-index.json",
        jsonBytes (.ofDict (releaseIndex py contract apiAar (bundles.map Prod.fst))))]

/-- How a release came about. -/
structure Released (py : StandardLibrary) (sourceEntries : Dict String Bytes)
    (contract : Contract) (contractBytes apiAar : Bytes) (cpu : List (BundleRecord × Bytes))
    (gpu : BundleRecord × Bytes) (licenses : List (String × Bytes))
    (unchecked output : Dict String Bytes) : Prop where
  api : ApiBuilt py sourceEntries contract contractBytes apiAar
  cpuBuilt : List.Forall₂ (CpuBuilt py sourceEntries contract)
    (sortByKey contract.cpuCore.abis.items) cpu
  gpuBuilt : GpuBuilt py sourceEntries contract gpu
  licensed : licenses.map Prod.fst = licenseMapping.map Prod.fst
  holds : Holds unchecked
    (releaseFiles py contract contractBytes apiAar (cpu ++ [gpu]) licenses)
  checked : writeChecksums py unchecked = .ok output

theorem writeLicenses_ok {licenses : List (String × String)}
    (fits : FileNames (assets.map Prod.fst ++ (licenses.map Prod.fst ++ later)))
    (holds : Holds output assets)
    (returned : writeLicenses sourceEntries licenses output = .ok next) :
    ∃ written, written.map Prod.fst = licenses.map Prod.fst ∧
      Holds next (assets ++ written) := by
  induction licenses generalizing output assets with
  | nil =>
      obtain rfl := Except.ok.inj returned
      exact ⟨[], rfl, by rwa [List.append_nil]⟩
  | cons license rest inductionHypothesis =>
      obtain ⟨destination, source⟩ := license
      rw [writeLicenses] at returned
      obtain ⟨data, -, returned⟩ := bind_eq_ok.mp returned
      rw [List.map_cons, List.cons_append] at fits
      have added := @Holds.set _ _ _ data holds fits.fresh
      rw [← @names_next _ _ data] at fits
      obtain ⟨written, names, held⟩ := inductionHypothesis fits added returned
      refine ⟨(destination, data) :: written, by rw [List.map_cons, List.map_cons, names], ?_⟩
      rwa [List.append_assoc] at held

/-- The names of a contract in the order in which the builder writes the files. -/
def writtenNames (contract : Contract) : List String :=
  contract.apiAar.fileName ::
    (((sortByKey contract.cpuCore.abis.items).map fun item => item.2.bundleFileName) ++
      contract.boundedGpu.bundleFileName :: (licenseMapping.map Prod.fst ++
        ["downloadable-runtime-contract.json", "downloadable-runtime-index.json", "SHA256SUMS"]))

theorem fileNames_perm (contract : Contract) :
    contract.fileNames.Perm (writtenNames contract) := by
  have sorted : ((sortByKey contract.cpuCore.abis.items).map fun item =>
      item.2.bundleFileName).Perm
      (contract.cpuCore.abis.items.map fun item => item.2.bundleFileName) :=
    (sortByKey_perm _).map _
  simp only [Contract.fileNames, writtenNames, List.cons_append, List.append_assoc, List.nil_append]
  exact (sorted.symm.append_right _).cons _

theorem buildRelease_ok {sourceAar : Bytes} {label : String} {output : Dict String Bytes}
    (fits : FileNames contract.fileNames)
    (built : buildRelease py sourceAar label contract contractBytes = .ok output) :
    ∃ sourceEntries apiAar cpu gpu licenses unchecked,
      readArchiveBytes py sourceAar label = .ok sourceEntries ∧
        Released py sourceEntries contract contractBytes apiAar cpu gpu licenses unchecked
          output := by
  have names := fits.perm (fileNames_perm contract)
  unfold buildRelease at built
  obtain ⟨sourceEntries, opened, built⟩ := bind_eq_ok.mp built
  obtain ⟨afterApi, apiReturned, built⟩ := bind_eq_ok.mp built
  obtain ⟨⟨afterCpu, records⟩, cpuReturned, built⟩ := bind_eq_ok.mp built
  obtain ⟨⟨afterGpu, gpuRecord⟩, gpuReturned, built⟩ := bind_eq_ok.mp built
  obtain ⟨afterLicenses, licensesReturned, built⟩ := bind_eq_ok.mp built
  obtain ⟨apiAar, apiRead, checked⟩ := bind_eq_ok.mp built
  -- the files are added one after the other, in the order of `writtenNames`
  obtain ⟨apiData, apiBuilt, rfl⟩ := buildApiAar_ok_iff.mp apiReturned
  have empty : Holds Dict.empty [] := fun _ => rfl
  have apiHolds := @Holds.place _ _ _ apiData _ empty names
  obtain ⟨cpu, cpuBuilt, rfl, cpuHolds⟩ := buildCpuBundles_ok names apiHolds cpuReturned
  have gpuFits : FileNames (([] ++ [(contract.apiAar.fileName, apiData)] ++
      cpu.map bundleFile).map Prod.fst ++ contract.boundedGpu.bundleFileName ::
        (licenseMapping.map Prod.fst ++ ["downloadable-runtime-contract.json",
          "downloadable-runtime-index.json", "SHA256SUMS"])) := by
    rw [List.map_append, cpuBuilt_names cpuBuilt, List.append_assoc]
    exact names
  obtain ⟨gpuData, gpuBuilt, rfl⟩ := buildGpuBundle_ok_iff.mp gpuReturned
  have gpuHolds := @Holds.place _ _ _ gpuData _ cpuHolds gpuFits
  rw [← @names_next _ _ gpuData] at gpuFits
  obtain ⟨licenses, licensed, licensesHold⟩ := writeLicenses_ok gpuFits gpuHolds licensesReturned
  rw [← licensed, ← List.append_assoc, ← List.map_append] at gpuFits
  have contractHolds := @Holds.set _ _ _ contractBytes licensesHold gpuFits.fresh
  rw [← @names_next _ _ contractBytes] at gpuFits
  have apiFound : apiAar = apiData := by
    have distinct := (List.nodup_append.mp gpuFits.distinct).1
    have found := @Holds.get?_of_mem _ _ contract.apiAar.fileName apiData contractHolds distinct
      (by simp)
    rw [readOutput_ok_iff, found] at apiRead
    exact (Option.some.inj apiRead).symm
  subst apiFound
  have indexHolds := @Holds.set _ _ _ (jsonBytes (.ofDict (releaseIndex py contract apiAar
    (cpu.map Prod.fst ++ [gpuRecord])))) contractHolds gpuFits.fresh
  refine ⟨sourceEntries, apiAar, cpu, (gpuRecord, gpuData), licenses, _, opened,
    apiBuilt, cpuBuilt, gpuBuilt, licensed, ?_, checked⟩
  have gpuName : gpuRecord.fileName = contract.boundedGpu.bundleFileName := by
    obtain ⟨_, recorded⟩ := gpuBuilt.record
    exact congrArg BundleRecord.fileName recorded
  simpa [releaseFiles, bundleFile, gpuName] using indexHolds

end Built

end BssLiteRt.Downloadable
