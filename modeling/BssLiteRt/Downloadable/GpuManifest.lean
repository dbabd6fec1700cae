import BssLiteRt.Downloadable.Index

/-!
Owns the manifest of an accepted bounded GPU bundle. `verify_gpu_bundle` compares
the component, the ABI, the profile and the core hash; it reads neither `files`
nor the ABI of `requiredCore`.
-/

namespace BssLiteRt.Downloadable

open BssLiteRt.Library BssLiteRt.Python BssLiteRt.Archive

/-- The manifest that a bundle carries. -/
def loadedManifest (py : StandardLibrary) (dist : Directory) (path : String) : Py Json := do
  let manifestBytes ← bundleManifest py dist path
  py.json.loadsBytes manifestBytes

/-- The `files` that `build_gpu_bundle` writes. -/
def gpuFileManifests (contract : Contract) : Json :=
  .arr (contract.boundedGpu.files.map fun file => .ofDict (gpuFileManifest file))

def ListsContractFiles (contract : Contract) (manifest : Json) : Prop :=
  ∃ files, manifest.field? "files" = some files ∧ files.pyEq (gpuFileManifests contract) = true

def NamesCoreAbi (contract : Contract) (manifest : Json) : Prop :=
  ∃ requiredCore abi, manifest.field? "requiredCore" = some requiredCore ∧
    requiredCore.field? "abi" = some abi ∧ abi.pyEq contract.boundedGpu.abi = true

def NamesCoreHash (contract : Contract) (manifest : Json) : Prop :=
  ∃ requiredCore librarySha256, manifest.field? "requiredCore" = some requiredCore ∧
    requiredCore.field? "librarySha256" = some librarySha256 ∧
    librarySha256.pyEq contract.boundedGpu.requiredCoreSha256 = true

/-- A manifest that lists the files of the contract and names its core. -/
structure TrueGpuManifest (contract : Contract) (manifest : Json) : Prop where
  files : ListsContractFiles contract manifest
  coreAbi : NamesCoreAbi contract manifest
  coreHash : NamesCoreHash contract manifest

section Accepted

variable {py : StandardLibrary} {contract : Contract} {dist : Directory} {path : String}

theorem loadedManifest_of_entries {entries : Dict String Bytes} {manifestBytes : Bytes}
    {manifest : Json} (opened : readBundle py dist path = .ok entries)
    (present : entries.get? "manifest.json" = some manifestBytes)
    (loaded : py.json.loadsBytes manifestBytes = .ok manifest) :
    loadedManifest py dist path = .ok manifest := by
  rw [loadedManifest, bundleManifest, opened, ok_bind, entryOf_ok_iff.mpr present, ok_bind, loaded]

/-- An accepted manifest is true exactly when the two parts that no check reads
agree with the contract. -/
theorem accepted_gpu_manifest_true_iff (py : StandardLibrary) (contract : Contract)
    (dist : Directory) (path : String)
    (accepted : verifyGpuBundle py dist path contract = .ok ()) :
    ∃ manifest, loadedManifest py dist path = .ok manifest ∧
      (TrueGpuManifest contract manifest ↔
        ListsContractFiles contract manifest ∧ NamesCoreAbi contract manifest) := by
  obtain ⟨entries, manifestBytes, manifest, opened, -, -, present, loaded, -, -, coreHash, -⟩ :=
    verifyGpuBundle_ok_iff.mp accepted
  refine ⟨manifest, loadedManifest_of_entries opened present loaded, ?_⟩
  constructor
  · exact fun isTrue => ⟨isTrue.files, isTrue.coreAbi⟩
  · exact fun parts => ⟨parts.1, parts.2, coreHash⟩

/-- A manifest with any `files` and any ABI of the core. -/
def looseManifest (contract : Contract) (files coreAbi : Document) : Dict String Json where
  items := [("abi", contract.boundedGpu.abi), ("component", .str "bounded-gpu"),
    ("files", files), ("profile", contract.boundedGpu.profile),
    ("requiredCore", .obj [("abi", coreAbi),
      ("librarySha256", contract.boundedGpu.requiredCoreSha256)])]
  unique := by simp

theorem wellFormed_looseCore (contract : Contract) (coreAbi : Document) :
    (Json.obj [("abi", coreAbi.val),
      ("librarySha256", contract.boundedGpu.requiredCoreSha256.val)]).WellFormed := by
  rw [Json.wellFormed_obj]
  simp [coreAbi.property, contract.boundedGpu.requiredCoreSha256.property]

theorem wellFormed_looseManifest (contract : Contract) (files coreAbi : Document) :
    (Json.ofDict (looseManifest contract files coreAbi)).WellFormed := by
  rw [Json.wellFormed_ofDict]
  simp only [looseManifest, List.forall_mem_cons]
  exact ⟨contract.boundedGpu.abi.property, trivial, files.property, contract.boundedGpu.profile.property,
    wellFormed_looseCore contract coreAbi, by simp⟩

/-- Whatever `files` lists and whatever ABI the core is said to have, the bundle is
accepted. -/
theorem loose_bundle_accepted (files coreAbi : Document) {entries : Dict String Bytes}
    (opened : readBundle py dist path = .ok entries)
    (names : ∀ name, name ∈ entries ↔
      name ∈ "manifest.json" :: contract.boundedGpu.files.map fun file => file.path)
    (libraries : verifyGpuLibraries py entries contract.boundedGpu.files = .ok ())
    (present : entries.get? "manifest.json" =
      some (jsonBytes (.ofDict (looseManifest contract files coreAbi)))) :
    verifyGpuBundle py dist path contract = .ok () := by
  have wellFormed := wellFormed_looseManifest contract files coreAbi
  have field {key : String} {value : Json}
      (atKey : (looseManifest contract files coreAbi).get? key = some value) :=
    field?_loaded wellFormed atKey
  rw [verifyGpuBundle_ok_iff]
  refine ⟨entries, _, _, opened, hasExactly_iff.mpr names, libraries, present,
    py.json.loadsBytes_dumps _ wellFormed,
    ⟨@field _ (.str "bounded-gpu") rfl, _, @field _ contract.boundedGpu.abi.val rfl,
      Json.pyEq_sortKeys _⟩,
    ⟨_, field rfl, Json.pyEq_sortKeys _⟩, ⟨_, _, field rfl, ?_, Json.pyEq_sortKeys _⟩,
    (jsonBytes_sortKeys _).symm⟩
  exact field?_sorted (wellFormed_looseCore contract coreAbi) rfl

end Accepted

/-! ### A manifest that lists no file -/

def libraryContract : Contract :=
  { bareContract with
    boundedGpu := { bareContract.boundedGpu with files := [sampleGpuFile] } }

/-- No file, and a core of another ABI. -/
def emptyManifest : Dict String Json :=
  looseManifest libraryContract ⟨.arr [], by simp [Json.wellFormed_arr]⟩ (textDocument "x86_64")

def libraryItems : List (String × Bytes) :=
  [("libGpu.so", [4]), ("manifest.json", jsonBytes (.ofDict emptyManifest))]

theorem libraryItems_canonical : CanonicalItems libraryItems where
  normal := List.forall_mem_cons.mpr ⟨by decide, List.forall_mem_singleton.mpr (by decide)⟩
  unique := by
    show ["libGpu.so", "manifest.json"].Nodup
    decide
  sorted := by
    rw [libraryItems, List.pairwise_pair]
    decide

def libraryDirectory : Directory where
  name := "dist"
  files := ⟨[("gpu.zip", concreteLibrary.zipfile.write (libraryItems.map archived))],
    List.nodup_singleton _⟩
  elsewhere := fun _ => none

theorem library_opened : readBundle concreteLibrary libraryDirectory "gpu.zip" =
    .ok libraryItems_canonical.dict := by
  have plain : IsPlain "gpu.zip" := by decide
  refine readBundle_ok_iff.mpr ⟨_, ?_, libraryItems_canonical.readNormalizedArchive_write _⟩
  rw [lookup_plain plain]
  rfl

theorem library_accepted :
    verifyGpuBundle concreteLibrary libraryDirectory "gpu.zip" libraryContract = .ok () := by
  have libraries : verifyGpuLibraries concreteLibrary libraryItems_canonical.dict
      libraryContract.boundedGpu.files = .ok () := by
    rw [verifyGpuLibraries_ok_iff]
    refine List.forall_mem_singleton.mpr ⟨[4], rfl, ?_⟩
    exact matchesBlob_self concreteLibrary [4]
  refine loose_bundle_accepted _ _ library_opened ?_ libraries rfl
  intro name
  show name ∈ ["libGpu.so", "manifest.json"] ↔ name ∈ ["manifest.json", "libGpu.so"]
  simp only [List.mem_cons, List.not_mem_nil, or_false]
  exact or_comm

/-- An accepted bundle whose manifest lists no file. -/
theorem empty_manifest_accepted :
    verifyGpuBundle concreteLibrary libraryDirectory "gpu.zip" libraryContract = .ok () ∧
      ∃ manifest, loadedManifest concreteLibrary libraryDirectory "gpu.zip" = .ok manifest ∧
        ¬ TrueGpuManifest libraryContract manifest := by
  have wellFormed : (Json.ofDict emptyManifest).WellFormed := wellFormed_looseManifest _ _ _
  have loaded := concreteLibrary.json.loadsBytes_dumps _ wellFormed
  refine ⟨library_accepted, _, loadedManifest_of_entries library_opened rfl loaded, ?_⟩
  rintro ⟨⟨files, listed, same⟩, -, -⟩
  have empty := field?_loaded wellFormed (rfl : emptyManifest.get? "files" = some (.arr []))
  rw [Option.some.inj (listed.symm.trans empty)] at same
  rw [Json.pyEq_iff, Json.sortKeys_arr, gpuFileManifests, Json.normal_arr, Json.normal_arr] at same
  exact absurd (Json.arr.inj same) (by simp [libraryContract])

theorem accepted_gpu_manifest_true_iff_library :
    ∃ manifest, loadedManifest concreteLibrary libraryDirectory "gpu.zip" = .ok manifest ∧
      (TrueGpuManifest libraryContract manifest ↔
        ListsContractFiles libraryContract manifest ∧ NamesCoreAbi libraryContract manifest) :=
  accepted_gpu_manifest_true_iff concreteLibrary libraryContract libraryDirectory "gpu.zip"
    library_accepted

end BssLiteRt.Downloadable
