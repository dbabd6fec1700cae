import BssLiteRt.Downloadable.Contract
import BssLiteRt.Downloadable.Files
import BssLiteRt.Python.Text

/-!
Owns `build_downloadable_runtime_bundles.py`: the API AAR, one bundle for each CPU
ABI, the bounded GPU bundle, the licences, the index and the checksums of a
release, written into an empty directory.
-/

namespace BssLiteRt.Downloadable

open BssLiteRt.Library BssLiteRt.Python BssLiteRt.Archive

def OLD_CONTRACT_ENTRY : String :=
  "META-INF/bss-litert/bounded-gpu-runtime-contract.json"

/-! ### Source entries -/

/-- The condition `require_blob` checks. -/
def matchesBlob (py : StandardLibrary) (data : Bytes) (byteSize sha256 : Json) : Bool :=
  (Json.int data.length).pyEq byteSize && (Json.str (py.hashlib.sha256 data)).pyEq sha256

@[simp] theorem matchesBlob_self (py : StandardLibrary) (data : Bytes) :
    matchesBlob py data (.int data.length) (.str (py.hashlib.sha256 data)) = true := by
  rw [matchesBlob, Json.pyEq_refl, Json.pyEq_refl]
  rfl

def requireBlob (py : StandardLibrary) (data : Bytes) (byteSize sha256 : Json) (label : String) :
    Py Unit :=
  raiseIf (!matchesBlob py data byteSize sha256) .valueError
    (label ++ " differs from the frozen contract: expected " ++ py.str byteSize ++ "/" ++
      py.str sha256 ++ ", got " ++ toString data.length ++ "/" ++ py.hashlib.sha256 data)

/-- `source_entries.get(path)`, which must not be `None`. -/
def sourceEntry (sourceEntries : Dict String Bytes) (path : String) : Py Bytes :=
  match sourceEntries.get? path with
  | some data => .ok data
  | none => raise .valueError ("Source AAR is missing " ++ path)

/-! ### Manifests -/

/-- The entry of a library in the `files` of a manifest. -/
def fileManifest (path : String) (byteSize sha256 elfClass machine soname needed : Json) :
    Dict String Json where
  items := [("path", .str path), ("byteSize", byteSize), ("sha256", sha256),
    ("elf", .obj [("class", elfClass), ("machine", machine), ("soname", soname),
      ("needed", needed)])]
  unique := by simp

def cpuFileManifest (contract : Contract) (metadata : CpuAbi) : Dict String Json :=
  fileManifest contract.cpuCore.libraryName metadata.byteSize metadata.sha256 metadata.elfClass
    metadata.machine metadata.soname (metadata.needed contract)

def gpuFileManifest (metadata : GpuFile) : Dict String Json :=
  let manifest := fileManifest metadata.path metadata.byteSize metadata.sha256 metadata.elfClass
    metadata.machine metadata.soname metadata.needed
  match metadata.runtimeLoads with
  | some runtimeLoads => manifest.set "runtimeLoads" runtimeLoads
  | none => manifest

def commonManifest (contract : Contract) (component : String) (abi : Document) :
    Py (Dict String Json) := do
  let fileName ← getItem contract.sourceAar.val "fileName"
  let sha256 ← getItem contract.sourceAar.val "sha256"
  return {
    items := [("schemaVersion", .int 1),
      ("contractSchemaVersion", contract.schemaVersion),
      ("releaseVersion", contract.releaseVersion),
      ("runtimeArtifactVersion", contract.runtimeArtifactVersion),
      ("baseLiteRtVersion", contract.baseLiteRtVersion),
      ("androidMinApi", contract.androidMinApi),
      ("component", .str component),
      ("abi", abi),
      ("sourceAar", .obj [("fileName", fileName), ("sha256", sha256)])]
    unique := by simp }

def cpuManifest (contract : Contract) (abi : String) (metadata : CpuAbi) :
    Py (Dict String Json) := do
  let manifest ← commonManifest contract "cpu-core" (textDocument abi)
  let manifest := manifest.set "capabilities" (.arr [.str "cpu"])
  return manifest.set "files" (.arr [.ofDict (cpuFileManifest contract metadata)])

/-- The manifest of the GPU bundle before its `files` are filled in. -/
def gpuManifest (contract : Contract) : Py (Dict String Json) := do
  let metadata := contract.boundedGpu
  let manifest ← commonManifest contract "bounded-gpu" metadata.abi
  let manifest := manifest.set "capabilities" (.arr [.str "gpu-opencl-bounded-fp32"])
  let manifest := manifest.set "requiredCore"
    (.obj [("abi", metadata.abi), ("librarySha256", metadata.requiredCoreSha256)])
  return manifest.set "profile" metadata.profile

/-! ### Bundles -/

/-- What the builder records of a bundle. -/
structure BundleRecord where
  component : String
  abi : Document
  fileName : String
  byteSize : Nat
  sha256 : String
  manifestSha256 : String

/-- The record of a bundle with the given bytes. -/
def recordOf (py : StandardLibrary) (component : String) (abi : Document) (fileName : String)
    (manifestBytes bundle : Bytes) : BundleRecord where
  component := component
  abi := abi
  fileName := fileName
  byteSize := bundle.length
  sha256 := py.hashlib.sha256 bundle
  manifestSha256 := py.hashlib.sha256 manifestBytes

/-- The record of a bundle that has been written. -/
def bundleRecord (py : StandardLibrary) (output : Dict String Bytes)
    (component : String) (abi : Document) (fileName : String) (manifestBytes : Bytes) :
    Py BundleRecord := do
  let bundle ← readOutput output fileName
  return recordOf py component abi fileName manifestBytes bundle

def buildApiAar (py : StandardLibrary) (sourceEntries : Dict String Bytes) (contract : Contract)
    (contractBytes : Bytes) (output : Dict String Bytes) : Py (Dict String Bytes) := do
  match sourceEntries.get? "classes.jar" with
  | none => raise .valueError "Source classes.jar differs from the frozen contract"
  | some classes =>
      let expected ← contract.classesJarSha256
      raiseIf (!(Json.str (py.hashlib.sha256 classes)).pyEq expected) .valueError
        "Source classes.jar differs from the frozen contract"
      let apiEntries := sourceEntries.filter fun name _ =>
        !startsWith name "jni/" && name ≠ OLD_CONTRACT_ENTRY
      writeArchive py output contract.apiAar.fileName
        (apiEntries.set contract.apiAar.embeddedContractPath contractBytes)

/-- One turn of the loop of `build_cpu_bundles`. -/
def buildCpuBundle (py : StandardLibrary) (sourceEntries : Dict String Bytes) (contract : Contract)
    (abi : String) (metadata : CpuAbi) (output : Dict String Bytes) :
    Py (Dict String Bytes × BundleRecord) := do
  let library ← sourceEntry sourceEntries metadata.sourcePath
  requireBlob py library metadata.byteSize metadata.sha256 metadata.sourcePath
  let manifest ← cpuManifest contract abi metadata
  let manifestBytes := jsonBytes (.ofDict manifest)
  let output ← writeArchive py output metadata.bundleFileName
    (.ofPairs [("manifest.json", manifestBytes), (contract.cpuCore.libraryName, library)])
  let record ← bundleRecord py output "cpu-core" (textDocument abi) metadata.bundleFileName
    manifestBytes
  return (output, record)

def buildCpuBundles (py : StandardLibrary) (sourceEntries : Dict String Bytes)
    (contract : Contract) (abis : List (String × CpuAbi)) (output : Dict String Bytes) :
    Py (Dict String Bytes × List BundleRecord) :=
  match abis with
  | [] => .ok (output, [])
  | (abi, metadata) :: rest => do
      let (output, record) ← buildCpuBundle py sourceEntries contract abi metadata output
      let (output, records) ← buildCpuBundles py sourceEntries contract rest output
      return (output, record :: records)

/-- The loop of `build_gpu_bundle` over the files of the contract. -/
def addGpuFiles (py : StandardLibrary) (sourceEntries : Dict String Bytes) (files : List GpuFile)
    (manifests : List Json) (archiveEntries : Dict String Bytes) :
    Py (List Json × Dict String Bytes) :=
  match files with
  | [] => .ok (manifests, archiveEntries)
  | metadata :: rest => do
      let library ← sourceEntry sourceEntries metadata.sourcePath
      requireBlob py library metadata.byteSize metadata.sha256 metadata.sourcePath
      addGpuFiles py sourceEntries rest (manifests ++ [.ofDict (gpuFileManifest metadata)])
        (archiveEntries.set metadata.path library)

def buildGpuBundle (py : StandardLibrary) (sourceEntries : Dict String Bytes) (contract : Contract)
    (output : Dict String Bytes) : Py (Dict String Bytes × BundleRecord) := do
  let metadata := contract.boundedGpu
  let manifest ← gpuManifest contract
  let (files, archiveEntries) ← addGpuFiles py sourceEntries metadata.files [] Dict.empty
  let manifestBytes := jsonBytes (.ofDict (manifest.set "files" (.arr files)))
  let output ← writeArchive py output metadata.bundleFileName
    (archiveEntries.set "manifest.json" manifestBytes)
  let record ← bundleRecord py output "bounded-gpu" metadata.abi metadata.bundleFileName
    manifestBytes
  return (output, record)

/-! ### The release -/

/-- The file names of the licences in the release and in the source AAR. -/
def licenseMapping : List (String × String) :=
  [("LICENSE-LiteRT.txt", "LICENSE"), ("THIRD_PARTY_NOTICE-LiteRT.txt", "THIRD_PARTY_NOTICE.txt")]

def writeLicenses (sourceEntries : Dict String Bytes) (licenses : List (String × String))
    (output : Dict String Bytes) : Py (Dict String Bytes) :=
  match licenses with
  | [] => .ok output
  | (destination, source) :: rest => do
      let data ← sourceEntry sourceEntries source
      writeLicenses sourceEntries rest (output.set destination data)

def baseUrl (py : StandardLibrary) (contract : Contract) : String :=
  "https://github.com/WluhWluh/bss-litert-android/releases/download/" ++
    py.str contract.releaseTag

/-- `{**record, "downloadUrl": ...}` -/
def BundleRecord.indexed (py : StandardLibrary) (contract : Contract) (record : BundleRecord) :
    Dict String Json where
  items := [("component", .str record.component), ("abi", record.abi),
    ("fileName", .str record.fileName), ("byteSize", .int record.byteSize),
    ("sha256", .str record.sha256), ("manifestSha256", .str record.manifestSha256),
    ("downloadUrl", .str (baseUrl py contract ++ "/" ++ record.fileName))]
  unique := by simp

/-- `sorted(bundles, key=lambda value: value["fileName"])` -/
def sortedRecords (records : List BundleRecord) : List BundleRecord :=
  records.insertionSort fun left right => left.fileName ≤ right.fileName

def releaseIndex (py : StandardLibrary) (contract : Contract) (apiAar : Bytes)
    (records : List BundleRecord) : Dict String Json where
  items := [("schemaVersion", .int 1),
    ("contractSchemaVersion", contract.schemaVersion),
    ("releaseVersion", contract.releaseVersion),
    ("releaseTag", contract.releaseTag),
    ("runtimeArtifactVersion", contract.runtimeArtifactVersion),
    ("sourceAar", contract.sourceAar),
    ("apiAar", .obj [("fileName", .str contract.apiAar.fileName),
      ("byteSize", .int apiAar.length),
      ("sha256", .str (py.hashlib.sha256 apiAar)),
      ("downloadUrl", .str (baseUrl py contract ++ "/" ++ contract.apiAar.fileName))]),
    ("bundles", .arr ((sortedRecords records).map fun record =>
      .ofDict (record.indexed py contract)))]
  unique := by simp

/-- The files of a directory that `SHA256SUMS` covers. -/
def checkedFiles (output : Dict String Bytes) : Dict String Bytes :=
  output.filter fun name _ => name ≠ "SHA256SUMS"

def checksumLine (py : StandardLibrary) (asset : String × Bytes) : String :=
  py.hashlib.sha256 asset.2 ++ "  " ++ asset.1 ++ "\n"

def writeChecksums (py : StandardLibrary) (output : Dict String Bytes) :
    Py (Dict String Bytes) := do
  let assets := sortByKey (checkedFiles output).items
  let data ← encodeAscii (joinTexts (assets.map (checksumLine py)))
  return output.set "SHA256SUMS" data

/-- `build_release` on the contents of its files. The label names the source AAR in
a message. -/
def buildRelease (py : StandardLibrary) (sourceAar : Bytes) (label : String) (contract : Contract)
    (contractBytes : Bytes) : Py (Dict String Bytes) := do
  let sourceEntries ← readArchiveBytes py sourceAar label
  let output ← buildApiAar py sourceEntries contract contractBytes Dict.empty
  let (output, bundles) ←
    buildCpuBundles py sourceEntries contract (sortByKey contract.cpuCore.abis.items) output
  let (output, gpuBundle) ← buildGpuBundle py sourceEntries contract output
  let output ← writeLicenses sourceEntries licenseMapping output
  let output := output.set "downloadable-runtime-contract.json" contractBytes
  let apiAar ← readOutput output contract.apiAar.fileName
  let index := releaseIndex py contract apiAar (bundles ++ [gpuBundle])
  let output := output.set "downloadable-runtime-index.json" (jsonBytes (.ofDict index))
  writeChecksums py output

end BssLiteRt.Downloadable
