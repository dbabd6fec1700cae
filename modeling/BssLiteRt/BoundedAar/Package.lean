import BssLiteRt.Archive.Readers
import BssLiteRt.Python.Collections
import BssLiteRt.Python.JsonFiles

/-!
Owns `package_bounded_gpu_aar.py` on the contents of its files: the official AARs
are merged, capability classes and native libraries are put in, components are
taken out, and the AAR and its manifest are made from the result.
-/

namespace BssLiteRt.BoundedAar

open BssLiteRt.Library BssLiteRt.Python BssLiteRt.Archive

def CAPABILITY_CLASS_PREFIX : String :=
  "io/github/wluhwluh/bss/litert/BssLiteRtRuntime"

def CONTRACT_ENTRY : String :=
  "META-INF/bss-litert/bounded-gpu-runtime-contract.json"

def GPU_OPTION_PATCH : String :=
  "patches/bounded-gpu-runtime/0001-map-command-buffer-option-to-kernel-batch.patch"

def SOURCE_FILES : List String :=
  ["config/bounded-gpu-runtime.env",
    "contracts/bounded-gpu-runtime-contract.json",
    GPU_OPTION_PATCH,
    "runtime/bounded-gpu/java/io/github/wluhwluh/bss/litert/BssLiteRtRuntime.java",
    "runtime/bounded-gpu/opencl_queue_shim.c",
    "runtime/bounded-gpu/opencl_stub.c",
    "scripts/build-bounded-gpu-runtime.sh",
    "scripts/package_bounded_gpu_aar.py",
    "scripts/patch_bounded_gpu_accelerator.py",
    "scripts/verify_bounded_gpu_aar.py"]

/-- The fields of the bounded-GPU contract that the scripts read. A field that is
only copied or compared stays a JSON document. -/
structure Contract where
  coordinate : Document
  baseLiteRtVersion : Document
  capability : Document
  nativeMatrix : Dict String (List String)
  removedOfficialComponents : List String

/-- The contract as `bounded-gpu-runtime-contract.json` states it. -/
def Contract.document (contract : Contract) : Json :=
  .obj [("coordinate", contract.coordinate), ("baseLiteRtVersion", contract.baseLiteRtVersion),
    ("capability", contract.capability),
    ("nativeMatrix", .obj (contract.nativeMatrix.items.map fun item =>
      (item.1, .arr (item.2.map Json.str)))),
    ("removedOfficialComponents", .arr (contract.removedOfficialComponents.map Json.str))]

/-- The arguments of the packager: the contents of the files they name, the paths
of the AARs as messages show them, and what `git rev-parse HEAD` prints. -/
structure Inputs where
  implementationAar : Bytes
  implementationPath : String
  apiAar : Bytes
  apiPath : String
  arm64Jni : Bytes
  arm64Accelerator : Bytes
  arm64Shim : Bytes
  x86Supplement : Bytes
  x86Path : String
  capabilityClasses : Dict String Bytes
  sourceRoot : String → Option Bytes
  repositoryHead : Py String
  litertSourceCommit : String
  acceleratorPatchResult : String
  outputName : String

/-! ### The official AARs -/

/-- The loop of `merge_official_aars` over the entries of the API AAR. -/
def mergeEntries (api : List (String × Bytes)) (entries : Dict String Bytes) :
    Py (Dict String Bytes) :=
  match api with
  | [] => .ok entries
  | (name, data) :: rest =>
      if name = "classes.jar" then
        mergeEntries rest entries
      else if startsWith name "jni/" then
        if name ∈ entries then
          raise .valueError ("Official native component overlaps: " ++ name)
        else
          mergeEntries rest (entries.set name data)
      else
        match entries.get? name with
        | none => mergeEntries rest (entries.set name data)
        | some shared =>
            if shared ≠ data then
              raise .valueError ("Official shared AAR entry differs: " ++ name)
            else
              mergeEntries rest entries

def mergeOfficialAars (py : StandardLibrary) (implementation api : Dict String Bytes) :
    Py (Dict String Bytes) := do
  let implementationClasses ←
    readArchiveBytes py (← entryOf implementation "classes.jar") "implementation classes.jar"
  let apiClasses ← readArchiveBytes py (← entryOf api "classes.jar") "API classes.jar"
  let apiClasses := apiClasses.erase "META-INF/MANIFEST.MF"
  let duplicateClasses := sortedIntersection implementationClasses.keys apiClasses.keys
  raiseIf (duplicateClasses ≠ []) .valueError
    ("Official implementation/API classes overlap: " ++ showNames py duplicateClasses)
  let classes ← archiveBytes py (implementationClasses.update apiClasses)
  mergeEntries api.items (implementation.set "classes.jar" classes)

/-! ### Classes and libraries -/

/-- The classes that the capability compilation has to produce. -/
def expectedClasses : List String :=
  [CAPABILITY_CLASS_PREFIX ++ ".class", CAPABILITY_CLASS_PREFIX ++ "$Capability.class"]

def addCapabilityClasses (py : StandardLibrary) (compiledClasses entries : Dict String Bytes) :
    Py (Dict String Bytes) := do
  let classesEntries ← readArchiveBytes py (← entryOf entries "classes.jar") "classes.jar"
  raiseIf (!sameNames compiledClasses.keys expectedClasses) .valueError
    ("Capability compilation produced an unexpected class set: " ++
      showNames py (sortedNames compiledClasses.keys))
  let duplicates := sortedIntersection classesEntries.keys compiledClasses.keys
  raiseIf (duplicates ≠ []) .valueError
    ("Capability classes already exist: " ++ showNames py duplicates)
  let classes ← archiveBytes py (classesEntries.update compiledClasses)
  return entries.set "classes.jar" classes

/-- The names of the entries under `jni/`. -/
def nativeNames (entries : Dict String Bytes) : List String :=
  entries.keys.filter fun name => startsWith name "jni/"

def expectedX86 : List String :=
  ["jni/x86/libLiteRt.so", "jni/x86/liblitert_jni.so"]

/-- `for name in expected_x86: entries[name] = x86_entries[name]` -/
def copyEntries (names : List String) (source entries : Dict String Bytes) :
    Py (Dict String Bytes) :=
  match names with
  | [] => .ok entries
  | name :: rest => do
      let data ← entryOf source name
      copyEntries rest source (entries.set name data)

def addNativeLibraries (py : StandardLibrary) (inputs : Inputs) (entries : Dict String Bytes) :
    Py (Dict String Bytes) := do
  let x86Entries ← readArchiveBytes py inputs.x86Supplement inputs.x86Path
  raiseIf (!sameNames (nativeNames x86Entries) expectedX86) .valueError
    "x86 supplement does not contain the expected split pair"
  let entries := entries.set "jni/arm64-v8a/liblitert_jni.so" inputs.arm64Jni
  let entries := entries.set "jni/arm64-v8a/libLiteRtClGlAccelerator.so" inputs.arm64Accelerator
  let entries := entries.set "jni/arm64-v8a/libBssOcl.so" inputs.arm64Shim
  copyEntries expectedX86 x86Entries entries

/-- `for removed in removed_components: entries.pop(removed, None)` -/
def removeComponents (removed : List String) (entries : Dict String Bytes) : Dict String Bytes :=
  removed.foldl Dict.erase entries

/-! ### The native matrix -/

def nativePath (abi library : String) : String :=
  "jni/" ++ abi ++ "/" ++ library

def expectedNativeEntries (contract : Contract) : List String :=
  contract.nativeMatrix.items.flatMap fun item => item.2.map (nativePath item.1)

/-- The entries of the AAR. -/
def assembleEntries (py : StandardLibrary) (contract : Contract) (contractBytes : Bytes)
    (inputs : Inputs) : Py (Dict String Bytes) := do
  let implementationEntries ←
    readArchiveBytes py inputs.implementationAar inputs.implementationPath
  let apiEntries ← readArchiveBytes py inputs.apiAar inputs.apiPath
  let entries ← mergeOfficialAars py implementationEntries apiEntries
  let entries ← addCapabilityClasses py inputs.capabilityClasses entries
  let entries ← addNativeLibraries py inputs entries
  let entries := removeComponents contract.removedOfficialComponents entries
  let entries := entries.set CONTRACT_ENTRY contractBytes
  let actualNative := nativeNames entries
  let expectedNative := expectedNativeEntries contract
  raiseIf (!sameNames actualNative expectedNative) .valueError
    ("Packaged native matrix differs from the contract: missing=" ++
      showNames py (sortedDifference expectedNative actualNative) ++ ", unexpected=" ++
      showNames py (sortedDifference actualNative expectedNative))
  return entries

/-! ### The manifest -/

def parsePatchResult (py : StandardLibrary) (value : String) (fieldCount : Nat) (label : String) :
    Py (List String) :=
  let fields := splitColon (strip value)
  if fields.length ≠ fieldCount ∨ "" ∈ fields then
    raise .valueError ("Invalid " ++ label ++ " result: " ++ py.repr value)
  else
    .ok fields

def repositoryCommit (inputs : Inputs) : Py String := do
  let printed ← inputs.repositoryHead
  return strip printed

/-- The loop of `source_hashes` over `SOURCE_FILES`. -/
def sourceHashes (py : StandardLibrary) (sourceRoot : String → Option Bytes)
    (relatives : List String) (result : Dict String Json) : Py (Dict String Json) :=
  match relatives with
  | [] => .ok result
  | relative :: rest =>
      match sourceRoot relative with
      | none => raise .valueError ("Required source file is missing: " ++ relative)
      | some source =>
          sourceHashes py sourceRoot rest
            (result.set relative (.str (py.hashlib.sha256 source)))

/-- `{"byteSize": len(data), "sha256": sha256(data)}` -/
def componentRecord (py : StandardLibrary) (data : Bytes) : Json :=
  .obj [("byteSize", .int data.length), ("sha256", .str (py.hashlib.sha256 data))]

/-- The entries under `jni/`, described in the order of their names. -/
def nativeComponents (py : StandardLibrary) (entries : Dict String Bytes) : Dict String Json :=
  (Dict.ofPairs (sortByKey (entries.filter fun name _ => startsWith name "jni/").items)).mapValues
    fun _ data => componentRecord py data

def inputArtifacts (py : StandardLibrary) (inputs : Inputs) : Json :=
  .obj [("officialImplementationAar", .str (py.hashlib.sha256 inputs.implementationAar)),
    ("officialApiAar", .str (py.hashlib.sha256 inputs.apiAar)),
    ("x86SupplementAar", .str (py.hashlib.sha256 inputs.x86Supplement))]

def sourceBuild (py : StandardLibrary) (inputs : Inputs) (patchSha256 : Json) : Json :=
  .obj [("liteRtCommit", .str inputs.litertSourceCommit),
    ("target", .str "//litert/kotlin:litert_jni"),
    ("abi", .str "arm64-v8a"),
    ("patchSha256", patchSha256),
    ("outputSha256", .str (py.hashlib.sha256 inputs.arm64Jni))]

def transformations (offset : Int) (patchedSha256 : String) : Json :=
  .obj [("gpuOptionMapping", .obj [("sourceKey", .str "numStepsOfCommandBufferPreparations"),
      ("runtimeOption", .str "kernel_batch_size"),
      ("value", .int 1)]),
    ("openClLoader", .obj [("offset", .int offset),
      ("patchedSha256", .str patchedSha256),
      ("replacement", .str "libBssOcl.so")])]

def buildManifest (py : StandardLibrary) (contract : Contract) (contractBytes : Bytes)
    (inputs : Inputs) (entries : Dict String Bytes) (aar : Bytes) : Py (Dict String Json) := do
  let acceleratorPatch ←
    parsePatchResult py inputs.acceleratorPatchResult 2 "accelerator patch"
  let sources ← sourceHashes py inputs.sourceRoot SOURCE_FILES Dict.empty
  let commit ← repositoryCommit inputs
  let patchSha256 ← getItem (.ofDict sources) GPU_OPTION_PATCH
  let offset ← py.int (acceleratorPatch.getD 0 "")
  let classesJar ← entryOf entries "classes.jar"
  return {
    items := [("schemaVersion", .str "bss-litert-bounded-gpu-build-v2"),
      ("coordinate", contract.coordinate),
      ("baseLiteRtVersion", contract.baseLiteRtVersion),
      ("repositoryCommit", .str commit),
      ("contractSha256", .str (py.hashlib.sha256 contractBytes)),
      ("inputArtifacts", inputArtifacts py inputs),
      ("sourceBuild", sourceBuild py inputs patchSha256),
      ("transformations", transformations offset (acceleratorPatch.getD 1 "")),
      ("capability", contract.capability),
      ("nativeComponents", .ofDict (nativeComponents py entries)),
      ("classesJar", componentRecord py classesJar),
      ("sourceSha256", .ofDict sources),
      ("aar", .obj [("fileName", .str inputs.outputName),
        ("byteSize", .int aar.length),
        ("sha256", .str (py.hashlib.sha256 aar))])]
    unique := by simp }

/-- The AAR and the manifest that the packager writes. -/
structure Output where
  aar : Bytes
  manifest : Bytes

/-- `main` of the packager. -/
def packageMain (py : StandardLibrary) (contract : Contract) (contractBytes : Bytes)
    (inputs : Inputs) : Py Output := do
  let entries ← assembleEntries py contract contractBytes inputs
  let aar ← archiveBytes py entries
  let manifest ← buildManifest py contract contractBytes inputs entries aar
  return ⟨aar, jsonBytes (.ofDict manifest)⟩

end BssLiteRt.BoundedAar
