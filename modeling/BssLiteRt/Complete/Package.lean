import BssLiteRt.Archive.Readers
import BssLiteRt.Python.Collections
import BssLiteRt.Python.JsonFiles

/-!
Owns `package_complete_aar.py` on the contents of its files: the entries of the API
AAR, the native libraries and the notices make the complete AAR, with a manifest of
its components inside and beside it.
-/

namespace BssLiteRt.Complete

open BssLiteRt.Library BssLiteRt.Python BssLiteRt.Archive

def REPLACED_API_ENTRIES : List String :=
  ["consumer-rules.pro", "proguard.txt"]

/-- The fields of the complete-runtime contract that the scripts read. A field that
is only copied or compared stays a JSON document. -/
structure Contract where
  group : String
  name : String
  minSdk : Document
  jvmTarget : Document
  nativeLibraries : Dict String (List String)

/-- The files that the packager puts together. The native directory holds its regular
files by their paths from it. -/
structure Inputs where
  apiAar : Bytes
  nativeDir : Dict String Bytes
  consumerRules : Bytes
  license : Bytes
  thirdPartyLicenses : Bytes
  notices : Bytes

/-! ### Native libraries -/

def nativePath (abi library : String) : String :=
  "jni/" ++ abi ++ "/" ++ library

/-- The libraries of the contract with their ABIs, in its order. -/
def nativePairs (contract : Contract) : List (String × String) :=
  contract.nativeLibraries.items.flatMap fun item => item.2.map fun abi => (abi, item.1)

/-- The entry of each library, with the path of its file. -/
def expectedNativeEntries (contract : Contract) : Dict String String :=
  .ofPairs ((nativePairs contract).map fun pair =>
    (nativePath pair.1 pair.2, (PurePosixPath.join pair.1 pair.2).asPosix))

/-- `{archive_name: actual_files[relative] for archive_name, relative in expected}` -/
def copyNativeFiles (actualFiles : Dict String Bytes) (expected : List (String × String))
    (entries : Dict String Bytes) : Py (Dict String Bytes) :=
  match expected with
  | [] => .ok entries
  | (archiveName, relative) :: rest => do
      let data ← entryOf actualFiles relative
      copyNativeFiles actualFiles rest (entries.set archiveName data)

def readNativeEntries (nativeDir : Dict String Bytes) (expected : Dict String String) :
    Py (Dict String Bytes) := do
  let actualFiles := nativeDir.filter fun relative _ => endsWith relative ".so"
  let expectedFiles := expected.items.map Prod.snd
  let missing := sortedDifference expectedFiles actualFiles.keys
  let extra := sortedDifference actualFiles.keys expectedFiles
  raiseIf (missing ≠ []) .valueError
    ("Missing native libraries: " ++ String.intercalate ", " missing)
  raiseIf (extra ≠ []) .valueError
    ("Unexpected native libraries: " ++ String.intercalate ", " extra)
  copyNativeFiles actualFiles expected.items Dict.empty

/-! ### The API AAR -/

/-- The loop of `read_api_entries`. -/
def keepApiEntries (stored : List ZipEntry) (entries : Dict String Bytes) :
    Py (Dict String Bytes) :=
  match stored with
  | [] => .ok entries
  | entry :: rest =>
      let name := rstripSlash entry.info.filename
      if name = "" ∨ entry.info.isDir then
        keepApiEntries rest entries
      else if startsWith name "jni/" ∨ endsWith name ".so" then
        raise .valueError ("Pure API AAR contains native code: " ++ name)
      else if name ∈ REPLACED_API_ENTRIES then
        keepApiEntries rest entries
      else if name ∈ entries then
        raise .valueError ("Duplicate API AAR entry: " ++ name)
      else
        keepApiEntries rest (entries.set name entry.data)

/-- `for required in names: if required not in entries: raise ...` -/
def requireApiEntries (entries : Dict String Bytes) : List String → Py Unit
  | [] => .ok ()
  | required :: rest => do
      raiseIf (required ∉ entries) .valueError ("Pure API AAR is missing " ++ required ++ ".")
      requireApiEntries entries rest

def readApiEntries (py : StandardLibrary) (apiAar : Bytes) : Py (Dict String Bytes) := do
  let entries ← keepApiEntries (← py.zipfile.read apiAar) Dict.empty
  requireApiEntries entries ["AndroidManifest.xml", "classes.jar"]
  return entries

/-! ### The manifest -/

/-- `{"bytes": len(data), "sha256": ...}` -/
def componentRecord (py : StandardLibrary) (data : Bytes) : Json :=
  .obj [("bytes", .int data.length), ("sha256", .str (py.hashlib.sha256 data))]

/-- The entries that `build_manifest` records. -/
def isRecorded (name : String) : Bool :=
  name = "classes.jar" ∨ startsWith name "jni/"

def recordedComponents (py : StandardLibrary) (entries : Dict String Bytes) : Dict String Json :=
  (Dict.ofPairs (sortByKey (entries.filter fun name _ => isRecorded name).items)).mapValues
    fun _ data => componentRecord py data

/-- The coordinate and platform of the artifact. -/
def artifactJson (contract : Contract) (group name version : String) : Json :=
  .obj [("group", .str group), ("name", .str name), ("version", .str version),
    ("minSdk", contract.minSdk), ("jvmTarget", contract.jvmTarget)]

def buildManifest (py : StandardLibrary) (artifactVersion : String) (contract : Contract)
    (sourceLock : Document) (entries : Dict String Bytes) : Py (Dict String Json) := do
  let liteRt ← getItem sourceLock.val "liteRt"
  let patchSeries ← getItem sourceLock.val "patchSeries"
  return {
    items := [("schemaVersion", .int 1),
      ("artifact", artifactJson contract contract.group contract.name artifactVersion),
      ("liteRt", liteRt),
      ("patchSeries", patchSeries),
      ("components", .ofDict (recordedComponents py entries))]
    unique := by simp }

/-! ### The AAR -/

def BUILD_MANIFEST_ENTRY : String :=
  "META-INF/bss-litert-build.json"

/-- The entries of the AAR before its manifest is added. -/
def addNotices (inputs : Inputs) (entries : Dict String Bytes) : Dict String Bytes :=
  let entries := entries.set "consumer-rules.pro" inputs.consumerRules
  let entries := entries.set "META-INF/LICENSE-LiteRT.txt" inputs.license
  let entries := entries.set "META-INF/THIRD_PARTY_LICENSES.txt" inputs.thirdPartyLicenses
  entries.set "META-INF/THIRD_PARTY_NOTICES.md" inputs.notices

/-- The AAR and the manifest that the packager writes. -/
structure Output where
  aar : Bytes
  manifest : Bytes

/-- `main` of the packager. -/
def packageMain (py : StandardLibrary) (inputs : Inputs) (contract : Contract)
    (sourceLock : Document) (artifactVersion : String) : Py Output := do
  let apiEntries ← readApiEntries py inputs.apiAar
  let nativeEntries ← readNativeEntries inputs.nativeDir (expectedNativeEntries contract)
  let entries := addNotices inputs (apiEntries.update nativeEntries)
  let manifest ← buildManifest py artifactVersion contract sourceLock entries
  let manifestBytes := jsonBytes (.ofDict manifest)
  let aar ← archiveBytes py (entries.set BUILD_MANIFEST_ENTRY manifestBytes)
  return ⟨aar, manifestBytes⟩

end BssLiteRt.Complete
