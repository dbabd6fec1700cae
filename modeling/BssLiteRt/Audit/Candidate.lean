import BssLiteRt.Complete.Package

/-!
Owns the audit of a candidate AAR in `audit_release_inputs.py`: its entries, the class
names of its API, its native matrix and the bytes of its native libraries. An audit
collects errors and raises only when a file is no archive.
-/

namespace BssLiteRt.Audit

open BssLiteRt.Library BssLiteRt.Python BssLiteRt.Archive BssLiteRt.Complete

inductive Mode where
  | availableComponents
  | complete
deriving DecidableEq

/-- The fields of the complete-runtime contract that the audit reads. -/
structure Contract where
  forbiddenClassPrefixes : List String
  nativeLibraries : Dict String (List String)

/-- The regular files below the component directory and elsewhere, by their paths:
`path.is_file()` and `path.read_bytes()`. -/
abbrev Files := PurePosixPath → Option Bytes

/-- `expected_native_paths` of `verify_native_artifacts.py`: the path of each library,
with its ABI and its name. -/
def expectedNativePaths (contract : Contract) (mode : Mode) : Dict String (String × String) :=
  .ofPairs (contract.nativeLibraries.items.flatMap fun item =>
    if mode = .availableComponents ∧ item.1 = "libLiteRtClGlAccelerator.so" then []
    else item.2.map fun abi => (abi ++ "/" ++ item.1, (abi, item.1)))

/-- `for name in names: entries[name] = archive.read(name)` -/
def readEntries (stored : List ZipEntry) (names : List String) (entries : Dict String Bytes) :
    Py (Dict String Bytes) :=
  match names with
  | [] => .ok entries
  | name :: rest => do
      let data ← readEntry stored name
      readEntries stored rest (entries.set name data)

/-- `errors.append(error)` when something is wrong. -/
def errorIf (wrong : Bool) (error : String) : List String :=
  if wrong then [error] else []

def archiveEntries (py : StandardLibrary) (aar : Bytes) : Py (Dict String Bytes × List String) := do
  let stored ← py.zipfile.read aar
  let names := filenames (stored.filter fun entry => !entry.info.isDir)
  let duplicates := sortedNames (names.filter fun name => names.count name > 1)
  let entries ← readEntries stored names Dict.empty
  return (entries, errorIf (duplicates ≠ [])
    ("Archive contains duplicate entries: " ++ showNames py duplicates))

/-- The loop over the forbidden prefixes, which reports one class for each. -/
def forbiddenClasses (classNames : List String) : List String → List String
  | [] => []
  | forbidden :: rest =>
      match sortedNames (classNames.filter fun name => startsWith name forbidden) with
      | [] => forbiddenClasses classNames rest
      | first :: _ => ("Forbidden packaged API class: " ++ first) :: forbiddenClasses classNames rest

def auditApiClasses (py : StandardLibrary) (entries : Dict String Bytes) (contract : Contract) :
    Py (List String) :=
  match entries.get? "classes.jar" with
  | none => .ok ["Candidate AAR does not contain classes.jar."]
  | some classes => do
      let classNames := filenames (← py.zipfile.read classes)
      return forbiddenClasses classNames contract.forbiddenClassPrefixes

/-- An archive inside the candidate, or a library outside `jni/`. -/
def isMisplaced (name : String) : Bool :=
  endsWith name ".aar" || endsWith name ".so" && !startsWith name "jni/"

def isNative (name : String) : Bool :=
  startsWith name "jni/" && endsWith name ".so"

/-- The component that a native entry is compared with. -/
def componentPath (componentDir : PurePosixPath) (name : String) : PurePosixPath :=
  (componentDir.child "native").child (withoutFront name "jni/")

/-- The loop over the native entries that the contract expects and the candidate has. -/
def compareNative (files : Files) (componentDir : PurePosixPath) (entries : Dict String Bytes) :
    List String → List String
  | [] => []
  | name :: rest =>
      let component := files (componentPath componentDir name)
      errorIf (component.isNone || entries.get? name ≠ component)
          ("Candidate native bytes differ from component: " ++ name) ++
        compareNative files componentDir entries rest

def expectedNative (contract : Contract) (mode : Mode) : List String :=
  if mode = .complete then (expectedNativePaths contract mode).keys.map ("jni/" ++ ·) else []

def auditCandidate (py : StandardLibrary) (files : Files) (aarName : String) (aar : Bytes)
    (componentDir : PurePosixPath) (contract : Contract) (mode : Mode) :
    Py (Json × List String) := do
  let (entries, duplicateErrors) ← archiveEntries py aar
  let classErrors ← auditApiClasses py entries contract
  let nested := (entries.keys.filter isMisplaced).insertionSort (· ≤ ·)
  let expected := expectedNative contract mode
  let actual := entries.keys.filter isNative
  let records : Dict String Json :=
    (Dict.ofPairs (sortByKey entries.items)).mapValues fun _ data => componentRecord py data
  let errors := duplicateErrors ++ classErrors ++
    errorIf (nested ≠ [])
      ("Candidate contains nested or misplaced binaries: " ++ showNames py nested) ++
    errorIf (entries.keys.any fun name => (PurePosixPath.parse name).name = "libOCLQ.so")
      "Candidate contains diagnostic libOCLQ.so." ++
    errorIf (!sameNames actual expected)
      ("Candidate native matrix drift; missing=" ++ showNames py (sortedDifference expected actual) ++
        ", extra=" ++ showNames py (sortedDifference actual expected)) ++
    compareNative files componentDir entries (sortedIntersection expected actual)
  return (.obj [("path", .str aarName), ("entries", .ofDict records)], errors)

end BssLiteRt.Audit
