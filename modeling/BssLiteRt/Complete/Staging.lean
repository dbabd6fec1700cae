import BssLiteRt.Complete.Prepare

/-!
Owns the checks of `verify_maven_staging.py` on the module metadata, the native
matrix, the build manifest and the bill of materials of a publication.
-/

namespace BssLiteRt.Complete

open BssLiteRt.Library BssLiteRt.Python BssLiteRt.Archive

/-! ### The Gradle module metadata -/

/-- The texts that a module must not hold. -/
def forbiddenMarkers : List String :=
  ["com.google.ai.edge.litert", "com.google.android.play", "ai-delivery"]

/-- `marker in text` -/
def occursIn (marker text : String) : Bool :=
  decide (marker.toList <:+: text.toList)

/-- A loop over forbidden markers, each named after the message. -/
def rejectOccurrences (message text : String) : List String → Py Unit
  | [] => .ok ()
  | forbidden :: rest => do
      raiseIf (occursIn forbidden text) .valueError (message ++ forbidden)
      rejectOccurrences message text rest

theorem rejectOccurrences_ok_iff {message text : String} {markers : List String} :
    rejectOccurrences message text markers = .ok () ↔
      ∀ marker ∈ markers, ¬ marker.toList <:+: text.toList := by
  induction markers with
  | nil => simp [rejectOccurrences]
  | cons marker rest inductionHypothesis =>
      simp only [rejectOccurrences, bind_eq_ok, raiseIf_eq_ok, exists_unit, occursIn,
        decide_eq_false_iff_not, inductionHypothesis, List.forall_mem_cons]

def rejectMarkers (text : String) (markers : List String) : Py Unit :=
  rejectOccurrences "Forbidden module dependency marker: " text markers

/-- `{variant["name"] for variant in variants}` -/
def variantNames : List Json → Py (List Json)
  | [] => .ok []
  | variant :: rest => do
      let name ← hashKey (← getItem variant "name")
      let names ← variantNames rest
      return name :: names

/-- `set(names) == {"releaseApiElements", "releaseRuntimeElements"}` -/
def hasBothVariants (names : List Json) : Bool :=
  let expected := [Json.str "releaseApiElements", .str "releaseRuntimeElements"]
  (∀ name ∈ names, name ∈ expected) ∧ ∀ name ∈ expected, name ∈ names

/-- `files[0]` when `len(files) == 1`. -/
def onlyFile (files : Json) : Py (Option Json) :=
  match files with
  | .arr [file] => .ok (some file)
  | .arr _ => .ok none
  | .obj fields => if fields.length = 1 then raise .keyError "0" else .ok none
  | .str text => .ok (if text.toList.length = 1 then some (.str text) else none)
  | .null => raise .typeError "object of type 'NoneType' has no len()"
  | .bool _ => raise .typeError "object of type 'bool' has no len()"
  | .int _ => raise .typeError "object of type 'int' has no len()"

/-- `len(files) == 1 and files[0].get("name") == expected` -/
def namesFile (file : Option Json) (expected : String) : Py Bool :=
  match file with
  | none => .ok false
  | some file => do
      let name ← getD file "name" .null
      return name.pyEq (.str expected)

/-- The loop over the variants. -/
def verifyVariants (py : StandardLibrary) (expectedAar : String) (aar : Bytes) :
    List Json → Py Unit
  | [] => .ok ()
  | variant :: rest => do
      let file ← onlyFile (← getD variant "files" (.arr []))
      let named ← namesFile file expectedAar
      let variantName ← getItem variant "name"
      raiseIf (!named) .valueError ("Invalid module files for " ++ py.str variantName ++ ".")
      raiseIf (!(file.getD .null).pyEq (fileEntry py expectedAar aar)) .valueError
        ("Invalid module hashes for " ++ py.str variantName ++ ".")
      verifyVariants py expectedAar aar rest

def verifyModule (py : StandardLibrary) (moduleBytes : Bytes) (group artifact version : String)
    (aar : Bytes) : Py Unit := do
  let module ← readJson py moduleBytes
  let formatVersion ← getD module "formatVersion" .null
  raiseIf (!formatVersion.pyEq (.str "1.1")) .valueError
    "Unsupported Gradle module metadata format."
  let component ← getItem module "component"
  let actual := Json.arr
    [← getItem component "group", ← getItem component "module", ← getItem component "version"]
  raiseIf (!actual.pyEq (.arr [.str group, .str artifact, .str version])) .valueError
    ("Unexpected Gradle module coordinate: " ++ py.str actual)
  let variants ← elements (← getD module "variants" (.arr []))
  raiseIf (!hasBothVariants (← variantNames variants)) .valueError
    "Gradle module variants are incomplete."
  verifyVariants py (artifact ++ "-" ++ version ++ ".aar") aar variants
  rejectMarkers (← readTextUtf8 moduleBytes) forbiddenMarkers

/-! ### The native matrix -/

def verifyNativeMatrix (py : StandardLibrary) (aar : Bytes) (contract : Contract) (apiOnly : Bool) :
    Py Unit := do
  let stored ← py.zipfile.read aar
  let actual := (filenames stored).filter fun name => startsWith name "jni/" && endsWith name ".so"
  let expected := (nativePairs contract).map fun pair => nativePath pair.1 pair.2
  if apiOnly then
    raiseIf (actual ≠ []) .valueError "API-only staging fixture unexpectedly contains JNI."
  else
    raiseIf (!sameNames actual expected) .valueError
      ("Invalid native matrix; missing=" ++ showNames py (sortedDifference expected actual) ++
        ", extra=" ++ showNames py (sortedDifference actual expected))

/-! ### The build manifest -/

/-- `value.get(key) != expected`, which raises. -/
def requireField (value : Json) (key : String) (expected : Json) (message : String) : Py Unit := do
  let found ← getD value key .null
  raiseIf (!found.pyEq expected) .valueError message

def verifyBuildManifest (py : StandardLibrary) (manifestBytes aar : Bytes) (contract : Contract)
    (group artifact version : String) (sourceLock : Document) (apiOnly : Bool) : Py Json := do
  let manifest ← readJson py manifestBytes
  requireField manifest "schemaVersion" (.int 1) "Unsupported build manifest schema."
  requireField manifest "artifact" (artifactJson contract group artifact version)
    "Build manifest artifact contract is invalid."
  requireField manifest "publicationFixture" (.str (fixtureName apiOnly))
    "Build manifest publication fixture mode is invalid."
  requireField manifest "liteRt" (← getD sourceLock.val "liteRt" .null)
    "Build manifest LiteRT source differs from source lock."
  requireField manifest "patchSeries" (← getD sourceLock.val "patchSeries" .null)
    "Build manifest patches differ from source lock."
  let records ← readComponents py "Published AAR contains duplicate entries." aar
  requireField manifest "components" (.ofDict records)
    "Build manifest components differ from published AAR."
  return manifest

/-! ### The bill of materials -/

/-- `{entry.get("alg"): entry.get("content") for entry in hashes}` -/
def hashDict (hashes : List Json) (found : Dict Json Json) : Py (Dict Json Json) :=
  match hashes with
  | [] => .ok found
  | entry :: rest => do
      let content ← getD entry "content" .null
      let alg ← hashKey (← getD entry "alg" .null)
      hashDict rest (found.set alg content)

/-- The SHA-256 of the hashes of an entry, or `None`. -/
def sha256Of (entry : Json) : Py Json := do
  let hashes ← elements (← getD entry "hashes" (.arr []))
  let found ← hashDict hashes Dict.empty
  return (found.get? (.str "SHA-256")).getD .null

/-- The dictionary of the components of a bill of materials. -/
def componentHashes (entries : List Json) (found : Dict Json Json) : Py (Dict Json Json) :=
  match entries with
  | [] => .ok found
  | entry :: rest => do
      let sha256 ← sha256Of entry
      let name ← hashKey (← getD entry "name" .null)
      componentHashes rest (found.set name sha256)

/-- `{name: record["sha256"] for name, record in components.items()}` -/
def expectedHashes (components : List (String × Json)) (found : Dict Json Json) :
    Py (Dict Json Json) :=
  match components with
  | [] => .ok found
  | (name, record) :: rest => do
      let sha256 ← getItem record "sha256"
      expectedHashes rest (found.set (.str name) sha256)

/-- Equality of dictionaries whose keys are hashed. -/
def sameHashes (left right : Dict Json Json) : Bool :=
  left.items.length = right.items.length ∧
    ∀ item ∈ left.items, ((right.get? item.1).map fun value => item.2.pyEq value) = some true

def verifySbom (py : StandardLibrary) (sbomBytes aar : Bytes) (manifest : Json) : Py Unit := do
  let sbom ← readJson py sbomBytes
  let bomFormat ← getD sbom "bomFormat" .null
  let specVersion ← getD sbom "specVersion" .null
  raiseIf (!bomFormat.pyEq (.str "CycloneDX") || !specVersion.pyEq (.str "1.6")) .valueError
    "Invalid CycloneDX metadata."
  let component ← getD (← getD sbom "metadata" (.obj [])) "component" (.obj [])
  let sha256 ← sha256Of component
  raiseIf (!sha256.pyEq (.str (py.hashlib.sha256 aar))) .valueError "CycloneDX AAR hash is invalid."
  let entries ← elements (← getD sbom "components" (.arr []))
  let actualComponents ← componentHashes entries Dict.empty
  let recorded ← itemsOf (← getItem manifest "components")
  let expectedComponents ← expectedHashes recorded Dict.empty
  raiseIf (!sameHashes actualComponents expectedComponents) .valueError
    "CycloneDX component hashes differ from build manifest."

end BssLiteRt.Complete
