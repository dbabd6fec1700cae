import BssLiteRt.BoundedAar.Package

/-!
Owns `verify_bounded_gpu_aar.py` on the contents of its files, without the check of
the page alignment that `--readelf` asks for.
-/

namespace BssLiteRt.BoundedAar

open BssLiteRt.Library BssLiteRt.Python BssLiteRt.Archive

/-! ### The libraries -/

def ARM64_JNI : String := nativePath "arm64-v8a" "liblitert_jni.so"

def ARM64_ACCELERATOR : String := nativePath "arm64-v8a" "libLiteRtClGlAccelerator.so"

def ARM64_SHIM : String := nativePath "arm64-v8a" "libBssOcl.so"

/-- The ABIs whose AAR part must not hold the accelerator. -/
def unboundedAbis : List String :=
  ["armeabi-v7a", "x86_64", "x86"]

def verifyAccelerator (accelerator : Bytes) : Py Unit :=
  raiseIf (countBytes (encodeUtf8 "libBssOcl.so") accelerator ≠ 1 ∨
      containsBytes (encodeUtf8 "libOpenCL.so") accelerator) .valueError
    "The arm64 accelerator does not use the bounded shim"

/-- The loop over the markers of the shim. -/
def verifyMarkers (py : StandardLibrary) (shim : Bytes) : List Bytes → Py Unit
  | [] => .ok ()
  | marker :: rest => do
      raiseIf (!containsBytes marker shim) .valueError
        ("Bounded shim marker is missing: " ++ py.reprBytes marker)
      verifyMarkers py shim rest

def verifyShim (py : StandardLibrary) (contract : Contract) (shim : Bytes) : Py Unit := do
  let artifactVersion ← encodeText (← getItem contract.capability.val "artifactVersion")
  let profileId ← encodeText (← getItem contract.capability.val "profileId")
  verifyMarkers py shim
    [artifactVersion, profileId, encodeUtf8 "nativeGetCapabilitySchemaVersion",
      encodeUtf8 "nativeGetEventWaitCount"]

def verifyCustomJni (customJni : Bytes) : Py Unit :=
  raiseIf (!containsBytes
      (encodeUtf8 "Failed to set Booming SS bounded GPU kernelBatchSize.") customJni) .valueError
    "The source-built bounded GPU JNI marker is missing"

/-! ### The archive -/

/-- The classes that the combined `classes.jar` has to hold. -/
def requiredClasses : List String :=
  [CAPABILITY_CLASS_PREFIX ++ ".class",
    CAPABILITY_CLASS_PREFIX ++ "$Capability.class",
    "com/google/ai/edge/litert/CompiledModel.class",
    "com/google/ai/edge/litert/Environment.class",
    "org/tensorflow/lite/Interpreter.class"]

/-- The loop over the ABIs without an accelerator. -/
def verifyNoAccelerator (entries : Dict String Bytes) : List String → Py Unit
  | [] => .ok ()
  | abi :: rest => do
      raiseIf (nativePath abi "libLiteRtClGlAccelerator.so" ∈ entries) .valueError
        ("The unbounded " ++ abi ++ " GPU accelerator must not be packaged")
      verifyNoAccelerator entries rest

def verifyEntries (contract : Contract) (contractBytes : Bytes) (entries : Dict String Bytes) :
    Py Unit := do
  raiseIf (entries.get? CONTRACT_ENTRY ≠ some contractBytes) .valueError
    "Embedded runtime contract differs from the release contract"
  raiseIf (!sameNames (nativeNames entries) (expectedNativeEntries contract)) .valueError
    "AAR native matrix differs from the runtime contract"
  verifyNoAccelerator entries unboundedAbis
  raiseIf (entries.keys.any fun name => endsWith name "libOCLQ.so") .valueError
    "The diagnostic OpenCL shim must not be packaged"

def verifyClasses (py : StandardLibrary) (entries : Dict String Bytes) : Py Unit := do
  let (classes, classInfos) ← archiveEntries py (← entryOf entries "classes.jar")
  verifyNormalized classInfos "classes.jar"
  let missingClasses := sortedDifference requiredClasses classes.keys
  raiseIf (missingClasses ≠ []) .valueError
    ("Combined LiteRT class set is incomplete: " ++ showNames py missingClasses)

/-! ### The manifest -/

/-- `value[key] != expected`, which raises. -/
def requireItem (value : Json) (key : String) (expected : Json) (message : String) : Py Unit := do
  let found ← getItem value key
  raiseIf (!found.pyEq expected) .valueError message

/-- The loop over the names of the native matrix. -/
def verifyComponents (py : StandardLibrary) (manifest : Json) (entries : Dict String Bytes) :
    List String → Py Unit
  | [] => .ok ()
  | name :: rest => do
      let component ← getD (← getItem manifest "nativeComponents") name .null
      if component = .null then
        raise .valueError ("Native component hash is incorrect: " ++ name)
      let data ← entryOf entries name
      requireItem component "sha256" (.str (py.hashlib.sha256 data))
        ("Native component hash is incorrect: " ++ name)
      verifyComponents py manifest entries rest

def verifyManifest (py : StandardLibrary) (contract : Contract) (contractBytes aar : Bytes)
    (manifest : Json) (entries : Dict String Bytes) (customJni : Bytes) : Py Unit := do
  requireItem manifest "coordinate" contract.coordinate
    "Build manifest coordinate differs from the contract"
  requireItem manifest "contractSha256" (.str (py.hashlib.sha256 contractBytes))
    "Build manifest contract hash is incorrect"
  requireItem (← getItem manifest "aar") "sha256" (.str (py.hashlib.sha256 aar))
    "Build manifest AAR hash is incorrect"
  requireItem manifest "capability" contract.capability
    "Build manifest capability differs from the contract"
  requireItem (← getItem manifest "sourceBuild") "outputSha256"
    (.str (py.hashlib.sha256 customJni)) "Source-built JNI hash is incorrect"
  verifyComponents py manifest entries (expectedNativeEntries contract)

/-- `main` of the verifier. -/
def verifyMain (py : StandardLibrary) (contract : Contract) (contractBytes : Bytes)
    (output : Output) : Py Unit := do
  let manifest ← readJson py output.manifest
  let (entries, infos) ← archiveEntries py output.aar
  verifyNormalized infos "AAR"
  verifyEntries contract contractBytes entries
  verifyClasses py entries
  verifyAccelerator (← entryOf entries ARM64_ACCELERATOR)
  verifyShim py contract (← entryOf entries ARM64_SHIM)
  let customJni ← entryOf entries ARM64_JNI
  verifyCustomJni customJni
  verifyManifest py contract contractBytes output.aar manifest entries customJni

end BssLiteRt.BoundedAar
