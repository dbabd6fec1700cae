import BssLiteRt.Complete.MavenChecksums
import BssLiteRt.Complete.Preparation
import BssLiteRt.Complete.Staging

/-!
Owns `main` of `verify_maven_staging.py`, with its checks on the POM, on signatures, on
the members of archives and on the attached texts.
-/

namespace BssLiteRt.Complete

open BssLiteRt.Library BssLiteRt.Python BssLiteRt.Archive
open BssLiteRt.Complete.MavenChecksums (verifyChecksums readFile)

/-! ### The POM -/

/-- What the script takes from an element of `xml.etree`. -/
inductive Element where
  | mk (tag : String) (text : Option String) (children : List Element)

namespace Element

def tag : Element → String
  | mk tag _ _ => tag

def text : Element → Option String
  | mk _ text _ => text

def children : Element → List Element
  | mk _ _ children => children

/-- `root.find(f"m:{name}", namespace)` -/
def find (root : Element) (name : String) : Option Element :=
  root.children.find? fun child => child.tag = "{http://maven.apache.org/POM/4.0.0}" ++ name

/-- `text(name)` -/
def textOf (root : Element) (name : String) : Option String :=
  (root.find name).bind text

end Element

def requiredMetadata : List String :=
  ["name", "description", "url", "licenses", "developers", "scm"]

def rejectPomMarkers (text : String) (markers : List String) : Py Unit :=
  rejectOccurrences "Forbidden POM dependency marker: " text markers

/-- A part of a coordinate as a message shows it. -/
def showPart (py : StandardLibrary) : Option String → String
  | some part => py.repr part
  | none => "None"

def verifyPom (py : StandardLibrary) (parse : Bytes → Py Element) (pom : Bytes)
    (group artifact version : String) : Py Unit := do
  let root ← parse pom
  let actual := [root.textOf "groupId", root.textOf "artifactId", root.textOf "version"]
  raiseIf (actual ≠ [some group, some artifact, some version]) .valueError
    ("Unexpected POM coordinate: (" ++ String.intercalate ", " (actual.map (showPart py)) ++ ")")
  raiseIf (root.textOf "packaging" ≠ some "aar") .valueError "POM packaging must be aar."
  let missingMetadata := requiredMetadata.filter fun name => (root.find name).isNone
  raiseIf (missingMetadata ≠ []) .valueError
    ("POM metadata is incomplete: " ++ showNames py missingMetadata)
  raiseIf ((root.find "dependencies").any fun dependencies => !dependencies.children.isEmpty)
    .valueError "Complete runtime POM must not declare dependencies."
  rejectPomMarkers (← readTextUtf8 pom) forbiddenMarkers

/-! ### Signatures -/

def signatureName (name : String) : String :=
  name ++ ".asc"

/-- The loop over the files. `gpg` returns what it writes to standard error when it
rejects the signature of a file. -/
def verifySignatures (gpg : Bytes → Bytes → Option String) (directory : Dict String Bytes) :
    List String → Py Unit
  | [] => .ok ()
  | name :: rest => do
      raiseIf (signatureName name ∉ directory) .fileNotFoundError
        ("Missing signature: " ++ signatureName name)
      let signature ← readFile directory (signatureName name)
      let data ← readFile directory name
      match gpg signature data with
      | none => verifySignatures gpg directory rest
      | some stderr =>
          raise .valueError ("OpenPGP verification failed for " ++ name ++ ": " ++ strip stderr)

/-! ### Archives and attachments -/

/-- `require_zip_entries(path, required, exact=True)` -/
def requireZipEntries (py : StandardLibrary) (name : String) (archive : Bytes)
    (required : List String) : Py Unit := do
  let stored ← py.zipfile.read archive
  let entries := (filenames stored).filter fun name => !endsWith name "/"
  let missing := sortedDifference required entries
  raiseIf (missing ≠ []) .valueError
    (name ++ " is missing: " ++ String.intercalate ", " missing)
  raiseIf (!sameNames entries required) .valueError
    (name ++ " has unexpected entries: " ++ showNames py (sortedDifference entries required))

/-- One turn of the loop over the attachments. -/
def verifyAttachment (directory : Dict String Bytes) (name marker : String) : Py Unit := do
  let text ← readTextUtf8 (← readFile directory name)
  raiseIf (text.toList.length < 100 ∨ !occursIn marker text) .valueError
    ("Invalid publication attachment: " ++ name)

/-! ### The publication -/

/-- The endings of the names that a publication has to hold. -/
def expectedEndings : List String :=
  [".aar", "-sources.jar", "-javadoc.jar", ".pom", ".module", "-cyclonedx.json",
    "-build-manifest.json", "-third-party-licenses.txt", "-notices.txt"]

/-- `[version_dir / name for name in sorted(expected_names)]` -/
def expectedPayloads (artifact version : String) : List String :=
  (expectedEndings.map fun ending => artifact ++ "-" ++ version ++ ending).insertionSort (· ≤ ·)

/-- What the script is asked to check, and with which tools. -/
structure StagingOptions where
  group : String
  artifact : String
  version : String
  apiOnly : Bool
  parse : Bytes → Py Element
  requireSignatures : Bool
  gpg : Bytes → Bytes → Option String

/-- `if args.require_signatures: verify_signatures(...)` -/
def checkSignatures (options : StagingOptions) (directory : Dict String Bytes)
    (payloads : List String) : Py Unit :=
  if options.requireSignatures then verifySignatures options.gpg directory payloads else .ok ()

/-- `main`, on the files of the version directory. -/
def verifyStagingMain (py : StandardLibrary) (options : StagingOptions) (contract : Contract)
    (sourceFiles : Bytes) (sourceLock : Document) (directory : Dict String Bytes) : Py Unit := do
  let front := options.artifact ++ "-" ++ options.version
  let payloads := expectedPayloads options.artifact options.version
  let missing := payloads.filter (· ∉ directory)
  raiseIf (missing ≠ []) .fileNotFoundError
    ("Missing staged Maven files: " ++ String.intercalate ", " missing)
  verifyChecksums py directory payloads
  checkSignatures options directory payloads
  verifyPom py options.parse (← readFile directory (front ++ ".pom")) options.group
    options.artifact options.version
  let aar ← readFile directory (front ++ ".aar")
  verifyModule py (← readFile directory (front ++ ".module")) options.group options.artifact
    options.version aar
  verifyNativeMatrix py aar contract options.apiOnly
  let manifest ← verifyBuildManifest py (← readFile directory (front ++ "-build-manifest.json"))
    aar contract options.group options.artifact options.version sourceLock options.apiOnly
  let requiredSources := allowlistEntries (← readTextUtf8 sourceFiles) ++ [sourceLicenseName]
  requireZipEntries py (front ++ "-sources.jar") (← readFile directory (front ++ "-sources.jar"))
    requiredSources
  requireZipEntries py (front ++ "-javadoc.jar") (← readFile directory (front ++ "-javadoc.jar"))
    ["element-list", "index.html"]
  verifySbom py (← readFile directory (front ++ "-cyclonedx.json")) aar manifest
  verifyAttachment directory (front ++ "-third-party-licenses.txt") "License"
  verifyAttachment directory (front ++ "-notices.txt") "LiteRT"

/-! ### Only the files matter -/

section Congruence

variable {py : StandardLibrary} {left right : Dict String Bytes}

theorem readFile_congr (same : ∀ name, left.get? name = right.get? name) (name : String) :
    readFile left name = readFile right name := by
  rw [readFile, readFile, same]

theorem mem_congr (same : ∀ name, left.get? name = right.get? name) (name : String) :
    name ∈ left ↔ name ∈ right := by
  rw [Dict.mem_iff_get?, Dict.mem_iff_get?, same]

theorem verifyChecksums_congr (same : ∀ name, left.get? name = right.get? name)
    (names : List String) : verifyChecksums py left names = verifyChecksums py right names := by
  induction names with
  | nil => rfl
  | cons name rest inductionHypothesis =>
      simp only [verifyChecksums, readFile_congr same, mem_congr same, inductionHypothesis]

theorem verifySignatures_congr (same : ∀ name, left.get? name = right.get? name)
    {gpg : Bytes → Bytes → Option String} (names : List String) :
    verifySignatures gpg left names = verifySignatures gpg right names := by
  induction names with
  | nil => rfl
  | cons name rest inductionHypothesis =>
      simp only [verifySignatures, readFile_congr same, mem_congr same, inductionHypothesis]

/-- The order in which a directory lists its files does not matter. -/
theorem verifyStagingMain_congr (same : ∀ name, left.get? name = right.get? name)
    (options : StagingOptions) (contract : Contract) (sourceFiles : Bytes) (sourceLock : Document) :
    verifyStagingMain py options contract sourceFiles sourceLock left =
      verifyStagingMain py options contract sourceFiles sourceLock right := by
  simp only [verifyStagingMain, checkSignatures, verifyAttachment, readFile_congr same,
    mem_congr same, verifyChecksums_congr same, verifySignatures_congr same]

end Congruence

end BssLiteRt.Complete
