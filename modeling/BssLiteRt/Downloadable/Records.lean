import BssLiteRt.Downloadable.Release

/-!
Owns the records of a release index: how the verifier files them, what a record
says of its bundle, and which records it checks.
-/

namespace BssLiteRt.Downloadable

open BssLiteRt.Library BssLiteRt.Python BssLiteRt.Archive

/-! ### Filing records -/

/-- The last record with a key. -/
def lastRecord (key : Json × Json) (records : List Json) : Option Json :=
  records.reverse.find? fun record => recordKey record = .ok key

theorem lastRecord_cons (key : Json × Json) (record : Json) (rest : List Json) :
    lastRecord key (record :: rest) =
      (lastRecord key rest).or (if recordKey record = .ok key then some record else none) := by
  rw [lastRecord, List.reverse_cons, List.find?_append, ← lastRecord]
  by_cases same : recordKey record = .ok key <;> simp [same]

/-- The verifier keeps the last record of each key. -/
theorem indexRecords_ok {records : List Json} {start indexed : Dict (Json × Json) Json}
    (returned : indexRecords records start = .ok indexed) (key : Json × Json) :
    indexed.get? key = (lastRecord key records).or (start.get? key) := by
  induction records generalizing start with
  | nil =>
      obtain rfl := Except.ok.inj returned
      rfl
  | cons record rest inductionHypothesis =>
      rw [indexRecords] at returned
      obtain ⟨found, keyed, returned⟩ := bind_eq_ok.mp returned
      rw [inductionHypothesis returned, Dict.get?_set, lastRecord_cons, keyed, Option.or_assoc]
      by_cases same : key = found
      · simp [same]
      · have different : ¬ (Except.ok found : Py (Json × Json)) = .ok key := by
          rw [Except.ok.injEq]
          exact Ne.symm same
        simp [same, different]

/-! ### What a record says -/

section Records

variable {py : StandardLibrary} {contract : Contract} {contractBytes : Bytes} {dist : Directory}
  {record : Json} {bundle : BundleName}

/-- A record is about a bundle of the contract, under its file name. -/
structure Names (record : Json) (bundle : BundleName) : Prop where
  component : record.field? "component" = some (.str bundle.component)
  abi : ∃ abi, record.field? "abi" = some abi ∧ abi.pyEq bundle.abi = true
  fileName : record.field? "fileName" = some (.str bundle.fileName)

/-- A record has the size and the hash of the file. -/
def Describes (py : StandardLibrary) (record : Json) (data : Bytes) : Prop :=
  ∃ byteSize sha256, record.field? "byteSize" = some byteSize ∧
    record.field? "sha256" = some sha256 ∧ matchesBlob py data byteSize sha256 = true

/-- `manifest.json` of a bundle in a directory. -/
def bundleManifest (py : StandardLibrary) (dist : Directory) (fileName : String) : Py Bytes := do
  let entries ← readBundle py dist fileName
  entryOf entries "manifest.json"

def RecordsManifest (py : StandardLibrary) (record : Json) (manifestBytes : Bytes) : Prop :=
  ∃ manifestSha256, record.field? "manifestSha256" = some manifestSha256 ∧
    (Json.str (py.hashlib.sha256 manifestBytes)).pyEq manifestSha256 = true

/-- What a client that downloads by the record relies on. -/
def RecordTrue (py : StandardLibrary) (contract : Contract) (dist : Directory) (record : Json) :
    Prop :=
  ∃ bundle ∈ contract.bundles, Names record bundle ∧
    (∃ data, dist.lookup bundle.fileName = some data ∧ Describes py record data) ∧
    ∃ manifestBytes, bundleManifest py dist bundle.fileName = .ok manifestBytes ∧
      RecordsManifest py record manifestBytes

def SameValue (key : String) (left right : Json) : Prop :=
  ∃ leftValue rightValue, left.field? key = some leftValue ∧
    right.field? key = some rightValue ∧ leftValue.pyEq rightValue = true

/-- What the verifier leaves open for a record: that the contract declares it, that
it agrees with the last record of its component and ABI, and its `manifestSha256`. -/
def RecordFits (py : StandardLibrary) (contract : Contract) (dist : Directory)
    (records : List Json) (record : Json) : Prop :=
  ∃ bundle ∈ contract.bundles, Names record bundle ∧
    (∀ last, lastRecord (.str bundle.component, bundle.abi.val.normal) records = some last →
      SameValue "byteSize" record last ∧ SameValue "sha256" record last) ∧
    ∀ manifestBytes, bundleManifest py dist bundle.fileName = .ok manifestBytes →
      RecordsManifest py record manifestBytes

/-- `index["bundles"]` of a release. -/
def releaseRecords (py : StandardLibrary) (dist : Directory) : Py (List Json) := do
  let index ← readIndex py dist
  elements (← getItem index "bundles")

theorem Names.key (names : Names record bundle) {key : Json}
    (hashed : hashKey bundle.abi = .ok key) :
    recordKey record = .ok (.str bundle.component, key) := by
  have component := getItem_ok_iff.mpr names.component
  obtain ⟨abi, found, same⟩ := names.abi
  rw [recordKey, component, ok_bind, getItem_ok_iff.mpr found, ok_bind]
  show (hashKey abi >>= _) = _
  rw [hashKey_eq_of_pyEq same hashed]
  rfl

theorem matchesBlob_iff {data : Bytes} {byteSize sha256 : Json} :
    matchesBlob py data byteSize sha256 = true ↔
      (Json.int data.length).normal = byteSize.normal ∧
        (Json.str (py.hashlib.sha256 data)).normal = sha256.normal := by
  rw [matchesBlob, Bool.and_eq_true, Json.pyEq_iff, Json.pyEq_iff]

/-- A record describes a file when it agrees with a record that does. -/
theorem describes_iff_same {last : Json} {data : Bytes} (described : Describes py last data) :
    Describes py record data ↔ SameValue "byteSize" record last ∧ SameValue "sha256" record last := by
  obtain ⟨lastSize, lastHash, atSize, atHash, same⟩ := described
  rw [matchesBlob_iff] at same
  constructor
  · rintro ⟨byteSize, sha256, sizeFound, hashFound, matched⟩
    rw [matchesBlob_iff] at matched
    refine ⟨⟨byteSize, lastSize, sizeFound, atSize, ?_⟩, ⟨sha256, lastHash, hashFound, atHash, ?_⟩⟩
    · rw [Json.pyEq_iff, ← matched.1, same.1]
    · rw [Json.pyEq_iff, ← matched.2, same.2]
  · rintro ⟨⟨byteSize, _, sizeFound, atLast, sameSize⟩, ⟨sha256, _, hashFound, atLastHash, sameHash⟩⟩
    obtain rfl := Option.some.inj (atSize.symm.trans atLast)
    obtain rfl := Option.some.inj (atHash.symm.trans atLastHash)
    rw [Json.pyEq_iff] at sameSize sameHash
    refine ⟨byteSize, sha256, sizeFound, hashFound, ?_⟩
    rw [matchesBlob_iff]
    exact ⟨same.1.trans sameSize.symm, same.2.trans sameHash.symm⟩

/-! ### What the verifier has checked -/

section Checked

variable {index : Json} {records : List Json} {indexed : Dict (Json × Json) Json}

theorem requireRecordedFile_describes {path : String}
    (returned : requireRecordedFile py dist path record = .ok ()) :
    ∃ data, dist.lookup path = some data ∧ Describes py record data := by
  obtain ⟨byteSize, sha256, data, atSize, atHash, found, matched⟩ :=
    requireRecordedFile_ok_iff.mp returned
  exact ⟨data, found, byteSize, sha256, atSize, atHash, matched⟩

theorem Accepted.releaseRecords_eq
    (accepted : Accepted py contract contractBytes dist index records indexed) :
    releaseRecords py dist = .ok records := by
  obtain ⟨bundles, listed, each⟩ := accepted.listed
  rw [releaseRecords, accepted.opened, ok_bind, getItem_ok_iff.mpr listed, ok_bind, each]

/-- Each bundle of the contract is in the directory as its last record says. -/
theorem Accepted.bundle_checked
    (accepted : Accepted py contract contractBytes dist index records indexed)
    (declared : bundle ∈ contract.bundles) :
    ∃ last data manifestBytes,
      lastRecord (.str bundle.component, bundle.abi.val.normal) records = some last ∧
        dist.lookup bundle.fileName = some data ∧ Describes py last data ∧
        bundleManifest py dist bundle.fileName = .ok manifestBytes := by
  have filed (key : Json × Json) : indexed.get? key = lastRecord key records := by
    rw [indexRecords_ok accepted.filed key, Dict.get?_empty, Option.or_none]
  rcases List.mem_append.mp declared with cpu | gpu
  · obtain ⟨item, member, rfl⟩ := List.mem_map.mp cpu
    obtain ⟨last, checked⟩ := accepted.cpu item member
    obtain ⟨data, found, described⟩ := requireRecordedFile_describes checked.recorded
    obtain ⟨entries, -, manifestBytes, -, opened, -, -, -, present, -⟩ :=
      verifyCpuBundle_ok_iff.mp checked.bundle
    refine ⟨last, data, manifestBytes, (filed _).symm.trans checked.found, found, described, ?_⟩
    exact bind_eq_ok.mpr ⟨entries, opened, entryOf_ok_iff.mpr present⟩
  · obtain rfl := List.mem_singleton.mp gpu
    obtain ⟨last, checked⟩ := accepted.gpu
    obtain ⟨key, hashed, filedGpu⟩ := checked.found
    obtain rfl := hashKey_eq_ok hashed
    obtain ⟨data, found, described⟩ := requireRecordedFile_describes checked.recorded
    obtain ⟨entries, manifestBytes, -, opened, -, -, present, -⟩ :=
      verifyGpuBundle_ok_iff.mp checked.bundle
    refine ⟨last, data, manifestBytes, (filed _).symm.trans filedGpu, found, described, ?_⟩
    exact bind_eq_ok.mpr ⟨entries, opened, entryOf_ok_iff.mpr present⟩

theorem Accepted.recordTrue_iff
    (accepted : Accepted py contract contractBytes dist index records indexed) :
    RecordTrue py contract dist record ↔ RecordFits py contract dist records record := by
  constructor
  · rintro ⟨bundle, declared, names, ⟨data, found, described⟩, manifestBytes, opened, recorded⟩
    refine ⟨bundle, declared, names, ?_, ?_⟩
    · intro last isLast
      obtain ⟨_, _, -, sameLast, sameData, lastDescribed, -⟩ := accepted.bundle_checked declared
      obtain rfl := Option.some.inj (isLast.symm.trans sameLast)
      obtain rfl := Option.some.inj (found.symm.trans sameData)
      exact (describes_iff_same lastDescribed).mp described
    · intro others alsoOpened
      rw [opened] at alsoOpened
      exact Except.ok.inj alsoOpened ▸ recorded
  · rintro ⟨bundle, declared, names, agrees, recorded⟩
    obtain ⟨last, data, manifestBytes, isLast, found, lastDescribed, opened⟩ :=
      accepted.bundle_checked declared
    have described := (describes_iff_same lastDescribed).mpr (agrees last isLast)
    exact ⟨bundle, declared, names, ⟨data, found, described⟩, manifestBytes, opened,
      recorded manifestBytes opened⟩

end Checked

end Records

end BssLiteRt.Downloadable
