import BssLiteRt.Downloadable.Checksums
import BssLiteRt.Python.Concrete

/-!
Owns the two writers of `SHA256SUMS`, in the bundle builder and in
`write_checksums.py`, as inverses of the check: it accepts what they write and
nothing else.

A release directory is its regular files by their names, none of them a link of another.
-/

namespace BssLiteRt.Downloadable

open BssLiteRt.Library BssLiteRt.Python

/-- `main` of `write_checksums.py`: the directory it leaves and what it prints. -/
def writeChecksumsMain (py : StandardLibrary) (distDir : Dict String Bytes) :
    Py (Dict String Bytes × String) := do
  let outputName := "SHA256SUMS"
  let assets := sortByKey (distDir.filter fun name _ => name ≠ outputName).items
  let data ← encodeAscii
    (joinTexts (assets.map fun asset => py.hashlib.sha256 asset.2 ++ "  " ++ asset.1 ++ "\n"))
  let written := distDir.set outputName data
  let printed ← readTextAscii (← readOutput written outputName)
  return (written, printed)

/-- The directories hold the same assets. -/
def SameAssets (left right : Dict String Bytes) : Prop :=
  ∀ name, name ≠ "SHA256SUMS" → left.get? name = right.get? name

variable {py : StandardLibrary} {output written : Dict String Bytes} {data : Bytes}
  {dist : Directory}

/-- A writer that returns has written the text of the checksums. -/
theorem writeChecksums_eq_ok_iff :
    writeChecksums py output = .ok written ↔
      ∃ data, encodeAscii (checksumText py (sortByKey (checkedFiles output).items)) = .ok data ∧
        written = output.set "SHA256SUMS" data := by
  rw [writeChecksums, bind_eq_ok]
  simp only [pure_eq_ok, Except.ok.injEq, eq_comm]
  rfl

/-- Both writers leave the same directory. -/
theorem writeChecksumsMain_of_writeChecksums (whole : ∀ name ∈ output, IsWhole name)
    (returned : writeChecksums py output = .ok written) :
    writeChecksumsMain py output =
      .ok (written, checksumText py (sortByKey (checkedFiles output).items)) := by
  obtain ⟨data, encoded, rfl⟩ := writeChecksums_eq_ok_iff.mp returned
  have stored : readOutput (output.set "SHA256SUMS" data) "SHA256SUMS" = .ok data :=
    readOutput_ok_iff.mpr (Dict.get?_set_self ..)
  have printed := readTextAscii_of_encodeAscii encoded
    (checksumText_noReturn (sortedAssets_whole whole))
  unfold writeChecksumsMain
  refine bind_eq_ok.mpr ⟨data, encoded, ?_⟩
  dsimp only
  rw [stored, ok_bind, printed, ok_bind, pure_eq_ok]

/-- Writing again finds the same assets. -/
theorem writeChecksums_again (returned : writeChecksums py output = .ok written) :
    writeChecksums py written = .ok written := by
  obtain ⟨data, encoded, rfl⟩ := writeChecksums_eq_ok_iff.mp returned
  refine writeChecksums_eq_ok_iff.mpr ⟨data, ?_, ?_⟩
  · rw [sortByKey_eq_of_perm (checkedFiles _).unique (checkedFiles_set output data), encoded]
  · exact (Dict.set_of_get? (Dict.get?_set_self ..)).symm

/-- The check accepts the text exactly for the assets it was written of. -/
theorem verifyChecksums_iff_sameAssets (whole : ∀ name ∈ output, IsWhole name)
    (encoded : encodeAscii (checksumText py (sortByKey (checkedFiles output).items)) = .ok data)
    (stored : dist.files.get? "SHA256SUMS" = some data)
    (collisionFree : CollisionFree py.hashlib.sha256 output.get? dist.files.get?) :
    verifyChecksums py dist = .ok () ↔ SameAssets output dist.files := by
  let digests (files : Dict String Bytes) : Dict String String :=
    (checkedFiles files).mapValues fun _ data => py.hashlib.sha256 data
  have digestAt (files : Dict String Bytes) (name : String) :
      (digests files).get? name =
        if name = "SHA256SUMS" then none else (files.get? name).map py.hashlib.sha256 := by
    rw [Dict.get?_mapValues, checkedFiles, Dict.get?_filter]
    by_cases sums : name = "SHA256SUMS"
    · cases files.get? name <;> simp [Option.filter, sums]
    · cases files.get? name <;> simp [Option.filter, sums]
  have listed : ((sortByKey (checkedFiles output).items).map fun asset =>
      (asset.1, py.hashlib.sha256 asset.2)).Perm (digests output).items :=
    (sortedAssets_perm output).map _
  rw [verifyChecksums_ok_iff (sortedAssets_unique output) (sortedAssets_whole whole) encoded stored,
    listed.congr_left, Dict.perm_iff_get?, SameAssets]
  refine forall_congr' fun name => ?_
  rw [digestAt, digestAt]
  by_cases sums : name = "SHA256SUMS"
  · simp [sums]
  · rw [if_neg sums, if_neg sums]
    refine Iff.trans ?_ (forall_prop_of_true sums).symm
    exact collisionFree.map_eq_iff name

/-- The writers agree, the check accepts what they write, writing again changes
nothing, and the check rejects the text for any other assets. -/
theorem checksums_written_and_checked (py : StandardLibrary) (output : Dict String Bytes)
    (ascii : ∀ name ∈ output, name.toList.all isAscii = true)
    (whole : ∀ name ∈ output, IsWhole name) :
    ∃ data printed, writeChecksums py output = .ok (output.set "SHA256SUMS" data) ∧
      writeChecksumsMain py output = .ok (output.set "SHA256SUMS" data, printed) ∧
      (∀ dist : Directory, dist.files = output.set "SHA256SUMS" data →
        verifyChecksums py dist = .ok ()) ∧
      writeChecksums py (output.set "SHA256SUMS" data) = .ok (output.set "SHA256SUMS" data) ∧
      writeChecksumsMain py (output.set "SHA256SUMS" data) =
        .ok (output.set "SHA256SUMS" data, printed) ∧
      ∀ dist : Directory, dist.files.get? "SHA256SUMS" = some data →
        CollisionFree py.hashlib.sha256 output.get? dist.files.get? →
          ¬ SameAssets output dist.files →
          ∃ error, verifyChecksums py dist = .error error := by
  obtain ⟨data, returned⟩ := @writeChecksums_of_ascii py output ascii
  obtain ⟨own, encoded, same⟩ := writeChecksums_eq_ok_iff.mp returned
  have sameData : own = data := by
    have lookups := congrArg (fun dict => dict.get? "SHA256SUMS") same
    simpa using lookups.symm
  subst sameData
  have again := writeChecksums_again returned
  have wholeWritten : ∀ name ∈ output.set "SHA256SUMS" own, IsWhole name := by
    intro name member
    rcases Dict.mem_set_iff.mp member with rfl | before
    · decide
    · exact whole name before
  have sameText : checksumText py (sortByKey (checkedFiles (output.set "SHA256SUMS" own)).items) =
      checksumText py (sortByKey (checkedFiles output).items) := by
    rw [sortByKey_eq_of_perm (checkedFiles _).unique (checkedFiles_set output own)]
  refine ⟨own, _, returned, writeChecksumsMain_of_writeChecksums whole returned,
    fun dist files => verifyChecksums_of_writeChecksums returned whole files, again, ?_, ?_⟩
  · rw [writeChecksumsMain_of_writeChecksums wholeWritten again, sameText]
  · intro dist stored collisionFree differs
    cases checked : verifyChecksums py dist with
    | error error => exact ⟨error, rfl⟩
    | ok returned =>
        exact absurd ((verifyChecksums_iff_sameAssets whole encoded stored collisionFree).mp checked)
          differs

def spacedAsset (data : Bytes) : Dict String Bytes :=
  ⟨[(" lite  rt.zip", data)], List.nodup_singleton _⟩

theorem checksums_written_and_checked_spaced :
    ∃ data, writeChecksums concreteLibrary (spacedAsset [1]) =
        .ok ((spacedAsset [1]).set "SHA256SUMS" data) ∧
      ∃ error, verifyChecksums concreteLibrary
        ⟨"dist", (spacedAsset [2]).set "SHA256SUMS" data, fun _ => none⟩ = .error error := by
  have only {name : String} (member : name ∈ spacedAsset [1]) : name = " lite  rt.zip" :=
    List.mem_singleton.mp member
  obtain ⟨data, printed, returned, -, -, -, -, rejected⟩ :=
    checksums_written_and_checked concreteLibrary (spacedAsset [1])
      (fun name member => by rw [only member]; decide)
      (fun name member => by rw [only member]; decide)
  refine ⟨data, returned, rejected _ (Dict.get?_set_self ..) ?_ ?_⟩
  · intro name first second inFirst inSecond same
    have named := only (Dict.mem_iff_get?.mpr ⟨first, inFirst⟩)
    subst named
    rw [Dict.get?_set, if_neg (by decide)] at inSecond
    cases inFirst
    cases inSecond
    have hashes : concreteLibrary.hashlib.sha256 [1] ≠ concreteLibrary.hashlib.sha256 [2] := by
      decide
    exact absurd same hashes
  · intro same
    have differs := same " lite  rt.zip" (by decide)
    rw [Dict.get?_set, if_neg (by decide)] at differs
    exact absurd differs (by decide)

end BssLiteRt.Downloadable
