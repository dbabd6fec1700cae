import BssLiteRt.Downloadable.Verify

/-!
Owns the agreement on `SHA256SUMS`: the verifier reads back exactly the digests
that the builder writes.
-/

namespace BssLiteRt.Downloadable

open BssLiteRt.Library BssLiteRt.Python BssLiteRt.Archive

/-- A file name that leaves a line whole. -/
def IsWhole (name : String) : Prop :=
  ∀ char ∈ name.toList, isLineBreak char = false

instance (name : String) : Decidable (IsWhole name) :=
  decidable_of_iff _ List.all_iff_forall_prop

variable {py : StandardLibrary}

/-- The line of an asset without its line break. -/
def checksumChars (py : StandardLibrary) (asset : String × Bytes) : List Char :=
  (py.hashlib.sha256 asset.2).toList ++ ' ' :: ' ' :: asset.1.toList

theorem toList_checksumLine (asset : String × Bytes) :
    (checksumLine py asset).toList = checksumChars py asset ++ ['\n'] := by
  have spaces : "  ".toList = [' ', ' '] := rfl
  have lineBreak : "\n".toList = ['\n'] := rfl
  simp [checksumLine, checksumChars, String.toList_append, spaces, lineBreak]

theorem digest_whole (data : Bytes) :
    ∀ char ∈ (py.hashlib.sha256 data).toList, isLineBreak char = false ∧ char ≠ ' ' := by
  have digits : ∀ char ∈ ("0123456789abcdef" : String).toList,
      isLineBreak char = false ∧ char ≠ ' ' :=
    List.all_iff_forall_prop.mp (by decide)
  exact fun char member => digits char ((py.hashlib.sha256_hex data).2 char member)

theorem checksumChars_whole {asset : String × Bytes} (whole : IsWhole asset.1) :
    ∀ char ∈ checksumChars py asset, isLineBreak char = false := by
  rw [checksumChars, List.forall_mem_append, List.forall_mem_cons, List.forall_mem_cons]
  exact ⟨fun char member => (digest_whole asset.2 char member).1, by decide, by decide, whole⟩

theorem splitTwoSpaces_checksumChars (asset : String × Bytes) :
    splitTwoSpaces (checksumChars py asset) =
      some ((py.hashlib.sha256 asset.2).toList, asset.1.toList) := by
  apply splitTwoSpaces_append
  exact fun member => (digest_whole asset.2 ' ' member).2 rfl

theorem readChecksums_checksumChars (assets : List (String × Bytes))
    (actual : Dict String String) :
    readChecksums (assets.map (checksumChars py)) actual =
      .ok ((assets.map fun asset => (asset.1, py.hashlib.sha256 asset.2)).foldl
        (fun dict item => dict.set item.1 item.2) actual) := by
  induction assets generalizing actual with
  | nil => rfl
  | cons asset rest inductionHypothesis =>
      rw [List.map_cons, readChecksums, splitTwoSpaces_checksumChars]
      show readChecksums (rest.map (checksumChars py))
        (actual.set (String.ofList asset.1.toList)
          (String.ofList (py.hashlib.sha256 asset.2).toList)) = _
      rw [String.ofList_toList, String.ofList_toList, inductionHypothesis]
      rfl

/-- The text of the checksums of assets. -/
def checksumText (py : StandardLibrary) (assets : List (String × Bytes)) : String :=
  joinTexts (assets.map (checksumLine py))

theorem toList_checksumText (assets : List (String × Bytes)) :
    (checksumText py assets).toList =
      (assets.map (checksumChars py)).flatMap fun line => line ++ ['\n'] := by
  rw [checksumText, joinTexts, String.toList_ofList, List.flatMap_map, List.flatMap_map]
  exact List.flatMap_congr fun asset _ => toList_checksumLine asset

theorem readChecksums_checksumText {assets : List (String × Bytes)}
    (unique : (assets.map Prod.fst).Nodup) (whole : ∀ asset ∈ assets, IsWhole asset.1) :
    ∃ actual, readChecksums (splitLines (checksumText py assets).toList) Dict.empty = .ok actual ∧
      actual.items = assets.map fun asset => (asset.1, py.hashlib.sha256 asset.2) := by
  have pairsUnique :
      ((assets.map fun asset => (asset.1, py.hashlib.sha256 asset.2)).map Prod.fst).Nodup := by
    rw [List.map_map]
    exact unique
  refine ⟨⟨_, pairsUnique⟩, ?_, rfl⟩
  rw [toList_checksumText, splitLines_flatMap, readChecksums_checksumChars]
  · exact congrArg Except.ok (Dict.ofPairs_of_nodup pairsUnique)
  · rw [List.forall_mem_map]
    exact fun asset member => checksumChars_whole (whole asset member)

/-- Adding `SHA256SUMS` does not change the files it covers. -/
theorem checkedFiles_set (output : Dict String Bytes) (data : Bytes) :
    (checkedFiles (output.set "SHA256SUMS" data)).items.Perm (checkedFiles output).items := by
  apply Dict.perm_of_get?
  intro name
  rw [checkedFiles, checkedFiles, Dict.get?_filter, Dict.get?_filter, Dict.get?_set]
  split
  · rename_i same
    cases output.get? name <;> simp [Option.filter, same]
  · rfl

/-- The text of the checksums holds no carriage return. -/
theorem checksumText_noReturn {assets : List (String × Bytes)}
    (whole : ∀ asset ∈ assets, IsWhole asset.1) : '\r' ∉ (checksumText py assets).toList := by
  rw [toList_checksumText]
  intro member
  obtain ⟨line, inLines, here⟩ := List.mem_flatMap.mp member
  obtain ⟨asset, assetMember, rfl⟩ := List.mem_map.mp inLines
  rcases List.mem_append.mp here with inLine | atEnd
  · exact absurd (checksumChars_whole (whole asset assetMember) _ inLine) (by decide)
  · exact absurd (List.mem_singleton.mp atEnd) (by decide)

/-- The verifier compares the files with the assets that the text was written of. -/
theorem verifyChecksums_ok_iff {assets : List (String × Bytes)} {data : Bytes} {dist : Directory}
    (unique : (assets.map Prod.fst).Nodup) (whole : ∀ asset ∈ assets, IsWhole asset.1)
    (encoded : encodeAscii (checksumText py assets) = .ok data)
    (stored : dist.files.get? "SHA256SUMS" = some data) :
    verifyChecksums py dist = .ok () ↔
      (assets.map fun asset => (asset.1, py.hashlib.sha256 asset.2)).Perm
        ((checkedFiles dist.files).mapValues fun _ data => py.hashlib.sha256 data).items := by
  obtain ⟨actual, read, actualItems⟩ := @readChecksums_checksumText py assets unique whole
  rw [verifyChecksums, readBytes_plain (by decide) stored, ok_bind,
    readTextAscii_of_encodeAscii encoded (checksumText_noReturn whole), ok_bind, read, ok_bind,
    raiseIf_eq_ok, decide_eq_false_iff_not, not_not, actualItems]

/-- The assets that the writers describe, in the order of their names. -/
theorem sortedAssets_perm (output : Dict String Bytes) :
    (sortByKey (checkedFiles output).items).Perm (checkedFiles output).items :=
  sortByKey_perm _

theorem sortedAssets_unique (output : Dict String Bytes) :
    ((sortByKey (checkedFiles output).items).map Prod.fst).Nodup :=
  ((sortedAssets_perm output).map Prod.fst).nodup_iff.mpr (checkedFiles output).unique

theorem sortedAssets_whole {output : Dict String Bytes} (whole : ∀ name ∈ output, IsWhole name) :
    ∀ asset ∈ sortByKey (checkedFiles output).items, IsWhole asset.1 := by
  intro asset member
  have kept := (List.mem_filter.mp ((sortedAssets_perm output).mem_iff.mp member)).1
  exact whole asset.1 (List.mem_map_of_mem kept)

/-- The verifier accepts the checksums the builder writes. -/
theorem verifyChecksums_of_writeChecksums {output written : Dict String Bytes}
    (returned : writeChecksums py output = .ok written) (whole : ∀ name ∈ output, IsWhole name)
    {dist : Directory} (files : dist.files = written) : verifyChecksums py dist = .ok () := by
  obtain ⟨data, encoded, result⟩ := bind_eq_ok.mp returned
  obtain rfl := Except.ok.inj result
  have stored : dist.files.get? "SHA256SUMS" = some data := by
    rw [files, Dict.get?_set_self]
  rw [verifyChecksums_ok_iff (sortedAssets_unique output) (sortedAssets_whole whole) encoded stored,
    files]
  exact ((sortedAssets_perm output).trans (checkedFiles_set output data).symm).map _

/-- Writing the checksums fails only when a file name is not ASCII. -/
theorem writeChecksums_of_ascii {output : Dict String Bytes}
    (ascii : ∀ name ∈ output, name.toList.all isAscii = true) :
    ∃ data, writeChecksums py output = .ok (output.set "SHA256SUMS" data) := by
  have digits : ∀ char ∈ ("0123456789abcdef" : String).toList, isAscii char = true :=
    List.all_iff_forall_prop.mp (by decide)
  have encoded : (checksumText py (sortByKey (checkedFiles output).items)).toList.all isAscii =
      true := by
    rw [toList_checksumText, List.all_eq_true]
    intro char member
    obtain ⟨line, inLines, here⟩ := List.mem_flatMap.mp member
    obtain ⟨asset, assetMember, rfl⟩ := List.mem_map.mp inLines
    have kept := (List.mem_filter.mp (mem_sortByKey.mp assetMember)).1
    have nameAscii := List.all_eq_true.mp (ascii asset.1 (List.mem_map_of_mem kept))
    rcases List.mem_append.mp here with inLine | atEnd
    · rcases List.mem_append.mp inLine with inDigest | inRest
      · exact digits char ((py.hashlib.sha256_hex asset.2).2 char inDigest)
      · rcases List.mem_cons.mp inRest with rfl | inRest
        · rfl
        · rcases List.mem_cons.mp inRest with rfl | inName
          · rfl
          · exact nameAscii char inName
    · rw [List.mem_singleton.mp atEnd]
      rfl
  refine ⟨_, bind_eq_ok.mpr ⟨_, encodeAscii_ok_iff.mpr ⟨encoded, rfl⟩, rfl⟩⟩

end BssLiteRt.Downloadable
