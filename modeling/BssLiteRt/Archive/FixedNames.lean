import BssLiteRt.Archive.MemberNames
import BssLiteRt.Library.Counting
import BssLiteRt.Python.Text

/-!
Owns archives that store the very names they were given: writing a name only takes
characters out of it, so that no two names can trade places.
-/

namespace BssLiteRt.Archive

open BssLiteRt.Library BssLiteRt.Library.Counting BssLiteRt.Python

/-! ### Stored names are shorter -/

theorem intercalate_sublist {α : Type} {separator : List α} {fewer more : List (List α)}
    (within : fewer.Sublist more) :
    (List.intercalate separator fewer).Sublist (List.intercalate separator more) := by
  induction within with
  | slnil => exact List.Sublist.refl _
  | @cons fewer more item within hypothesis =>
      cases more with
      | nil =>
          cases within
          exact List.nil_sublist _
      | cons next rest =>
          rw [List.intercalate_cons_cons]
          exact hypothesis.trans (List.sublist_append_right _ _)
  | @cons_cons fewer more item within hypothesis =>
      cases fewer with
      | nil =>
          cases more with
          | nil => exact List.Sublist.refl _
          | cons next rest =>
              rw [List.intercalate_singleton, List.intercalate_cons_cons, List.append_assoc]
              exact List.sublist_append_left _ _
      | cons first others =>
          cases more with
          | nil => cases within
          | cons next rest =>
              rw [List.intercalate_cons_cons, List.intercalate_cons_cons]
              exact (List.Sublist.refl _).append hypothesis

section Names

variable {name : String}

theorem normalizeName_sublist (accepted : rejectsName name = false) :
    (normalizeName name).toList.Sublist name.toList := by
  have relative := relative_of_accepted accepted
  rw [toList_normalizeName, relative.asPosixChars_eq]
  have kept : (PurePosixPath.parse name).tail.Sublist
      ((PurePosixPath.splitRoot name.toList).2.splitOn '/') := List.filter_sublist
  refine (intercalate_sublist kept).trans ?_
  rw [List.intercalate_splitOn]
  exact (PurePosixPath.splitRoot_suffix _).sublist

theorem memberName_sublist (accepted : rejectsName name = false) :
    (memberName name).toList.Sublist name.toList := by
  rw [toList_memberName]
  exact (List.takeWhile_sublist _).trans (normalizeName_sublist accepted)

theorem isNormalised_of_memberName (accepted : rejectsName name = false)
    (same : memberName name = name) : IsNormalised name := by
  have within := normalizeName_sublist accepted
  have cut : (beforeNul (normalizeName name).toList).Sublist (normalizeName name).toList :=
    List.takeWhile_sublist _
  rw [← toList_memberName, same] at cut
  have normal : normalizeName name = name :=
    String.toList_inj.mp (within.antisymm cut)
  refine ⟨normal, fun member => ?_⟩
  have stored := toList_memberName name
  rw [normal, same] at stored
  rw [stored] at member
  simpa using List.mem_takeWhile_imp member

theorem memberName_of_isNormalised (normal : IsNormalised name) : memberName name = name := by
  rw [← String.toList_inj, toList_memberName, normal.1]
  exact beforeNul_eq_self (by simpa [holdsNul] using normal.2)

end Names

/-! ### The names of an archive -/

section Archives

variable {py : StandardLibrary} {entries : Dict String Bytes} {data : Bytes}

theorem accepted_of_archiveBytes (written : archiveBytes py entries = .ok data) :
    ∀ name ∈ entries, rejectsName name = false := by
  intro name member
  obtain ⟨content, found⟩ := Dict.mem_iff_get?.mp member
  obtain ⟨accepted, -, -⟩ := archiveBytes_ok_iff.mp written
  exact accepted (name, content) (Dict.get?_eq_some_iff.mp found)

/-- An archive stores the names of its entries, and no directory, exactly when they are
all normalised. -/
theorem stores_names_iff (written : archiveBytes py entries = .ok data) {stored : List ZipEntry}
    (read : py.zipfile.read data = .ok stored) :
    (∀ name, name ∈ (filenames stored).filter (fun name => !endsWith name "/") ↔
      name ∈ entries) ↔ ∀ name ∈ entries, IsNormalised name := by
  obtain ⟨stored', read', names⟩ := filenames_archiveBytes written
  obtain rfl := Except.ok.inj (read'.symm.trans read)
  have accepted := accepted_of_archiveBytes written
  have isStored (name : String) : name ∈ filenames stored' ↔ name ∈ entries.keys.map memberName :=
    names.mem_iff
  constructor
  · intro same name member
    have covered : ∀ name ∈ entries.keys, name ∈ entries.keys.map memberName := by
      intro name member
      exact (isStored name).mp (List.mem_filter.mp ((same name).mpr member)).1
    have sameLength := measure_eq_of_covered (fun name => name.toList.length) entries.unique
      covered fun name member => (memberName_sublist (accepted name member)).length_le
    refine isNormalised_of_memberName (accepted name member) ?_
    exact String.toList_inj.mp
      ((memberName_sublist (accepted name member)).eq_of_length (sameLength name member))
  · intro normal name
    have kept : entries.keys.map memberName = entries.keys := by
      refine (List.map_congr_left fun name member => ?_).trans (List.map_id _)
      exact memberName_of_isNormalised (normal name member)
    rw [List.mem_filter, isStored, kept]
    refine and_iff_left_of_imp fun member => ?_
    have notDir := not_isDir_normalizeName (accepted name member)
    rw [(normal name member).1] at notDir
    rw [Bool.not_eq_true', endsWith, ← Bool.not_eq_true, List.isSuffixOf_iff_suffix]
    exact notDir

end Archives

end BssLiteRt.Archive
