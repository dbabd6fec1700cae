import BssLiteRt.Archive.RoundTrip

/-!
Owns the names under which entries land in an archive. `write_entry` checks the
normalised name, and `zipfile.ZipInfo` then cuts it at its first NUL.
-/

namespace BssLiteRt.Archive

open BssLiteRt.Library BssLiteRt.Python

/-! ### Cutting a text between slashes -/

def beforeNul (chars : List Char) : List Char :=
  chars.takeWhile (· ≠ '\x00')

def holdsNul (chars : List Char) : Bool :=
  '\x00' ∈ chars

/-- The components of a text that is cut at its first NUL. -/
def cutComponents : List (List Char) → List (List Char)
  | [] => []
  | component :: rest =>
      if holdsNul component then [beforeNul component] else component :: cutComponents rest

theorem splitOn_beforeNul (chars : List Char) :
    (beforeNul chars).splitOn '/' = cutComponents (chars.splitOn '/') := by
  induction chars with
  | nil => rfl
  | cons first rest inductionHypothesis =>
      obtain ⟨head, tail, shape⟩ := List.exists_cons_of_ne_nil (List.splitOn_ne_nil '/' rest)
      rw [shape] at inductionHypothesis
      by_cases nul : first = '\x00'
      · subst nul
        rw [List.splitOn_cons_eq_if_modifyHead, if_neg (by decide), shape]
        rfl
      · have kept : beforeNul (first :: rest) = first :: beforeNul rest :=
          List.takeWhile_cons_of_pos (decide_eq_true nul)
        rw [kept, List.splitOn_cons_eq_if_modifyHead, List.splitOn_cons_eq_if_modifyHead,
          inductionHypothesis, shape]
        by_cases slash : first = '/'
        · subst slash
          rfl
        · rw [if_neg (by simpa using slash), if_neg (by simpa using slash), List.modifyHead_cons]
          by_cases inHead : '\x00' ∈ head
          · have inLonger : '\x00' ∈ first :: head := List.mem_cons_of_mem _ inHead
            simp [cutComponents, holdsNul, inHead, beforeNul, nul]
          · simp [cutComponents, holdsNul, inHead, Ne.symm nul]

/-! ### Safe names -/

/-- The components that lead nowhere or up. -/
def unsafeComponents : List (List Char) :=
  [[], ['.'], ['.', '.']]

/-- A member name that leads down from the place an archive is extracted to. -/
structure SafeMemberName (name : String) : Prop where
  nonempty : name.toList ≠ []
  relative : name.toList.head? ≠ some '/'
  noBackslash : '\\' ∉ name.toList
  components : ∀ component ∈ name.toList.splitOn '/', component ∉ unsafeComponents

/-- What stands before the first NUL in its component is not empty and no dots. -/
def CutsSafely (name : String) : Prop :=
  ∀ component ∈ (name.toList.splitOn '/').find? holdsNul,
    beforeNul component ∉ unsafeComponents

instance (name : String) : Decidable (CutsSafely name) :=
  decidable_of_iff (((name.toList.splitOn '/').find? holdsNul).all
    fun component => ∀ bad ∈ unsafeComponents, beforeNul component ≠ bad) (by
      simp only [CutsSafely, Option.all_eq_true, decide_eq_true_eq, Option.mem_def]
      exact forall_congr' fun component => imp_congr_right fun _ =>
        ⟨fun apart member => apart _ member rfl, fun absent bad member same => absent (same ▸ member)⟩)

/-- The name under which the entry of a name lands. -/
def memberName (name : String) : String :=
  (entryInfo (normalizeName name)).filename

theorem toList_memberName (name : String) :
    (memberName name).toList = beforeNul (normalizeName name).toList :=
  String.toList_ofList

/-- Components before the first NUL are whole. -/
theorem cutComponents_safe_iff {components : List (List Char)}
    (safe : ∀ component ∈ components, component ∉ unsafeComponents) :
    (∀ component ∈ cutComponents components, component ∉ unsafeComponents) ↔
      ∀ component ∈ components.find? holdsNul, beforeNul component ∉ unsafeComponents := by
  induction components with
  | nil => simp [cutComponents]
  | cons first rest inductionHypothesis =>
      obtain ⟨firstSafe, restSafe⟩ := List.forall_mem_cons.mp safe
      by_cases nul : holdsNul first = true
      · simp [cutComponents, nul]
      · rw [cutComponents, if_neg nul, List.find?_cons_of_neg nul, List.forall_mem_cons,
          inductionHypothesis restSafe]
        exact and_iff_right firstSafe

section Accepted

variable {name : String}

theorem components_safe_of_accepted (accepted : rejectsName name = false) :
    ∀ component ∈ (PurePosixPath.parse name).tail, component ∉ unsafeComponents := by
  have relative := relative_of_accepted accepted
  intro component member
  have kept := relative.kept component member
  have notParent : component ≠ ['.', '.'] := by
    rintro rfl
    have sameParse := parse_normalizeName accepted
    simp only [rejectsName, decide_eq_false_iff_not, not_or] at accepted
    apply accepted.2.2.2.1
    rw [sameParse, PurePosixPath.parts, if_pos relative.root]
    exact member
  simp only [PurePosixPath.keeps, decide_eq_true_eq] at kept
  simp [unsafeComponents, kept.1, kept.2, notParent]

/-- The component of the first NUL is not dropped by normalisation. -/
theorem find?_holdsNul_tail (accepted : rejectsName name = false) :
    (PurePosixPath.parse name).tail.find? holdsNul =
      (name.toList.splitOn '/').find? holdsNul := by
  have rooted := (relative_of_accepted accepted).root
  have relative : name.toList.head? ≠ some '/' := by
    intro slash
    obtain ⟨rest, shape⟩ := List.head?_eq_some_iff.mp slash
    have root : (PurePosixPath.splitRoot name.toList).1 = [] := rooted
    rw [shape] at root
    unfold PurePosixPath.splitRoot at root
    split at root <;> simp_all
  have tail : (PurePosixPath.parse name).tail =
      (name.toList.splitOn '/').filter PurePosixPath.keeps := by
    show ((PurePosixPath.splitRoot name.toList).2.splitOn '/').filter _ = _
    rw [PurePosixPath.splitRoot_relative relative]
  rw [tail, List.find?_filter]
  congr 1
  funext component
  cases nul : holdsNul component with
  | false => simp
  | true =>
      have member : '\x00' ∈ component := of_decide_eq_true nul
      have keeps : PurePosixPath.keeps component = true := by
        apply decide_eq_true
        constructor
        · rintro rfl
          cases member
        · rintro rfl
          exact absurd member (by decide)
      simp [keeps]

/-- Which names land safely. -/
theorem safe_memberName_iff (accepted : rejectsName name = false) :
    SafeMemberName (memberName name) ↔ CutsSafely name := by
  have components : (memberName name).toList.splitOn '/' =
      cutComponents (PurePosixPath.parse name).tail := by
    rw [toList_memberName, splitOn_beforeNul, splitOn_normalizeName accepted]
  have safeIff := cutComponents_safe_iff (components_safe_of_accepted accepted)
  rw [← components, find?_holdsNul_tail accepted] at safeIff
  constructor
  · intro safe
    exact safeIff.mp safe.components
  · intro cuts
    have safe := safeIff.mpr cuts
    refine ⟨?_, ?_, ?_, safe⟩
    · intro empty
      rw [empty] at safe
      exact safe [] List.mem_cons_self List.mem_cons_self
    · intro slash
      obtain ⟨rest, shape⟩ := List.head?_eq_some_iff.mp slash
      rw [shape] at safe
      exact safe [] (by simp [List.splitOn_cons_eq_if_modifyHead]) List.mem_cons_self
    · intro member
      rw [toList_memberName] at member
      have inNormal := (List.takeWhile_prefix _).subset member
      simp only [rejectsName, decide_eq_false_iff_not, not_or] at accepted
      exact accepted.2.2.2.2 (mem_normalizeName inNormal (by decide) (by decide))

end Accepted

/-! ### Distinct names -/

/-- One of two texts holds a NUL, and they are the same up to their first NULs. -/
def AgreeToNul (first second : List Char) : Prop :=
  (holdsNul first = true ∨ holdsNul second = true) ∧ beforeNul first = beforeNul second

instance (first second : List Char) : Decidable (AgreeToNul first second) :=
  inferInstanceAs (Decidable (_ ∧ _))

theorem beforeNul_eq_self {chars : List Char} (nulFree : ¬ holdsNul chars = true) :
    beforeNul chars = chars := by
  apply List.takeWhile_eq_self_iff.mpr
  intro char member
  apply decide_eq_true
  rintro rfl
  exact nulFree (decide_eq_true member)

theorem memberName_eq_iff {first second : String}
    (different : normalizeName first ≠ normalizeName second) :
    memberName first = memberName second ↔
      AgreeToNul (normalizeName first).toList (normalizeName second).toList := by
  rw [← String.toList_inj, toList_memberName, toList_memberName]
  constructor
  · intro same
    refine ⟨?_, same⟩
    by_contra nulFree
    rw [not_or] at nulFree
    rw [beforeNul_eq_self nulFree.1, beforeNul_eq_self nulFree.2] at same
    exact different (String.toList_inj.mp same)
  · exact fun agree => agree.2

/-! ### What `write_entry` and `archive_bytes` store -/

section Stored

variable {py : StandardLibrary}

theorem writeEntry_ok_iff {name : String} {data : Bytes} {entry : ZipEntry} :
    writeEntry py name data = .ok entry ↔
      rejectsName name = false ∧ entry = ⟨entryInfo (normalizeName name), data⟩ := by
  unfold writeEntry
  rw [bind_eq_ok]
  constructor
  · rintro ⟨safeName, valid, returned⟩
    obtain ⟨accepted, rfl⟩ := (validateEntryName_ok_iff py).mp valid
    exact ⟨accepted, (Except.ok.inj returned).symm⟩
  · rintro ⟨accepted, rfl⟩
    exact ⟨_, (validateEntryName_ok_iff py).mpr ⟨accepted, rfl⟩, rfl⟩

theorem validateEntryName_stable {name safeName : String}
    (valid : validateEntryName py name = .ok safeName) :
    validateEntryName py safeName = .ok safeName := by
  obtain ⟨accepted, rfl⟩ := (validateEntryName_ok_iff py).mp valid
  rw [validateEntryName_ok_iff]
  exact ⟨accepts_normalizeName accepted, normalizeName_idempotent accepted⟩

/-- The archive holds one entry for each name, under its member name. -/
theorem filenames_archiveBytes {entries : Dict String Bytes} {data : Bytes}
    (returned : archiveBytes py entries = .ok data) :
    ∃ stored, py.zipfile.read data = .ok stored ∧
      (filenames stored).Perm (entries.keys.map memberName) := by
  obtain ⟨-, -, rfl⟩ := archiveBytes_ok_iff.mp returned
  refine ⟨_, py.zipfile.read_write _, ?_⟩
  have names : filenames ((entries.items.map safeItem).map archived) =
      entries.keys.map memberName := by
    rw [filenames, Dict.keys, List.map_map, List.map_map, List.map_map]
    rfl
  rw [← names]
  exact ((sortByKey_perm _).map archived).map _

/-- Exactly when what is written is safe. The name that was checked is the name
that is stored unless it holds a NUL. -/
theorem stored_names_safe_iff (py : StandardLibrary) :
    (∀ name data entry, writeEntry py name data = .ok entry →
        (SafeMemberName entry.info.filename ↔ CutsSafely name)) ∧
      (∀ name safeName, validateEntryName py name = .ok safeName →
        validateEntryName py safeName = .ok safeName) ∧
      ∀ entries data, archiveBytes py entries = .ok data →
        ∃ stored, py.zipfile.read data = .ok stored ∧
          (filenames stored).Perm (entries.keys.map memberName) ∧
          ∀ first ∈ entries, ∀ second ∈ entries, first ≠ second →
            (memberName first ≠ memberName second ↔
              ¬ AgreeToNul (normalizeName first).toList (normalizeName second).toList) := by
  refine ⟨?_, fun name safeName => validateEntryName_stable, ?_⟩
  · intro name data entry written
    obtain ⟨accepted, rfl⟩ := writeEntry_ok_iff.mp written
    exact safe_memberName_iff accepted
  · intro entries data returned
    obtain ⟨stored, readBack, names⟩ := filenames_archiveBytes returned
    refine ⟨stored, readBack, names, fun first inFirst second inSecond different => ?_⟩
    obtain ⟨-, unique, -⟩ := archiveBytes_ok_iff.mp returned
    have apart : normalizeName first ≠ normalizeName second := fun same =>
      different (nodup_safeItem_iff.mp unique first inFirst second inSecond same)
    exact not_congr (memberName_eq_iff apart)

/-- Two names that differ only after a NUL. -/
def nulEntries : Dict String Bytes :=
  ⟨[("a", [1]), ("a\x00b", [2])], by decide⟩

theorem nul_names_unsafe :
    (∃ entry, writeEntry concreteLibrary "\x00classes.jar" [1] = .ok entry ∧
        ¬ SafeMemberName entry.info.filename) ∧
      ∃ data stored, archiveBytes concreteLibrary nulEntries = .ok data ∧
        concreteLibrary.zipfile.read data = .ok stored ∧ filenames stored = ["a", "a"] := by
  constructor
  · refine ⟨_, writeEntry_ok_iff.mpr ⟨by decide, rfl⟩, fun safe => safe.nonempty ?_⟩
    decide
  · refine ⟨_, _, archiveBytes_ok_iff.mpr ⟨by decide, by decide, rfl⟩,
      concreteLibrary.zipfile.read_write _, ?_⟩
    decide

theorem stored_names_safe_iff_nul :
    (∃ entry, writeEntry concreteLibrary "res/a\x00b" [1] = .ok entry ∧
        SafeMemberName entry.info.filename) ∧
      ∃ data, archiveBytes concreteLibrary nulEntries = .ok data ∧
        memberName "a" = memberName "a\x00b" := by
  have facts := stored_names_safe_iff concreteLibrary
  have written := (@writeEntry_ok_iff concreteLibrary "res/a\x00b" [1] _).mpr ⟨by decide, rfl⟩
  have returned := (@archiveBytes_ok_iff concreteLibrary nulEntries _).mpr
    ⟨by decide, by decide, rfl⟩
  obtain ⟨stored, -, -, apart⟩ := facts.2.2 _ _ returned
  refine ⟨⟨_, written, (facts.1 _ _ _ written).mpr ?_⟩, _, returned, ?_⟩
  · decide
  · exact not_ne_iff.mp fun different =>
      (apart "a" (by decide) "a\x00b" (by decide) (by decide)).mp different (by decide)

end Stored

end BssLiteRt.Archive
