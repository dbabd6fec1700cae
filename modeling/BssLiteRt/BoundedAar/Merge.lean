import BssLiteRt.BoundedAar.Agreement

/-!
Owns the merge of the official AAR pair: exactly when it raises, and that it
neither loses nor doubles an entry or a class.
-/

namespace BssLiteRt.BoundedAar

open BssLiteRt.Library BssLiteRt.Python BssLiteRt.Archive

/-! ### The entries of the API AAR -/

/-- What an API entry has to find among the entries. -/
def Fits (entries : Dict String Bytes) (item : String × Bytes) : Prop :=
  item.1 ≠ "classes.jar" →
    if startsWith item.1 "jni/" then item.1 ∉ entries
    else ∀ shared ∈ entries.get? item.1, shared = item.2

/-- The entries after an API entry that fits. -/
def added (entries : Dict String Bytes) (item : String × Bytes) : Dict String Bytes :=
  if item.1 = "classes.jar" ∨ item.1 ∈ entries then entries else entries.set item.1 item.2

section Entries

variable {entries : Dict String Bytes} {item : String × Bytes} {rest : List (String × Bytes)}

theorem get?_added_of_ne {name : String} (other : name ≠ item.1) :
    (added entries item).get? name = entries.get? name := by
  unfold added
  split
  · rfl
  · rw [Dict.get?_set, if_neg other]

/-- An API entry that fits is in the result with its own bytes. -/
theorem get?_added_self (fits : Fits entries item) (notClasses : item.1 ≠ "classes.jar") :
    (added entries item).get? item.1 = some item.2 := by
  have found := fits notClasses
  by_cases present : item.1 ∈ entries
  · rw [added, if_pos (Or.inr present)]
    obtain ⟨shared, sharedFound⟩ := Dict.mem_iff_get?.mp present
    split at found
    · exact absurd present found
    · rw [sharedFound, found shared sharedFound]
  · rw [added, if_neg (not_or.mpr ⟨notClasses, present⟩), Dict.get?_set_self]

theorem fits_added_iff {other : String × Bytes} (apart : other.1 ≠ item.1) :
    Fits (added entries item) other ↔ Fits entries other := by
  unfold Fits
  rw [Dict.mem_iff_get?, Dict.mem_iff_get?, get?_added_of_ne apart]

theorem mergeEntries_of_fits (fits : Fits entries item) :
    mergeEntries (item :: rest) entries = mergeEntries rest (added entries item) := by
  obtain ⟨name, data⟩ := item
  rw [mergeEntries, added]
  by_cases isClasses : name = "classes.jar"
  · rw [if_pos isClasses, if_pos (Or.inl isClasses)]
  · have found := fits isClasses
    rw [if_neg isClasses]
    by_cases native : startsWith name "jni/" = true
    · rw [if_pos native] at found
      rw [if_pos native, if_neg found, if_neg (not_or.mpr ⟨isClasses, found⟩)]
    · rw [if_neg native] at found
      rw [if_neg native]
      cases inEntries : entries.get? name with
      | none =>
          have absent := Dict.get?_eq_none_iff.mp inEntries
          have kept : ¬ ((name, data).1 = "classes.jar" ∨ (name, data).1 ∈ entries) :=
            not_or.mpr ⟨isClasses, absent⟩
          rw [if_neg kept]
      | some shared =>
          have present := Dict.mem_iff_get?.mpr ⟨shared, inEntries⟩
          have same : shared = data := found shared inEntries
          simp [same, present]

theorem mergeEntries_of_not_fits (conflict : ¬ Fits entries item) :
    ∃ error, mergeEntries (item :: rest) entries = .error error := by
  obtain ⟨name, data⟩ := item
  rw [Fits, Classical.not_imp] at conflict
  obtain ⟨notClasses, conflict⟩ := conflict
  rw [mergeEntries, if_neg notClasses]
  by_cases native : startsWith name "jni/" = true
  · rw [if_pos native, not_not] at conflict
    rw [if_pos native, if_pos conflict]
    exact ⟨_, rfl⟩
  · rw [if_neg native] at conflict
    simp only [not_forall] at conflict
    obtain ⟨shared, found, different⟩ := conflict
    have inEntries : entries.get? name = some shared := found
    rw [if_neg native, inEntries]
    simp only [ne_eq, different, not_false_eq_true, if_true]
    exact ⟨_, rfl⟩

theorem mergeEntries_ok_iff {api : List (String × Bytes)} (unique : (api.map Prod.fst).Nodup) :
    (∃ result, mergeEntries api entries = .ok result) ↔ ∀ item ∈ api, Fits entries item := by
  induction api generalizing entries with
  | nil => simp [mergeEntries]
  | cons item rest inductionHypothesis =>
      rw [List.map_cons, List.nodup_cons] at unique
      rw [List.forall_mem_cons]
      by_cases fits : Fits entries item
      · rw [mergeEntries_of_fits fits, inductionHypothesis unique.2]
        refine ⟨fun later => ⟨fits, ?_⟩, fun both => ?_⟩
        all_goals
          intro other member
          have apart : other.1 ≠ item.1 := fun same =>
            unique.1 (same ▸ List.mem_map_of_mem member)
        · exact (fits_added_iff apart).mp (later other member)
        · exact (fits_added_iff apart).mpr (both.2 other member)
      · obtain ⟨error, raised⟩ := @mergeEntries_of_not_fits entries item rest fits
        rw [raised]
        exact ⟨fun returned => absurd returned.choose_spec nofun, fun both => absurd both.1 fits⟩

/-- The result of the loop, entry by entry. -/
theorem get?_mergeEntries {api : List (String × Bytes)} (unique : (api.map Prod.fst).Nodup)
    {result : Dict String Bytes} (returned : mergeEntries api entries = .ok result)
    {name : String} (notClasses : name ≠ "classes.jar") :
    result.get? name = (api.lookup name).or (entries.get? name) := by
  induction api generalizing entries with
  | nil => rw [Except.ok.inj returned, List.lookup_nil, Option.none_or]
  | cons item rest inductionHypothesis =>
      rw [List.map_cons, List.nodup_cons] at unique
      have fits : Fits entries item := by
        by_contra conflict
        obtain ⟨error, raised⟩ := @mergeEntries_of_not_fits entries item rest conflict
        rw [raised] at returned
        cases returned
      rw [mergeEntries_of_fits fits] at returned
      rw [inductionHypothesis unique.2 returned, List.lookup_cons]
      by_cases isItem : name = item.1
      · subst isItem
        have absent : rest.lookup item.1 = none := Dict.lookup_eq_none_iff_notMem.mpr unique.1
        rw [absent, get?_added_self fits notClasses]
        simp
      · rw [get?_added_of_ne isItem, beq_false_of_ne isItem]

end Entries

/-! ### The whole merge -/

/-- The classes of the API AAR that are merged. -/
def mergedApiClasses (apiClasses : Dict String Bytes) : Dict String Bytes :=
  apiClasses.erase "META-INF/MANIFEST.MF"

/-- The reasons for which `merge_official_aars` raises. -/
def MergeConflict (py : StandardLibrary)
    (implementation api implementationClasses apiClasses : Dict String Bytes) : Prop :=
  (∃ name ∈ implementationClasses, name ∈ apiClasses ∧ name ≠ "META-INF/MANIFEST.MF") ∨
    (∃ name ∈ api, startsWith name "jni/" = true ∧ name ∈ implementation) ∨
    (∃ name data shared, api.get? name = some data ∧ implementation.get? name = some shared ∧
      name ≠ "classes.jar" ∧ startsWith name "jni/" = false ∧ shared ≠ data) ∨
    Refused py (implementationClasses.update (mergedApiClasses apiClasses))

section Merge

variable {py : StandardLibrary} {implementation api implementationClasses apiClasses :
  Dict String Bytes} {implementationJar apiJar : Bytes}

theorem mem_mergedApiClasses {name : String} :
    name ∈ mergedApiClasses apiClasses ↔ name ∈ apiClasses ∧ name ≠ "META-INF/MANIFEST.MF" := by
  rw [Dict.mem_iff_get?, Dict.mem_iff_get?, mergedApiClasses, Dict.get?_erase]
  by_cases isManifest : name = "META-INF/MANIFEST.MF" <;> simp [isManifest]

/-- The merge returns when the classes are apart and can be archived, and each API
entry fits. -/
theorem mergeOfficialAars_ok_iff {merged : Dict String Bytes}
    (implementationFound : implementation.get? "classes.jar" = some implementationJar)
    (apiFound : api.get? "classes.jar" = some apiJar)
    (implementationRead : readArchiveBytes py implementationJar "implementation classes.jar" =
      .ok implementationClasses)
    (apiRead : readArchiveBytes py apiJar "API classes.jar" = .ok apiClasses) :
    mergeOfficialAars py implementation api = .ok merged ↔
      (∀ name ∈ implementationClasses, name ∉ mergedApiClasses apiClasses) ∧
        ∃ jar, archiveBytes py (implementationClasses.update (mergedApiClasses apiClasses)) =
          .ok jar ∧ mergeEntries api.items (implementation.set "classes.jar" jar) = .ok merged := by
  rw [mergeOfficialAars, entryOf_ok_iff.mpr implementationFound, ok_bind, implementationRead,
    ok_bind, entryOf_ok_iff.mpr apiFound, ok_bind, apiRead, ok_bind]
  simp only [bind_eq_ok, raiseIf_eq_ok, exists_unit, decide_eq_false_iff_not, ne_eq, not_not]
  exact and_congr_left fun _ => sortedIntersection_eq_nil_iff

/-- An API entry fits among the entries of the implementation. -/
theorem fits_implementation_iff {jar data : Bytes} {name : String} :
    Fits (implementation.set "classes.jar" jar) (name, data) ↔
      (startsWith name "jni/" = true → name ∉ implementation) ∧
        (name ≠ "classes.jar" → startsWith name "jni/" = false →
          ∀ shared ∈ implementation.get? name, shared = data) := by
  unfold Fits
  by_cases isClasses : name = "classes.jar"
  · have notNative : startsWith "classes.jar" "jni/" = false := by decide
    simp [isClasses, notNative]
  · rw [Dict.mem_set_iff, Dict.get?_set, if_neg isClasses]
    cases startsWith name "jni/" <;> simp [isClasses]

theorem merge_raises_iff
    (implementationFound : implementation.get? "classes.jar" = some implementationJar)
    (apiFound : api.get? "classes.jar" = some apiJar)
    (implementationRead : readArchiveBytes py implementationJar "implementation classes.jar" =
      .ok implementationClasses)
    (apiRead : readArchiveBytes py apiJar "API classes.jar" = .ok apiClasses) :
    (∃ error, mergeOfficialAars py implementation api = .error error) ↔
      MergeConflict py implementation api implementationClasses apiClasses := by
  have okIff := fun merged => @mergeOfficialAars_ok_iff py implementation api implementationClasses
    apiClasses implementationJar apiJar merged implementationFound apiFound implementationRead
    apiRead
  constructor
  · rintro ⟨error, raised⟩
    by_contra served
    simp only [MergeConflict, not_or, not_exists, not_and] at served
    obtain ⟨apart, nativeApart, sharedSame, notRefused⟩ := served
    have archives : ∃ jar,
        archiveBytes py (implementationClasses.update (mergedApiClasses apiClasses)) = .ok jar := by
      cases outcome : archiveBytes py
          (implementationClasses.update (mergedApiClasses apiClasses)) with
      | ok jar => exact ⟨jar, rfl⟩
      | error error => exact absurd (archiveBytes_raises_iff.mp ⟨error, outcome⟩) notRefused
    obtain ⟨jar, archived⟩ := archives
    have fits : ∀ item ∈ api.items, Fits (implementation.set "classes.jar" jar) item := by
      rintro ⟨name, data⟩ member
      have inApi : name ∈ api := List.mem_map.mpr ⟨(name, data), member, rfl⟩
      rw [fits_implementation_iff]
      refine ⟨nativeApart name inApi, ?_⟩
      intro notClasses notNative shared found
      by_contra different
      exact sharedSame name data shared (Dict.get?_eq_some_iff.mpr member) found notClasses
        notNative different
    obtain ⟨merged, returned⟩ := (mergeEntries_ok_iff api.unique).mpr fits
    have returns := (okIff merged).mpr ⟨?_, jar, archived, returned⟩
    · rw [raised] at returns
      cases returns
    · intro name inImplementation inApi
      obtain ⟨inApi, notManifest⟩ := mem_mergedApiClasses.mp inApi
      exact apart name inImplementation inApi notManifest
  · intro conflict
    cases outcome : mergeOfficialAars py implementation api with
    | error error => exact ⟨error, rfl⟩
    | ok merged =>
        obtain ⟨apart, jar, archived, returned⟩ := (okIff merged).mp outcome
        have fits := (mergeEntries_ok_iff api.unique).mp ⟨merged, returned⟩
        rcases conflict with ⟨name, inImplementation, inApi⟩ | ⟨name, inApi, native, present⟩ |
          ⟨name, data, shared, inApi, found, notClasses, notNative, different⟩ | refused
        · exact absurd (mem_mergedApiClasses.mpr inApi) (apart name inImplementation)
        · obtain ⟨⟨name, data⟩, member, rfl⟩ := List.mem_map.mp inApi
          exact absurd present ((fits_implementation_iff.mp (fits _ member)).1 native)
        · have fit := fits (name, data) (Dict.get?_eq_some_iff.mp inApi)
          have same := (fits_implementation_iff.mp fit).2 notClasses notNative shared found
          exact absurd same different
        · obtain ⟨error, raised⟩ := archiveBytes_raises_iff.mpr refused
          rw [raised] at archived
          cases archived

/-- The merged `classes.jar` reads back as the classes of both AARs. -/
theorem merged_classes_readBack {jar : Bytes} {label : String}
    (implementationNulFree : ∀ name ∈ implementationClasses, '\x00' ∉ name.toList)
    (apiNulFree : ∀ name ∈ apiClasses, '\x00' ∉ name.toList)
    (apart : ∀ name ∈ implementationClasses, name ∉ mergedApiClasses apiClasses)
    (archived : archiveBytes py (implementationClasses.update (mergedApiClasses apiClasses)) =
      .ok jar) :
    ∃ readBack : Dict String Bytes, readArchiveBytes py jar label = .ok readBack ∧
      readBack.items.Perm ((implementationClasses.items ++
        (mergedApiClasses apiClasses).items).map fun item => (normalizeName item.1, item.2)) := by
  have unique : ((implementationClasses.items ++
      (mergedApiClasses apiClasses).items).map Prod.fst).Nodup := by
    rw [List.map_append]
    exact List.Nodup.append implementationClasses.unique (mergedApiClasses apiClasses).unique apart
  have union : (implementationClasses.update (mergedApiClasses apiClasses)).items =
      implementationClasses.items ++ (mergedApiClasses apiClasses).items :=
    Dict.items_foldl_set unique
  have nulFree : ∀ name ∈ implementationClasses.update (mergedApiClasses apiClasses),
      '\x00' ∉ name.toList := by
    intro name member
    rw [Dict.mem_iff_keys, Dict.keys, union, List.map_append, List.mem_append] at member
    rcases member with inImplementation | inApi
    · exact implementationNulFree name inImplementation
    · exact apiNulFree name (mem_mergedApiClasses.mp inApi).1
  obtain ⟨items, canonical, stored, rfl⟩ := canonical_of_archiveBytes nulFree archived
  refine ⟨canonical.dict, canonical.readArchiveBytes_write label, ?_⟩
  rw [union] at stored
  exact stored

end Merge

/-- The merge of the official AARs raises exactly on a conflict; else it keeps each
entry of both with its bytes, adds no other, and joins their classes. -/
theorem merge_loses_nothing (py : StandardLibrary)
    (implementation api implementationClasses apiClasses : Dict String Bytes)
    (implementationJar apiJar : Bytes)
    (implementationFound : implementation.get? "classes.jar" = some implementationJar)
    (apiFound : api.get? "classes.jar" = some apiJar)
    (implementationRead : readArchiveBytes py implementationJar "implementation classes.jar" =
      .ok implementationClasses)
    (apiRead : readArchiveBytes py apiJar "API classes.jar" = .ok apiClasses) :
    ((∃ error, mergeOfficialAars py implementation api = .error error) ↔
        MergeConflict py implementation api implementationClasses apiClasses) ∧
      ∀ merged, mergeOfficialAars py implementation api = .ok merged →
        (∀ name data, name ≠ "classes.jar" → implementation.get? name = some data →
          merged.get? name = some data) ∧
        (∀ name data, name ≠ "classes.jar" → api.get? name = some data →
          merged.get? name = some data) ∧
        (∀ name ∈ merged, name ∈ implementation ∨ name ∈ api) ∧
        ∃ jar, merged.get? "classes.jar" = some jar ∧
          ∀ label, ∃ readBack : Dict String Bytes, readArchiveBytes py jar label = .ok readBack ∧
            readBack.items.Perm ((implementationClasses.items ++
              (mergedApiClasses apiClasses).items).map fun item =>
                (normalizeName item.1, item.2)) := by
  refine ⟨merge_raises_iff implementationFound apiFound implementationRead apiRead, ?_⟩
  intro merged returned
  obtain ⟨apart, jar, archived, joined⟩ :=
    (mergeOfficialAars_ok_iff implementationFound apiFound implementationRead apiRead).mp returned
  have lookups {name : String} (notClasses : name ≠ "classes.jar") :
      merged.get? name = (api.get? name).or (implementation.get? name) := by
    rw [get?_mergeEntries api.unique joined notClasses, Dict.get?_set, if_neg notClasses]
    rfl
  have fits := (mergeEntries_ok_iff api.unique).mp ⟨merged, joined⟩
  refine ⟨?_, ?_, ?_, jar, ?_, fun label => ?_⟩
  · intro name data notClasses found
    rw [lookups notClasses, found]
    cases inApi : api.get? name with
    | none => rfl
    | some other =>
        -- An entry of both is shared: it is not native, so its bytes are the same.
        have fit := fits_implementation_iff.mp (fits (name, other) (Dict.get?_eq_some_iff.mp inApi))
        have notNative : startsWith name "jni/" = false := by
          apply Bool.eq_false_iff.mpr
          intro native
          exact fit.1 native (Dict.mem_iff_get?.mpr ⟨data, found⟩)
        rw [fit.2 notClasses notNative data found]
        rfl
  · intro name data notClasses found
    rw [lookups notClasses, found]
    rfl
  · intro name member
    rcases mem_of_mergeOfficialAars returned member with isClasses | known
    · exact Or.inl (isClasses ▸ Dict.mem_iff_get?.mpr ⟨_, implementationFound⟩)
    · exact known
  · rw [mergeEntries_get?_classes joined, Dict.get?_set_self]
  · exact merged_classes_readBack (readArchiveBytes_nulFree implementationRead)
      (readArchiveBytes_nulFree apiRead) apart archived

/-- Two AARs that hold their classes only. -/
theorem merge_loses_nothing_two_jars :
    ∃ implementation api merged jar readBack,
      mergeOfficialAars concreteLibrary implementation api = .ok merged ∧
        merged.get? "classes.jar" = some jar ∧
        readArchiveBytes concreteLibrary jar "classes.jar" = .ok readBack ∧
        readBack.items.Perm ((interpreterClass.items ++ (mergedApiClasses apiClasses).items).map
          fun item => (normalizeName item.1, item.2)) := by
  obtain ⟨implementationJar, implementation⟩ :=
    holds_exists (sample_canonical interpreterClass (by simp))
  obtain ⟨apiJar, api⟩ := holds_exists (sample_canonical apiClasses (by simp))
  obtain ⟨officialJar, archive, -⟩ :=
    holds_archive (sample_canonical officialClasses (by simp)) sample_updates.1
  have merged := sample_merged implementation api archive
  have facts := merge_loses_nothing concreteLibrary (jarOnly implementationJar) (jarOnly apiJar)
    interpreterClass apiClasses implementationJar apiJar rfl rfl (implementation _) (api _)
  obtain ⟨-, -, -, jar, found, reads⟩ := facts.2 _ merged
  obtain ⟨readBack, read, stored⟩ := reads "classes.jar"
  exact ⟨_, _, _, jar, readBack, merged, found, read, stored⟩

end BssLiteRt.BoundedAar
