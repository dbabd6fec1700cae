import BssLiteRt.Complete.Consistency

/-!
Owns what the accepted documents of a publication say of its AAR: the files that the
module metadata lists, the components that the manifest records, and the elements of
the bill of materials, which the verifier collapses into dictionaries.
-/

namespace BssLiteRt.Complete

open BssLiteRt.Library BssLiteRt.Python BssLiteRt.Archive

/-- The elements of a list of a document, none when there is no list. -/
def elementsUnder (value : Json) (key : String) : List Json :=
  match getD value key (.arr []) >>= elements with
  | .ok items => items
  | .error _ => []

theorem elementsUnder_eq {value found : Json} {key : String} {items : List Json}
    (read : getD value key (.arr []) = .ok found) (listed : elements found = .ok items) :
    elementsUnder value key = items := by
  rw [elementsUnder, read, ok_bind, listed]

/-! ### Module metadata -/

section Module

variable {py : StandardLibrary} {group artifact version : String} {aar moduleBytes : Bytes}

/-- A file of a variant with the name, the size and the hashes of the AAR. -/
structure DescribesFile (py : StandardLibrary) (name : String) (aar : Bytes) (file : Json) :
    Prop where
  name : HasField file "name" (.str name)
  size : HasField file "size" (.int aar.length)
  md5 : HasField file "md5" (.str (py.hashlib.md5 aar))
  sha1 : HasField file "sha1" (.str (py.hashlib.sha1 aar))
  sha256 : HasField file "sha256" (.str (py.hashlib.sha256 aar))
  sha512 : HasField file "sha512" (.str (py.hashlib.sha512 aar))

theorem describesFile_of_pyEq {name : String} {file : Json}
    (same : file.pyEq (fileEntry py name aar) = true) : DescribesFile py name aar file := by
  have fields {key : String} {expected : Json} := @hasField_of_pyEq file expected _ key
    (by simp) same
  exact ⟨fields rfl, fields rfl, fields rfl, fields rfl, fields rfl, fields rfl⟩

/-- The variants of accepted module metadata list the AAR and nothing else. -/
theorem verifyModule_describes
    (accepted : verifyModule py moduleBytes group artifact version aar = .ok ()) :
    ∃ module, readJson py moduleBytes = .ok module ∧
      ∀ variant ∈ elementsUnder module "variants", ∃ file,
        variant.field? "files" = some (.arr [file]) ∧
        DescribesFile py (artifact ++ "-" ++ version ++ ".aar") aar file := by
  unfold verifyModule at accepted
  simp only [bind_eq_ok, raiseIf_eq_ok, exists_unit] at accepted
  obtain ⟨module, read, -, -, -, -, -, -, -, -, -, -, -, -, found, hasVariants, variants, listed,
    -, -, -, verified, -⟩ := accepted
  refine ⟨module, read, fun variant member => ?_⟩
  rw [elementsUnder_eq hasVariants listed] at member
  obtain ⟨-, file, files, same⟩ := verifyVariants_ok_iff.mp verified variant member
  exact ⟨file, files, describesFile_of_pyEq same⟩

end Module

/-! ### The build manifest -/

section Manifest

variable {py : StandardLibrary} {stored : List ZipEntry} {aar manifestBytes : Bytes}
  {contract : Contract} {group artifact version : String} {sourceLock : Document} {apiOnly : Bool}
  {manifest : Json}

/-- The entries of an AAR that its documents describe. -/
def componentEntries (stored : List ZipEntry) : List ZipEntry :=
  stored.filter fun entry => !entry.info.isDir && isComponent entry.info.filename

theorem mem_componentEntries_iff {entry : ZipEntry} : entry ∈ componentEntries stored ↔
    entry ∈ stored.filter (fun entry => !entry.info.isDir) ∧
      isComponent entry.info.filename = true := by
  rw [componentEntries, List.mem_filter, List.mem_filter, Bool.and_eq_true, and_assoc]

/-- The records of an archive whose file names are distinct. -/
theorem readComponents_entries {message : String} {records : Dict String Json}
    (returned : readComponents py message aar = .ok records) :
    ∃ stored, py.zipfile.read aar = .ok stored ∧ (filenames (componentEntries stored)).Nodup ∧
      ∀ name record, records.get? name = some record ↔
        ∃ entry ∈ componentEntries stored, entry.info.filename = name ∧
          componentRecord py entry.data = record := by
  obtain ⟨stored, opened, distinct⟩ : ∃ stored, py.zipfile.read aar = .ok stored ∧
      (filenames (stored.filter fun entry => !entry.info.isDir)).Nodup := by
    unfold readComponents at returned
    simp only [bind_eq_ok, raiseIf_eq_ok, exists_unit, decide_eq_false_iff_not, not_not] at returned
    obtain ⟨stored, opened, sameLength, -⟩ := returned
    exact ⟨stored, opened,
      List.dedup_eq_self.mp ((List.dedup_sublist _).eq_of_length sameLength.symm)⟩
  refine ⟨stored, opened, ?_, fun name record => ?_⟩
  · have kept : componentEntries stored = (stored.filter fun entry => !entry.info.isDir).filter
        fun entry => isComponent entry.info.filename := by
      rw [componentEntries, List.filter_filter]
      exact List.filter_congr fun entry _ => Bool.and_comm _ _
    rw [kept]
    exact distinct.sublist (List.filter_sublist.map _)
  · obtain ⟨components, listed, lookups⟩ := readComponents_ok opened distinct
    obtain rfl := Except.ok.inj (returned.symm.trans (listed message))
    rw [lookups]
    constructor
    · intro found
      split at found
      · rename_i kept
        obtain ⟨⟨entry, member, rfl⟩, component⟩ := And.imp_left List.mem_map.mp kept
        rw [recordOf, get?_entryDict_of_unique distinct member] at found
        exact ⟨entry, mem_componentEntries_iff.mpr ⟨member, component⟩, rfl, Option.some.inj found⟩
      · cases found
    · rintro ⟨entry, member, rfl, rfl⟩
      obtain ⟨file, component⟩ := mem_componentEntries_iff.mp member
      rw [if_pos ⟨List.mem_map_of_mem file, component⟩, recordOf,
        get?_entryDict_of_unique distinct file]
      rfl

/-- A manifest that records the components of the AAR with their sizes and hashes, and
nothing else. -/
def RecordsEntries (py : StandardLibrary) (stored : List ZipEntry) (manifest : Json) : Prop :=
  ∃ components, manifest.field? "components" = some components ∧
    (∀ name, (∃ record, components.field? name = some record) ↔
      name ∈ filenames (componentEntries stored)) ∧
    ∀ entry ∈ componentEntries stored, ∃ record,
      components.field? entry.info.filename = some record ∧
      HasField record "bytes" (.int entry.data.length) ∧
      HasField record "sha256" (.str (py.hashlib.sha256 entry.data))

/-- Fields that equal the records of the entries. -/
structure AreRecords (py : StandardLibrary) (stored : List ZipEntry)
    (fields : List (String × Json)) : Prop where
  unique : (fields.map Prod.fst).Nodup
  sound : ∀ name record, (name, record) ∈ fields → ∃ entry ∈ componentEntries stored,
    entry.info.filename = name ∧ record.pyEq (componentRecord py entry.data) = true
  complete : ∀ entry ∈ componentEntries stored, ∃ record, (entry.info.filename, record) ∈ fields ∧
    record.pyEq (componentRecord py entry.data) = true

theorem areRecords_of_pyEq {records : Dict String Json} {components : Json}
    (lookups : ∀ name record, records.get? name = some record ↔
      ∃ entry ∈ componentEntries stored, entry.info.filename = name ∧
        componentRecord py entry.data = record)
    (same : components.pyEq (.ofDict records) = true) :
    ∃ fields, components = .obj fields ∧ AreRecords py stored fields := by
  obtain ⟨fields, rfl, unique⟩ := Json.obj_of_pyEq records.unique same
  have held := Json.field?_of_pyEq records.unique same
  have member_iff {name : String} {record : Json} :
      (Json.obj fields).field? name = some record ↔ (name, record) ∈ fields :=
    Dict.lookup_eq_some_iff_mem unique
  refine ⟨fields, rfl, unique, fun name record member => ?_, fun entry member => ?_⟩
  · have normals := held name
    rw [member_iff.mpr member, Option.map_some, eq_comm, Option.map_eq_some_iff] at normals
    obtain ⟨expected, recorded, normal⟩ := normals
    obtain ⟨entry, isEntry, named, rfl⟩ := (lookups name expected).mp recorded
    exact ⟨entry, isEntry, named, Json.pyEq_iff.mpr normal.symm⟩
  · have recorded := (lookups entry.info.filename _).mpr ⟨entry, member, rfl, rfl⟩
    have normals := held entry.info.filename
    rw [Dict.get?] at recorded
    rw [recorded, Option.map_some, Option.map_eq_some_iff] at normals
    obtain ⟨record, found, normal⟩ := normals
    exact ⟨record, member_iff.mp found, Json.pyEq_iff.mpr normal⟩

/-- What an accepted build manifest holds under `components`. -/
theorem verifyBuildManifest_components (accepted : verifyBuildManifest py manifestBytes aar contract
      group artifact version sourceLock apiOnly = .ok manifest) :
    ∃ stored fields, py.zipfile.read aar = .ok stored ∧
      (filenames (componentEntries stored)).Nodup ∧
      manifest.field? "components" = some (.obj fields) ∧ AreRecords py stored fields := by
  unfold verifyBuildManifest requireField at accepted
  simp only [bind_eq_ok, raiseIf_eq_ok, exists_unit, Bool.not_eq_false'] at accepted
  obtain ⟨loaded, -, -, -, -, -, -, -, -, -, -, records, listed, ⟨components, held, same⟩,
    returned⟩ := accepted
  obtain rfl := Except.ok.inj returned
  obtain ⟨stored, opened, unique, lookups⟩ := readComponents_entries listed
  obtain ⟨fields, rfl, recorded⟩ := areRecords_of_pyEq lookups same
  exact ⟨stored, fields, opened, unique, field?_of_getD held (by simp), recorded⟩

theorem AreRecords.recordsEntries {fields : List (String × Json)}
    (recorded : AreRecords py stored fields)
    (held : manifest.field? "components" = some (.obj fields)) :
    RecordsEntries py stored manifest := by
  have member_iff {name : String} {record : Json} :
      (Json.obj fields).field? name = some record ↔ (name, record) ∈ fields :=
    Dict.lookup_eq_some_iff_mem recorded.unique
  refine ⟨_, held, fun name => ?_, fun entry member => ?_⟩
  · constructor
    · rintro ⟨record, found⟩
      obtain ⟨entry, member, rfl, -⟩ := recorded.sound name record (member_iff.mp found)
      exact List.mem_map_of_mem member
    · intro named
      obtain ⟨entry, member, rfl⟩ := List.mem_map.mp named
      obtain ⟨record, found, -⟩ := recorded.complete entry member
      exact ⟨record, member_iff.mpr found⟩
  · obtain ⟨record, found, same⟩ := recorded.complete entry member
    exact ⟨record, member_iff.mpr found, hasField_of_pyEq (by simp) same rfl,
      hasField_of_pyEq (by simp) same rfl⟩

end Manifest

/-! ### The hashes of an element -/

section Hashes

/-- The contents of the SHA-256 items of an element. -/
def statedHashes (element : Json) : List Json :=
  ((elementsUnder element "hashes").filter fun item => item.field? "alg" = some (.str "SHA-256")).filterMap
    fun item => item.field? "content"

theorem mem_statedHashes_iff {element stated : Json} : stated ∈ statedHashes element ↔
    ∃ item ∈ elementsUnder element "hashes", item.field? "alg" = some (.str "SHA-256") ∧
      item.field? "content" = some stated := by
  simp only [statedHashes, List.mem_filterMap, List.mem_filter, decide_eq_true_iff, and_assoc]

theorem getD_eq_ok {value found default : Json} {key : String}
    (returned : getD value key default = .ok found) : found = (value.field? key).getD default := by
  cases value with
  | obj => exact (Except.ok.inj returned).symm
  | null | bool | int | str | arr => cases returned

theorem hashKey_eq_str_iff {value : Json} {text : String} :
    hashKey value = .ok (.str text) ↔ value = .str text := by
  cases value <;> simp [hashKey, Json.normal]

/-- The last SHA-256 item decides the dictionary of the hashes. -/
theorem hashDict_stated {hashes : List Json} {found result : Dict Json Json} {digest : String}
    (returned : hashDict hashes found = .ok result)
    (holds : result.get? (.str "SHA-256") = some (.str digest)) :
    found.get? (.str "SHA-256") = some (.str digest) ∨
      ∃ item ∈ hashes, item.field? "alg" = some (.str "SHA-256") ∧
        item.field? "content" = some (.str digest) := by
  induction hashes generalizing found with
  | nil =>
      obtain rfl := Except.ok.inj returned
      exact .inl holds
  | cons item rest inductionHypothesis =>
      rw [hashDict] at returned
      simp only [bind_eq_ok] at returned
      obtain ⟨content, hasContent, alg, hasAlg, key, hashed, returned⟩ := returned
      rcases inductionHypothesis returned with earlier | ⟨other, member, stated⟩
      · rw [Dict.get?_set] at earlier
        split at earlier
        · rename_i named
          obtain rfl := Option.some.inj earlier
          rw [← named, hashKey_eq_str_iff] at hashed
          subst hashed
          exact .inr ⟨item, List.mem_cons_self, field?_of_getD hasAlg (by simp),
            field?_of_getD hasContent (by simp)⟩
        · exact .inl earlier
      · exact .inr ⟨other, List.mem_cons_of_mem _ member, stated⟩

/-- The hash that the verifier finds is one that the element states. -/
theorem sha256Of_stated {element : Json} {digest : String}
    (found : sha256Of element = .ok (.str digest)) : .str digest ∈ statedHashes element := by
  unfold sha256Of at found
  simp only [bind_eq_ok] at found
  obtain ⟨listed, read, hashes, looped, dict, collapsed, result⟩ := found
  have holds : dict.get? (.str "SHA-256") = some (.str digest) := by
    have last := Except.ok.inj result
    cases present : dict.get? (.str "SHA-256") with
    | none =>
        rw [present] at last
        cases last
    | some content =>
        rw [present] at last
        exact congrArg some last
  rcases hashDict_stated collapsed holds with absent | stated
  · cases absent
  · rw [mem_statedHashes_iff, elementsUnder_eq read looped]
    exact stated

end Hashes

/-! ### The elements of the bill of materials -/

section Elements

variable {py : StandardLibrary} {stored : List ZipEntry}

/-- The item that an element adds to the dictionary of the components. -/
def elementItem (element : Json) : Json × Json :=
  (((element.field? "name").getD .null).normal, (sha256Of element).toOption.getD .null)

theorem elementItem_named_iff {element : Json} {name : String} :
    (elementItem element).1 = .str name ↔ element.field? "name" = some (.str name) := by
  rw [elementItem]
  cases element.field? "name" with
  | none => simp [Json.normal]
  | some value => cases value <;> simp [Json.normal]

theorem componentHashes_items {entries : List Json} {found result : Dict Json Json}
    (returned : componentHashes entries found = .ok result) :
    (∀ element ∈ entries, sha256Of element = .ok (elementItem element).2) ∧
      result = (entries.map elementItem).foldl (fun dict item => dict.set item.1 item.2) found := by
  induction entries generalizing found with
  | nil => exact ⟨nofun, (Except.ok.inj returned).symm⟩
  | cons element rest inductionHypothesis =>
      rw [componentHashes] at returned
      simp only [bind_eq_ok] at returned
      obtain ⟨sha256, hashed, name, read, key, hashedName, returned⟩ := returned
      have item : elementItem element = (key, sha256) := by
        rw [elementItem, ← getD_eq_ok read, ← hashKey_eq_ok hashedName, hashed]
        rfl
      obtain ⟨each, rfl⟩ := inductionHypothesis returned
      rw [List.map_cons, List.foldl_cons, item]
      exact ⟨List.forall_mem_cons.mpr ⟨by rw [item, hashed], each⟩, rfl⟩

theorem expectedHashes_items {components : List (String × Json)} {found result : Dict Json Json}
    (returned : expectedHashes components found = .ok result) :
    result = (components.map fun component =>
      (Json.str component.1, (component.2.field? "sha256").getD .null)).foldl
        (fun dict item => dict.set item.1 item.2) found := by
  induction components generalizing found with
  | nil => exact (Except.ok.inj returned).symm
  | cons component rest inductionHypothesis =>
      rw [expectedHashes] at returned
      simp only [bind_eq_ok, getItem_ok_iff] at returned
      obtain ⟨sha256, recorded, returned⟩ := returned
      rw [inductionHypothesis returned, List.map_cons, List.foldl_cons, recorded]
      rfl

/-- The hashes that a manifest expects are those of the entries. -/
theorem AreRecords.get?_expectedHashes {fields : List (String × Json)}
    {expected : Dict Json Json} (recorded : AreRecords py stored fields)
    (returned : expectedHashes fields Dict.empty = .ok expected) (key value : Json) :
    expected.get? key = some value ↔ ∃ entry ∈ componentEntries stored,
      key = .str entry.info.filename ∧ value = .str (py.hashlib.sha256 entry.data) := by
  have hash {record : Json} {data : Bytes} (same : record.pyEq (componentRecord py data) = true) :
      (record.field? "sha256").getD .null = .str (py.hashlib.sha256 data) := by
    obtain ⟨found, held, equal⟩ := @hasField_of_pyEq record (.str (py.hashlib.sha256 data)) _
      "sha256" (by simp) same rfl
    rw [held, Option.getD_some, Json.pyEq_str_iff.mp equal]
  have unique : ((fields.map fun component =>
      (Json.str component.1, (component.2.field? "sha256").getD .null)).map Prod.fst).Nodup := by
    have keys := recorded.unique.map fun _ _ => Json.str.inj
    rwa [List.map_map] at keys ⊢
  rw [expectedHashes_items returned, ← Dict.ofPairs, Dict.get?_ofPairs_of_nodup unique,
    Dict.lookup_eq_some_iff_mem unique, List.mem_map]
  constructor
  · rintro ⟨⟨name, record⟩, member, same⟩
    obtain ⟨rfl, rfl⟩ := Prod.mk.inj same
    obtain ⟨entry, isEntry, rfl, equal⟩ := recorded.sound name record member
    exact ⟨entry, isEntry, rfl, hash equal⟩
  · rintro ⟨entry, isEntry, rfl, rfl⟩
    obtain ⟨record, member, equal⟩ := recorded.complete entry isEntry
    exact ⟨_, member, Prod.ext rfl (hash equal)⟩

/-- Equal dictionaries have the same keys and equal values. -/
theorem sameHashes_lookups {left right : Dict Json Json} (same : sameHashes left right = true) :
    (∀ key, key ∈ left ↔ key ∈ right) ∧ ∀ key value, left.get? key = some value →
      ∃ expected, right.get? key = some expected ∧ value.pyEq expected = true := by
  rw [sameHashes, decide_eq_true_iff] at same
  obtain ⟨sameLength, matched⟩ := same
  have values : ∀ key value, left.get? key = some value →
      ∃ expected, right.get? key = some expected ∧ value.pyEq expected = true := by
    intro key value held
    exact Option.map_eq_some_iff.mp (matched _ (Dict.get?_eq_some_iff.mp held))
  have subset : left.keys ⊆ right.keys := by
    intro key member
    obtain ⟨value, held⟩ := Dict.mem_iff_get?.mp member
    obtain ⟨expected, found, -⟩ := values key value held
    exact Dict.mem_iff_get?.mpr ⟨expected, found⟩
  have perm : left.keys.Perm right.keys := by
    refine (List.subperm_of_subset left.unique subset).perm_of_length_le ?_
    simpa [Dict.keys] using sameLength.ge
  exact ⟨fun key => perm.mem_iff, values⟩

/-- The elements of an accepted bill of materials, as the verifier collapses them. -/
structure Collapsed (py : StandardLibrary) (stored : List ZipEntry) (elements : List Json) :
    Prop where
  hashed : ∀ element ∈ elements, sha256Of element = .ok (elementItem element).2
  named : ∀ element ∈ elements, ∃ entry ∈ componentEntries stored,
    element.field? "name" = some (.str entry.info.filename)
  last : ∀ entry ∈ componentEntries stored, (Dict.ofPairs (elements.map elementItem)).get?
    (.str entry.info.filename) = some (.str (py.hashlib.sha256 entry.data))

theorem verifySbom_collapsed {sbomBytes aar : Bytes} {manifest : Json}
    {fields : List (String × Json)} (accepted : verifySbom py sbomBytes aar manifest = .ok ())
    (held : manifest.field? "components" = some (.obj fields))
    (recorded : AreRecords py stored fields) :
    ∃ sbom, readJson py sbomBytes = .ok sbom ∧
      Collapsed py stored (elementsUnder sbom "components") := by
  unfold verifySbom at accepted
  simp only [bind_eq_ok, raiseIf_eq_ok, exists_unit, getItem_ok_iff, Bool.not_eq_false'] at accepted
  obtain ⟨sbom, read, -, -, -, -, -, -, -, -, -, -, -, -, listed, hasComponents, elements, looped,
    actual, collapsed, components, stillHeld, items, isDict, expected, expanded, same⟩ := accepted
  obtain rfl := Option.some.inj (held.symm.trans stillHeld)
  obtain rfl := Except.ok.inj isDict
  obtain ⟨hashed, rfl⟩ := componentHashes_items collapsed
  have expects := recorded.get?_expectedHashes expanded
  obtain ⟨sameKeys, values⟩ := sameHashes_lookups same
  rw [← Dict.ofPairs] at sameKeys values
  refine ⟨sbom, read, ?_⟩
  rw [elementsUnder_eq hasComponents looped]
  refine ⟨hashed, fun element member => ?_, fun entry isEntry => ?_⟩
  · have key : (elementItem element).1 ∈ Dict.ofPairs (elements.map elementItem) :=
      Dict.mem_ofPairs_iff.mpr (List.mem_map_of_mem (List.mem_map_of_mem member))
    obtain ⟨value, found⟩ := Dict.mem_iff_get?.mp ((sameKeys _).mp key)
    obtain ⟨entry, isEntry, named, -⟩ := (expects _ _).mp found
    exact ⟨entry, isEntry, elementItem_named_iff.mp named⟩
  · have found := (expects _ _).mpr ⟨entry, isEntry, rfl, rfl⟩
    obtain ⟨value, stated⟩ := Dict.mem_iff_get?.mp
      ((sameKeys _).mpr (Dict.mem_iff_get?.mpr ⟨_, found⟩))
    obtain ⟨other, expectedHere, equal⟩ := values _ _ stated
    obtain rfl := Option.some.inj (found.symm.trans expectedHere)
    rw [stated, Json.pyEq_str_iff.mp equal]

/-- The elements name each component of the AAR once and state only its own hash. -/
structure DescribesElements (py : StandardLibrary) (stored : List ZipEntry)
    (elements : List Json) : Prop where
  named : ∀ element ∈ elements, ∃ entry ∈ componentEntries stored,
    element.field? "name" = some (.str entry.info.filename) ∧
      ∀ stated ∈ statedHashes element, stated = .str (py.hashlib.sha256 entry.data)
  once : ∀ entry ∈ componentEntries stored,
    (elements.map fun element => element.field? "name").count (some (.str entry.info.filename)) = 1

/-- Nothing is lost when the elements are collapsed: no two of them have one name, and no
element states two different hashes. -/
structure NothingLost (elements : List Json) : Prop where
  names : (elements.map fun element => element.field? "name").Nodup
  hashes : ∀ element ∈ elements, ∀ first ∈ statedHashes element, ∀ second ∈ statedHashes element,
    first = second

theorem Collapsed.describesElements_iff {elements : List Json}
    (collapsed : Collapsed py stored elements) :
    DescribesElements py stored elements ↔ NothingLost elements := by
  constructor
  · intro described
    refine ⟨List.nodup_iff_count_le_one.mpr fun name => ?_, fun element member first isFirst second
      isSecond => ?_⟩
    · by_cases present : name ∈ elements.map fun element => element.field? "name"
      · obtain ⟨element, member, rfl⟩ := List.mem_map.mp present
        obtain ⟨entry, isEntry, named, -⟩ := described.named element member
        rw [named, described.once entry isEntry]
      · rw [List.count_eq_zero_of_not_mem present]
        exact Nat.zero_le 1
    · obtain ⟨entry, -, -, stated⟩ := described.named element member
      rw [stated first isFirst, stated second isSecond]
  · intro kept
    have unique : ((elements.map elementItem).map Prod.fst).Nodup := by
      have names : ((elements.map elementItem).map Prod.fst).map some =
          elements.map fun element => element.field? "name" := by
        rw [List.map_map, List.map_map]
        refine List.map_congr_left fun element member => ?_
        obtain ⟨entry, -, named⟩ := collapsed.named element member
        rw [named]
        exact congrArg some (elementItem_named_iff.mpr named)
      exact (names ▸ kept.names).of_map
    refine ⟨fun element member => ?_, fun entry isEntry => ?_⟩
    · obtain ⟨entry, isEntry, named⟩ := collapsed.named element member
      have item : (Dict.ofPairs (elements.map elementItem)).get? (.str entry.info.filename) =
          some (elementItem element).2 := by
        rw [Dict.get?_ofPairs_of_nodup unique, Dict.lookup_eq_some_iff_mem unique,
          ← elementItem_named_iff.mpr named]
        exact List.mem_map_of_mem member
      rw [collapsed.last entry isEntry] at item
      have hash := collapsed.hashed element member
      rw [← Option.some.inj item] at hash
      exact ⟨entry, isEntry, named, fun stated isStated =>
        kept.hashes element member stated isStated _ (sha256Of_stated hash)⟩
    · refine List.count_eq_one_of_mem kept.names ?_
      have key := Dict.mem_ofPairs_iff.mp (Dict.mem_iff_get?.mpr ⟨_, collapsed.last entry isEntry⟩)
      rw [List.map_map] at key
      obtain ⟨element, member, named⟩ := List.mem_map.mp key
      exact List.mem_map.mpr ⟨element, member, elementItem_named_iff.mp named⟩

end Elements

/-! ### Accepted documents -/

/-- The three documents describe the AAR exactly. -/
structure DescribesExactly (py : StandardLibrary) (name : String) (aar : Bytes)
    (stored : List ZipEntry) (module manifest sbom : Json) : Prop where
  variants : ∀ variant ∈ elementsUnder module "variants", ∃ file,
    variant.field? "files" = some (.arr [file]) ∧ DescribesFile py name aar file
  components : RecordsEntries py stored manifest
  elements : DescribesElements py stored (elementsUnder sbom "components")

/-- Accepted documents describe the AAR exactly when the bill of materials repeats no name
and no element of it contradicts itself. -/
theorem accepted_documents_describe_iff (py : StandardLibrary) (contract : Contract)
    (group artifact version : String) (sourceLock : Document) (apiOnly : Bool)
    (aar moduleBytes manifestBytes sbomBytes : Bytes) (manifest : Json)
    (moduleAccepted : verifyModule py moduleBytes group artifact version aar = .ok ())
    (manifestAccepted : verifyBuildManifest py manifestBytes aar contract group artifact version
      sourceLock apiOnly = .ok manifest)
    (sbomAccepted : verifySbom py sbomBytes aar manifest = .ok ()) :
    ∃ module sbom stored, readJson py moduleBytes = .ok module ∧
      readJson py sbomBytes = .ok sbom ∧ py.zipfile.read aar = .ok stored ∧
      (DescribesExactly py (artifact ++ "-" ++ version ++ ".aar") aar stored module manifest sbom ↔
        NothingLost (elementsUnder sbom "components")) := by
  obtain ⟨module, moduleRead, variants⟩ := verifyModule_describes moduleAccepted
  obtain ⟨stored, fields, opened, -, held, recorded⟩ :=
    verifyBuildManifest_components manifestAccepted
  obtain ⟨sbom, sbomRead, collapsed⟩ := verifySbom_collapsed sbomAccepted held recorded
  refine ⟨module, sbom, stored, moduleRead, sbomRead, opened, ?_⟩
  constructor
  · exact fun described => collapsed.describesElements_iff.mp described.elements
  · exact fun kept => ⟨variants, recorded.recordsEntries held,
      collapsed.describesElements_iff.mpr kept⟩

/-! ### Concrete documents -/

def nativeItems : List (String × Bytes) :=
  pureItems ++ [("jni/arm64-v8a/libLiteRt.so", [3])]

def sampleAar : Bytes :=
  concreteLibrary.zipfile.write (nativeItems.map archived)

def sampleModule : Bytes :=
  jsonBytes (gradleModuleMetadata concreteLibrary sampleContract.group sampleContract.name "1.0"
    sampleAar)

def sampleComponents : Dict String Json where
  items := [("classes.jar", componentRecord concreteLibrary [1]),
    ("jni/arm64-v8a/libLiteRt.so", componentRecord concreteLibrary [3])]
  unique := by simp

/-- A manifest of the packager. -/
def sampleSource : Json :=
  .obj [("liteRt", .obj [("commit", .str "0f")]), ("patchSeries", .arr []),
    ("components", .ofDict sampleComponents)]

def sampleManifest : Dict String Json where
  items := [("schemaVersion", .int 1),
    ("artifact", artifactJson sampleContract sampleContract.group sampleContract.name "1.0"),
    ("liteRt", .obj [("commit", .str "0f")]), ("patchSeries", .arr []),
    ("components", .ofDict sampleComponents), ("publicationFixture", .str (fixtureName false))]
  unique := by simp

def sampleElement (name digest : String) : Json :=
  .obj [("name", .str name),
    ("hashes", .arr [.obj [("alg", .str "SHA-256"), ("content", .str digest)]])]

def sampleSbom (elements : List Json) : Json :=
  .obj [("bomFormat", .str "CycloneDX"), ("specVersion", .str "1.6"),
    ("metadata", .obj [("component", .obj [("hashes", .arr [.obj [("alg", .str "SHA-256"),
      ("content", .str (concreteLibrary.hashlib.sha256 sampleAar))]])])]),
    ("components", .arr elements)]

theorem sample_read : concreteLibrary.zipfile.read sampleAar = .ok (nativeItems.map archived) :=
  concreteLibrary.zipfile.read_write _

theorem sample_listed (message : String) :
    readComponents concreteLibrary message sampleAar = .ok sampleComponents := by
  have listed : readComponents concreteLibrary "" sampleAar = .ok sampleComponents := by
    rw [readComponents, sample_read, ok_bind]
    decide
  exact readComponents_message listed

theorem sample_moduleAccepted : verifyModule concreteLibrary sampleModule sampleContract.group
    sampleContract.name "1.0" sampleAar = .ok () :=
  (verifyModule_generated_iff sample_namePlain sample_versionPlain).mpr (by decide)

theorem wellFormed_sampleSource : sampleSource.WellFormed := by
  simp [sampleSource, sampleComponents, componentRecord, Json.wellFormed_obj, Json.wellFormed_arr,
    Json.ofDict]

theorem sampleSource_carries : CarriesLock sampleSource sampleLock :=
  List.forall_mem_cons.mpr ⟨⟨_, rfl, _, rfl, Json.pyEq_refl _⟩,
    List.forall_mem_singleton.mpr ⟨_, rfl, _, rfl, Json.pyEq_refl _⟩⟩

theorem sample_manifestAccepted : verifyBuildManifest concreteLibrary
    (jsonBytes (.ofDict sampleManifest)) sampleAar sampleContract sampleContract.group
    sampleContract.name "1.0" sampleLock false = .ok (Json.ofDict sampleManifest).sortKeys := by
  have made : publicationBuildManifest concreteLibrary sampleSource sampleContract "1.0" sampleAar
      false = .ok sampleManifest :=
    publicationBuildManifest_ok_iff.mpr ⟨sampleComponents, _, _, sample_listed, by decide,
      by decide, rfl, rfl, rfl⟩
  obtain ⟨components, listed, -, published⟩ := published_of_ok made
  obtain rfl := Except.ok.inj ((sample_listed "").symm.trans (listed ""))
  exact verifyBuildManifest_published published
    (published.wellFormed wellFormed_sampleSource (wellFormed_components (sample_listed "")))
    sample_listed sampleSource_carries

/-- The names of the components and their hashes. -/
def sampleHashes : List (String × String) :=
  [("classes.jar", concreteLibrary.hashlib.sha256 [1]),
    ("jni/arm64-v8a/libLiteRt.so", concreteLibrary.hashlib.sha256 [3])]

/-- The elements of the components. -/
def sampleElements : List Json :=
  sampleHashes.map fun entry => sampleElement entry.1 entry.2

/-- An element of the first component with another hash. -/
def wrongElement : Json :=
  sampleElement "classes.jar" "00"

theorem wellFormed_sampleElement (name digest : String) :
    (sampleElement name digest).WellFormed := by
  simp [sampleElement, Json.wellFormed_obj, Json.wellFormed_arr]

theorem wellFormed_sampleElements : ∀ element ∈ sampleElements, element.WellFormed :=
  List.forall_mem_map.mpr fun _ _ => wellFormed_sampleElement _ _

theorem wellFormed_sampleSbom {elements : List Json}
    (wellFormed : ∀ element ∈ elements, element.WellFormed) : (sampleSbom elements).WellFormed := by
  have listed := Json.wellFormed_arr.mpr wellFormed
  have hashes : (Json.arr [.obj [("alg", .str "SHA-256"),
      ("content", .str (concreteLibrary.hashlib.sha256 sampleAar))]]).WellFormed := by
    simp [Json.wellFormed_arr, Json.wellFormed_obj]
  simp [sampleSbom, Json.wellFormed_obj, listed, hashes]

theorem sample_sbomAccepted {elements : List Json} {actual : Dict Json Json}
    (wellFormed : ∀ element ∈ elements, element.WellFormed)
    (collapsed : componentHashes (elements.map Json.sortKeys) Dict.empty = .ok actual)
    (last : actual.items = sampleHashes.map fun entry => (.str entry.1, .str entry.2)) :
    verifySbom concreteLibrary (jsonBytes (sampleSbom elements)) sampleAar
      (Json.ofDict sampleManifest).sortKeys = .ok () := by
  have manifestWellFormed : (Json.ofDict sampleManifest).WellFormed := by
    simp [Json.wellFormed_ofDict, sampleManifest, sampleComponents, componentRecord, artifactJson,
      Json.wellFormed_obj, Json.wellFormed_arr, sampleContract]
  have sorted : sortByKey sampleComponents.items = sampleComponents.items :=
    sortByKey_eq_self (List.pairwise_pair.mpr (by decide))
  have recorded : (Json.ofDict sampleManifest).sortKeys.field? "components" =
      some (.obj (sampleComponents.items.map fun item => (item.1, item.2.sortKeys))) := by
    rw [@field?_loaded "components" _ sampleManifest manifestWellFormed rfl, Json.ofDict,
      Json.sortKeys_obj, sorted]
  refine verifySbom_written ⟨wellFormed_sampleSbom wellFormed, rfl, rfl, _, _, rfl, rfl, rfl⟩ rfl
    collapsed recorded (expectedHashes_entries [("classes.jar", [1]),
      ("jni/arm64-v8a/libLiteRt.so", [3])] Dict.empty) ?_
  have same : actual = ⟨sampleHashes.map fun entry => (.str entry.1, .str entry.2), by decide⟩ :=
    Dict.ext_items last
  rw [same]
  exact sameHashes_refl _

/-- The elements of a bill of materials that was written and read back. -/
theorem sample_elements {elements : List Json} {sbom : Json}
    (wellFormed : ∀ element ∈ elements, element.WellFormed)
    (read : readJson concreteLibrary (jsonBytes (sampleSbom elements)) = .ok sbom) :
    elementsUnder sbom "components" = elements.map Json.sortKeys := by
  have sbomWellFormed := wellFormed_sampleSbom wellFormed
  rw [readJson_jsonBytes concreteLibrary sbomWellFormed] at read
  obtain rfl := Except.ok.inj read
  have listed := @field?_sorted "components" (.arr elements) _ sbomWellFormed rfl
  rw [Json.sortKeys_arr] at listed
  exact elementsUnder_eq (getD_of_field? listed) rfl

/-- Documents that name the classes and the native library once describe the AAR. -/
theorem accepted_documents_describe_iff_native : ∃ module sbom stored,
    readJson concreteLibrary sampleModule = .ok module ∧
      readJson concreteLibrary (jsonBytes (sampleSbom sampleElements)) = .ok sbom ∧
      concreteLibrary.zipfile.read sampleAar = .ok stored ∧
      DescribesExactly concreteLibrary "runtime-1.0.aar" sampleAar stored module
        (Json.ofDict sampleManifest).sortKeys sbom := by
  have sbomAccepted := @sample_sbomAccepted sampleElements
    ⟨sampleHashes.map fun entry => (.str entry.1, .str entry.2), by decide⟩
    wellFormed_sampleElements (by decide) rfl
  obtain ⟨module, sbom, stored, moduleRead, sbomRead, opened, describes_iff⟩ :=
    accepted_documents_describe_iff concreteLibrary sampleContract sampleContract.group
      sampleContract.name "1.0" sampleLock false sampleAar sampleModule _ _ _ sample_moduleAccepted
      sample_manifestAccepted sbomAccepted
  rw [show sampleContract.name ++ "-" ++ "1.0" ++ ".aar" = "runtime-1.0.aar" by decide] at describes_iff
  refine ⟨module, sbom, stored, moduleRead, sbomRead, opened, describes_iff.mpr ?_⟩
  rw [sample_elements wellFormed_sampleElements sbomRead]
  have single : ∀ element ∈ sampleElements.map Json.sortKeys,
      (statedHashes element).length = 1 := by
    decide
  refine ⟨by decide, fun element member => ?_⟩
  obtain ⟨digest, stated⟩ := List.length_eq_one_iff.mp (single element member)
  rw [stated]
  exact List.forall_mem_singleton.mpr (List.forall_mem_singleton.mpr rfl)

/-- A second element with the name of a component and a wrong hash is accepted. -/
theorem contradicting_element_accepted :
    verifyModule concreteLibrary sampleModule sampleContract.group sampleContract.name "1.0"
        sampleAar = .ok () ∧
      verifyBuildManifest concreteLibrary (jsonBytes (.ofDict sampleManifest)) sampleAar
        sampleContract sampleContract.group sampleContract.name "1.0" sampleLock false =
          .ok (Json.ofDict sampleManifest).sortKeys ∧
      verifySbom concreteLibrary (jsonBytes (sampleSbom (wrongElement :: sampleElements))) sampleAar
        (Json.ofDict sampleManifest).sortKeys = .ok () ∧
      ∀ module sbom stored, readJson concreteLibrary
          (jsonBytes (sampleSbom (wrongElement :: sampleElements))) = .ok sbom →
        concreteLibrary.zipfile.read sampleAar = .ok stored →
        ¬ DescribesExactly concreteLibrary "runtime-1.0.aar" sampleAar stored module
          (Json.ofDict sampleManifest).sortKeys sbom := by
  have wellFormed : ∀ element ∈ wrongElement :: sampleElements, element.WellFormed :=
    List.forall_mem_cons.mpr ⟨wellFormed_sampleElement _ _, wellFormed_sampleElements⟩
  refine ⟨sample_moduleAccepted, sample_manifestAccepted, ?_, ?_⟩
  · exact @sample_sbomAccepted (wrongElement :: sampleElements)
      ⟨sampleHashes.map fun entry => (.str entry.1, .str entry.2), by decide⟩ wellFormed
      (by decide) rfl
  · intro module sbom stored sbomRead opened described
    obtain rfl := Except.ok.inj (sample_read.symm.trans opened)
    have once := described.elements.once (archived ("classes.jar", [1])) (by decide)
    rw [sample_elements wellFormed sbomRead] at once
    revert once
    decide

end BssLiteRt.Complete
