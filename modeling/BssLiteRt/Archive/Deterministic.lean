import BssLiteRt.Python.PurePosixPath
import Mathlib.Data.List.TakeWhile

/-!
Owns `deterministic_archive.py`: entry names are normalised and checked, entries
are sorted, and every header is fixed.
-/

namespace BssLiteRt.Archive

open BssLiteRt.Library BssLiteRt.Python

/-! ### Entry names -/

/-- `PurePosixPath(name).as_posix()` -/
def normalizeName (name : String) : String :=
  (PurePosixPath.parse name).asPosix

/-- The condition under which `validate_entry_name` raises. -/
def rejectsName (name : String) : Bool :=
  let normalized := normalizeName name
  normalized.toList = [] ∨ normalized.toList.head? = some '/' ∨ normalized = "." ∨
    ['.', '.'] ∈ (PurePosixPath.parse normalized).parts ∨ '\\' ∈ name.toList

def validateEntryName (py : StandardLibrary) (name : String) : Py String :=
  if rejectsName name then
    raise .valueError ("Unsafe archive entry: " ++ py.repr name)
  else
    .ok (normalizeName name)

/-! ### Writing -/

def FIXED_ZIP_TIME : ZipTime := ⟨1980, 1, 1, 0, 0, 0⟩

def ZIP_DEFLATED : Nat := 8

/-- The header of an entry. `zipfile.ZipInfo` cuts the name at its first NUL. -/
def entryInfo (name : String) : ZipInfo where
  filename := String.ofList (name.toList.takeWhile (· ≠ '\x00'))
  dateTime := FIXED_ZIP_TIME
  compressType := ZIP_DEFLATED
  createSystem := 3
  externalAttr := 0o100644 <<< 16
  nulFree := by
    rw [String.toList_ofList]
    intro member
    simpa using List.mem_takeWhile_imp member

def writeEntry (py : StandardLibrary) (name : String) (data : Bytes) : Py ZipEntry := do
  let normalized ← validateEntryName py name
  return ⟨entryInfo normalized, data⟩

/-- The loop of `archive_bytes` over the entries it is given. -/
def normalizeEntries (py : StandardLibrary) (items : List (String × Bytes))
    (normalized : Dict String Bytes) : Py (Dict String Bytes) :=
  match items with
  | [] => .ok normalized
  | (name, data) :: rest => do
      let safeName ← validateEntryName py name
      if safeName ∈ normalized then
        raise .valueError ("Duplicate archive entry: " ++ safeName)
      else
        normalizeEntries py rest (normalized.set safeName data)

/-- The loop of `archive_bytes` over the sorted names. -/
def writeEntries (py : StandardLibrary) : List (String × Bytes) → Py (List ZipEntry)
  | [] => .ok []
  | (name, data) :: rest => do
      let entry ← writeEntry py name data
      let entries ← writeEntries py rest
      return entry :: entries

def archiveBytes (py : StandardLibrary) (entries : Dict String Bytes) : Py Bytes := do
  let normalized ← normalizeEntries py entries.items Dict.empty
  let written ← writeEntries py (sortByKey normalized.items)
  return py.zipfile.write written

/-! ### Normalised names -/

section Names

variable {name : String}

theorem toList_normalizeName (name : String) :
    (normalizeName name).toList = (PurePosixPath.parse name).asPosixChars := by
  rw [normalizeName, PurePosixPath.asPosix, String.toList_ofList]

/-- An accepted name is a relative path that is not empty. -/
theorem relative_of_accepted (accepted : rejectsName name = false) :
    (PurePosixPath.parse name).Relative := by
  simp only [rejectsName, decide_eq_false_iff_not, not_or] at accepted
  obtain ⟨-, notAbsolute, notDot, -, -⟩ := accepted
  rw [toList_normalizeName] at notAbsolute
  have rootEmpty : (PurePosixPath.parse name).root = [] := by
    cases atRoot : (PurePosixPath.parse name).root with
    | nil => rfl
    | cons first rest =>
        have slash : first = '/' :=
          PurePosixPath.root_parseChars name.toList first (atRoot ▸ List.mem_cons_self)
        exact absurd (by simp [PurePosixPath.asPosixChars, atRoot, slash]) notAbsolute
  refine ⟨rootEmpty, ?_, ?_, ?_⟩
  · intro tailEmpty
    apply notDot
    rw [normalizeName, PurePosixPath.asPosix, PurePosixPath.asPosixChars,
      if_pos ⟨rootEmpty, tailEmpty⟩]
  · exact fun component member => (PurePosixPath.mem_tail_parseChars member).1
  · exact fun component member => (PurePosixPath.mem_tail_parseChars member).2.1

theorem parse_normalizeName (accepted : rejectsName name = false) :
    PurePosixPath.parse (normalizeName name) = PurePosixPath.parse name := by
  rw [PurePosixPath.parse, toList_normalizeName]
  exact (relative_of_accepted accepted).parseChars_asPosixChars

theorem normalizeName_idempotent (accepted : rejectsName name = false) :
    normalizeName (normalizeName name) = normalizeName name := by
  rw [normalizeName, parse_normalizeName accepted, ← normalizeName]

theorem mem_normalizeName {char : Char} (member : char ∈ (normalizeName name).toList)
    (notSlash : char ≠ '/') (notDot : char ≠ '.') : char ∈ name.toList := by
  rw [toList_normalizeName] at member
  exact PurePosixPath.mem_asPosixChars_parseChars member notSlash notDot

theorem accepts_normalizeName (accepted : rejectsName name = false) :
    rejectsName (normalizeName name) = false := by
  have same := normalizeName_idempotent accepted
  simp only [rejectsName, decide_eq_false_iff_not, not_or] at accepted ⊢
  rw [same]
  obtain ⟨nonempty, notAbsolute, notDot, noParent, noBackslash⟩ := accepted
  refine ⟨nonempty, notAbsolute, notDot, noParent, fun member => noBackslash ?_⟩
  exact mem_normalizeName member (by decide) (by decide)

theorem splitOn_normalizeName (accepted : rejectsName name = false) :
    (normalizeName name).toList.splitOn '/' = (PurePosixPath.parse name).tail := by
  have relative := relative_of_accepted accepted
  rw [toList_normalizeName, relative.asPosixChars_eq,
    List.splitOn_intercalate _ relative.slashFree relative.nonempty]

theorem not_isDir_normalizeName (accepted : rejectsName name = false) :
    ¬ ['/'] <:+ (normalizeName name).toList := by
  rintro ⟨front, shape⟩
  have split := splitOn_normalizeName accepted
  rw [← shape, List.splitOn_append_cons_self, List.splitOn_nil] at split
  have kept := (relative_of_accepted accepted).kept [] (by
    rw [← split]
    exact List.mem_append_right _ List.mem_cons_self)
  simp [PurePosixPath.keeps] at kept

theorem validateEntryName_ok_iff (py : StandardLibrary) {safeName : String} :
    validateEntryName py name = .ok safeName ↔
      rejectsName name = false ∧ normalizeName name = safeName := by
  unfold validateEntryName
  cases rejectsName name <;> simp [raise]

end Names

/-! ### What `archive_bytes` returns -/

section ArchiveBytes

variable {py : StandardLibrary}

def safeItem (item : String × Bytes) : String × Bytes :=
  (normalizeName item.1, item.2)

/-- The entry written for an item whose name is normalised. -/
def archived (item : String × Bytes) : ZipEntry :=
  ⟨entryInfo item.1, item.2⟩

theorem normalizeEntries_ok_iff {items : List (String × Bytes)} {start result : Dict String Bytes} :
    normalizeEntries py items start = .ok result ↔
      (∀ item ∈ items, rejectsName item.1 = false) ∧
        ((start.items ++ items.map safeItem).map Prod.fst).Nodup ∧
        result.items = start.items ++ items.map safeItem := by
  induction items generalizing start with
  | nil =>
      simp only [normalizeEntries, Except.ok.injEq, List.map_nil, List.append_nil]
      constructor
      · rintro rfl
        exact ⟨by simp, start.unique, rfl⟩
      · rintro ⟨-, -, same⟩
        exact (Dict.ext_items same).symm
  | cons item rest inductionHypothesis =>
      obtain ⟨name, data⟩ := item
      rw [List.map_cons, List.append_cons, List.forall_mem_cons]
      cases rejected : rejectsName name with
      | true => simp [normalizeEntries, validateEntryName, rejected, raise, bind, Except.bind]
      | false =>
          have valid := (validateEntryName_ok_iff py).mpr ⟨rejected, rfl⟩
          by_cases present : normalizeName name ∈ start
          · have raises : normalizeEntries py ((name, data) :: rest) start =
                raise .valueError ("Duplicate archive entry: " ++ normalizeName name) := by
              rw [normalizeEntries, valid]
              exact if_pos present
            rw [raises]
            constructor
            · intro impossible
              cases impossible
            · rintro ⟨-, unique, -⟩
              rw [List.map_append, List.map_append, List.append_assoc] at unique
              have fresh := (List.nodup_append.mp unique).2.2
              exact absurd rfl (fresh _ present _ (List.mem_append_left _ List.mem_cons_self))
          · have continues : normalizeEntries py ((name, data) :: rest) start =
                normalizeEntries py rest (start.set (normalizeName name) data) := by
              rw [normalizeEntries, valid]
              exact if_neg present
            rw [continues, inductionHypothesis, Dict.items_set_of_absent present]
            simp [safeItem]

theorem writeEntries_eq {items : List (String × Bytes)}
    (normal : ∀ item ∈ items, rejectsName item.1 = false ∧ normalizeName item.1 = item.1) :
    writeEntries py items = .ok (items.map archived) := by
  induction items with
  | nil => rfl
  | cons item rest inductionHypothesis =>
      obtain ⟨head, tail⟩ := List.forall_mem_cons.mp normal
      have valid := (validateEntryName_ok_iff py).mpr head
      unfold writeEntries writeEntry
      rw [valid, inductionHypothesis tail]
      rfl

/-- `archive_bytes` returns when every name is accepted and no two normalise to
the same; the archive then holds the normalised names in order. -/
theorem archiveBytes_ok_iff {entries : Dict String Bytes} {data : Bytes} :
    archiveBytes py entries = .ok data ↔
      (∀ item ∈ entries.items, rejectsName item.1 = false) ∧
        ((entries.items.map safeItem).map Prod.fst).Nodup ∧
        py.zipfile.write ((sortByKey (entries.items.map safeItem)).map archived) = data := by
  have written (accepted : ∀ item ∈ entries.items, rejectsName item.1 = false) :
      writeEntries py (sortByKey (entries.items.map safeItem)) =
        .ok ((sortByKey (entries.items.map safeItem)).map archived) := by
    apply writeEntries_eq
    intro safe member
    obtain ⟨item, itemMember, rfl⟩ := List.mem_map.mp (mem_sortByKey.mp member)
    have itemAccepted := accepted item itemMember
    exact ⟨accepts_normalizeName itemAccepted, normalizeName_idempotent itemAccepted⟩
  unfold archiveBytes
  cases normalized : normalizeEntries py entries.items Dict.empty with
  | error error =>
      constructor
      · intro impossible
        cases impossible
      · rintro ⟨accepted, unique, -⟩
        have returns : normalizeEntries py entries.items Dict.empty =
            .ok ⟨entries.items.map safeItem, unique⟩ :=
          normalizeEntries_ok_iff.mpr ⟨accepted, unique, rfl⟩
        rw [normalized] at returns
        cases returns
  | ok result =>
      obtain ⟨accepted, unique, items⟩ := normalizeEntries_ok_iff.mp normalized
      show (writeEntries py (sortByKey result.items) >>= fun written =>
        .ok (py.zipfile.write written)) = .ok data ↔ _
      rw [items]
      show (writeEntries py (sortByKey (entries.items.map safeItem)) >>= _) = _ ↔ _
      rw [written accepted]
      show Except.ok _ = Except.ok data ↔ _
      rw [Except.ok.injEq]
      exact ⟨fun same => ⟨accepted, unique, same⟩, fun facts => facts.2.2⟩

end ArchiveBytes

end BssLiteRt.Archive
