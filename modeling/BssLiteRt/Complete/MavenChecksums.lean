import BssLiteRt.Python.Collections
import BssLiteRt.Python.Concrete
import BssLiteRt.Python.Text

/-!
Owns the `.sha256` sidecars of a staged Maven version: `write_maven_checksums.py`,
which writes into the directory it lists, and `verify_checksums` of
`verify_maven_staging.py`.

A flat directory is its regular files by their names, none of them a link of another.
-/

namespace BssLiteRt.Complete.MavenChecksums

open BssLiteRt.Library BssLiteRt.Python

/-! ### The writer -/

def sidecarSuffixes : List String :=
  [".asc", ".md5", ".sha1", ".sha256", ".sha512"]

/-- `path.name.endswith(sidecar_suffixes)` -/
def isSidecar (name : String) : Bool :=
  sidecarSuffixes.any fun suffix => endsWith name suffix

def sidecarName (name : String) : String :=
  name ++ ".sha256"

/-- `path.open("rb")` and `path.read_text`, of a file of the directory. -/
def readFile (directory : Dict String Bytes) (name : String) : Py Bytes :=
  match directory.get? name with
  | some data => .ok data
  | none => raise .fileNotFoundError ("[Errno 2] No such file or directory: " ++ name)

/-- The loop over the files, which writes one sidecar after the other. -/
def writeSidecars (py : StandardLibrary) (directory : Dict String Bytes) :
    List String → Py (Dict String Bytes)
  | [] => .ok directory
  | name :: rest => do
      let digest := py.hashlib.sha256 (← readFile directory name)
      let text ← encodeAscii (digest ++ "\n")
      writeSidecars py (directory.set (sidecarName name) text) rest

/-- The files that `main` writes sidecars of. -/
def payloads (directory : Dict String Bytes) : List String :=
  (directory.keys.insertionSort (· ≤ ·)).filter fun name => !isSidecar name

/-- `main` of `write_maven_checksums.py` -/
def writeMavenChecksums (py : StandardLibrary) (directory : Dict String Bytes) :
    Py (Dict String Bytes) :=
  writeSidecars py directory (payloads directory)

/-! ### The verifier -/

def verifyChecksums (py : StandardLibrary) (directory : Dict String Bytes) :
    List String → Py Unit
  | [] => .ok ()
  | name :: rest => do
      raiseIf (sidecarName name ∉ directory) .fileNotFoundError
        ("Missing SHA-256 sidecar: " ++ sidecarName name)
      let text ← readTextAscii (← readFile directory (sidecarName name))
      let data ← readFile directory name
      raiseIf (strip text ≠ py.hashlib.sha256 data) .valueError
        ("Invalid SHA-256 sidecar: " ++ sidecarName name)
      verifyChecksums py directory rest

/-! ### Names -/

section Names

variable {name other : String} {directory : Dict String Bytes}

theorem isSidecar_sidecarName (name : String) : isSidecar (sidecarName name) = true := by
  refine List.any_eq_true.mpr ⟨".sha256", by decide, ?_⟩
  rw [endsWith, List.isSuffixOf_iff_suffix, sidecarName, String.toList_append]
  exact List.suffix_append _ _

/-- Each file has a sidecar of its own. -/
theorem sidecarName_inj (same : sidecarName name = sidecarName other) : name = other := by
  have texts := congrArg String.toList same
  rw [sidecarName, sidecarName, String.toList_append, String.toList_append] at texts
  exact String.toList_inj.mp (List.append_cancel_right texts)

theorem mem_payloads : name ∈ payloads directory ↔ name ∈ directory ∧ isSidecar name = false := by
  rw [payloads, List.mem_filter, List.mem_insertionSort, Bool.not_eq_true']
  exact Iff.rfl

theorem readFile_eq_ok {data : Bytes} :
    readFile directory name = .ok data ↔ directory.get? name = some data := by
  unfold readFile
  cases directory.get? name <;> simp

end Names

/-! ### Digests in files -/

section Digests

variable {py : StandardLibrary}

theorem digest_plain (data : Bytes) :
    ∀ char ∈ (py.hashlib.sha256 data).toList, isAscii char = true ∧ isSpace char = false := by
  have digits : ∀ char ∈ ("0123456789abcdef" : String).toList,
      isAscii char = true ∧ isSpace char = false := List.all_iff_forall_prop.mp (by decide)
  exact fun char member => digits char ((py.hashlib.sha256_hex data).2 char member)

/-- The text of a sidecar, as bytes. -/
def sidecarBytes (py : StandardLibrary) (data : Bytes) : Bytes :=
  ((py.hashlib.sha256 data ++ "\n").toList).map fun char => UInt8.ofNat char.toNat

theorem encodeAscii_sidecar (data : Bytes) :
    encodeAscii (py.hashlib.sha256 data ++ "\n") = .ok (sidecarBytes py data) := by
  refine encodeAscii_ok_iff.mpr ⟨?_, rfl⟩
  rw [List.all_eq_true, String.toList_append, List.forall_mem_append]
  exact ⟨fun char member => (digest_plain data char member).1, List.all_eq_true.mp (by decide)⟩

/-- The verifier strips the line break off again. -/
theorem strip_sidecar (data : Bytes) :
    strip (py.hashlib.sha256 data ++ "\n") = py.hashlib.sha256 data := by
  have plain := @digest_plain py data
  have newline : "\n".toList = ['\n'] := rfl
  obtain ⟨first, rest, shape⟩ : ∃ first rest, (py.hashlib.sha256 data).toList = first :: rest := by
    refine List.exists_cons_of_ne_nil fun empty => ?_
    have length := (py.hashlib.sha256_hex data).1
    rw [empty] at length
    cases length
  have kept : (py.hashlib.sha256 data).toList.rdropWhile isSpace =
      (py.hashlib.sha256 data).toList := by
    refine List.rdropWhile_eq_self_iff.mpr fun nonempty => ?_
    rw [(plain _ (List.getLast_mem nonempty)).2]
    decide
  rw [strip, String.toList_append, newline]
  have front : ((py.hashlib.sha256 data).toList ++ ['\n']).dropWhile isSpace =
      (py.hashlib.sha256 data).toList ++ ['\n'] := by
    have notSpace : ¬ isSpace first = true := by
      rw [(plain first (shape ▸ List.mem_cons_self)).2]
      decide
    rw [shape, List.cons_append, List.dropWhile_cons_of_neg notSpace]
  rw [front, List.rdropWhile_concat_pos isSpace _ '\n' (by decide), kept, String.ofList_toList]

theorem readTextAscii_sidecar (data : Bytes) :
    readTextAscii (sidecarBytes py data) = .ok (py.hashlib.sha256 data ++ "\n") := by
  apply readTextAscii_of_encodeAscii (encodeAscii_sidecar data)
  rw [String.toList_append, List.mem_append, not_or]
  refine ⟨fun member => ?_, by decide⟩
  have space := (digest_plain data '\r' member).2
  exact absurd space (by decide)

end Digests

/-! ### A run of the writer -/

/-- Each name has the sidecar of its file, and nothing else has changed. -/
structure SidecarsWritten (py : StandardLibrary) (names : List String)
    (before after : Dict String Bytes) : Prop where
  sidecar : ∀ name ∈ names, ∀ data, before.get? name = some data →
    after.get? (sidecarName name) = some (sidecarBytes py data)
  others : ∀ other, (∀ name ∈ names, other ≠ sidecarName name) →
    after.get? other = before.get? other

/-- A file whose sidecar is up to date. -/
def HasSidecar (py : StandardLibrary) (directory : Dict String Bytes) (name : String) : Prop :=
  ∃ data, directory.get? name = some data ∧
    directory.get? (sidecarName name) = some (sidecarBytes py data)

section Runs

variable {py : StandardLibrary} {directory before after : Dict String Bytes} {names : List String}

/-- Writing one sidecar changes no payload. -/
theorem get?_set_sidecar {name payload : String} (data : Bytes)
    (isPayload : isSidecar payload = false) :
    (directory.set (sidecarName name) data).get? payload = directory.get? payload := by
  rw [Dict.get?_set, if_neg]
  rintro rfl
  rw [isSidecar_sidecarName] at isPayload
  cases isPayload

theorem writeSidecars_cons {name : String} {rest : List String} {data : Bytes}
    (found : directory.get? name = some data) :
    writeSidecars py directory (name :: rest) =
      writeSidecars py (directory.set (sidecarName name) (sidecarBytes py data)) rest := by
  rw [writeSidecars, readFile_eq_ok.mpr found, ok_bind]
  dsimp only
  rw [encodeAscii_sidecar, ok_bind]

/-- The loop over payloads returns, and each turn leaves the payloads of the later
ones alone. -/
theorem writeSidecars_run (payload : ∀ name ∈ names, isSidecar name = false)
    (present : ∀ name ∈ names, name ∈ before) :
    ∃ after, writeSidecars py before names = .ok after ∧ SidecarsWritten py names before after := by
  induction names generalizing before with
  | nil => exact ⟨before, rfl, nofun, fun _ _ => rfl⟩
  | cons name rest inductionHypothesis =>
      obtain ⟨isPayload, restPayload⟩ := List.forall_mem_cons.mp payload
      obtain ⟨isPresent, restPresent⟩ := List.forall_mem_cons.mp present
      obtain ⟨data, found⟩ := Dict.mem_iff_get?.mp isPresent
      have kept (other : String) (otherPayload : isSidecar other = false) :=
        @get?_set_sidecar before name other (sidecarBytes py data) otherPayload
      obtain ⟨after, returned, written⟩ :=
        @inductionHypothesis (before.set (sidecarName name) (sidecarBytes py data)) restPayload
          fun other member => Dict.mem_set_iff.mpr (Or.inr (restPresent other member))
      refine ⟨after, (writeSidecars_cons found).trans returned, ?_, fun other apart => ?_⟩
      · intro other member otherData otherFound
        have otherPayload := payload other member
        by_cases again : other ∈ rest
        · exact written.sidecar other again otherData ((kept other otherPayload).trans otherFound)
        · obtain rfl := (List.mem_cons.mp member).resolve_right again
          obtain rfl := Option.some.inj (found.symm.trans otherFound)
          rw [written.others, Dict.get?_set_self]
          rintro later inRest same
          exact again (sidecarName_inj same ▸ inRest)
      · obtain ⟨notFirst, notRest⟩ := List.forall_mem_cons.mp apart
        rw [written.others other notRest, Dict.get?_set, if_neg notFirst]

theorem writeSidecars_again (upToDate : ∀ name ∈ names, HasSidecar py directory name) :
    writeSidecars py directory names = .ok directory := by
  induction names with
  | nil => rfl
  | cons name rest inductionHypothesis =>
      obtain ⟨⟨data, found, sidecar⟩, later⟩ := List.forall_mem_cons.mp upToDate
      rw [writeSidecars_cons found, Dict.set_of_get? sidecar, inductionHypothesis later]

theorem writeMavenChecksums_run (directory : Dict String Bytes) :
    ∃ written, writeMavenChecksums py directory = .ok written ∧
      SidecarsWritten py (payloads directory) directory written :=
  writeSidecars_run (fun _ member => (mem_payloads.mp member).2)
    fun _ member => (mem_payloads.mp member).1

/-- A payload keeps its bytes. -/
theorem SidecarsWritten.payload (written : SidecarsWritten py names before after) {name : String}
    (isPayload : isSidecar name = false) : after.get? name = before.get? name := by
  apply written.others
  rintro other _ rfl
  rw [isSidecar_sidecarName] at isPayload
  cases isPayload

theorem SidecarsWritten.hasSidecar (written : SidecarsWritten py (payloads before) before after)
    {name : String} (present : name ∈ after) (isPayload : isSidecar name = false) :
    HasSidecar py after name := by
  obtain ⟨data, found⟩ := Dict.mem_iff_get?.mp present
  have before := (written.payload isPayload).symm.trans found
  exact ⟨data, found, written.sidecar name
    (mem_payloads.mpr ⟨Dict.mem_iff_get?.mpr ⟨data, before⟩, isPayload⟩) data before⟩

/-- A run of the writer changes the sidecars of payloads only. -/
theorem SidecarsWritten.frame (written : SidecarsWritten py (payloads before) before after)
    {other : String} (apart : ∀ name ∈ before, isSidecar name = false → other ≠ sidecarName name) :
    after.get? other = before.get? other := by
  refine written.others other fun name member => ?_
  obtain ⟨present, isPayload⟩ := mem_payloads.mp member
  exact apart name present isPayload

/-- A sidecar gets no sidecar of its own. -/
theorem SidecarsWritten.unchained (written : SidecarsWritten py (payloads before) before after)
    {name : String} (sidecar : isSidecar name = true) :
    after.get? (sidecarName name) = before.get? (sidecarName name) := by
  refine written.frame fun other _ isPayload same => ?_
  rw [← sidecarName_inj same, sidecar] at isPayload
  cases isPayload

end Runs

/-! ### The verifier after the writer -/

section Verified

variable {py : StandardLibrary} {directory : Dict String Bytes} {names : List String}

theorem verifyChecksums_of_hasSidecar (upToDate : ∀ name ∈ names, HasSidecar py directory name) :
    verifyChecksums py directory names = .ok () := by
  induction names with
  | nil => rfl
  | cons name rest inductionHypothesis =>
      obtain ⟨⟨data, found, sidecar⟩, later⟩ := List.forall_mem_cons.mp upToDate
      have present : sidecarName name ∈ directory := Dict.mem_iff_get?.mpr ⟨_, sidecar⟩
      simp only [verifyChecksums, bind_eq_ok, exists_unit, raiseIf_eq_ok, readFile_eq_ok,
        decide_eq_false_iff_not, not_not]
      exact ⟨present, _, sidecar, _, readTextAscii_sidecar data, data, found, strip_sidecar data,
        inductionHypothesis later⟩

/-- The verifier accepts what a run of the writer leaves. -/
theorem SidecarsWritten.verified {before after : Dict String Bytes}
    (written : SidecarsWritten py (payloads before) before after)
    (payload : ∀ name ∈ names, name ∈ before ∧ isSidecar name = false) :
    verifyChecksums py after names = .ok () := by
  refine verifyChecksums_of_hasSidecar fun name member => ?_
  obtain ⟨present, isPayload⟩ := payload name member
  refine written.hasSidecar (Dict.mem_iff_get?.mpr ?_) isPayload
  rw [written.payload isPayload]
  exact Dict.mem_iff_get?.mp present

/-- A payload with the sidecar of other bytes is never accepted. -/
theorem digest_of_verifyChecksums (accepted : verifyChecksums py directory names = .ok ())
    {name : String} (member : name ∈ names) {data recorded : Bytes}
    (found : directory.get? name = some data)
    (sidecar : directory.get? (sidecarName name) = some (sidecarBytes py recorded)) :
    py.hashlib.sha256 recorded = py.hashlib.sha256 data := by
  induction names with
  | nil => exact absurd member List.not_mem_nil
  | cons first rest inductionHypothesis =>
      simp only [verifyChecksums, bind_eq_ok, exists_unit, raiseIf_eq_ok, readFile_eq_ok,
        decide_eq_false_iff_not, not_not] at accepted
      obtain ⟨-, bytes, sidecarFound, text, read, own, ownFound, same, later⟩ := accepted
      rcases List.mem_cons.mp member with rfl | inRest
      · obtain rfl := Option.some.inj (sidecarFound.symm.trans sidecar)
        obtain rfl := Option.some.inj (ownFound.symm.trans found)
        obtain rfl := Except.ok.inj (read.symm.trans (readTextAscii_sidecar recorded))
        rw [← same, strip_sidecar]
      · exact inductionHypothesis later inRest

end Verified

/-- One run completes the sidecars and changes nothing else, a second run changes
nothing, and the verifier accepts the payloads until one of them changes. -/
theorem maven_sidecars_complete_and_stable (py : StandardLibrary) (directory : Dict String Bytes) :
    ∃ written, writeMavenChecksums py directory = .ok written ∧
      (∀ name data, isSidecar name = false → directory.get? name = some data →
        written.get? (sidecarName name) = some (sidecarBytes py data)) ∧
      (∀ other, (∀ name ∈ directory, isSidecar name = false → other ≠ sidecarName name) →
        written.get? other = directory.get? other) ∧
      (∀ name, isSidecar name = true →
        written.get? (sidecarName name) = directory.get? (sidecarName name)) ∧
      writeMavenChecksums py written = .ok written ∧
      ∀ names : List String, (∀ name ∈ names, name ∈ directory ∧ isSidecar name = false) →
        verifyChecksums py written names = .ok () ∧
        ∀ later : Dict String Bytes, ∀ name ∈ names, ∀ data changed,
          written.get? name = some data → later.get? name = some changed →
          later.get? (sidecarName name) = written.get? (sidecarName name) →
          (py.hashlib.sha256 data = py.hashlib.sha256 changed → data = changed) → changed ≠ data →
          (∃ error, verifyChecksums py later names = .error error) ∧
            ∃ again, writeMavenChecksums py later = .ok again ∧
              ((∀ name ∈ names, name ∈ later) → verifyChecksums py again names = .ok ()) := by
  obtain ⟨written, returned, sidecars⟩ := @writeMavenChecksums_run py directory
  have complete {name : String} {data : Bytes} (isPayload : isSidecar name = false)
      (found : directory.get? name = some data) :
      written.get? (sidecarName name) = some (sidecarBytes py data) :=
    sidecars.sidecar name (mem_payloads.mpr ⟨Dict.mem_iff_get?.mpr ⟨data, found⟩, isPayload⟩) data found
  refine ⟨written, returned, fun _ _ => complete, fun _ => sidecars.frame,
    fun _ => sidecars.unchained, ?_, ?_⟩
  · refine writeSidecars_again fun name member => ?_
    obtain ⟨present, isPayload⟩ := mem_payloads.mp member
    exact sidecars.hasSidecar present isPayload
  · intro names payload
    refine ⟨sidecars.verified payload, ?_⟩
    intro later name member data changed recorded found sidecar collisionFree different
    obtain ⟨-, isPayload⟩ := payload name member
    rw [complete isPayload ((sidecars.payload isPayload).symm.trans recorded)] at sidecar
    constructor
    · cases verified : verifyChecksums py later names with
      | error error => exact ⟨error, rfl⟩
      | ok accepted =>
          have same := digest_of_verifyChecksums verified member found sidecar
          exact absurd (collisionFree same).symm different
    · obtain ⟨again, rewritten, laterSidecars⟩ := @writeMavenChecksums_run py later
      refine ⟨again, rewritten, fun present => laterSidecars.verified fun name member => ?_⟩
      exact ⟨present name member, (payload name member).2⟩

end BssLiteRt.Complete.MavenChecksums
