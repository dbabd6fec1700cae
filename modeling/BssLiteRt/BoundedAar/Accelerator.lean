import BssLiteRt.BoundedAar.Verify
import BssLiteRt.Python.ByteSearch
import BssLiteRt.Python.Concrete

/-!
Owns `patch_bounded_gpu_accelerator.py` on the contents of its input: one loader
name gives way to another of its length, and the AAR check accepts the result.
-/

namespace BssLiteRt.BoundedAar

open BssLiteRt.Library BssLiteRt.Library.Occurrences BssLiteRt.Python

def OFFICIAL_ACCELERATOR_SHA256 : String :=
  "7c63d606a48e9479499c012f6732623f9e6fc26250c5bdf6724af205d73eb0fb"

def ORIGINAL_LIBRARY : Bytes := encodeUtf8 "libOpenCL.so"

def REPLACEMENT_LIBRARY : Bytes := encodeUtf8 "libBssOcl.so"

/-- What the script writes and what it prints. -/
structure Redirection where
  patched : Bytes
  printed : String
deriving DecidableEq

/-- `main`, with the test of the pinned hash as a parameter. -/
def redirect (py : StandardLibrary) (isOfficial : Bytes → Bool) (data : Bytes) :
    Py Redirection := do
  raiseIf (!isOfficial data) .systemExit
    ("Official LiteRT accelerator hash mismatch: expected " ++ OFFICIAL_ACCELERATOR_SHA256 ++
      ", got " ++ py.hashlib.sha256 data)
  raiseIf (REPLACEMENT_LIBRARY.length ≠ ORIGINAL_LIBRARY.length) .systemExit
    "The bounded loader name must preserve the binary size"
  let occurrences := countBytes ORIGINAL_LIBRARY data
  raiseIf (occurrences ≠ 1) .systemExit
    ("Expected one OpenCL loader string, found " ++ toString occurrences)
  let offset ← indexBytes ORIGINAL_LIBRARY data
  let patched := data.take offset ++ REPLACEMENT_LIBRARY ++
    data.drop (offset + ORIGINAL_LIBRARY.length)
  raiseIf (patched.length ≠ data.length ∨ countBytes REPLACEMENT_LIBRARY patched ≠ 1) .systemExit
    "Bounded OpenCL loader patch is inconsistent"
  return { patched, printed := toString offset ++ ":" ++ py.hashlib.sha256 patched }

def patchAccelerator (py : StandardLibrary) (data : Bytes) : Py Redirection :=
  redirect py (fun data => py.hashlib.sha256 data = OFFICIAL_ACCELERATOR_SHA256) data

/-! ### The two names -/

theorem originalLibrary_ne_nil : ORIGINAL_LIBRARY ≠ [] := by decide

theorem replacementLibrary_ne_nil : REPLACEMENT_LIBRARY ≠ [] := by decide

theorem length_replacementLibrary : REPLACEMENT_LIBRARY.length = ORIGINAL_LIBRARY.length := by
  decide

theorem unbordered_originalLibrary : Unbordered ORIGINAL_LIBRARY := by decide

theorem unbordered_replacementLibrary : Unbordered REPLACEMENT_LIBRARY := by decide

theorem apart_original_replacement : Apart ORIGINAL_LIBRARY REPLACEMENT_LIBRARY := by decide

theorem apart_replacement_original : Apart REPLACEMENT_LIBRARY ORIGINAL_LIBRARY := by decide

/-! ### The patched bytes -/

section Patched

variable {front back : Bytes}

theorem verifyAccelerator_eq_ok_iff {accelerator : Bytes} :
    verifyAccelerator accelerator = .ok () ↔
      countBytes REPLACEMENT_LIBRARY accelerator = 1 ∧
        containsBytes ORIGINAL_LIBRARY accelerator = false := by
  rw [verifyAccelerator, raiseIf_eq_ok, decide_eq_false_iff_not, not_or, not_not,
    Bool.not_eq_true]
  rfl

/-- Putting the loader name back undoes the redirection. -/
theorem replaceBytes_redirected
    (once : ∃! place, OccursAt REPLACEMENT_LIBRARY (front ++ REPLACEMENT_LIBRARY ++ back) place) :
    replaceBytes REPLACEMENT_LIBRARY ORIGINAL_LIBRARY (front ++ REPLACEMENT_LIBRARY ++ back) =
      front ++ ORIGINAL_LIBRARY ++ back := by
  refine replaceBytes_of_once replacementLibrary_ne_nil fun place occurs => ?_
  exact once.unique occurs (occursAt_append front REPLACEMENT_LIBRARY back)

/-- Two windows of one length leave the rest where it was. -/
theorem getElem?_window {old new : Bytes} (sameLength : new.length = old.length) {place : Nat}
    (outside : place < front.length ∨ front.length + old.length ≤ place) :
    (front ++ new ++ back)[place]? = (front ++ old ++ back)[place]? := by
  rcases outside with before | after
  · rw [List.append_assoc, List.append_assoc, List.getElem?_append_left before,
      List.getElem?_append_left before]
  · have pastNew : (front ++ new).length ≤ place := by rw [List.length_append]; omega
    have pastOld : (front ++ old).length ≤ place := by rw [List.length_append]; omega
    rw [List.getElem?_append_right pastNew, List.getElem?_append_right pastOld,
      List.length_append, List.length_append, sameLength]

end Patched

/-- What the script has read and written when it completes. -/
theorem redirect_eq_ok {py : StandardLibrary} {isOfficial : Bytes → Bool} {data : Bytes}
    {redirection : Redirection} (completed : redirect py isOfficial data = .ok redirection) :
    ∃ front back, data = front ++ ORIGINAL_LIBRARY ++ back ∧
      redirection.patched = front ++ REPLACEMENT_LIBRARY ++ back ∧
      redirection.printed =
        toString front.length ++ ":" ++ py.hashlib.sha256 redirection.patched ∧
      countBytes ORIGINAL_LIBRARY data = 1 ∧
      countBytes REPLACEMENT_LIBRARY redirection.patched = 1 := by
  simp only [redirect, bind_eq_ok, exists_unit, raiseIf_eq_ok, pure_eq_ok,
    decide_eq_false_iff_not, not_or, not_not] at completed
  obtain ⟨-, -, countedOnce, offset, found, ⟨-, once⟩, returned⟩ := completed
  cases returned
  have occurs := occursAt_indexBytes found
  have inside := occurs.lt_length originalLibrary_ne_nil
  refine ⟨_, _, occurs.split, rfl, ?_, countedOnce, once⟩
  rw [List.length_take, Nat.min_eq_left inside.le]

/-- The redirection changes the loader name and nothing else, the AAR check accepts
it, and it can be undone. -/
theorem accelerator_redirect_exact (py : StandardLibrary) (isOfficial : Bytes → Bool)
    (data : Bytes) (redirection : Redirection)
    (completed : redirect py isOfficial data = .ok redirection) :
    ∃ offset,
      redirection.printed = toString offset ++ ":" ++ py.hashlib.sha256 redirection.patched ∧
      redirection.patched.length = data.length ∧
      (∀ place, place < offset ∨ offset + 12 ≤ place →
        redirection.patched[place]? = data[place]?) ∧
      (∀ place, ¬ OccursAt ORIGINAL_LIBRARY redirection.patched place) ∧
      (∃! place, OccursAt REPLACEMENT_LIBRARY redirection.patched place) ∧
      verifyAccelerator redirection.patched = .ok () ∧
      replaceBytes REPLACEMENT_LIBRARY ORIGINAL_LIBRARY redirection.patched = data := by
  obtain ⟨front, back, rfl, patched, printed, countedOnce, once⟩ := redirect_eq_ok completed
  have originalOnce :=
    existsUnique_of_countBytes unbordered_originalLibrary originalLibrary_ne_nil countedOnce
  have replacementOnce :=
    existsUnique_of_countBytes unbordered_replacementLibrary replacementLibrary_ne_nil once
  have absent := absent_of_replaced originalLibrary_ne_nil length_replacementLibrary
    apart_replacement_original apart_original_replacement originalOnce
  refine ⟨front.length, printed, ?_, ?_, ?_, replacementOnce, ?_, ?_⟩
  · simp only [patched, List.length_append, length_replacementLibrary]
  · intro place outside
    rw [patched]
    exact getElem?_window length_replacementLibrary outside
  · rw [patched]
    exact absent
  · refine verifyAccelerator_eq_ok_iff.mpr ⟨once, ?_⟩
    rw [Bool.eq_false_iff, Ne, containsBytes_iff, patched]
    exact fun ⟨place, occurs⟩ => absent place occurs
  · rw [patched] at replacementOnce ⊢
    exact replaceBytes_redirected replacementOnce

theorem accelerator_redirect_exact_sample :
    redirect concreteLibrary (fun _ => true)
        (encodeUtf8 "lib" ++ ORIGINAL_LIBRARY ++ encodeUtf8 "libBssOcl.s") =
      .ok ⟨encodeUtf8 "lib" ++ REPLACEMENT_LIBRARY ++ encodeUtf8 "libBssOcl.s",
        "3:" ++ concreteLibrary.hashlib.sha256
          (encodeUtf8 "lib" ++ REPLACEMENT_LIBRARY ++ encodeUtf8 "libBssOcl.s")⟩ ∧
    verifyAccelerator
      (encodeUtf8 "lib" ++ REPLACEMENT_LIBRARY ++ encodeUtf8 "libBssOcl.s") = .ok () := by
  have completed : redirect concreteLibrary (fun _ => true)
      (encodeUtf8 "lib" ++ ORIGINAL_LIBRARY ++ encodeUtf8 "libBssOcl.s") =
        .ok ⟨encodeUtf8 "lib" ++ REPLACEMENT_LIBRARY ++ encodeUtf8 "libBssOcl.s",
          "3:" ++ concreteLibrary.hashlib.sha256
            (encodeUtf8 "lib" ++ REPLACEMENT_LIBRARY ++ encodeUtf8 "libBssOcl.s")⟩ := rfl
  obtain ⟨_, _, _, _, _, _, accepted, _⟩ := accelerator_redirect_exact _ _ _ _ completed
  exact ⟨completed, accepted⟩

end BssLiteRt.BoundedAar
