import BssLiteRt.BoundedAar.Accelerator

/-!
Owns `patch_accelerator.py`: which accelerators it accepts, and which text a loader reads
from the patched one at any place.
-/

namespace BssLiteRt.Experiment

open BssLiteRt.Library BssLiteRt.Library.Occurrences BssLiteRt.Python
open BssLiteRt.BoundedAar (Redirection getElem?_window)

def oldName : Bytes := encodeUtf8 "libOpenCL.so"

def newName : Bytes := encodeUtf8 "libOCLQ.so"

/-- `new_name + b"\0" * (len(old_name) - len(new_name))` -/
def paddedName : Bytes :=
  newName ++ List.replicate (oldName.length - newName.length) 0

/-- `main` on the contents of its input. -/
def redirectLoader (data : Bytes) : Py Redirection := do
  raiseIf (newName.length > oldName.length) .valueError
    "The replacement loader name does not fit in-place."
  let matchCount := countBytes oldName data
  raiseIf (matchCount ≠ 1) .valueError
    ("Expected exactly one b'libOpenCL.so' loader string, found " ++ toString matchCount ++ ".")
  let offset ← indexBytes oldName data
  let patched := data.take offset ++ paddedName ++ data.drop (offset + oldName.length)
  raiseIf (containsBytes oldName patched ∨ countBytes newName patched ≠ 1) .valueError
    "Loader string replacement did not produce the expected image."
  return { patched, printed := toString offset }

/-- The text at a place, as C reads it. -/
def cString (data : Bytes) (place : Nat) : Bytes :=
  (data.drop place).takeWhile (· ≠ 0)

/-! ### The two names -/

theorem oldName_ne_nil : oldName ≠ [] := by decide

theorem newName_ne_nil : newName ≠ [] := by decide

theorem length_paddedName : paddedName.length = oldName.length := by decide

theorem unbordered_oldName : Unbordered oldName := by decide

theorem unbordered_newName : Unbordered newName := by decide

theorem apart_old_padded : Apart oldName paddedName := by decide

theorem apart_padded_old : Apart paddedName oldName := by decide

theorem separate_old_new : Separate oldName newName := by decide

theorem separate_new_old : Separate newName oldName := by decide

/-- Within its padding the new name does not begin again. -/
theorem separate_padding (shift : Nat) (inside : shift < oldName.length) (later : 0 < shift) :
    ¬ paddedName.drop shift <+: newName ∧ ¬ newName <+: paddedName.drop shift := by
  have table : ∀ shift < oldName.length, 0 < shift →
      ¬ paddedName.drop shift <+: newName ∧ ¬ newName <+: paddedName.drop shift := by decide
  exact table shift inside later

/-! ### The new name in the image -/

section Image

variable {front back : Bytes} {place : Nat}

theorem newName_beside_old (occurs : OccursAt newName (front ++ oldName ++ back) place) :
    front.length + oldName.length ≤ place ∨ place + newName.length ≤ front.length :=
  disjoint_of_separate separate_old_new separate_new_old
    (occursAt_append front oldName back) occurs

theorem newName_beside_padded (occurs : OccursAt newName (front ++ paddedName ++ back) place)
    (other : place ≠ front.length) :
    front.length + paddedName.length ≤ place ∨ place + newName.length ≤ front.length := by
  have window := occursAt_append front paddedName back
  rcases Nat.lt_or_gt_of_ne other with before | after
  · have atWindow : OccursAt newName (front ++ paddedName ++ back) front.length :=
      (List.prefix_append newName _).trans window
    exact Or.inr (unbordered_newName.disjoint occurs atWindow before)
  · refine Or.inl (Nat.le_of_not_lt fun inside => ?_)
    rw [length_paddedName] at inside
    have dropped := List.IsPrefix.drop window (place - front.length)
    rw [List.drop_drop, Nat.add_sub_cancel' after.le] at dropped
    obtain ⟨short, long⟩ := separate_padding (place - front.length) (by omega) (by omega)
    exact (List.prefix_or_prefix_of_prefix dropped occurs).elim short long

/-- The new name occurs in the image where it did before, and in the window. -/
theorem newName_image : OccursAt newName (front ++ paddedName ++ back) place ↔
    place = front.length ∨ OccursAt newName (front ++ oldName ++ back) place := by
  constructor
  · intro occurs
    refine or_iff_not_imp_left.mpr fun other => ?_
    exact occursAt_beside length_paddedName.symm occurs (newName_beside_padded occurs other)
  · rintro (rfl | occurs)
    · exact (List.prefix_append newName _).trans (occursAt_append front paddedName back)
    · exact occursAt_beside length_paddedName occurs (newName_beside_old occurs)

theorem newName_image_once : (∃! place, OccursAt newName (front ++ paddedName ++ back) place) ↔
    ∀ place, ¬ OccursAt newName (front ++ oldName ++ back) place := by
  constructor
  · intro once place occurs
    have same := once.unique (newName_image.mpr (Or.inr occurs)) (newName_image.mpr (Or.inl rfl))
    have beside := newName_beside_old occurs
    have long : oldName.length = 12 ∧ newName.length = 10 := by decide
    omega
  · intro absent
    refine ⟨front.length, newName_image.mpr (Or.inl rfl), fun place occurs => ?_⟩
    exact (newName_image.mp occurs).resolve_right (absent place)

end Image

/-- What the script has read and written when it completes. -/
theorem redirectLoader_eq_ok {data : Bytes} {redirection : Redirection} :
    redirectLoader data = .ok redirection ↔
      ∃ front back, data = front ++ oldName ++ back ∧
        redirection = ⟨front ++ paddedName ++ back, toString front.length⟩ ∧
        (∃! place, OccursAt oldName data place) ∧
        ∀ place, ¬ OccursAt newName data place := by
  simp only [redirectLoader, bind_eq_ok, exists_unit, raiseIf_eq_ok, pure_eq_ok,
    decide_eq_false_iff_not, not_not, not_or]
  rw [countBytes_eq_one_iff unbordered_oldName oldName_ne_nil]
  constructor
  · rintro ⟨-, once, offset, found, ⟨-, countedOnce⟩, returned⟩
    cases returned
    have occurs := occursAt_indexBytes found
    have start : (data.take offset).length = offset := by
      rw [List.length_take, Nat.min_eq_left (occurs.lt_length oldName_ne_nil).le]
    rw [countBytes_eq_one_iff unbordered_newName newName_ne_nil, newName_image_once,
      ← occurs.split] at countedOnce
    exact ⟨_, _, occurs.split, by rw [start], once, countedOnce⟩
  · rintro ⟨front, back, rfl, rfl, once, absent⟩
    have occurs := occursAt_append front oldName back
    obtain ⟨offset, found⟩ := exists_indexBytes occurs
    obtain rfl : offset = front.length := once.unique (occursAt_indexBytes found) occurs
    have gone := absent_of_replaced oldName_ne_nil length_paddedName apart_padded_old
      apart_old_padded once
    have image : (front ++ oldName ++ back).take front.length ++ paddedName ++
        (front ++ oldName ++ back).drop (front.length + oldName.length) =
          front ++ paddedName ++ back := by
      rw [← List.length_append, List.drop_left, List.append_assoc front oldName, List.take_left]
    refine ⟨by decide, once, _, found, ?_⟩
    rw [image]
    refine ⟨⟨?_, ?_⟩, rfl⟩
    · rw [containsBytes_iff]
      rintro ⟨place, occurs⟩
      exact gone place occurs
    · rw [countBytes_eq_one_iff unbordered_newName newName_ne_nil]
      exact newName_image_once.mpr absent

/-- The script accepts exactly the accelerators in which the old loader name occurs once
and the new one does not occur. -/
theorem loader_redirect_completes_iff (data : Bytes) :
    (∃ redirection, redirectLoader data = .ok redirection) ↔
      (∃! place, OccursAt oldName data place) ∧ ∀ place, ¬ OccursAt newName data place := by
  constructor
  · rintro ⟨redirection, completed⟩
    obtain ⟨-, -, -, -, accepted⟩ := redirectLoader_eq_ok.mp completed
    exact accepted
  · intro accepted
    obtain ⟨place, occurs, -⟩ := accepted.1
    exact ⟨_, redirectLoader_eq_ok.mpr ⟨_, _, occurs.split, rfl, accepted⟩⟩

/-! ### Texts -/

section Texts

variable {front back window : Bytes} {place shift : Nat}

theorem cString_window (inside : shift < oldName.length) :
    cString (front ++ paddedName ++ back) (front.length + shift) = newName.drop shift := by
  have table : ∀ shift < oldName.length,
      (paddedName.drop shift).takeWhile (· ≠ 0) = newName.drop shift ∧
        (newName.drop shift).length ≠ (paddedName.drop shift).length := by decide
  obtain ⟨stops, before⟩ := table shift inside
  have shown : (front ++ paddedName ++ back).drop (front.length + shift) =
      paddedName.drop shift ++ back := by
    rw [List.append_assoc, List.drop_length_add_append, List.drop_append_of_le_length]
    exact inside.le
  rw [cString, shown, List.takeWhile_append, if_neg (stops.symm ▸ before), stops]

theorem cString_through (before : place ≤ front.length) (text : 0 ∉ front.drop place) :
    cString (front ++ window ++ back) place =
      front.drop place ++ cString (front ++ window ++ back) front.length := by
  rw [cString, cString, List.append_assoc, List.drop_append_of_le_length before, List.drop_left,
    List.takeWhile_append_of_pos]
  intro byte member
  rw [decide_eq_true_iff]
  rintro rfl
  exact text member

theorem cString_before (before : place ≤ front.length) (ended : 0 ∈ front.drop place) :
    cString (front ++ window ++ back) place = (front.drop place).takeWhile (· ≠ 0) := by
  rw [cString, List.append_assoc, List.drop_append_of_le_length before, List.takeWhile_append,
    if_neg]
  intro whole
  have all := List.takeWhile_eq_self_iff.mp
    ((List.takeWhile_prefix _).eq_of_length whole) 0 ended
  exact absurd all (by decide)

theorem cString_past {window' : Bytes} (sameLength : window.length = window'.length)
    (past : front.length + window'.length ≤ place) :
    cString (front ++ window ++ back) place = cString (front ++ window' ++ back) place := by
  have shown {window : Bytes} (short : front.length + window.length ≤ place) :
      (front ++ window ++ back).drop place =
        back.drop (place - (front.length + window.length)) := by
    rw [List.drop_append, List.drop_eq_nil_of_le (by rwa [List.length_append]), List.nil_append,
      List.length_append]
  rw [cString, cString, shown past, shown (sameLength ▸ past), sameLength]

end Texts

/-- A text that ran into the loader name ends with the new one, whatever followed the
old one; texts that begin within the name are cut off there, and no other text changes.
Neither patch can be applied to the result. -/
theorem loader_redirect_texts (data : Bytes) (redirection : Redirection)
    (completed : redirectLoader data = .ok redirection) :
    ∃ offset, redirection.printed = toString offset ∧ OccursAt oldName data offset ∧
      redirection.patched.length = data.length ∧
      (∀ place, place ≤ offset → 0 ∉ (data.take offset).drop place →
        cString redirection.patched place = (data.take offset).drop place ++ newName) ∧
      (∀ place, offset ≤ place → place < offset + 12 →
        cString redirection.patched place = newName.drop (place - offset)) ∧
      (∀ place, offset + 12 ≤ place ∨ place ≤ offset ∧ 0 ∈ (data.take offset).drop place →
        cString redirection.patched place = cString data place) ∧
      (∀ again, redirectLoader redirection.patched ≠ .ok again) ∧
      ∀ py isOfficial again,
        BoundedAar.redirect py isOfficial redirection.patched ≠ .ok again := by
  obtain ⟨front, back, rfl, rfl, once, -⟩ := redirectLoader_eq_ok.mp completed
  have start : (front ++ oldName ++ back).take front.length = front := by
    rw [List.append_assoc, List.take_left]
  have gone := absent_of_replaced oldName_ne_nil length_paddedName apart_padded_old
    apart_old_padded once
  have long : oldName.length = 12 := by decide
  refine ⟨front.length, rfl, occursAt_append _ _ _, ?_, ?_, ?_, ?_, ?_, ?_⟩
  · simp only [List.length_append, length_paddedName]
  · intro place before text
    rw [start] at text ⊢
    rw [cString_through before text]
    exact congrArg (front.drop place ++ ·) (@cString_window front back 0 (by decide))
  · intro place after before
    obtain ⟨shift, rfl⟩ := Nat.exists_eq_add_of_le after
    rw [Nat.add_sub_cancel_left]
    exact cString_window (by omega)
  · rintro place (past | ⟨before, ended⟩)
    · exact cString_past length_paddedName past
    · rw [start] at ended
      rw [cString_before before ended, cString_before before ended]
  · intro again completedAgain
    obtain ⟨front', back', shape, -, -, -⟩ := redirectLoader_eq_ok.mp completedAgain
    exact gone _ (shape ▸ occursAt_append front' oldName back')
  · intro py isOfficial again completedAgain
    obtain ⟨front', back', shape, -, -, -, -⟩ := BoundedAar.redirect_eq_ok completedAgain
    exact gone _ (shape ▸ occursAt_append front' oldName back')

theorem loader_redirect_texts_sample :
    ∃ redirection, redirectLoader (encodeUtf8 "/" ++ oldName ++ encodeUtf8 ".1") =
        .ok redirection ∧
      ∃ offset, OccursAt oldName (encodeUtf8 "/" ++ oldName ++ encodeUtf8 ".1") offset ∧
        cString redirection.patched offset = newName := by
  have completed : redirectLoader (encodeUtf8 "/" ++ oldName ++ encodeUtf8 ".1") = .ok _ := rfl
  obtain ⟨offset, -, occurs, -, -, inside, -⟩ := loader_redirect_texts _ _ completed
  refine ⟨_, completed, offset, occurs, ?_⟩
  rw [inside offset (Nat.le_refl _) (by omega), Nat.sub_self, List.drop_zero]

end BssLiteRt.Experiment
