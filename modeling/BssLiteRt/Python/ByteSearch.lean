import BssLiteRt.Library.Occurrences
import BssLiteRt.Python.Collections

/-!
Owns `count`, `index` and `replace` of bytes against the places at which a marker
occurs.
-/

namespace BssLiteRt.Python

open BssLiteRt.Library BssLiteRt.Library.Occurrences

/-! ### Searches -/

def findBytes (marker : Bytes) : Bytes → Option Nat
  | [] => if marker.isEmpty then some 0 else none
  | byte :: rest =>
      if marker.isPrefixOf (byte :: rest) then some 0
      else (findBytes marker rest).map (· + 1)

/-- `data.index(marker)` -/
def indexBytes (marker data : Bytes) : Py Nat :=
  match findBytes marker data with
  | some place => .ok place
  | none => raise .valueError "subsection not found"

/-- `data.replace(old, new)` from the byte after the next `skip`, for an old marker
that is not empty. -/
def replaceFrom (old new : Bytes) (skip : Nat) : Bytes → Bytes
  | [] => []
  | byte :: rest =>
      match skip with
      | skip + 1 => replaceFrom old new skip rest
      | 0 =>
          if old.isPrefixOf (byte :: rest) then
            new ++ replaceFrom old new (old.length - 1) rest
          else
            byte :: replaceFrom old new 0 rest

/-- `data.replace(old, new)` -/
def replaceBytes (old new data : Bytes) : Bytes :=
  replaceFrom old new 0 data

variable {marker old new data front back : Bytes} {place : Nat}

theorem containsBytes_iff :
    containsBytes marker data = true ↔ ∃ place, OccursAt marker data place := by
  rw [containsBytes, decide_eq_true_iff]
  exact ⟨exists_occursAt, fun ⟨_, occurs⟩ => occurs.infix⟩

/-! ### The first place -/

theorem occursAt_zero {byte : UInt8} {rest : Bytes} :
    OccursAt marker (byte :: rest) 0 ↔ marker.isPrefixOf (byte :: rest) = true := by
  rw [OccursAt, List.drop_zero, List.isPrefixOf_iff_prefix]

theorem occursAt_findBytes (found : findBytes marker data = some place) :
    OccursAt marker data place := by
  induction data generalizing place with
  | nil =>
      rw [findBytes] at found
      split at found
      · rename_i isEmpty
        rw [List.isEmpty_iff.mp isEmpty]
        exact List.nil_prefix
      · exact absurd found nofun
  | cons byte rest hypothesis =>
      rw [findBytes] at found
      split at found
      · rename_i isHere
        cases found
        exact occursAt_zero.mpr isHere
      · obtain ⟨later, laterFound, rfl⟩ := Option.map_eq_some_iff.mp found
        exact hypothesis laterFound

theorem occursAt_indexBytes (found : indexBytes marker data = .ok place) :
    OccursAt marker data place := by
  unfold indexBytes at found
  split at found
  · rename_i first firstFound
    cases found
    exact occursAt_findBytes firstFound
  · exact absurd found raise_ne_ok

theorem exists_indexBytes (occurs : OccursAt marker data place) :
    ∃ first, indexBytes marker data = .ok first := by
  suffices found : ∃ first, findBytes marker data = some first by
    obtain ⟨first, isFirst⟩ := found
    exact ⟨first, by rw [indexBytes, isFirst]⟩
  induction data generalizing place with
  | nil =>
      rw [OccursAt, List.drop_nil, List.prefix_nil] at occurs
      exact ⟨0, by rw [findBytes, occurs, if_pos List.isEmpty_nil]⟩
  | cons byte rest hypothesis =>
      rw [findBytes]
      split
      · exact ⟨0, rfl⟩
      · rename_i notHere
        cases place with
        | zero => exact absurd (occursAt_zero.mp occurs) notHere
        | succ place =>
            obtain ⟨first, found⟩ := hypothesis occurs
            exact ⟨first + 1, by rw [found, Option.map_some]⟩

/-! ### How many places -/

/-- A marker that cannot overlap itself is counted at every place. -/
theorem countFrom_eq_count (unbordered : Unbordered marker)
    (skip : Nat) (data : Bytes) :
    countFrom marker skip data =
      Nat.count (fun place => skip ≤ place ∧ OccursAt marker data place) data.length := by
  induction data generalizing skip with
  | nil => rfl
  | cons byte rest hypothesis =>
      have later (place : Nat) :
          OccursAt marker (byte :: rest) (place + 1) ↔ OccursAt marker rest place := Iff.rfl
      rw [List.length_cons, Nat.count_succ']
      cases skip with
      | succ skip =>
          rw [countFrom, hypothesis, if_neg (fun here => Nat.not_succ_le_zero skip here.1),
            Nat.add_zero]
          simp only [later, Nat.add_le_add_iff_right]
      | zero =>
          rw [countFrom]
          by_cases isHere : marker.isPrefixOf (byte :: rest) = true
          · have occursHere := occursAt_zero.mpr isHere
            -- the places that the count skips hold no occurrence
            have skipsNone (place : Nat) :
                marker.length - 1 ≤ place ∧ OccursAt marker rest place ↔
                  0 ≤ place + 1 ∧ OccursAt marker (byte :: rest) (place + 1) := by
              rw [later]
              constructor
              · exact fun ⟨_, occurs⟩ => ⟨Nat.zero_le _, occurs⟩
              · intro ⟨_, occurs⟩
                have apart := unbordered.disjoint occursHere ((later place).mpr occurs)
                  (Nat.succ_pos place)
                exact ⟨by omega, occurs⟩
            rw [if_pos isHere, hypothesis, if_pos ⟨Nat.le_refl 0, occursHere⟩]
            simp only [skipsNone]
          · rw [if_neg isHere, hypothesis, if_neg (fun here => isHere (occursAt_zero.mp here.2)),
              Nat.add_zero]
            simp only [later, Nat.zero_le]

/-- A count of one is a single place. -/
theorem existsUnique_of_countBytes (unbordered : Unbordered marker) (nonempty : marker ≠ [])
    (once : countBytes marker data = 1) : ∃! place, OccursAt marker data place := by
  rw [countBytes, countFrom_eq_count unbordered] at once
  obtain ⟨place, -, -, occurs⟩ :=
    Nat.count_ne_iff_exists.mp (once.symm ▸ Nat.one_ne_zero)
  refine ⟨place, occurs, fun other otherOccurs => ?_⟩
  have counted {place : Nat} (occurs : OccursAt marker data place) :
      Nat.count (fun place => 0 ≤ place ∧ OccursAt marker data place) place = 0 := by
    have below := Nat.count_strict_mono
      (p := fun place => 0 ≤ place ∧ OccursAt marker data place) ⟨Nat.zero_le place, occurs⟩
      (occurs.lt_length nonempty)
    omega
  exact Nat.count_injective ⟨Nat.zero_le other, otherOccurs⟩ ⟨Nat.zero_le place, occurs⟩
    ((counted otherOccurs).trans (counted occurs).symm)

/-- A single place is counted once. -/
theorem countBytes_of_existsUnique (unbordered : Unbordered marker) (nonempty : marker ≠ [])
    (once : ∃! place, OccursAt marker data place) : countBytes marker data = 1 := by
  obtain ⟨place, occurs, unique⟩ := once
  rw [countBytes, countFrom_eq_count unbordered, Nat.count_eq_card_filter_range,
    Finset.card_eq_one]
  refine ⟨place, Finset.ext fun other => ?_⟩
  rw [Finset.mem_filter, Finset.mem_range, Finset.mem_singleton]
  constructor
  · exact fun ⟨_, _, otherOccurs⟩ => unique other otherOccurs
  · rintro rfl
    exact ⟨occurs.lt_length nonempty, Nat.zero_le _, occurs⟩

theorem countBytes_eq_one_iff (unbordered : Unbordered marker) (nonempty : marker ≠ []) :
    countBytes marker data = 1 ↔ ∃! place, OccursAt marker data place :=
  ⟨existsUnique_of_countBytes unbordered nonempty,
    countBytes_of_existsUnique unbordered nonempty⟩

/-! ### Replacements -/

theorem replaceFrom_drop (skip : Nat) (data : Bytes) :
    replaceFrom old new skip data = replaceFrom old new 0 (data.drop skip) := by
  induction data generalizing skip with
  | nil => rw [List.drop_nil, replaceFrom, replaceFrom]
  | cons byte rest hypothesis =>
      cases skip with
      | zero => rw [List.drop_zero]
      | succ skip => rw [replaceFrom, hypothesis, List.drop_succ_cons]

theorem replaceFrom_of_absent (absent : ∀ place, ¬ OccursAt old data place) :
    replaceFrom old new 0 data = data := by
  induction data with
  | nil => rfl
  | cons byte rest hypothesis =>
      have notHere : ¬ old.isPrefixOf (byte :: rest) = true :=
        fun isHere => absent 0 (occursAt_zero.mpr isHere)
      rw [replaceFrom, if_neg notHere, hypothesis fun place occurs => absent (place + 1) occurs]

/-- A single occurrence is replaced where it is. -/
theorem replaceBytes_of_once (nonempty : old ≠ [])
    (once : ∀ place, OccursAt old (front ++ old ++ back) place → place = front.length) :
    replaceBytes old new (front ++ old ++ back) = front ++ new ++ back := by
  unfold replaceBytes
  induction front with
  | nil =>
      obtain ⟨byte, rest, rfl⟩ := List.exists_cons_of_ne_nil nonempty
      have isHere : (byte :: rest).isPrefixOf (byte :: (rest ++ back)) = true :=
        List.isPrefixOf_iff_prefix.mpr (List.prefix_append (byte :: rest) back)
      have absent (place : Nat) : ¬ OccursAt (byte :: rest) back place := by
        intro occurs
        have shifted : OccursAt (byte :: rest) ([] ++ byte :: rest ++ back)
            ((byte :: rest).length + place) := by
          rw [OccursAt, List.nil_append, List.drop_length_add_append]
          exact occurs
        exact absurd (once _ shifted) (by simp)
      rw [List.nil_append, List.nil_append, List.cons_append, replaceFrom, if_pos isHere,
        replaceFrom_drop, List.length_cons, Nat.add_sub_cancel, List.drop_left,
        replaceFrom_of_absent absent]
  | cons byte front hypothesis =>
      have notHere : ¬ old.isPrefixOf (byte :: (front ++ old ++ back)) = true := by
        intro isHere
        exact absurd (once 0 (occursAt_zero.mpr isHere)) (by simp)
      rw [List.cons_append, List.cons_append, replaceFrom, if_neg notHere, hypothesis]
      · rfl
      · intro place occurs
        have shifted := once (place + 1) occurs
        rw [List.length_cons] at shifted
        omega

end BssLiteRt.Python
