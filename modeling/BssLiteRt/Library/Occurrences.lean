import Mathlib.Data.List.Infix
import Mathlib.Data.Nat.Count

/-!
Owns the places at which a pattern occurs in a list, when two patterns cannot
overlap, and what a window replaced by another of its length does to the places
around it.
-/

namespace BssLiteRt.Library.Occurrences

variable {α : Type} {pattern first second old new front back data : List α} {place other : Nat}

def OccursAt (pattern data : List α) (place : Nat) : Prop :=
  pattern <+: data.drop place

instance [DecidableEq α] (pattern data : List α) : DecidablePred (OccursAt pattern data) :=
  fun place => inferInstanceAs (Decidable (pattern <+: data.drop place))

/-- The second pattern cannot begin within the first. -/
def Apart (first second : List α) : Prop :=
  ∀ shift < first.length, ¬ first.drop shift <+: second

instance [DecidableEq α] (first second : List α) : Decidable (Apart first second) :=
  inferInstanceAs (Decidable (∀ _ < _, _))

/-- The pattern cannot begin again within itself. -/
def Unbordered (pattern : List α) : Prop :=
  ∀ shift < pattern.length, 0 < shift → ¬ pattern.drop shift <+: pattern

instance [DecidableEq α] (pattern : List α) : Decidable (Unbordered pattern) :=
  inferInstanceAs (Decidable (∀ _ < _, _))

theorem OccursAt.infix (occurs : OccursAt pattern data place) : pattern <:+: data :=
  occurs.isInfix.trans (List.drop_suffix place data).isInfix

theorem exists_occursAt (within : pattern <:+: data) : ∃ place, OccursAt pattern data place := by
  obtain ⟨front, back, rfl⟩ := within
  refine ⟨front.length, ?_⟩
  rw [OccursAt, List.append_assoc, List.drop_left]
  exact List.prefix_append _ _

theorem OccursAt.lt_length (occurs : OccursAt pattern data place) (nonempty : pattern ≠ []) :
    place < data.length := by
  by_contra beyond
  rw [OccursAt, List.drop_eq_nil_of_le (Nat.le_of_not_lt beyond), List.prefix_nil] at occurs
  exact nonempty occurs

theorem occursAt_append (front pattern back : List α) :
    OccursAt pattern (front ++ pattern ++ back) front.length := by
  rw [OccursAt, List.append_assoc, List.drop_left]
  exact List.prefix_append _ _

/-- An occurrence divides the list. -/
theorem OccursAt.split (occurs : OccursAt pattern data place) :
    data = data.take place ++ pattern ++ data.drop (place + pattern.length) := by
  obtain ⟨rest, shape⟩ := occurs
  have after : data.drop (place + pattern.length) = rest := by
    rw [← List.drop_drop, ← shape, List.drop_left]
  rw [after, List.append_assoc, shape, List.take_append_drop]

/-! ### Overlaps -/

/-- Where two occurrences overlap, the end of the one is the beginning of the other. -/
theorem OccursAt.overlap (earlier : OccursAt first data place) (later : OccursAt second data other)
    (order : place ≤ other) (long : first.length ≤ second.length + (other - place)) :
    first.drop (other - place) <+: second := by
  have dropped := List.IsPrefix.drop earlier (other - place)
  rw [List.drop_drop, Nat.add_sub_cancel' order] at dropped
  refine List.prefix_of_prefix_length_le dropped later ?_
  rw [List.length_drop]
  omega

theorem Unbordered.disjoint (unbordered : Unbordered pattern) (earlier : OccursAt pattern data place)
    (later : OccursAt pattern data other) (order : place < other) :
    place + pattern.length ≤ other := by
  by_contra overlaps
  exact unbordered (other - place) (by omega) (by omega)
    (earlier.overlap later order.le (Nat.le_add_right _ _))

theorem disjoint_of_apart (sameLength : first.length = second.length) (forward : Apart first second)
    (backward : Apart second first) (firstOccurs : OccursAt first data place)
    (secondOccurs : OccursAt second data other) :
    place + first.length ≤ other ∨ other + second.length ≤ place := by
  rcases Nat.le_total place other with order | order
  · refine Or.inl (Nat.le_of_not_lt fun overlaps => ?_)
    exact forward (other - place) (by omega) (firstOccurs.overlap secondOccurs order (by omega))
  · refine Or.inr (Nat.le_of_not_lt fun overlaps => ?_)
    exact backward (place - other) (by omega) (secondOccurs.overlap firstOccurs order (by omega))

/-- Where the second pattern begins within the first, neither covers the other. -/
def Separate (first second : List α) : Prop :=
  ∀ shift < first.length, ¬ first.drop shift <+: second ∧ ¬ second <+: first.drop shift

instance [DecidableEq α] (first second : List α) : Decidable (Separate first second) :=
  inferInstanceAs (Decidable (∀ _ < _, _))

theorem Separate.after (separate : Separate first second) (firstOccurs : OccursAt first data place)
    (secondOccurs : OccursAt second data other) (order : place ≤ other) :
    place + first.length ≤ other := by
  by_contra overlaps
  have dropped := List.IsPrefix.drop firstOccurs (other - place)
  rw [List.drop_drop, Nat.add_sub_cancel' order] at dropped
  obtain ⟨short, long⟩ := separate (other - place) (by omega)
  exact (List.prefix_or_prefix_of_prefix dropped secondOccurs).elim short long

theorem disjoint_of_separate (forward : Separate first second) (backward : Separate second first)
    (firstOccurs : OccursAt first data place) (secondOccurs : OccursAt second data other) :
    place + first.length ≤ other ∨ other + second.length ≤ place :=
  (Nat.le_total place other).imp (forward.after firstOccurs secondOccurs)
    (backward.after secondOccurs firstOccurs)

/-! ### A replaced window -/

/-- What occurs beside the window occurred there before. -/
theorem occursAt_beside (sameLength : old.length = new.length)
    (occurs : OccursAt pattern (front ++ new ++ back) place)
    (beside : front.length + new.length ≤ place ∨ place + pattern.length ≤ front.length) :
    OccursAt pattern (front ++ old ++ back) place := by
  unfold OccursAt at occurs ⊢
  rcases beside with after | before
  · have same (window : List α) (length : window.length = new.length) :
        (front ++ window ++ back).drop place = back.drop (place - (front.length + new.length)) := by
      have past : (front ++ window).length ≤ place := by
        rw [List.length_append, length]
        exact after
      rw [List.drop_append, List.drop_eq_nil_of_le past, List.nil_append, List.length_append,
        length]
    rw [same new rfl] at occurs
    rwa [same old sameLength]
  · have start : place ≤ front.length := by omega
    rw [List.append_assoc, List.drop_append_of_le_length start] at occurs ⊢
    have inFront : pattern <+: front.drop place := by
      refine List.prefix_of_prefix_length_le occurs (List.prefix_append _ _) ?_
      rw [List.length_drop]
      omega
    exact inFront.trans (List.prefix_append _ _)

/-- A pattern that occurred in the window only is gone when it cannot touch what
replaced it. -/
theorem absent_of_replaced (nonempty : old ≠ []) (sameLength : new.length = old.length)
    (forward : Apart new old) (backward : Apart old new)
    (once : ∃! place, OccursAt old (front ++ old ++ back) place) (place : Nat) :
    ¬ OccursAt old (front ++ new ++ back) place := by
  intro occurs
  have window := occursAt_append front new back
  have apart := disjoint_of_apart sameLength forward backward window occurs
  have before := occursAt_beside sameLength.symm occurs apart
  have same := once.unique before (occursAt_append front old back)
  have long : 0 < old.length := List.length_pos_of_ne_nil nonempty
  omega

end BssLiteRt.Library.Occurrences
