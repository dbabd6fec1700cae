import BssLiteRt.Shim.Unwaited
import Mathlib.Algebra.Group.Nat.Defs
import Mathlib.Data.List.Count
import Mathlib.Data.List.Dedup

/-!
Owns the queue table of the experimental shim while it has room: which slots are
taken, by which queues, and what their counters hold after any run of calls and
resets.
-/

namespace BssLiteRt.Shim

open BssLiteRt.Library.Transition

/-! ### The table and the queues since a reset -/

/-- The queues with a place in the table, when `queue` is next. The null queue needs an
empty slot to be counted in, and leaves it empty. -/
def FitsTable (touched : List Handle) (queue : Handle) : Prop :=
  (queue :: touched.filter (· ≠ NULL)).dedup.length ≤ BSS_MAX_TRACKED_QUEUES

instance (touched : List Handle) (queue : Handle) : Decidable (FitsTable touched queue) :=
  inferInstanceAs (Decidable (_ ≤ _))

/-- The table counts the queues touched since it was reset. -/
structure Tracks (counters : QueueCounters) (touched : List Handle) : Prop where
  unique : ∀ slot other, (counters slot).queue = (counters other).queue →
    (counters slot).queue ≠ NULL → slot = other
  filled : ∀ slot other, slot < other → (counters other).queue ≠ NULL →
    (counters slot).queue ≠ NULL
  occupied : ∀ slot, (counters slot).queue ≠ NULL → (counters slot).queue ∈ touched
  counts : ∀ queue ∈ touched, queue ≠ NULL → ∃ slot, (counters slot).queue = queue ∧
    (counters slot).dispatches.toNat = touched.count queue % 2 ^ 64

theorem tracks_empty : Tracks QueueCounters.empty [] where
  unique := fun _ _ _ occupied => absurd rfl occupied
  filled := fun _ _ _ occupied => absurd rfl occupied
  occupied := fun _ occupied => absurd rfl occupied
  counts := fun _ touched => absurd touched List.not_mem_nil

section Table

variable {counters : QueueCounters} {touched : List Handle} {queue : Handle} {slot : Slot}

/-- A queue without a slot, as long as the table has room for it, finds an empty one. -/
theorem Tracks.exists_empty (tracks : Tracks counters touched) (fits : FitsTable touched queue)
    (absent : slotOf counters queue = none) : ∃ slot, (counters slot).queue = NULL := by
  by_contra full
  have occupied : ∀ slot, (counters slot).queue ≠ NULL := not_exists.mp full
  have elsewhere := slotOf_eq_none_iff.mp absent
  let queues := (List.finRange BSS_MAX_TRACKED_QUEUES).map fun slot => (counters slot).queue
  have distinct : (queue :: queues).Nodup := by
    refine List.nodup_cons.mpr ⟨fun member => ?_, ?_⟩
    · obtain ⟨slot, -, here⟩ := List.mem_map.mp member
      exact elsewhere slot here
    · apply List.Nodup.map_on _ (List.nodup_finRange _)
      intro slot _ other _ same
      exact tracks.unique slot other same (occupied slot)
  have counted : queue :: queues ⊆ (queue :: touched.filter (· ≠ NULL)).dedup := by
    intro other member
    rw [List.mem_dedup]
    rcases List.mem_cons.mp member with rfl | inTable
    · exact List.mem_cons_self
    · obtain ⟨slot, -, rfl⟩ := List.mem_map.mp inTable
      apply List.mem_cons_of_mem
      exact List.mem_filter.mpr ⟨tracks.occupied slot (occupied slot),
        decide_eq_true (occupied slot)⟩
  have tooMany := (List.subperm_of_subset distinct counted).length_le
  unfold FitsTable at fits
  simp only [queues, List.length_cons, List.length_map, List.length_finRange] at tooMany
  omega

/-! ### One dispatch -/

/-- The second slot of the scan is the first empty one. -/
theorem scanSlots_snd {slots : List Slot} (absent : ∀ slot ∈ slots, (counters slot).queue ≠ queue)
    (empty : Option Slot) :
    (scanSlots counters queue slots empty).2 =
      empty.or (slots.find? fun slot => (counters slot).queue = NULL) := by
  induction slots generalizing empty with
  | nil =>
      rw [List.find?_nil, Option.or_none]
      rfl
  | cons slot rest inductionHypothesis =>
      have later := fun empty => inductionHypothesis
        (fun other member => absent other (List.mem_cons_of_mem _ member)) empty
      unfold scanSlots
      rw [if_neg (absent slot List.mem_cons_self)]
      by_cases here : (counters slot).queue = NULL
      · rw [List.find?_cons_of_pos (by simpa using here)]
        cases empty with
        | none =>
            rw [if_pos ⟨rfl, here⟩, later]
            rfl
        | some earlier =>
            rw [if_neg (by simp), later]
            rfl
      · rw [List.find?_cons_of_neg (by simpa using here), if_neg (by simp [here]), later]

theorem countDispatch_of_slot (found : slotOf counters queue = some slot) :
    countDispatch counters queue = ((counters slot).dispatches + 1,
      Function.update counters slot ⟨queue, (counters slot).dispatches + 1⟩) := by
  obtain ⟨other, itsSlot, selected⟩ | ⟨other, absent, -⟩ := selectSlot_cases counters queue
  · obtain rfl := Option.some.inj (found.symm.trans itsSlot)
    unfold countDispatch
    rw [selected, ← slotOf_queue found]
  · rw [found] at absent
    contradiction

/-- The first slot without a queue. -/
def IsFirstEmpty (counters : QueueCounters) (slot : Slot) : Prop :=
  (counters slot).queue = NULL ∧ ∀ other < slot, (counters other).queue ≠ NULL

/-- A new queue starts in the first empty slot, whatever was counted there. -/
theorem countDispatch_of_new (absent : slotOf counters queue = none)
    (empty : ∃ slot, (counters slot).queue = NULL) :
    ∃ slot, IsFirstEmpty counters slot ∧
      countDispatch counters queue = (1, Function.update counters slot ⟨queue, 1⟩) := by
  have first := @scanSlots_fst counters queue (List.finRange BSS_MAX_TRACKED_QUEUES) none
  have second := @scanSlots_snd counters queue (List.finRange BSS_MAX_TRACKED_QUEUES)
    (fun slot _ => slotOf_eq_none_iff.mp absent slot) none
  have notThere : (scanSlots counters queue (List.finRange BSS_MAX_TRACKED_QUEUES) none).1 = none :=
    first.trans absent
  cases found : (List.finRange BSS_MAX_TRACKED_QUEUES).find?
      (fun slot => (counters slot).queue = NULL) with
  | none =>
      obtain ⟨slot, isEmpty⟩ := empty
      have occupied := List.find?_eq_none.mp found slot (List.mem_finRange slot)
      exact absurd (decide_eq_true isEmpty) occupied
  | some slot =>
      obtain ⟨isEmpty, index, bound, here, before⟩ := List.find?_eq_some_iff_getElem.mp found
      refine ⟨slot, ⟨of_decide_eq_true isEmpty, fun other earlier => ?_⟩, ?_⟩
      · have atIndex : slot.val = index := by
          rw [← here, List.getElem_finRange]
          rfl
        have below : other.val < index := atIndex ▸ earlier
        have occupied := before other.val below
        rw [List.getElem_finRange] at occupied
        simpa using occupied
      · have scanned : scanSlots counters queue (List.finRange BSS_MAX_TRACKED_QUEUES) none =
            (none, some slot) := Prod.ext notThere (second.trans found)
        unfold countDispatch selectSlot
        rw [scanned]
        simp

theorem count_append_self (touched : List Handle) (queue : Handle) :
    (touched ++ [queue]).count queue = touched.count queue + 1 := by
  rw [List.count_append, List.count_singleton_self]

theorem count_append_of_ne {other : Handle} (different : other ≠ queue) (touched : List Handle) :
    (touched ++ [queue]).count other = touched.count other := by
  have notIt : other ∉ [queue] := by simpa using different
  rw [List.count_append, List.count_eq_zero.mpr notIt, Nat.add_zero]

/-- The counter of a queue in the table is the number of its calls. -/
theorem Tracks.count_of_slot (tracks : Tracks counters touched)
    (found : slotOf counters queue = some slot) (named : queue ≠ NULL) :
    (counters slot).dispatches.toNat = touched.count queue % 2 ^ 64 := by
  have here := slotOf_queue found
  have occupied : (counters slot).queue ≠ NULL := here ▸ named
  obtain ⟨other, there, counts⟩ := tracks.counts queue (here ▸ tracks.occupied slot occupied) named
  rw [tracks.unique slot other (here.trans there.symm) occupied]
  exact counts

/-- A queue without a slot has not been called. -/
theorem Tracks.count_of_absent (tracks : Tracks counters touched)
    (absent : slotOf counters queue = none) (named : queue ≠ NULL) :
    touched.count queue = 0 := by
  rw [List.count_eq_zero]
  intro member
  obtain ⟨slot, here, -⟩ := tracks.counts queue member named
  exact slotOf_eq_none_iff.mp absent slot here

/-- One more dispatch of a queue that has its slot. -/
theorem Tracks.again (tracks : Tracks counters touched)
    (found : slotOf counters queue = some slot) :
    Tracks (Function.update counters slot ⟨queue, (counters slot).dispatches + 1⟩)
      (touched ++ [queue]) := by
  have sameQueues : ∀ other, (Function.update counters slot
      ⟨queue, (counters slot).dispatches + 1⟩ other).queue = (counters other).queue := by
    intro other
    by_cases same : other = slot
    · rw [same, Function.update_self, slotOf_queue found]
    · rw [Function.update_of_ne same]
  refine ⟨?unique, ?filled, ?occupied, ?counts⟩
  case unique =>
    intro first second
    rw [sameQueues, sameQueues]
    exact tracks.unique first second
  case filled =>
    intro first second
    rw [sameQueues, sameQueues]
    exact tracks.filled first second
  case occupied =>
    intro other
    rw [sameQueues]
    intro occupied
    exact List.mem_append_left _ (tracks.occupied other occupied)
  case counts =>
    intro other member named
    by_cases same : other = queue
    · subst same
      refine ⟨slot, (sameQueues slot).trans (slotOf_queue found), ?_⟩
      have counts := tracks.count_of_slot found named
      rw [Function.update_self, count_append_self, UInt64.toNat_add, counts, UInt64.toNat_one]
      omega
    · have before : other ∈ touched := by
        simpa [same] using member
      obtain ⟨itsSlot, here, counts⟩ := tracks.counts other before named
      have elsewhere : itsSlot ≠ slot := by
        intro shared
        rw [shared, slotOf_queue found] at here
        exact same here.symm
      refine ⟨itsSlot, (sameQueues itsSlot).trans here, ?_⟩
      rw [Function.update_of_ne elsewhere, count_append_of_ne same, counts]

/-- The first dispatch of a queue, in the first empty slot. -/
theorem Tracks.start (tracks : Tracks counters touched)
    (absent : slotOf counters queue = none) (named : queue ≠ NULL)
    (first : IsFirstEmpty counters slot) :
    Tracks (Function.update counters slot ⟨queue, 1⟩) (touched ++ [queue]) := by
  have elsewhere := slotOf_eq_none_iff.mp absent
  refine ⟨?unique, ?filled, ?occupied, ?counts⟩
  case unique =>
    intro one other same occupied
    by_cases oneHere : one = slot <;> by_cases otherHere : other = slot
    · exact oneHere.trans otherHere.symm
    · rw [oneHere, Function.update_self, Function.update_of_ne otherHere] at same
      exact absurd same.symm (elsewhere other)
    · rw [otherHere, Function.update_self, Function.update_of_ne oneHere] at same
      exact absurd same (elsewhere one)
    · rw [Function.update_of_ne oneHere] at same occupied
      rw [Function.update_of_ne otherHere] at same
      exact tracks.unique one other same occupied
  case filled =>
    intro one other before occupied
    by_cases oneHere : one = slot
    · rw [oneHere, Function.update_self]
      exact named
    rw [Function.update_of_ne oneHere]
    by_cases otherHere : other = slot
    · exact first.2 one (otherHere ▸ before)
    · rw [Function.update_of_ne otherHere] at occupied
      exact tracks.filled one other before occupied
  case occupied =>
    intro other occupied
    by_cases here : other = slot
    · rw [here, Function.update_self]
      exact List.mem_append_right _ List.mem_cons_self
    · rw [Function.update_of_ne here] at occupied ⊢
      exact List.mem_append_left _ (tracks.occupied other occupied)
  case counts =>
    intro other member otherNamed
    by_cases same : other = queue
    · subst same
      refine ⟨slot, by rw [Function.update_self], ?_⟩
      rw [Function.update_self, count_append_self, tracks.count_of_absent absent named]
      rfl
    · have before : other ∈ touched := by
        simpa [same] using member
      obtain ⟨itsSlot, here, counts⟩ := tracks.counts other before otherNamed
      have notEmpty : itsSlot ≠ slot := by
        intro shared
        rw [shared, first.1] at here
        exact otherNamed here.symm
      refine ⟨itsSlot, by rw [Function.update_of_ne notEmpty, here], ?_⟩
      rw [Function.update_of_ne notEmpty, count_append_of_ne same, counts]

/-- One dispatch, as long as the table has room. -/
theorem Tracks.countDispatch (tracks : Tracks counters touched) (fits : FitsTable touched queue) :
    Tracks (countDispatch counters queue).2 (touched ++ [queue]) ∧
      (queue ≠ NULL → (countDispatch counters queue).1.toNat =
        (touched.count queue + 1) % 2 ^ 64) := by
  cases found : slotOf counters queue with
  | some slot =>
      rw [countDispatch_of_slot found]
      refine ⟨tracks.again found, fun named => ?_⟩
      have counts := tracks.count_of_slot found named
      rw [UInt64.toNat_add, counts, UInt64.toNat_one]
      omega
  | none =>
      have empty := tracks.exists_empty fits found
      have named : queue ≠ NULL := by
        rintro rfl
        obtain ⟨slot, isEmpty⟩ := empty
        exact slotOf_eq_none_iff.mp found slot isEmpty
      obtain ⟨slot, first, counted⟩ := countDispatch_of_new found empty
      rw [counted]
      refine ⟨tracks.start found named first, fun _ => ?_⟩
      rw [tracks.count_of_absent found named]
      rfl

end Table

/-! ### Runs -/

/-- What is called, one call after the other. -/
inductive TableCall where
  | shouldWaitAfterDispatch (queue : Handle)
  | nativeReset
  | nativeSetInferenceEnabled (enabled : Bool)
deriving DecidableEq

/-- The queues of the calls since the last reset, in their order. -/
def touchedSinceReset (calls : List TableCall) : List Handle :=
  calls.foldl (fun touched call =>
    match call with
    | .shouldWaitAfterDispatch queue => touched ++ [queue]
    | .nativeReset => []
    | .nativeSetInferenceEnabled _ => touched) []

section Runs

variable {ω : Type} {vendor : Vendor ω} {windowProperty : List UInt8}

def tableStep (vendor : Vendor ω) (windowProperty : List UInt8) (machine : Experiment ω) :
    TableCall → Option (Experiment ω)
  | .shouldWaitAfterDispatch queue =>
      some (Experimental.shouldWaitAfterDispatch queue machine).2
  | .nativeReset => some (Experimental.nativeReset vendor windowProperty machine)
  | .nativeSetInferenceEnabled enabled =>
      some (Experimental.nativeSetInferenceEnabled vendor windowProperty enabled machine)

/-- A dispatch is made while inference is enabled, for a queue that the table has room
for. -/
def EnabledAndFits (calls : List TableCall) (machine : Experiment ω) : TableCall → Prop
  | .shouldWaitAfterDispatch queue =>
      machine.globals.inferenceEnabled = true ∧ FitsTable (touchedSinceReset calls) queue
  | .nativeReset => True
  | .nativeSetInferenceEnabled _ => True

instance (calls : List TableCall) (machine : Experiment ω) (call : TableCall) :
    Decidable (EnabledAndFits calls machine call) :=
  match call with
  | .shouldWaitAfterDispatch _ => inferInstanceAs (Decidable (_ ∧ _))
  | .nativeReset => .isTrue trivial
  | .nativeSetInferenceEnabled _ => .isTrue trivial

theorem touchedSinceReset_append (calls : List TableCall) (call : TableCall) :
    touchedSinceReset (calls ++ [call]) =
      match call with
      | .shouldWaitAfterDispatch queue => touchedSinceReset calls ++ [queue]
      | .nativeReset => []
      | .nativeSetInferenceEnabled _ => touchedSinceReset calls := by
  unfold touchedSinceReset
  rw [List.foldl_append]
  rfl

/-- The shim has its window from its first call on, and is not enabled before. -/
structure Windowed (windowProperty : List UInt8) (machine : Experiment ω) : Prop where
  window : machine.globals.initOnce = true → machine.windowSize = readWindowSize windowProperty
  initialized : machine.globals.inferenceEnabled = true → machine.globals.initOnce = true

theorem windowed_initial (windowProperty : List UInt8) (world : ω) :
    Windowed windowProperty (.initial world) :=
  ⟨nofun, nofun⟩

/-- After the initialisation the window is the one that the property names. -/
theorem Windowed.pthreadOnce {machine : Experiment ω} (windowed : Windowed windowProperty machine) :
    let started := Experimental.pthreadOnce vendor windowProperty machine
    started.globals.initOnce = true ∧ started.windowSize = readWindowSize windowProperty ∧
      started.queueCounters = machine.queueCounters := by
  dsimp only
  unfold Experimental.pthreadOnce
  cases once : machine.globals.initOnce with
  | true => exact ⟨once, windowed.window once, rfl⟩
  | false =>
      refine ⟨?_, rfl, rfl⟩
      simp [Machine.pthreadOnce, once, Globals.pthreadOnce]

/-- One call keeps the window and what the table tracks. -/
theorem tracks_tableStep {calls : List TableCall} {machine after : Experiment ω} {call : TableCall}
    (windowed : Windowed windowProperty machine) (positive : 0 < readWindowSize windowProperty)
    (tracks : Tracks machine.queueCounters (touchedSinceReset calls))
    (meets : EnabledAndFits calls machine call)
    (stepped : tableStep vendor windowProperty machine call = some after) :
    Windowed windowProperty after ∧
      Tracks after.queueCounters (touchedSinceReset (calls ++ [call])) := by
  rw [touchedSinceReset_append]
  cases call with
  | shouldWaitAfterDispatch queue =>
      obtain ⟨enabled, fits⟩ := meets
      obtain rfl := Option.some.inj stepped
      have initialized := windowed.initialized enabled
      have counts : ¬ (machine.windowSize = 0 ∨ machine.globals.inferenceEnabled = false) := by
        rw [windowed.window initialized, enabled]
        exact not_or.mpr ⟨Nat.ne_of_gt positive, nofun⟩
      unfold Experimental.shouldWaitAfterDispatch
      rw [if_neg counts]
      exact ⟨⟨windowed.window, windowed.initialized⟩, (tracks.countDispatch fits).1⟩
  | nativeReset =>
      obtain rfl := Option.some.inj stepped
      have started := @Windowed.pthreadOnce _ vendor windowProperty machine windowed
      exact ⟨⟨fun _ => started.2.1, fun _ => started.1⟩, tracks_empty⟩
  | nativeSetInferenceEnabled enabled =>
      obtain rfl := Option.some.inj stepped
      have started := @Windowed.pthreadOnce _ vendor windowProperty machine windowed
      refine ⟨⟨fun _ => started.2.1, fun _ => started.1⟩, ?_⟩
      unfold Experimental.nativeSetInferenceEnabled
      dsimp only
      rw [started.2.2]
      exact tracks

/-- While the table has room, each named queue has one slot with the number of its
calls, the slots fill up from the first one, and a call waits when the new count is a
multiple of the window. -/
theorem queue_table_counts (vendor : Vendor ω) (windowProperty : List UInt8) (world : ω)
    (window : Nat) (named : readWindowSize windowProperty = window) (positive : 0 < window)
    (calls : List TableCall) (machine : Experiment ω)
    (reached : ReachesWhile (tableStep vendor windowProperty) EnabledAndFits (.initial world)
      calls machine) :
    Tracks machine.queueCounters (touchedSinceReset calls) ∧
      ∀ queue, queue ≠ NULL → EnabledAndFits calls machine (.shouldWaitAfterDispatch queue) →
        ((Experimental.shouldWaitAfterDispatch queue machine).1 = true ↔
          ((touchedSinceReset calls).count queue + 1) % 2 ^ 64 % window = 0) := by
  subst named
  have kept : Windowed windowProperty machine ∧
      Tracks machine.queueCounters (touchedSinceReset calls) := by
    refine @ReachesWhile.invariant _ _ _ _ _ (fun calls machine =>
      Windowed windowProperty machine ∧
        Tracks machine.queueCounters (touchedSinceReset calls)) ?_ ?_ _ _ reached
    · exact ⟨windowed_initial windowProperty world, tracks_empty⟩
    · intro calls machine call after held meets stepped
      exact tracks_tableStep held.1 positive held.2 meets stepped
  obtain ⟨windowed, tracks⟩ := kept
  refine ⟨tracks, fun queue named ready => ?_⟩
  obtain ⟨enabled, fits⟩ := ready
  have window := windowed.window (windowed.initialized enabled)
  have counts : ¬ (machine.windowSize = 0 ∨ machine.globals.inferenceEnabled = false) := by
    rw [window, enabled]
    exact not_or.mpr ⟨Nat.ne_of_gt positive, nofun⟩
  have windowFits : (UInt64.ofNat (readWindowSize windowProperty)).toNat =
      readWindowSize windowProperty := by
    have bounded := readWindowSize_le windowProperty
    apply UInt64.toNat_ofNat_of_lt
    exact Nat.lt_of_le_of_lt bounded (by decide)
  unfold Experimental.shouldWaitAfterDispatch
  rw [if_neg counts]
  dsimp only
  rw [beq_iff_eq, ← UInt64.toNat_inj, UInt64.toNat_mod, window, windowFits,
    (tracks.countDispatch fits).2 named]
  rfl

end Runs

/-- Two queues, after a reset. -/
def twoQueues : List TableCall :=
  [.nativeSetInferenceEnabled true, .shouldWaitAfterDispatch 5, .nativeReset,
    .nativeSetInferenceEnabled true, .shouldWaitAfterDispatch 7, .shouldWaitAfterDispatch 9,
    .shouldWaitAfterDispatch 7]

/-- At window 2 the second call of queue 9 waits. -/
theorem queue_table_counts_two :
    ∃ machine, runActions (tableStep scriptedVendor [50]) EnabledAndFits [] (.initial [])
        twoQueues = some machine ∧
      Tracks machine.queueCounters [7, 9, 7] ∧
      (Experimental.shouldWaitAfterDispatch 9 machine).1 = true := by
  refine ⟨_, rfl, ?_⟩
  obtain ⟨tracks, waits⟩ := queue_table_counts scriptedVendor [50] [] 2 rfl (by decide) twoQueues _
    (@reachesWhile_of_runActions _ _ _ _ _ _ twoQueues _ rfl)
  exact ⟨tracks, (waits 9 (by decide) ⟨rfl, by decide⟩).mpr (by decide)⟩

/-! ### More calls than the counter holds -/

/-- The same queue again and again. -/
def repeatedCalls (count : Nat) : List TableCall :=
  .nativeSetInferenceEnabled true :: List.replicate count (.shouldWaitAfterDispatch 7)

theorem repeatedCalls_succ (count : Nat) :
    repeatedCalls (count + 1) = repeatedCalls count ++ [.shouldWaitAfterDispatch 7] := by
  unfold repeatedCalls
  rw [List.replicate_succ', List.cons_append]

theorem touchedSinceReset_repeatedCalls (count : Nat) :
    touchedSinceReset (repeatedCalls count) = List.replicate count 7 := by
  induction count with
  | zero => rfl
  | succ count inductionHypothesis =>
      rw [repeatedCalls_succ, touchedSinceReset_append, List.replicate_succ']
      dsimp only
      rw [inductionHypothesis]

theorem fitsTable_replicate (count : Nat) : FitsTable (List.replicate count 7) 7 := by
  have onlyOne : (7 :: (List.replicate count 7).filter (· ≠ NULL)).dedup ⊆ [7] := by
    intro queue member
    rw [List.mem_dedup, List.mem_cons, List.mem_filter, List.mem_replicate] at member
    exact List.mem_singleton.mpr (member.elim id fun listed => listed.1.2)
  have atMostOne := (List.subperm_of_subset (List.nodup_dedup _) onlyOne).length_le
  exact atMostOne.trans (by decide)

theorem reaches_repeatedCalls (count : Nat) :
    ∃ machine, ReachesWhile (tableStep scriptedVendor [49]) EnabledAndFits (.initial [])
      (repeatedCalls count) machine ∧ machine.globals.inferenceEnabled = true := by
  induction count with
  | zero => exact ⟨_, .next .start trivial rfl, rfl⟩
  | succ count inductionHypothesis =>
      obtain ⟨machine, reached, enabled⟩ := inductionHypothesis
      refine ⟨(Experimental.shouldWaitAfterDispatch 7 machine).2, ?_, ?_⟩
      · rw [repeatedCalls_succ]
        refine .next reached ⟨enabled, ?_⟩ rfl
        rw [touchedSinceReset_repeatedCalls]
        exact fitsTable_replicate count
      · unfold Experimental.shouldWaitAfterDispatch
        split <;> exact enabled

/-- After 2^64 calls no slot holds their number: the 64-bit counter is at 0 again. -/
theorem queue_table_wraps :
    ∃ machine, ReachesWhile (tableStep scriptedVendor [49]) EnabledAndFits (.initial [])
        (repeatedCalls (2 ^ 64)) machine ∧
      (touchedSinceReset (repeatedCalls (2 ^ 64))).count 7 = 2 ^ 64 ∧
      ∀ slot, (machine.queueCounters slot).dispatches.toNat ≠ 2 ^ 64 := by
  obtain ⟨machine, reached, -⟩ := reaches_repeatedCalls (2 ^ 64)
  refine ⟨machine, reached, ?_, fun slot => ?_⟩
  · rw [touchedSinceReset_repeatedCalls, List.count_replicate_self]
  · exact Nat.ne_of_lt (UInt64.toNat_lt _)

end BssLiteRt.Shim
