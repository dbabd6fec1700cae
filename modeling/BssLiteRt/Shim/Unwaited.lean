import BssLiteRt.Shim.Experiment
import BssLiteRt.Shim.Ownership
import BssLiteRt.Shim.Progress

/-!
Owns runs of the experimental shim with inference enabled: how many kernels of each
queue the vendor has accepted since one of that queue was waited for, and what keeps
that number below the window.
-/

namespace BssLiteRt.Shim

open BssLiteRt.Library.Transition

/-! ### The count of a queue -/

/-- The slot that the loop finds for a queue. -/
def slotOf (counters : QueueCounters) (queue : Handle) : Option Slot :=
  (List.finRange BSS_MAX_TRACKED_QUEUES).find? fun slot => (counters slot).queue = queue

/-- The dispatches counted for a queue; 0 for a queue without a slot. -/
def counted (counters : QueueCounters) (queue : Handle) : UInt64 :=
  ((slotOf counters queue).map fun slot => (counters slot).dispatches).getD 0

/-- The queue whose slot is taken when `queue` has none. -/
def displaced (counters : QueueCounters) (queue : Handle) : Option Handle :=
  if slotOf counters queue = none then
    some (counters (selectSlot counters queue).1).queue
  else none

section QueueTable

variable {counters : QueueCounters} {queue other : Handle} {slot : Slot}

theorem slotOf_queue (found : slotOf counters queue = some slot) :
    (counters slot).queue = queue := by
  simpa using List.find?_some found

theorem counted_of_slot (found : slotOf counters queue = some slot) :
    counted counters queue = (counters slot).dispatches := by
  rw [counted, found, Option.map_some, Option.getD_some]

theorem counted_of_absent (absent : slotOf counters queue = none) : counted counters queue = 0 := by
  rw [counted, absent, Option.map_none, Option.getD_none]

theorem slotOf_eq_none_iff :
    slotOf counters queue = none ↔ ∀ slot, (counters slot).queue ≠ queue := by
  unfold slotOf
  rw [List.find?_eq_none]
  exact ⟨fun absent slot => by simpa using absent slot (List.mem_finRange slot),
    fun absent slot _ => by simpa using absent slot⟩

theorem scanSlots_fst (slots : List Slot) (empty : Option Slot) :
    (scanSlots counters queue slots empty).1 =
      slots.find? fun slot => (counters slot).queue = queue := by
  induction slots generalizing empty with
  | nil => rfl
  | cons slot rest inductionHypothesis =>
      unfold scanSlots
      by_cases here : (counters slot).queue = queue
      · rw [if_pos here, List.find?_cons_of_pos (by simpa using here)]
      · rw [if_neg here, List.find?_cons_of_neg (by simpa using here)]
        split <;> exact inductionHypothesis _

/-- A queue keeps its slot, or takes one for a count that starts again. -/
theorem selectSlot_cases (counters : QueueCounters) (queue : Handle) :
    (∃ slot, slotOf counters queue = some slot ∧ selectSlot counters queue = (slot, counters)) ∨
      ∃ slot, slotOf counters queue = none ∧
        selectSlot counters queue = (slot, Function.update counters slot ⟨queue, 0⟩) := by
  have scanned := @scanSlots_fst counters queue (List.finRange BSS_MAX_TRACKED_QUEUES) none
  unfold slotOf selectSlot
  rw [← scanned]
  obtain ⟨selected, empty⟩ := scanSlots counters queue (List.finRange BSS_MAX_TRACKED_QUEUES) none
  cases selected with
  | some slot => exact .inl ⟨slot, rfl, rfl⟩
  | none => exact .inr ⟨_, rfl, rfl⟩

/-- One slot then holds the queue with its new count. -/
theorem countDispatch_eq (counters : QueueCounters) (queue : Handle) :
    ∃ slot, (slotOf counters queue = some slot ∨
        slotOf counters queue = none ∧ displaced counters queue = some (counters slot).queue) ∧
      countDispatch counters queue =
        (counted counters queue + 1,
          Function.update counters slot ⟨queue, counted counters queue + 1⟩) := by
  unfold countDispatch displaced
  obtain ⟨slot, found, selected⟩ | ⟨slot, absent, selected⟩ := selectSlot_cases counters queue
  · refine ⟨slot, .inl found, ?_⟩
    rw [selected, counted_of_slot found, ← slotOf_queue found]
  · refine ⟨slot, .inr ⟨absent, ?_⟩, ?_⟩
    · rw [if_pos absent, selected]
    · rw [selected, counted_of_absent absent]
      simp

theorem slotOf_update_self (count : UInt64)
    (before : slotOf counters queue = some slot ∨ slotOf counters queue = none) :
    slotOf (Function.update counters slot ⟨queue, count⟩) queue = some slot := by
  rcases before with found | absent
  · rw [← found]
    unfold slotOf
    congr 1
    funext other
    by_cases same : other = slot
    · rw [same, Function.update_self, slotOf_queue found]
    · rw [Function.update_of_ne same]
  · cases after : slotOf (Function.update counters slot ⟨queue, count⟩) queue with
    | none =>
        have here := slotOf_eq_none_iff.mp after slot
        rw [Function.update_self] at here
        exact absurd rfl here
    | some found =>
        by_cases same : found = slot
        · rw [same]
        · have elsewhere := slotOf_queue after
          rw [Function.update_of_ne same] at elsewhere
          exact absurd elsewhere (slotOf_eq_none_iff.mp absent found)

theorem slotOf_update_of_ne (count : UInt64) (different : other ≠ queue)
    (notHere : (counters slot).queue ≠ other) :
    slotOf (Function.update counters slot ⟨queue, count⟩) other = slotOf counters other := by
  unfold slotOf
  congr 1
  funext candidate
  by_cases same : candidate = slot
  · rw [same, Function.update_self, decide_eq_false different.symm, decide_eq_false notHere]
  · rw [Function.update_of_ne same]

/-- The queue that was dispatched has its new count. -/
theorem counted_countDispatch_self (counters : QueueCounters) (queue : Handle) :
    counted (countDispatch counters queue).2 queue = (countDispatch counters queue).1 := by
  obtain ⟨slot, taken, equal⟩ := countDispatch_eq counters queue
  have before : slotOf counters queue = some slot ∨ slotOf counters queue = none :=
    taken.imp_right And.left
  rw [equal]
  dsimp only
  rw [counted_of_slot (slotOf_update_self _ before), Function.update_self]

/-- Every other queue keeps its count, unless its slot was taken. -/
theorem counted_countDispatch_of_ne (different : other ≠ queue)
    (kept : displaced counters queue ≠ some other) :
    counted (countDispatch counters queue).2 other = counted counters other := by
  obtain ⟨slot, taken, equal⟩ := countDispatch_eq counters queue
  have notHere : (counters slot).queue ≠ other := by
    rcases taken with found | ⟨-, displaces⟩
    · rw [slotOf_queue found]
      exact different.symm
    · exact fun same => kept (same ▸ displaces)
  rw [equal]
  dsimp only
  have sameSlot := slotOf_update_of_ne (counted counters queue + 1) different notHere
  cases found : slotOf counters other with
  | none => rw [counted_of_absent found, counted_of_absent (sameSlot.trans found)]
  | some candidate =>
      have elsewhere : candidate ≠ slot := fun same => notHere (same ▸ slotOf_queue found)
      rw [counted_of_slot found, counted_of_slot (sameSlot.trans found),
        Function.update_of_ne elsewhere]

end QueueTable

/-! ### Kernels not yet waited for -/

/-- A call that has returned. -/
structure CompletedCall where
  args : EnqueueArgs
  performed : List VendorCall

namespace CompletedCall

/-- The completion events of the kernels that the vendor accepted. -/
def completions (call : CompletedCall) : List ClEvent :=
  call.performed.filterMap VendorCall.completion?

/-- The call waited for the event of its kernel. -/
def waitedFor (call : CompletedCall) : Bool :=
  call.completions.any fun completion =>
    [completion] ∈ call.performed.filterMap VendorCall.waited?

/-- The number of accepted kernels since one was waited for, after this call. -/
def advance (call : CompletedCall) (unwaited : Nat) : Nat :=
  if call.waitedFor then 0 else unwaited + call.completions.length

end CompletedCall

/-- The successfully enqueued kernels of a queue since its last kernel whose event was
waited for, or since the run began. -/
def unwaited (queue : Handle) (calls : List CompletedCall) : Nat :=
  (calls.filter fun call => call.args.commandQueue = queue).foldl
    (fun count call => call.advance count) 0

theorem unwaited_append (queue : Handle) (calls : List CompletedCall) (call : CompletedCall) :
    unwaited queue (calls ++ [call]) =
      if call.args.commandQueue = queue then call.advance (unwaited queue calls)
      else unwaited queue calls := by
  unfold unwaited
  rw [List.filter_append]
  by_cases same : call.args.commandQueue = queue <;> simp [same]

/-- A wait for an accepted kernel starts the count again. -/
theorem advance_waited {args : EnqueueArgs} {slot : ResultEvent} {answer : EnqueueAnswer}
    {waitStatus : ClInt} {rest : List VendorCall} {count : Nat}
    (accepted : answer.status = CL_SUCCESS) :
    CompletedCall.advance ⟨args, .enqueueNDRangeKernel args slot answer ::
      .waitForEvents [answer.completion] waitStatus :: rest⟩ count = 0 := by
  have completes : (VendorCall.enqueueNDRangeKernel args slot answer).completion? =
      some answer.completion := if_pos accepted
  refine if_pos (List.any_eq_true.mpr ⟨answer.completion, ?_, decide_eq_true ?_⟩)
  · unfold CompletedCall.completions
    rw [List.filterMap_cons_some completes]
    exact List.mem_cons_self
  · exact List.mem_filterMap.mpr ⟨_, List.mem_cons_of_mem _ List.mem_cons_self, rfl⟩

section Submitted

variable {ω : Type} {vendor : Vendor ω} {args : EnqueueArgs} {shouldWait : Bool}
  {machine : Machine ω}

/-- The vendor gives an event for every kernel that it accepts, where it is asked for
one. -/
def Vendor.StoresEvents (vendor : Vendor ω) : Prop :=
  ∀ args slot world, slot ≠ ResultEvent.null →
    (vendor.enqueueNDRangeKernel args slot world).1.StoresEvent

/-- The vendor's answer to a kernel. -/
def submitAnswer (vendor : Vendor ω) (shouldWait : Bool) (args : EnqueueArgs)
    (machine : Machine ω) : EnqueueAnswer :=
  let call : EnqueueCall := { args, epoch := 0 }
  (vendor.enqueueNDRangeKernel args (call.resultEvent shouldWait) machine.world).1

/-- A rejected kernel counts for nothing. -/
theorem advance_rejected (count : Nat)
    (rejected : (submitAnswer vendor shouldWait args machine).status ≠ CL_SUCCESS) :
    CompletedCall.advance ⟨args, (submitKernel vendor shouldWait args machine).performed⟩ count =
      count := by
  unfold submitKernel
  dsimp only
  rw [if_pos (.inl rejected)]
  have none : CompletedCall.completions ⟨args, [.enqueueNDRangeKernel args
      (({ args, epoch := 0 } : EnqueueCall).resultEvent shouldWait)
      (submitAnswer vendor shouldWait args machine)]⟩ = [] :=
    List.filterMap_cons_none (if_neg rejected)
  unfold CompletedCall.advance CompletedCall.waitedFor
  rw [submitAnswer] at none
  rw [none]
  rfl

/-- Inside a window the kernel is at most one more. -/
theorem advance_inside (count : Nat) :
    CompletedCall.advance ⟨args, (submitKernel vendor false args machine).performed⟩ count ≤
      count + 1 := by
  unfold submitKernel
  dsimp only
  rw [if_pos (.inr rfl)]
  unfold CompletedCall.advance CompletedCall.completions
  split
  · exact Nat.zero_le _
  · exact Nat.add_le_add_left (List.length_filterMap_le _ _) count

/-- The event that is waited for is the kernel's own. -/
theorem eventToWait_of_storesEvent {answer : EnqueueAnswer} (accepted : answer.status = CL_SUCCESS)
    (stores : answer.StoresEvent) :
    let call : EnqueueCall := { args, epoch := 0 }
    (call.store (call.resultEvent true) answer.stored).eventToWait = answer.completion := by
  dsimp only
  rw [stores accepted]
  cases given : args.event <;>
    simp [EnqueueCall.eventToWait, EnqueueCall.store, EnqueueCall.resultEvent, given]

/-- An accepted kernel that is to be waited for reaches the wait. -/
theorem submitKernel_waits
    (accepted : (submitAnswer vendor true args machine).status = CL_SUCCESS)
    (resolved : machine.globals.real.wait = true ∧ machine.globals.real.release = true) :
    let call : EnqueueCall := { args, epoch := 0 }
    let slot := call.resultEvent true
    let answer := submitAnswer vendor true args machine
    ∃ submitted, submitKernel vendor true args machine =
      waitForKernel vendor (call.store slot answer.stored)
        (.enqueueNDRangeKernel args slot answer) submitted := by
  unfold submitAnswer at accepted ⊢
  unfold submitKernel
  dsimp only at accepted ⊢
  rw [if_neg (not_or.mpr ⟨not_not.mpr accepted, nofun⟩),
    if_neg (by rw [resolved.1, resolved.2]; decide)]
  exact ⟨_, rfl⟩

/-- At the end of a window the accepted kernel is waited for. -/
theorem advance_boundary (stores : vendor.StoresEvents) (count : Nat)
    (accepted : (submitAnswer vendor true args machine).status = CL_SUCCESS)
    (resolved : machine.globals.real.wait = true ∧ machine.globals.real.release = true) :
    CompletedCall.advance ⟨args, (submitKernel vendor true args machine).performed⟩ count = 0 := by
  have asked : ({ args, epoch := 0 } : EnqueueCall).resultEvent true ≠ .null := by
    cases given : args.event <;> simp [EnqueueCall.resultEvent, given]
  have event := @eventToWait_of_storesEvent args _ accepted (stores args _ machine.world asked)
  obtain ⟨submitted, waits⟩ := submitKernel_waits accepted resolved
  obtain ⟨waitStatus, releaseStatus, performed, -⟩ := @waitForKernel_performed _ vendor submitted
    (({ args, epoch := 0 } : EnqueueCall).store
      (({ args, epoch := 0 } : EnqueueCall).resultEvent true)
      (submitAnswer vendor true args machine).stored)
    (.enqueueNDRangeKernel args (({ args, epoch := 0 } : EnqueueCall).resultEvent true)
      (submitAnswer vendor true args machine))
  dsimp only at event
  rw [waits, performed, event]
  exact advance_waited accepted

end Submitted

/-! ### Runs -/

/-- The experimental shim with the calls that have returned. -/
structure ExperimentRun (ω : Type) where
  machine : Experiment ω
  calls : List CompletedCall

section Runs

variable {ω : Type}

def ExperimentRun.enqueue (vendor : Vendor ω) (windowProperty : List UInt8)
    (run : ExperimentRun ω) (args : EnqueueArgs) : ExperimentRun ω :=
  let outcome := Experimental.clEnqueueNDRangeKernel vendor windowProperty args run.machine
  ⟨outcome.machine, run.calls ++ [⟨args, outcome.performed⟩]⟩

/-- The shim is initialised with a window and inference is enabled. -/
structure Experiment.Running (machine : Experiment ω) : Prop where
  initialized : machine.globals.initOnce = true
  enabled : machine.globals.inferenceEnabled = true
  windowPositive : 0 < machine.windowSize
  windowBounded : machine.windowSize ≤ BSS_MAX_WINDOW_SIZE

/-- A property that names a window starts the shim with it. -/
theorem running_of_windowProperty (vendor : Vendor ω) {windowProperty : List UInt8} (world : ω)
    (named : 0 < readWindowSize windowProperty) :
    (Experimental.nativeSetInferenceEnabled vendor windowProperty true (.initial world)).Running :=
  ⟨rfl, rfl, named, readWindowSize_le windowProperty⟩

/-- Whether the next call on a queue ends a window. -/
def ExperimentRun.atBoundary (run : ExperimentRun ω) (queue : Handle) : Bool :=
  (countDispatch run.machine.queueCounters queue).1 % UInt64.ofNat run.machine.windowSize == 0

/-- The vendor's answer to the next call. -/
def ExperimentRun.answer (vendor : Vendor ω) (run : ExperimentRun ω) (args : EnqueueArgs) :
    EnqueueAnswer :=
  submitAnswer vendor (run.atBoundary args.commandQueue) args run.machine.toMachine

/-- At the end of a window an accepted kernel can be waited for, and a kernel of a queue
with unwaited kernels is not rejected. -/
def BoundaryServed (vendor : Vendor ω) (run : ExperimentRun ω) (args : EnqueueArgs) : Prop :=
  run.atBoundary args.commandQueue = true →
    if (run.answer vendor args).status = CL_SUCCESS then
      run.machine.globals.real.wait = true ∧ run.machine.globals.real.release = true
    else unwaited args.commandQueue run.calls = 0

/-- No queue with unwaited kernels loses its slot. -/
def SlotsKept (run : ExperimentRun ω) (queue : Handle) : Prop :=
  ∀ other, displaced run.machine.queueCounters queue = some other →
    unwaited other run.calls = 0

/-- The condition of one call. -/
def KeepsCounts (vendor : Vendor ω) (run : ExperimentRun ω) (args : EnqueueArgs) : Prop :=
  run.machine.globals.real.enqueue = true →
    BoundaryServed vendor run args ∧ SlotsKept run args.commandQueue

/-- The unwaited kernels of a queue are at most its count within the window. -/
def ExperimentRun.Bounded (run : ExperimentRun ω) : Prop :=
  ∀ queue, unwaited queue run.calls ≤
    (counted run.machine.queueCounters queue).toNat % run.machine.windowSize

/-- Every count that does not end a window is one more within it. -/
theorem succ_mod_window {count next : UInt64} {window : Nat} (isNext : next = count + 1)
    (inside : next.toNat % window ≠ 0) :
    next.toNat % window = count.toNat % window + 1 := by
  have noWrap : next.toNat = count.toNat + 1 := by
    rw [isNext, UInt64.toNat_add] at inside ⊢
    by_cases last : count.toNat + 1 = 2 ^ 64
    · exact absurd (by rw [UInt64.toNat_one, last, Nat.mod_self, Nat.zero_mod]) inside
    · exact Nat.mod_eq_of_lt (Nat.lt_of_le_of_ne count.toNat_lt last)
  rw [noWrap] at inside ⊢
  have notOne : window ≠ 1 := fun one => inside (by rw [one, Nat.mod_one])
  rcases Nat.eq_zero_or_pos window with zero | positive
  · rw [zero, Nat.mod_zero, Nat.mod_zero]
  · have oneInside : 1 % window = 1 := Nat.mod_eq_of_lt (by omega)
    have below : count.toNat % window < window := Nat.mod_lt _ positive
    rw [Nat.add_mod, oneInside] at inside ⊢
    refine Nat.mod_eq_of_lt (Nat.lt_of_le_of_ne below fun full => inside ?_)
    rw [full, Nat.mod_self]

theorem atBoundary_iff {run : ExperimentRun ω} (running : run.machine.Running) (queue : Handle) :
    run.atBoundary queue = true ↔
      (countDispatch run.machine.queueCounters queue).1.toNat % run.machine.windowSize = 0 := by
  unfold ExperimentRun.atBoundary
  have window : (UInt64.ofNat run.machine.windowSize).toNat = run.machine.windowSize :=
    UInt64.toNat_ofNat_of_lt (Nat.lt_of_le_of_lt running.windowBounded (by decide))
  rw [beq_iff_eq, ← UInt64.toNat_inj, UInt64.toNat_mod, window]
  rfl

/-- What one call of a running shim leaves. -/
theorem enqueue_eq (vendor : Vendor ω) (windowProperty : List UInt8) {run : ExperimentRun ω}
    (running : run.machine.Running) (args : EnqueueArgs)
    (resolved : run.machine.globals.real.enqueue = true) :
    let submitted := submitKernel vendor (run.atBoundary args.commandQueue) args
      ⟨run.machine.globals.addDispatch, run.machine.world⟩
    let after := run.enqueue vendor windowProperty args
    after.calls = run.calls ++ [⟨args, submitted.performed⟩] ∧
      after.machine =
        { run.machine with
          toMachine := submitted.machine
          queueCounters := (countDispatch run.machine.queueCounters args.commandQueue).2 } := by
  have started : Experimental.pthreadOnce vendor windowProperty run.machine = run.machine :=
    if_pos running.initialized
  have present : ¬ run.machine.globals.real.enqueue = false := by rw [resolved]; decide
  have decides : ¬ (run.machine.windowSize = 0 ∨ run.machine.globals.inferenceEnabled = false) := by
    rw [running.enabled]
    exact not_or.mpr ⟨Nat.ne_of_gt running.windowPositive, nofun⟩
  unfold ExperimentRun.enqueue Experimental.clEnqueueNDRangeKernel
    Experimental.shouldWaitAfterDispatch
  dsimp only
  rw [started, if_neg present, if_neg decides]
  exact ⟨rfl, rfl⟩

/-- One call, when nothing can be submitted, changes nothing. -/
theorem enqueue_unresolved (vendor : Vendor ω) (windowProperty : List UInt8)
    {run : ExperimentRun ω} (running : run.machine.Running) (args : EnqueueArgs)
    (unresolved : run.machine.globals.real.enqueue = false) :
    run.enqueue vendor windowProperty args = ⟨run.machine, run.calls ++ [⟨args, []⟩]⟩ := by
  have started : Experimental.pthreadOnce vendor windowProperty run.machine = run.machine :=
    if_pos running.initialized
  unfold ExperimentRun.enqueue Experimental.clEnqueueNDRangeKernel
  dsimp only
  rw [started, if_pos unresolved]

/-- The shim stays initialised and enabled, with the same window. -/
theorem Experiment.Running.enqueue (vendor : Vendor ω) (windowProperty : List UInt8)
    {run : ExperimentRun ω} (running : run.machine.Running) (args : EnqueueArgs) :
    (run.enqueue vendor windowProperty args).machine.Running ∧
      (run.enqueue vendor windowProperty args).machine.windowSize = run.machine.windowSize := by
  cases resolved : run.machine.globals.real.enqueue with
  | false =>
      rw [enqueue_unresolved vendor windowProperty running args resolved]
      exact ⟨running, rfl⟩
  | true =>
      obtain ⟨-, after⟩ := enqueue_eq vendor windowProperty running args resolved
      obtain ⟨initialized, -, enabled⟩ := submitKernel_settings vendor
        (run.atBoundary args.commandQueue) args
        ⟨run.machine.globals.addDispatch, run.machine.world⟩
      rw [after]
      exact ⟨⟨initialized.trans running.initialized, enabled.trans running.enabled,
        running.windowPositive, running.windowBounded⟩, rfl⟩

/-- The queue of the call. -/
theorem advance_le_count {vendor : Vendor ω} (stores : vendor.StoresEvents)
    {run : ExperimentRun ω} {args : EnqueueArgs} (running : run.machine.Running)
    (bounded : unwaited args.commandQueue run.calls ≤
      (counted run.machine.queueCounters args.commandQueue).toNat % run.machine.windowSize)
    (served : BoundaryServed vendor run args) :
    CompletedCall.advance ⟨args, (submitKernel vendor (run.atBoundary args.commandQueue) args
        ⟨run.machine.globals.addDispatch, run.machine.world⟩).performed⟩
        (unwaited args.commandQueue run.calls) ≤
      (countDispatch run.machine.queueCounters args.commandQueue).1.toNat %
        run.machine.windowSize := by
  have atBoundary := atBoundary_iff running args.commandQueue
  unfold BoundaryServed ExperimentRun.answer at served
  cases boundary : run.atBoundary args.commandQueue with
  | true =>
      rw [boundary] at served
      have serves := served rfl
      rw [atBoundary.mp boundary, Nat.le_zero]
      by_cases accepted :
          (submitAnswer vendor true args run.machine.toMachine).status = CL_SUCCESS
      · rw [if_pos accepted] at serves
        exact advance_boundary stores _ accepted serves
      · rw [if_neg accepted] at serves
        rw [serves]
        exact advance_rejected 0 accepted
  | false =>
      have inside := mt atBoundary.mpr (by rw [boundary]; exact Bool.false_ne_true)
      obtain ⟨slot, -, counts⟩ := countDispatch_eq run.machine.queueCounters args.commandQueue
      have isNext : (countDispatch run.machine.queueCounters args.commandQueue).1 =
          counted run.machine.queueCounters args.commandQueue + 1 := by rw [counts]
      rw [succ_mod_window isNext inside]
      exact (advance_inside _).trans (Nat.succ_le_succ bounded)

/-- One call that meets the condition keeps the bound. -/
theorem ExperimentRun.Bounded.enqueue {vendor : Vendor ω} (stores : vendor.StoresEvents)
    (windowProperty : List UInt8) {run : ExperimentRun ω} {args : EnqueueArgs}
    (running : run.machine.Running) (bounded : run.Bounded) (kept : KeepsCounts vendor run args) :
    (run.enqueue vendor windowProperty args).Bounded := by
  intro queue
  rw [(running.enqueue vendor windowProperty args).2]
  cases resolved : run.machine.globals.real.enqueue with
  | false =>
      rw [enqueue_unresolved vendor windowProperty running args resolved]
      dsimp only
      rw [unwaited_append]
      split <;> exact bounded queue
  | true =>
      obtain ⟨served, slots⟩ := kept resolved
      obtain ⟨calls, after⟩ := enqueue_eq vendor windowProperty running args resolved
      rw [calls, after, unwaited_append]
      dsimp only
      by_cases same : args.commandQueue = queue
      · rw [if_pos same]
        subst same
        rw [counted_countDispatch_self]
        exact advance_le_count stores running (bounded _) served
      · rw [if_neg same]
        by_cases taken : displaced run.machine.queueCounters args.commandQueue = some queue
        · rw [slots queue taken]
          exact Nat.zero_le _
        · rw [counted_countDispatch_of_ne (Ne.symm same) taken]
          exact bounded queue

/-- In every run whose calls meet the condition, every queue has fewer unwaited kernels
than the window. -/
theorem unwaited_lt_window (vendor : Vendor ω) (stores : vendor.StoresEvents)
    (windowProperty : List UInt8) (machine : Experiment ω) (running : machine.Running)
    (calls : List EnqueueArgs) (run : ExperimentRun ω)
    (reached : ReachesWhile (fun run args => some (run.enqueue vendor windowProperty args))
      (fun _ run args => KeepsCounts vendor run args) ⟨machine, []⟩ calls run)
    (queue : Handle) :
    unwaited queue run.calls < machine.windowSize := by
  have kept : run.machine.Running ∧ run.machine.windowSize = machine.windowSize ∧ run.Bounded := by
    refine @ReachesWhile.invariant _ _ _ _ _ (fun _ run => run.machine.Running ∧
      run.machine.windowSize = machine.windowSize ∧ run.Bounded) ?_ ?_ _ _ reached
    · exact ⟨running, rfl, fun _ => Nat.zero_le _⟩
    · rintro - run args after ⟨stillRunning, window, bounded⟩ keeps ⟨rfl⟩
      obtain ⟨nextRunning, nextWindow⟩ := stillRunning.enqueue vendor windowProperty args
      exact ⟨nextRunning, nextWindow.trans window,
        bounded.enqueue stores windowProperty stillRunning keeps⟩
  obtain ⟨stillRunning, window, bounded⟩ := kept
  rw [← window]
  exact (bounded queue).trans_lt (Nat.mod_lt _ stillRunning.windowPositive)

end Runs

/-- Two kernels of one queue at window 2: the second is waited for. -/
theorem unwaited_lt_window_two :
    let machine := Experimental.nativeSetInferenceEnabled scriptedVendor [50] true (.initial [])
    let run := ((ExperimentRun.mk machine []).enqueue scriptedVendor [50] eventlessArgs).enqueue
      scriptedVendor [50] eventlessArgs
    ∀ queue, unwaited queue run.calls < 2 := by
  intro machine run
  have stores : scriptedVendor.StoresEvents := by
    rintro args slot statuses asked accepted
    exact if_pos ⟨accepted, asked⟩
  have running : machine.Running := running_of_windowProperty scriptedVendor [] (by decide)
  refine unwaited_lt_window scriptedVendor stores [50] machine running
    [eventlessArgs, eventlessArgs] run ?_
  refine .next (.next .start ?_ rfl) ?_ rfl
  · intro _
    exact ⟨fun boundary => absurd boundary (by decide), fun _ _ => rfl⟩
  · intro _
    have ownSlot : displaced ((ExperimentRun.mk machine []).enqueue scriptedVendor [50]
        eventlessArgs).machine.queueCounters 1 = none := rfl
    exact ⟨fun _ => ⟨rfl, rfl⟩, fun other taken => nomatch ownSlot.symm.trans taken⟩

/-- At window 2 a kernel rejected at the end of a window leaves two kernels unwaited. -/
theorem rejected_boundary_unwaited :
    let machine := Experimental.nativeSetInferenceEnabled scriptedVendor [50] true
      (.initial [CL_SUCCESS, -5, CL_SUCCESS])
    let enqueue := fun run : ExperimentRun (List ClInt) =>
      run.enqueue scriptedVendor [50] eventlessArgs
    let run := enqueue (enqueue (enqueue ⟨machine, []⟩))
    machine.Running ∧ machine.windowSize = 2 ∧ ¬ unwaited 1 run.calls < 2 := by
  refine ⟨running_of_windowProperty scriptedVendor _ (by decide), by decide, ?_⟩
  decide

end BssLiteRt.Shim
