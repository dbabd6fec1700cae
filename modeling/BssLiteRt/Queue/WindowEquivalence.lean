import BssLiteRt.Queue.Dispatch
import Mathlib.Data.List.Flatten
import Mathlib.Tactic

/-!
Owns the comparison of the bounded `Dispatch` loop with the upstream one. With
window 0 the two perform the same operations and return the same status. With
a positive window the bounded loop performs the upstream operations and, around
the flush of every batch whose number is a multiple of the window, one
`EnqueueEvent` and one `Wait`.
-/

namespace BssLiteRt.Queue

open BssLiteRt.Library.DoWhile

variable {Error Queue Events : Type}

/-! ### Operations -/

/-- The operations the unpatched loop can perform. -/
def QueueOp.isUpstream : QueueOp Error → Bool
  | .addToQueue .. => true
  | .clFlush => true
  | .enqueueEvent _ => false
  | .wait => false

/-- Delete the `EnqueueEvent` and `Wait` operations. -/
def eraseWaits (ops : List (QueueOp Error)) : List (QueueOp Error) :=
  ops.filter QueueOp.isUpstream

/-- Put an `EnqueueEvent` before and a `Wait` after every flush. -/
def bracketFlush (ops : List (QueueOp Error)) : List (QueueOp Error) :=
  ops.flatMap fun op =>
    match op with
    | .clFlush => [.enqueueEvent (.ok ()), .clFlush, .wait]
    | op => [op]

/-- The operations of the batch with 0-based index `index` under a window. -/
def boundaryOps (window : Int) (index : Nat) (ops : List (QueueOp Error)) :
    List (QueueOp Error) :=
  if window ∣ ((index + 1 : Nat) : Int) then bracketFlush ops else ops

@[simp] theorem eraseWaits_append (left right : List (QueueOp Error)) :
    eraseWaits (left ++ right) = eraseWaits left ++ eraseWaits right :=
  List.filter_append left right

private theorem eraseWaits_bracketFlush_singleton {op : QueueOp Error}
    (upstream : op.isUpstream = true) : eraseWaits (bracketFlush [op]) = [op] := by
  cases op with
  | addToQueue offset kernelBatchSize result => rfl
  | enqueueEvent result => exact absurd upstream Bool.false_ne_true
  | clFlush => rfl
  | wait => exact absurd upstream Bool.false_ne_true

theorem eraseWaits_bracketFlush {ops : List (QueueOp Error)}
    (upstream : ∀ op ∈ ops, op.isUpstream = true) : eraseWaits (bracketFlush ops) = ops := by
  induction ops with
  | nil => rfl
  | cons op rest inductionHypothesis =>
      obtain ⟨head, tail⟩ := List.forall_mem_cons.mp upstream
      have split : bracketFlush (op :: rest) = bracketFlush [op] ++ bracketFlush rest := by
        rw [← List.singleton_append]
        exact List.flatMap_append
      rw [split, eraseWaits_append, eraseWaits_bracketFlush_singleton head,
        inductionHypothesis tail]
      rfl

/-- Erasing undoes the bracketing of operations that hold no wait. -/
theorem eraseWaits_boundaryOps {ops : List (QueueOp Error)}
    (upstream : ∀ op ∈ ops, op.isUpstream = true) (window : Int) (index : Nat) :
    eraseWaits (boundaryOps window index ops) = ops := by
  unfold boundaryOps
  split
  case isTrue => exact eraseWaits_bracketFlush upstream
  case isFalse => exact List.filter_eq_self.mpr upstream

/-- Erasing the waits of a run of turns, each bracketed at its own index,
leaves the operations of the turns themselves. -/
theorem eraseWaits_mapIdx (window : Int) (turns : List (List (QueueOp Error))) (start : Nat)
    (upstream : ∀ ops ∈ turns, ∀ op ∈ ops, op.isUpstream = true) :
    eraseWaits (turns.mapIdx fun offset ops => boundaryOps window (start + offset) ops).flatten =
      turns.flatten := by
  induction turns generalizing start with
  | nil => rfl
  | cons ops rest inductionHypothesis =>
      obtain ⟨head, tail⟩ := List.forall_mem_cons.mp upstream
      have shift : (fun offset (ops : List (QueueOp Error)) =>
            boundaryOps window (start + (offset + 1)) ops) =
          fun offset ops => boundaryOps window (start + 1 + offset) ops := by
        funext offset ops
        rw [Nat.add_right_comm, Nat.add_assoc]
      rw [List.mapIdx_cons, List.flatten_cons, eraseWaits_append, eraseWaits_boundaryOps head,
        shift, inductionHypothesis (start + 1) tail, List.flatten_cons]

theorem upstreamBatch_isUpstream (context : ClContext Error Queue Events)
    (backend : GpuBackendOpenClLitert) (state : UpstreamState Queue) :
    ∀ op ∈ (upstreamBatch context backend state).ops, op.isUpstream = true := by
  unfold upstreamBatch
  split <;> simp [QueueOp.isUpstream]

theorem upstreamDispatch_isUpstream (context : ClContext Error Queue Events)
    (backend : GpuBackendOpenClLitert) (fuel : Nat) (queue : Queue) :
    ∀ ops ∈ (upstreamDispatch context backend fuel queue).turns,
      ∀ op ∈ ops, op.isUpstream = true :=
  Loop.run_ops (upstreamLoop context backend) (upstreamBatch_isUpstream context backend) fuel _

/-! ### The counter -/

/-- The remainder of a successor by a positive modulus. -/
theorem succ_emod {modulus : Int} (positive : 0 < modulus) (index : Nat) :
    ((index + 1 : Nat) : Int) % modulus =
      if (index : Int) % modulus + 1 = modulus then 0 else (index : Int) % modulus + 1 := by
  have low := Int.emod_nonneg (index : Int) (Int.ne_of_gt positive)
  have high := Int.emod_lt_of_pos (index : Int) positive
  have split : ((index + 1 : Nat) : Int) =
      ((index : Int) % modulus + 1) + modulus * ((index : Int) / modulus) := by
    have := Int.emod_add_mul_ediv (index : Int) modulus
    push_cast
    omega
  rw [split, Int.add_mul_emod_self_left]
  by_cases last : (index : Int) % modulus + 1 = modulus
  · rw [if_pos last, last, Int.emod_self]
  · rw [if_neg last, Int.emod_eq_of_lt (by omega) (by omega)]

/-- With a positive window the counter reaches the window exactly at the
batches whose 1-based number is a multiple of it. -/
theorem waitForBoundary_iff {backend : GpuBackendOpenClLitert}
    (positive : 0 < backend.commandQueueWindowSize) (index : Nat) :
    waitForBoundary backend ((index : Int) % backend.commandQueueWindowSize + 1) = true ↔
      backend.commandQueueWindowSize ∣ ((index + 1 : Nat) : Int) := by
  have low := Int.emod_nonneg (index : Int) (Int.ne_of_gt positive)
  have high := Int.emod_lt_of_pos (index : Int) positive
  have reached : waitForBoundary backend
      ((index : Int) % backend.commandQueueWindowSize + 1) = true ↔
        (index : Int) % backend.commandQueueWindowSize + 1 =
          backend.commandQueueWindowSize := by
    simp only [waitForBoundary, Bool.and_eq_true, decide_eq_true_eq]
    omega
  rw [reached, Int.dvd_iff_emod_eq_zero, succ_emod positive]
  split
  case isTrue last => exact ⟨fun _ => rfl, fun _ => last⟩
  case isFalse notLast =>
      constructor
      · intro last
        exact absurd last notLast
      · intro zero
        omega

/-- Inside a window the counter is one more than before. -/
theorem counter_next {window : Int} (positive : 0 < window) {index : Nat}
    (indivisible : ¬ window ∣ ((index + 1 : Nat) : Int)) :
    ((index + 1 : Nat) : Int) % window = (index : Int) % window + 1 := by
  have next := succ_emod positive index
  split at next
  case isTrue => exact absurd (Int.dvd_of_emod_eq_zero next) indivisible
  case isFalse => exact next

/-! ### The two loops, turn by turn -/

/-- The loop states of the two versions after the same number of batches. With
a positive window the counter is the number of batches since the last multiple
of the window; with window 0 it plays no part. -/
structure WindowRelated (window : Int) (index : Nat) (bounded : BoundedState Queue Events)
    (upstream : UpstreamState Queue) : Prop where
  queue : bounded.queue = upstream.queue
  offset : bounded.offset = upstream.offset
  counter : 0 < window → bounded.batchesSinceWait = (index : Int) % window

theorem WindowRelated.upstream_eq {window : Int} {index : Nat}
    {bounded : BoundedState Queue Events} {upstream : UpstreamState Queue}
    (related : WindowRelated window index bounded upstream) :
    upstream = ⟨bounded.queue, bounded.offset⟩ := by
  rw [related.queue, related.offset]

/-- With window 0 one turn of the bounded loop is one turn of the upstream loop. -/
theorem zero_turn {context : ClContext Error Queue Events} {backend : GpuBackendOpenClLitert}
    (zero : backend.commandQueueWindowSize = 0) (index : Nat)
    (bounded : BoundedState Queue Events) (upstream : UpstreamState Queue)
    (related : WindowRelated 0 index bounded upstream) :
    TurnRelated (boundedLoop context backend) (upstreamLoop context backend)
      (WindowRelated 0) (fun _ ops => ops) index
      (boundedBatch context backend bounded) (upstreamBatch context backend upstream) := by
  obtain rfl : upstream = ⟨bounded.queue, bounded.offset⟩ := related.upstream_eq
  have never : waitForBoundary backend (bounded.batchesSinceWait + 1) = false := by
    simp [waitForBoundary, zero]
  rcases boundedBatch_cases context backend bounded with
    ⟨error, queue, turn, other⟩ | ⟨next, queue, -, turn, other⟩ |
    ⟨next, queue, events, error, reached, -, -⟩ | ⟨next, queue, events, reached, -, -⟩
  · rw [turn, other]
    exact ⟨rfl, rfl, nofun, rfl, rfl⟩
  · rw [turn, other]
    exact ⟨rfl, rfl, fun _ => ⟨rfl, rfl, fun impossible => absurd impossible (lt_irrefl 0)⟩,
      rfl, rfl⟩
  · exact absurd (never.symm.trans reached) Bool.false_ne_true
  · exact absurd (never.symm.trans reached) Bool.false_ne_true

/-- With a positive window one turn of the bounded loop is one turn of the
upstream loop, bracketed when the batch ends a window. -/
theorem positive_turn {context : ClContext Error Queue Events}
    {backend : GpuBackendOpenClLitert} (positive : 0 < backend.commandQueueWindowSize)
    (succeeds : ∀ queue events, (context.enqueueEvent queue events).1 = .ok ()) (index : Nat)
    (bounded : BoundedState Queue Events) (upstream : UpstreamState Queue)
    (related : WindowRelated backend.commandQueueWindowSize index bounded upstream) :
    TurnRelated (boundedLoop context backend) (upstreamLoop context backend)
      (WindowRelated backend.commandQueueWindowSize)
      (boundaryOps backend.commandQueueWindowSize) index
      (boundedBatch context backend bounded) (upstreamBatch context backend upstream) := by
  obtain rfl : upstream = ⟨bounded.queue, bounded.offset⟩ := related.upstream_eq
  have counter := related.counter positive
  have boundary := waitForBoundary_iff positive index
  rw [← counter] at boundary
  rcases boundedBatch_cases context backend bounded with
    ⟨error, queue, turn, other⟩ | ⟨next, queue, inside, turn, other⟩ |
    ⟨next, queue, events, error, -, refused, -⟩ | ⟨next, queue, events, reached, turn, other⟩
  · rw [turn, other]
    refine ⟨?_, rfl, nofun, rfl, rfl⟩
    unfold boundaryOps
    split <;> rfl
  · have indivisible : ¬ backend.commandQueueWindowSize ∣ ((index + 1 : Nat) : Int) := by
      intro divides
      rw [boundary.mpr divides] at inside
      exact Bool.false_ne_true inside.symm
    rw [turn, other]
    refine ⟨(if_neg indivisible).symm, rfl, fun _ => ⟨rfl, rfl, fun _ => ?_⟩, rfl, rfl⟩
    rw [counter_next positive indivisible, ← counter]
  · have early := succeeds queue bounded.events
    rw [refused] at early
    exact absurd early nofun
  · have divides := boundary.mp reached
    rw [turn, other]
    exact ⟨(if_pos divides).symm, rfl,
      fun _ => ⟨rfl, rfl, fun _ => (Int.emod_eq_zero_of_dvd divides).symm⟩, rfl, rfl⟩

/-! ### The two versions of `Dispatch` -/

theorem dispatch_zero (context : ClContext Error Queue Events) (kernelBatchSize : Int)
    (fuel : Nat) (queue : Queue) (events : Events) :
    (boundedDispatch context ⟨kernelBatchSize, 0⟩ fuel queue events).turns =
        (upstreamDispatch context ⟨kernelBatchSize, 0⟩ fuel queue).turns ∧
      (boundedDispatch context ⟨kernelBatchSize, 0⟩ fuel queue events).result =
        (upstreamDispatch context ⟨kernelBatchSize, 0⟩ fuel queue).result := by
  have start : WindowRelated 0 0 (⟨queue, events, 0, 0⟩ : BoundedState Queue Events) ⟨queue, 0⟩ :=
    ⟨rfl, rfl, fun impossible => absurd impossible (lt_irrefl 0)⟩
  have turn := @zero_turn _ _ _ context ⟨kernelBatchSize, 0⟩ rfl
  obtain ⟨turns, result⟩ := Loop.run_simulation turn fuel start
  refine ⟨?_, result⟩
  rw [boundedDispatch, turns, upstreamDispatch]
  exact List.ext_getElem (by simp) (by simp)

/-- A delegate created without a positive window runs the loop as it was before. -/
theorem dispatch_windowUnset (context : ClContext Error Queue Events)
    {options : MlDriftDelegateOptions} (unset : options.commandQueueWindowSize ≤ 0)
    (fuel : Nat) (queue : Queue) (events : Events) :
    let backend := createMlDriftClDelegate options
    (boundedDispatch context backend fuel queue events).trace =
        (upstreamDispatch context backend fuel queue).trace ∧
      (boundedDispatch context backend fuel queue events).result =
        (upstreamDispatch context backend fuel queue).result := by
  rw [createMlDriftClDelegate_eq, max_eq_right unset]
  obtain ⟨turns, result⟩ := dispatch_zero context (max options.kernelBatchSize 0) fuel queue events
  exact ⟨congrArg List.flatten turns, result⟩

theorem dispatch_positive (context : ClContext Error Queue Events) (kernelBatchSize : Int)
    {window : Int} (positive : 0 < window)
    (succeeds : ∀ queue events, (context.enqueueEvent queue events).1 = .ok ())
    (fuel : Nat) (queue : Queue) (events : Events) :
    (boundedDispatch context ⟨kernelBatchSize, window⟩ fuel queue events).turns =
        (upstreamDispatch context ⟨kernelBatchSize, window⟩ fuel queue).turns.mapIdx
          (boundaryOps window) ∧
      (boundedDispatch context ⟨kernelBatchSize, window⟩ fuel queue events).result =
        (upstreamDispatch context ⟨kernelBatchSize, window⟩ fuel queue).result := by
  have start : WindowRelated window 0 (⟨queue, events, 0, 0⟩ : BoundedState Queue Events)
      ⟨queue, 0⟩ := ⟨rfl, rfl, fun _ => (Int.zero_emod window).symm⟩
  have turn := @positive_turn _ _ _ context ⟨kernelBatchSize, window⟩ positive succeeds
  have simulated := Loop.run_simulation turn fuel start
  simp only [Nat.zero_add] at simulated
  exact simulated

/-- Queue window 0 is upstream behaviour, and a positive window only inserts
waits, each around the flush of a batch whose 1-based number is a multiple of
the window. In both cases the patched loop ends exactly when the unpatched
loop ends, and with the same status. -/
theorem dispatch_window_equivalence (context : ClContext Error Queue Events)
    (kernelBatchSize : Int) (queue : Queue) (events : Events) :
    (∀ fuel,
      (boundedDispatch context ⟨kernelBatchSize, 0⟩ fuel queue events).trace =
          (upstreamDispatch context ⟨kernelBatchSize, 0⟩ fuel queue).trace ∧
        (boundedDispatch context ⟨kernelBatchSize, 0⟩ fuel queue events).result =
          (upstreamDispatch context ⟨kernelBatchSize, 0⟩ fuel queue).result) ∧
    ∀ window, 0 < window →
      (∀ queue events, (context.enqueueEvent queue events).1 = .ok ()) → ∀ fuel,
      eraseWaits (boundedDispatch context ⟨kernelBatchSize, window⟩ fuel queue events).trace =
          (upstreamDispatch context ⟨kernelBatchSize, window⟩ fuel queue).trace ∧
        (boundedDispatch context ⟨kernelBatchSize, window⟩ fuel queue events).turns =
          (upstreamDispatch context ⟨kernelBatchSize, window⟩ fuel queue).turns.mapIdx
            (boundaryOps window) ∧
        (boundedDispatch context ⟨kernelBatchSize, window⟩ fuel queue events).result =
          (upstreamDispatch context ⟨kernelBatchSize, window⟩ fuel queue).result := by
  constructor
  · intro fuel
    obtain ⟨turns, result⟩ := dispatch_zero context kernelBatchSize fuel queue events
    exact ⟨congrArg List.flatten turns, result⟩
  · intro window positive succeeds fuel
    obtain ⟨turns, result⟩ :=
      dispatch_positive context kernelBatchSize positive succeeds fuel queue events
    refine ⟨?_, turns, result⟩
    have erased := eraseWaits_mapIdx window
      (upstreamDispatch context ⟨kernelBatchSize, window⟩ fuel queue).turns 0
      (upstreamDispatch_isUpstream context _ fuel queue)
    simp only [Nat.zero_add] at erased
    rw [Outcome.trace, turns]
    exact erased

/-- A queue that holds the operations left of a graph: each call adds one batch
and answers with the next offset, or -1 after the last one. -/
def graphContext : ClContext String Nat Nat where
  addToQueue := fun left offset kernelBatchSize =>
    (.ok (if left ≤ kernelBatchSize.toNat then -1 else offset + kernelBatchSize),
      left - kernelBatchSize.toNat)
  enqueueEvent := fun _ enqueued => (.ok (), enqueued + 1)

/-- A graph of five operations in batches of one, with a window of two. -/
theorem dispatch_window_equivalence_five_batches :
    eraseWaits (boundedDispatch graphContext ⟨1, 2⟩ 6 5 0).trace =
        (upstreamDispatch graphContext ⟨1, 2⟩ 6 5).trace ∧
      (boundedDispatch graphContext ⟨1, 2⟩ 6 5 0).turns =
        (upstreamDispatch graphContext ⟨1, 2⟩ 6 5).turns.mapIdx (boundaryOps 2) ∧
      (boundedDispatch graphContext ⟨1, 2⟩ 6 5 0).result =
        (upstreamDispatch graphContext ⟨1, 2⟩ 6 5).result :=
  (dispatch_window_equivalence graphContext 1 5 0).2 2 (by decide) (fun _ _ => rfl) 6

end BssLiteRt.Queue
