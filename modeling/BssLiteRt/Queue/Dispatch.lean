import BssLiteRt.Library.DoWhile

/-!
Owns the batched loop of `GpuInferenceContextOpenClLitert::Dispatch`, before
and after the bounded-queue patch, together with the backend settings it reads
and the delegate creation that sets them.

`AddToQueue` and `EnqueueEvent` belong to ML Drift and are arbitrary stateful
operations here; `clFlush` and `CLEvent::Wait` return nothing the loop reads.
The `int` counter is an integer without a bound: it is exact for fewer than
2^31 batches, and with a positive window it never passes the window.
-/

namespace BssLiteRt.Queue

open BssLiteRt.Library.DoWhile

/-- The settings of `GpuBackendOpenClLitert` that the batched loop reads. -/
structure GpuBackendOpenClLitert where
  kernelBatchSize : Int := 0
  commandQueueWindowSize : Int := 0
deriving DecidableEq, Repr

/-- The delegate options copied to the backend. -/
structure MlDriftDelegateOptions where
  kernelBatchSize : Int
  commandQueueWindowSize : Int
deriving DecidableEq, Repr

/-- `CreateMlDriftClDelegate` sets each option on the backend only when it is
positive, so a backend keeps its default 0 otherwise. -/
def createMlDriftClDelegate (options : MlDriftDelegateOptions) : GpuBackendOpenClLitert :=
  let backend : GpuBackendOpenClLitert := {}
  let backend :=
    if options.kernelBatchSize > 0 then
      { backend with kernelBatchSize := options.kernelBatchSize }
    else backend
  if options.commandQueueWindowSize > 0 then
    { backend with commandQueueWindowSize := options.commandQueueWindowSize }
  else backend

/-- An option that is not positive is as good as none. -/
theorem createMlDriftClDelegate_eq (options : MlDriftDelegateOptions) :
    createMlDriftClDelegate options =
      ⟨max options.kernelBatchSize 0, max options.commandQueueWindowSize 0⟩ := by
  unfold createMlDriftClDelegate
  dsimp only
  split <;> split <;> simp only [GpuBackendOpenClLitert.mk.injEq] <;> omega

/-- An operation of the loop on the command queue, with what it returned. -/
inductive QueueOp (Error : Type) where
  | addToQueue (offset kernelBatchSize : Int) (result : Except Error Int)
  | enqueueEvent (result : Except Error Unit)
  | clFlush
  | wait
deriving Repr

/-- The part of ML Drift under the loop. `AddToQueue` has the state `Queue`;
`EnqueueEvent` may look at it and has the state `Events` of its own. -/
structure ClContext (Error Queue Events : Type) where
  addToQueue : Queue → (offset kernelBatchSize : Int) → Except Error Int × Queue
  enqueueEvent : Queue → Events → Except Error Unit × Events

variable {Error Queue Events : Type}

/-- The variables of the loop before the patch. -/
structure UpstreamState (Queue : Type) where
  queue : Queue
  offset : Int

/-- The variables of the loop after the patch. -/
structure BoundedState (Queue Events : Type) where
  queue : Queue
  events : Events
  offset : Int
  batchesSinceWait : Int

/-- The loop body without the added lines. -/
def upstreamBatch (context : ClContext Error Queue Events) (backend : GpuBackendOpenClLitert)
    (state : UpstreamState Queue) :
    Turn (QueueOp Error) (Except Error Unit) (UpstreamState Queue) :=
  match context.addToQueue state.queue state.offset backend.kernelBatchSize with
  | (.error error, queue) =>
      ⟨[.addToQueue state.offset backend.kernelBatchSize (.error error)],
        { state with queue := queue }, some (.error error)⟩
  | (.ok offset, queue) =>
      ⟨[.addToQueue state.offset backend.kernelBatchSize (.ok offset), .clFlush],
        { queue := queue, offset := offset }, none⟩

/-- Is the batch just counted the last one of its window? -/
def waitForBoundary (backend : GpuBackendOpenClLitert) (batchesSinceWait : Int) : Bool :=
  decide (backend.commandQueueWindowSize > 0) &&
    decide (batchesSinceWait ≥ backend.commandQueueWindowSize)

/-- The loop body with the added lines. -/
def boundedBatch (context : ClContext Error Queue Events) (backend : GpuBackendOpenClLitert)
    (state : BoundedState Queue Events) :
    Turn (QueueOp Error) (Except Error Unit) (BoundedState Queue Events) :=
  match context.addToQueue state.queue state.offset backend.kernelBatchSize with
  | (.error error, queue) =>
      ⟨[.addToQueue state.offset backend.kernelBatchSize (.error error)],
        { state with queue := queue }, some (.error error)⟩
  | (.ok offset, queue) =>
      let added := QueueOp.addToQueue state.offset backend.kernelBatchSize (.ok offset)
      let counted : BoundedState Queue Events :=
        { state with
          queue := queue
          offset := offset
          batchesSinceWait := state.batchesSinceWait + 1 }
      if waitForBoundary backend counted.batchesSinceWait then
        match context.enqueueEvent queue state.events with
        | (.error error, events) =>
            ⟨[added, .enqueueEvent (.error error)], { counted with events := events },
              some (.error error)⟩
        | (.ok (), events) =>
            ⟨[added, .enqueueEvent (.ok ()), .clFlush, .wait],
              { counted with events := events, batchesSinceWait := 0 }, none⟩
      else ⟨[added, .clFlush], counted, none⟩

/-- What one turn of the patched loop does, next to the same turn of the
unpatched one: the queue refuses the batch, the batch ends no window, its
boundary event is refused, or its boundary event is waited for. -/
inductive BatchCase (context : ClContext Error Queue Events) (backend : GpuBackendOpenClLitert)
    (state : BoundedState Queue Events) : Prop where
  | refused (error : Error) (queue : Queue)
      (bounded : boundedBatch context backend state =
        ⟨[.addToQueue state.offset backend.kernelBatchSize (.error error)],
          { state with queue := queue }, some (.error error)⟩)
      (upstream : upstreamBatch context backend ⟨state.queue, state.offset⟩ =
        ⟨[.addToQueue state.offset backend.kernelBatchSize (.error error)],
          ⟨queue, state.offset⟩, some (.error error)⟩)
  | inside (next : Int) (queue : Queue)
      (inside : waitForBoundary backend (state.batchesSinceWait + 1) = false)
      (bounded : boundedBatch context backend state =
        ⟨[.addToQueue state.offset backend.kernelBatchSize (.ok next), .clFlush],
          ⟨queue, state.events, next, state.batchesSinceWait + 1⟩, none⟩)
      (upstream : upstreamBatch context backend ⟨state.queue, state.offset⟩ =
        ⟨[.addToQueue state.offset backend.kernelBatchSize (.ok next), .clFlush],
          ⟨queue, next⟩, none⟩)
  | boundaryRefused (next : Int) (queue : Queue) (events : Events) (error : Error)
      (reached : waitForBoundary backend (state.batchesSinceWait + 1) = true)
      (refused : context.enqueueEvent queue state.events = (.error error, events))
      (bounded : boundedBatch context backend state =
        ⟨[.addToQueue state.offset backend.kernelBatchSize (.ok next),
            .enqueueEvent (.error error)],
          ⟨queue, events, next, state.batchesSinceWait + 1⟩, some (.error error)⟩)
      (upstream : upstreamBatch context backend ⟨state.queue, state.offset⟩ =
        ⟨[.addToQueue state.offset backend.kernelBatchSize (.ok next), .clFlush],
          ⟨queue, next⟩, none⟩)
  | boundary (next : Int) (queue : Queue) (events : Events)
      (reached : waitForBoundary backend (state.batchesSinceWait + 1) = true)
      (bounded : boundedBatch context backend state =
        ⟨[.addToQueue state.offset backend.kernelBatchSize (.ok next), .enqueueEvent (.ok ()),
            .clFlush, .wait],
          ⟨queue, events, next, 0⟩, none⟩)
      (upstream : upstreamBatch context backend ⟨state.queue, state.offset⟩ =
        ⟨[.addToQueue state.offset backend.kernelBatchSize (.ok next), .clFlush],
          ⟨queue, next⟩, none⟩)

theorem boundedBatch_cases (context : ClContext Error Queue Events)
    (backend : GpuBackendOpenClLitert) (state : BoundedState Queue Events) :
    BatchCase context backend state := by
  cases added : context.addToQueue state.queue state.offset backend.kernelBatchSize with
  | mk result queue =>
      cases result with
      | error error =>
          apply BatchCase.refused error queue <;> simp [boundedBatch, upstreamBatch, added]
      | ok next =>
          cases reached : waitForBoundary backend (state.batchesSinceWait + 1) with
          | false =>
              apply BatchCase.inside next queue reached <;>
                simp [boundedBatch, upstreamBatch, added, reached]
          | true =>
              cases enqueued : context.enqueueEvent queue state.events with
              | mk status events =>
                  cases status with
                  | error error =>
                      apply BatchCase.boundaryRefused next queue events error reached enqueued <;>
                        simp [boundedBatch, upstreamBatch, added, reached, enqueued]
                  | ok done =>
                      apply BatchCase.boundary next queue events reached <;>
                        simp [boundedBatch, upstreamBatch, added, reached, enqueued]

/-- `do { … } while (offset != -1); return OkStatus();` before the patch. -/
def upstreamLoop (context : ClContext Error Queue Events) (backend : GpuBackendOpenClLitert) :
    Loop (QueueOp Error) (Except Error Unit) (UpstreamState Queue) where
  body := upstreamBatch context backend
  again := fun state => decide (state.offset ≠ -1)
  finish := fun _ => .ok ()

/-- `do { … } while (offset != -1); return OkStatus();` after the patch. -/
def boundedLoop (context : ClContext Error Queue Events) (backend : GpuBackendOpenClLitert) :
    Loop (QueueOp Error) (Except Error Unit) (BoundedState Queue Events) where
  body := boundedBatch context backend
  again := fun state => decide (state.offset ≠ -1)
  finish := fun _ => .ok ()

/-- `Dispatch` before the patch, given `fuel` turns of its loop. -/
def upstreamDispatch (context : ClContext Error Queue Events) (backend : GpuBackendOpenClLitert)
    (fuel : Nat) (queue : Queue) :
    Outcome (QueueOp Error) (Except Error Unit) (UpstreamState Queue) :=
  (upstreamLoop context backend).run fuel ⟨queue, 0⟩

/-- `Dispatch` after the patch, given `fuel` turns of its loop. Both variables
of the loop are local to the call. -/
def boundedDispatch (context : ClContext Error Queue Events) (backend : GpuBackendOpenClLitert)
    (fuel : Nat) (queue : Queue) (events : Events) :
    Outcome (QueueOp Error) (Except Error Unit) (BoundedState Queue Events) :=
  (boundedLoop context backend).run fuel ⟨queue, events, 0, 0⟩

end BssLiteRt.Queue
