import BssLiteRt.Queue.WindowEquivalence

/-!
Owns whole runs of `Dispatch` on one backend and one in-order queue: the calls
follow each other, each on the queue its predecessors left, and the moments of
a run are the prefixes of its operations.

The counter of batches since the last wait is local to one call, so a call
that ends inside a window leaves batches behind that no later boundary counts.
`moments_within_window_iff` says when the window nevertheless bounds the
batches not yet waited for.
-/

namespace BssLiteRt.Queue

open BssLiteRt.Library.DoWhile

variable {Error Queue Events : Type}

/-! ### Batches not yet waited for -/

/-- What a run has done to the queue: the batches submitted, how many of them
precede the latest boundary event, and how many precede a waited one. -/
structure QueueView where
  submitted : Nat
  boundary : Nat
  waited : Nat
  waitedBefore : waited ≤ boundary
  boundaryBefore : boundary ≤ submitted

/-- A queue on which nothing has been submitted. -/
def QueueView.empty : QueueView := ⟨0, 0, 0, le_rfl, le_rfl⟩

/-- The batches submitted after the latest boundary event waited for. -/
def QueueView.unwaited (view : QueueView) : Nat :=
  view.submitted - view.waited

/-- The queue is in order, so a boundary event follows every batch submitted
before it. A failed `AddToQueue` submits no batch. -/
def QueueView.perform (view : QueueView) : QueueOp Error → QueueView
  | .addToQueue _ _ (.ok _) =>
      { view with
        submitted := view.submitted + 1
        boundaryBefore := Nat.le_succ_of_le view.boundaryBefore }
  | .addToQueue _ _ (.error _) => view
  | .enqueueEvent (.ok ()) =>
      { view with
        boundary := view.submitted
        waitedBefore := le_trans view.waitedBefore view.boundaryBefore
        boundaryBefore := le_rfl }
  | .enqueueEvent (.error _) => view
  | .clFlush => view
  | .wait => { view with waited := view.boundary, waitedBefore := le_rfl }

def QueueView.after (view : QueueView) (ops : List (QueueOp Error)) : QueueView :=
  ops.foldl QueueView.perform view

/-- At every moment of `ops`, started from `view`, at most `window` batches
have been submitted without a later boundary event waited for. -/
def MomentsWithin (window : Nat) (view : QueueView) (ops : List (QueueOp Error)) : Prop :=
  ∀ moment, moment <+: ops → (view.after moment).unwaited ≤ window

/-! ### Runs -/

/-- One call of `Dispatch` in a run: the context of its graph and the number
of turns its loop is given. -/
structure DispatchCall (Error Queue Events : Type) where
  context : ClContext Error Queue Events
  fuel : Nat

/-- The operations of a run of calls. A call still in its loop is the last. -/
def dispatchRun (backend : GpuBackendOpenClLitert) :
    List (DispatchCall Error Queue Events) → Queue → Events → List (QueueOp Error)
  | [], _, _ => []
  | call :: rest, queue, events =>
      let outcome := boundedDispatch call.context backend call.fuel queue events
      match outcome.result with
      | none => outcome.trace
      | some _ =>
          outcome.trace ++ dispatchRun backend rest outcome.state.queue outcome.state.events

/-- The number of batches the graph of a call takes from the queue it finds. -/
def batchCount (context : ClContext Error Queue Events) (backend : GpuBackendOpenClLitert)
    (fuel : Nat) (state : UpstreamState Queue) : Nat :=
  (((upstreamLoop context backend).run fuel state).trace.filter fun op =>
    match op with
    | .clFlush => true
    | _ => false).length

/-- Every call of the run either finds no unwaited batch or takes so few
batches that they and the unwaited ones fit in the window. -/
def CallsFit (backend : GpuBackendOpenClLitert) (window : Nat) :
    List (DispatchCall Error Queue Events) → Queue → Events → QueueView → Prop
  | [], _, _, _ => True
  | call :: rest, queue, events, view =>
      let outcome := boundedDispatch call.context backend call.fuel queue events
      (view.unwaited = 0 ∨
        view.unwaited + batchCount call.context backend call.fuel ⟨queue, 0⟩ ≤ window) ∧
      match outcome.result with
      | none => True
      | some _ =>
          CallsFit backend window rest outcome.state.queue outcome.state.events
            (view.after outcome.trace)

/-! ### Moments -/

@[simp] theorem momentsWithin_nil (window : Nat) (view : QueueView) :
    MomentsWithin window view ([] : List (QueueOp Error)) ↔ view.unwaited ≤ window := by
  simp [MomentsWithin, QueueView.after]

@[simp] theorem momentsWithin_cons (window : Nat) (view : QueueView) (op : QueueOp Error)
    (ops : List (QueueOp Error)) :
    MomentsWithin window view (op :: ops) ↔
      view.unwaited ≤ window ∧ MomentsWithin window (view.perform op) ops := by
  constructor
  · intro within
    refine ⟨within [] List.nil_prefix, fun moment before => ?_⟩
    exact within (op :: moment) (List.cons_prefix_cons.mpr ⟨rfl, before⟩)
  · rintro ⟨now, later⟩ moment before
    rcases List.prefix_cons_iff.mp before with rfl | ⟨tail, rfl, tailBefore⟩
    · exact now
    · exact later tail tailBefore

theorem momentsWithin_append (window : Nat) (view : QueueView)
    (left right : List (QueueOp Error)) :
    MomentsWithin window view (left ++ right) ↔
      MomentsWithin window view left ∧ MomentsWithin window (view.after left) right := by
  induction left generalizing view with
  | nil =>
      simp only [List.nil_append, momentsWithin_nil, QueueView.after, List.foldl_nil]
      exact ⟨fun within => ⟨within [] List.nil_prefix, within⟩, And.right⟩
  | cons op rest inductionHypothesis =>
      rw [List.cons_append, momentsWithin_cons, momentsWithin_cons, inductionHypothesis, and_assoc]
      rfl

/-- The last moment of a run is one of its moments. -/
theorem MomentsWithin.last {window : Nat} {view : QueueView} {ops : List (QueueOp Error)}
    (within : MomentsWithin window view ops) : (view.after ops).unwaited ≤ window :=
  within ops (List.prefix_refl ops)

section Perform

variable (view : QueueView)

@[simp] theorem unwaited_addToQueue (offset kernelBatchSize next : Int) :
    (view.perform (.addToQueue offset kernelBatchSize (.ok next) : QueueOp Error)).unwaited =
      view.unwaited + 1 := by
  have := view.waitedBefore
  have := view.boundaryBefore
  simp only [QueueView.perform, QueueView.unwaited]
  omega

@[simp] theorem unwaited_addToQueue_error (offset kernelBatchSize : Int) (error : Error) :
    (view.perform (.addToQueue offset kernelBatchSize (.error error))).unwaited =
      view.unwaited := rfl

@[simp] theorem unwaited_enqueueEvent (result : Except Error Unit) :
    (view.perform (.enqueueEvent result)).unwaited = view.unwaited := by
  cases result <;> rfl

@[simp] theorem unwaited_clFlush :
    (view.perform (.clFlush : QueueOp Error)).unwaited = view.unwaited := rfl

/-- A wait on an event enqueued after the latest batch leaves nothing unwaited. -/
@[simp] theorem unwaited_boundary :
    (((view.perform (.enqueueEvent (.ok ()) : QueueOp Error)).perform
      (.clFlush : QueueOp Error)).perform (.wait : QueueOp Error)).unwaited = 0 := by
  simp [QueueView.perform, QueueView.unwaited]

end Perform

/-! ### One call -/

section Count

variable {context : ClContext Error Queue Events} {backend : GpuBackendOpenClLitert}
  {before after : UpstreamState Queue} {offset next : Int}

theorem batchCount_refused {error : Error} (fuel : Nat)
    (turn : upstreamBatch context backend before =
      ⟨[.addToQueue offset backend.kernelBatchSize (.error error)], after,
        some (.error error)⟩) :
    batchCount context backend (fuel + 1) before = 0 := by
  rw [batchCount, (upstreamLoop context backend).run_early fuel turn]
  rfl

theorem batchCount_last (fuel : Nat)
    (turn : upstreamBatch context backend before =
      ⟨[.addToQueue offset backend.kernelBatchSize (.ok next), .clFlush], after, none⟩)
    (done : after.offset = -1) :
    batchCount context backend (fuel + 1) before = 1 := by
  rw [batchCount, (upstreamLoop context backend).run_done fuel turn (by simp [upstreamLoop, done])]
  rfl

theorem batchCount_next (fuel : Nat)
    (turn : upstreamBatch context backend before =
      ⟨[.addToQueue offset backend.kernelBatchSize (.ok next), .clFlush], after, none⟩)
    (goesOn : after.offset ≠ -1) :
    batchCount context backend (fuel + 1) before = batchCount context backend fuel after + 1 := by
  rw [batchCount,
    (upstreamLoop context backend).run_again fuel turn (by simp [upstreamLoop, goesOn])]
  rfl

end Count

theorem waitForBoundary_natCast {backend : GpuBackendOpenClLitert} {window : Nat}
    (windowSize : backend.commandQueueWindowSize = window) (positive : 0 < window) (count : Nat) :
    waitForBoundary backend ((count : Int) + 1) = true ↔ window ≤ count + 1 := by
  simp only [waitForBoundary, windowSize, Bool.and_eq_true, decide_eq_true_eq]
  omega

/-- The moments of one loop. Of the batches unwaited at its start, `count` are
in the counter of the loop and `extra` are left from earlier calls; only the
first boundary event waited for takes the extra ones off. -/
theorem loop_moments_iff {context : ClContext Error Queue Events}
    {backend : GpuBackendOpenClLitert} {window : Nat}
    (windowSize : backend.commandQueueWindowSize = window) (positive : 0 < window) (fuel : Nat)
    {state : BoundedState Queue Events} {view : QueueView} {count extra : Nat}
    (counter : state.batchesSinceWait = count) (below : count < window)
    (split : view.unwaited = extra + count) :
    MomentsWithin window view ((boundedLoop context backend).run fuel state).trace ↔
      extra = 0 ∨
        extra + count + batchCount context backend fuel ⟨state.queue, state.offset⟩ ≤ window := by
  induction fuel generalizing state view count extra with
  | zero =>
      have none : batchCount context backend 0 ⟨state.queue, state.offset⟩ = 0 := rfl
      rw [Loop.run_zero, Outcome.trace_nil, momentsWithin_nil, none, split]
      omega
  | succ fuel inductionHypothesis =>
      have boundary := waitForBoundary_natCast windowSize positive count
      rw [← counter] at boundary
      rcases boundedBatch_cases context backend state with
        ⟨error, queue, turn, other⟩ | ⟨next, queue, inside, turn, other⟩ |
        ⟨next, queue, events, error, reached, -, turn, other⟩ |
        ⟨next, queue, events, reached, turn, other⟩
      · -- The queue refuses the batch: nothing is submitted and the call ends.
        rw [(boundedLoop context backend).run_early fuel turn, batchCount_refused fuel other]
        simp only [Outcome.trace_singleton, momentsWithin_cons, momentsWithin_nil,
          unwaited_addToQueue_error, split]
        omega
      · -- The batch ends no window: one more batch is unwaited.
        have notReached : count + 1 < window := by
          by_contra full
          rw [boundary.mpr (by omega)] at inside
          exact Bool.false_ne_true inside.symm
        by_cases done : next = -1
        · rw [(boundedLoop context backend).run_done fuel turn (by simp [boundedLoop, done]),
            batchCount_last fuel other done]
          simp only [Outcome.trace_singleton, momentsWithin_cons, momentsWithin_nil,
            unwaited_addToQueue, unwaited_clFlush, split]
          omega
        · rw [(boundedLoop context backend).run_again fuel turn (by simp [boundedLoop, done]),
            batchCount_next fuel other done, Outcome.after_trace]
          have counterNext : state.batchesSinceWait + 1 = ((count + 1 : Nat) : Int) := by
            rw [counter]
            rfl
          have splitNext : ((view.perform (.addToQueue state.offset backend.kernelBatchSize
              (.ok next) : QueueOp Error)).perform (.clFlush : QueueOp Error)).unwaited =
              extra + (count + 1) := by
            rw [unwaited_clFlush, unwaited_addToQueue, split]
            rfl
          have later := @inductionHypothesis ⟨queue, state.events, next, _⟩ _ _ _ counterNext
            notReached splitNext
          simp only [List.cons_append, List.nil_append, momentsWithin_cons,
            unwaited_addToQueue, split, later]
          omega
      · -- The boundary event is refused: the call ends with a full window.
        have full := boundary.mp reached
        rw [(boundedLoop context backend).run_early fuel turn]
        by_cases done : next = -1
        · rw [batchCount_last fuel other done]
          simp only [Outcome.trace_singleton, momentsWithin_cons, momentsWithin_nil,
            unwaited_addToQueue, unwaited_enqueueEvent, split]
          omega
        · rw [batchCount_next fuel other done]
          simp only [Outcome.trace_singleton, momentsWithin_cons, momentsWithin_nil,
            unwaited_addToQueue, unwaited_enqueueEvent, split]
          omega
      · -- The boundary event is waited for: nothing stays unwaited.
        have full := boundary.mp reached
        have now : view.unwaited ≤ window ∧ view.unwaited + 1 ≤ window ↔ extra = 0 := by
          rw [split]
          omega
        by_cases done : next = -1
        · rw [(boundedLoop context backend).run_done fuel turn (by simp [boundedLoop, done]),
            batchCount_last fuel other done]
          simp only [Outcome.trace_singleton, momentsWithin_cons, momentsWithin_nil,
            unwaited_addToQueue, unwaited_enqueueEvent, unwaited_clFlush, unwaited_boundary]
          omega
        · rw [(boundedLoop context backend).run_again fuel turn (by simp [boundedLoop, done]),
            batchCount_next fuel other done, Outcome.after_trace]
          have later := @inductionHypothesis ⟨queue, events, next, 0⟩ _ 0 0 Nat.cast_zero.symm
            positive (@unwaited_boundary Error (view.perform (.addToQueue state.offset
              backend.kernelBatchSize (.ok next) : QueueOp Error)))
          simp only [List.cons_append, List.nil_append, momentsWithin_cons,
            unwaited_addToQueue, unwaited_enqueueEvent, unwaited_clFlush, later, true_or, and_true]
          omega

/-- The window bounds the unwaited batches at every moment of a run exactly
when every call of the run fits in it. -/
theorem moments_within_window_iff {backend : GpuBackendOpenClLitert} {window : Nat}
    (windowSize : backend.commandQueueWindowSize = window) (positive : 0 < window)
    (calls : List (DispatchCall Error Queue Events)) (queue : Queue) (events : Events)
    {view : QueueView} (start : view.unwaited ≤ window) :
    MomentsWithin window view (dispatchRun backend calls queue events) ↔
      CallsFit backend window calls queue events view := by
  induction calls generalizing queue events view with
  | nil => simp [dispatchRun, CallsFit, start]
  | cons call rest inductionHypothesis =>
      have first : MomentsWithin window view
          (boundedDispatch call.context backend call.fuel queue events).trace ↔
            view.unwaited = 0 ∨
              view.unwaited + batchCount call.context backend call.fuel ⟨queue, 0⟩ ≤ window :=
        @loop_moments_iff _ _ _ call.context backend window windowSize positive call.fuel
          ⟨queue, events, 0, 0⟩ view 0 view.unwaited Nat.cast_zero.symm positive rfl
      cases ended : (boundedDispatch call.context backend call.fuel queue events).result with
      | none => simp only [dispatchRun, CallsFit, ended, first, and_true]
      | some status =>
          simp only [dispatchRun, CallsFit, ended, momentsWithin_append, ← first]
          constructor
          · rintro ⟨now, later⟩
            exact ⟨now, (inductionHypothesis _ _ now.last).mp later⟩
          · rintro ⟨now, later⟩
            exact ⟨now, (inductionHypothesis _ _ now.last).mpr later⟩

/-- On a fresh queue, the window bounds the batches submitted and not yet
waited for at every moment of a run exactly when every call either starts with
none of them or takes so few batches that all of them fit in the window. -/
theorem window_bounds_run_iff (kernelBatchSize : Int) {window : Nat} (positive : 0 < window)
    (calls : List (DispatchCall Error Queue Events)) (queue : Queue) (events : Events) :
    MomentsWithin window QueueView.empty
        (dispatchRun ⟨kernelBatchSize, window⟩ calls queue events) ↔
      CallsFit ⟨kernelBatchSize, window⟩ window calls queue events QueueView.empty :=
  moments_within_window_iff rfl positive calls queue events (Nat.zero_le window)

/-- Two calls that take one batch each fit in a window of two. -/
theorem window_bounds_run_iff_two_calls :
    MomentsWithin 2 QueueView.empty
      (dispatchRun ⟨1, 2⟩ [⟨graphContext, 1⟩, ⟨graphContext, 1⟩] 1 0) :=
  (window_bounds_run_iff 1 (by decide) _ 1 0).mpr
    ⟨Or.inl rfl, Or.inr (by decide), trivial⟩

/-- Three calls that take one batch each leave three batches unwaited under a
window of two: no call reaches the window on its own. -/
theorem three_calls_exceed_window :
    ¬ ∀ (kernelBatchSize : Int) (window : Nat), 0 < kernelBatchSize → 0 < window →
      ∀ (calls : List (DispatchCall String Nat Nat)) (queue events : Nat),
        MomentsWithin window QueueView.empty
          (dispatchRun ⟨kernelBatchSize, window⟩ calls queue events) := by
  intro bounded
  have within := bounded 1 2 (by decide) (by decide)
    [⟨graphContext, 1⟩, ⟨graphContext, 1⟩, ⟨graphContext, 1⟩] 1 0
  exact absurd within.last (by decide)

end BssLiteRt.Queue
