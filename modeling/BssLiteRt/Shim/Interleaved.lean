import BssLiteRt.Shim.Alone
import BssLiteRt.Shim.Ownership

/-!
Owns what interleaving leaves of a single call of the bounded shim: whatever the other
threads do, a call that returns has made the vendor calls, and has the status, of one
call made alone that saw the flag as this one did.
-/

namespace BssLiteRt.Shim

open Relation BssLiteRt.Library.Transition BssLiteRt.Library.Counting

/-! ### A call made alone -/

/-- What the vendor answers to the calls for one kernel. -/
structure VendorScript where
  answer : EnqueueAnswer
  waitStatus : ClInt
  releaseStatus : ClInt

/-- A vendor that gives the answers of one script. -/
def VendorScript.vendor (script : VendorScript) : Vendor Unit where
  resolveSymbols := fun world => (⟨true, true, true⟩, world)
  enqueueNDRangeKernel := fun _ _ world => (script.answer, world)
  waitForEvents := fun _ world => (script.waitStatus, world)
  releaseEvent := fun _ world => (script.releaseStatus, world)
  clockGettime := fun world => (none, world)

/-- The initialised shim with the flag set. -/
def settled (process : VendorSymbols) (inferenceEnabled : Bool) : Machine Unit :=
  ⟨{ Globals.initial with initOnce := true, real := process, inferenceEnabled }, ()⟩

/-- The call, made alone against the script. -/
def VendorScript.alone (script : VendorScript) (process : VendorSymbols) (inferenceEnabled : Bool)
    (args : EnqueueArgs) : Returned Unit :=
  Bounded.clEnqueueNDRangeKernel script.vendor args (settled process inferenceEnabled)

/-- The slot that a call with these arguments passes to the vendor. -/
def eventSlot (args : EnqueueArgs) (shouldWait : Bool) : ResultEvent :=
  ({ args, epoch := 0 } : EnqueueCall).resultEvent shouldWait

/-- The call with the event that the vendor stored. -/
def storedCall (args : EnqueueArgs) (stored : Option ClEvent) : EnqueueCall :=
  ({ args, epoch := 0 } : EnqueueCall).store (eventSlot args true) stored

/-- The status after the release of a private event. -/
def releasedStatus (waitStatus releaseStatus : ClInt) : ClInt :=
  if waitStatus = CL_SUCCESS ∧ releaseStatus ≠ CL_SUCCESS then releaseStatus else waitStatus

section Alone

variable {script : VendorScript} {process : VendorSymbols} {args : EnqueueArgs}
  {inferenceEnabled : Bool}

theorem alone_refused (missing : process.enqueue = false) :
    (script.alone process inferenceEnabled args).status = CL_INVALID_OPERATION ∧
      (script.alone process inferenceEnabled args).performed = [] := by
  simp [VendorScript.alone, Bounded.clEnqueueNDRangeKernel, Machine.pthreadOnce, settled, missing]

/-- With the vendor's symbol present, the flag decides how the kernel is submitted. -/
theorem alone_eq (present : process.enqueue = true) :
    ∃ machine : Machine Unit, machine.globals.real = process ∧
      script.alone process inferenceEnabled args =
        submitKernel script.vendor inferenceEnabled args machine := by
  refine ⟨⟨if inferenceEnabled then (settled process inferenceEnabled).globals.addDispatch
    else (settled process inferenceEnabled).globals, ()⟩, ?_, ?_⟩
  · dsimp only
    split <;> rfl
  · simp [VendorScript.alone, Bounded.clEnqueueNDRangeKernel, Machine.pthreadOnce, settled, present]

/-- A kernel that is not waited for. -/
theorem alone_submitted (present : process.enqueue = true)
    (unwaited : script.answer.status ≠ CL_SUCCESS ∨ inferenceEnabled = false) :
    (script.alone process inferenceEnabled args).status = script.answer.status ∧
      (script.alone process inferenceEnabled args).performed =
        [.enqueueNDRangeKernel args (eventSlot args inferenceEnabled) script.answer] := by
  obtain ⟨machine, -, same⟩ := @alone_eq script process args inferenceEnabled present
  rw [same, submitKernel]
  dsimp only [VendorScript.vendor]
  rw [if_pos unwaited]
  exact ⟨rfl, rfl⟩

/-- A kernel that cannot be waited for. -/
theorem alone_missing (present : process.enqueue = true)
    (accepted : script.answer.status = CL_SUCCESS)
    (missing : process.wait = false ∨ process.release = false) :
    (script.alone process true args).status = CL_INVALID_OPERATION ∧
      (script.alone process true args).performed =
        [.enqueueNDRangeKernel args (eventSlot args true) script.answer] := by
  obtain ⟨machine, real, same⟩ := @alone_eq script process args true present
  rw [same, submitKernel, real]
  dsimp only [VendorScript.vendor]
  rw [if_neg (by simp [accepted]), if_pos missing]
  exact ⟨rfl, rfl⟩

/-- A kernel that is waited for. -/
theorem alone_waited (present : process.enqueue = true)
    (accepted : script.answer.status = CL_SUCCESS)
    (complete : ¬ (process.wait = false ∨ process.release = false)) :
    let call := storedCall args script.answer.stored
    let submitted := VendorCall.enqueueNDRangeKernel args (eventSlot args true) script.answer
    let waited := VendorCall.waitForEvents [call.eventToWait] script.waitStatus
    (script.alone process true args).status =
        (if args.event = none ∧ call.boundaryEvent ≠ NULL then
          releasedStatus script.waitStatus script.releaseStatus
        else script.waitStatus) ∧
      (script.alone process true args).performed =
        submitted :: waited :: releases call script.releaseStatus := by
  obtain ⟨machine, real, same⟩ := @alone_eq script process args true present
  intro call submitted waited
  rw [same, submitKernel, real]
  dsimp only [VendorScript.vendor]
  rw [if_neg (by simp [accepted]), if_neg complete]
  unfold waitForKernel releases
  dsimp only
  have sameCall : ({ args, epoch := 0 } : EnqueueCall).store
      (({ args, epoch := 0 } : EnqueueCall).resultEvent true) script.answer.stored = call := rfl
  have sameArgs : call.args = args := rfl
  rw [sameCall, sameArgs]
  split <;> exact ⟨rfl, rfl⟩

end Alone

/-! ### A call among others -/

namespace EnqueueCall

/-- The call has done and returned what it would have alone, with the flag it saw. -/
def BehavesAlone (process : VendorSymbols) (call : EnqueueCall) (status : ClInt) : Prop :=
  ∃ script : VendorScript, (script.alone process call.sawEnabled call.args).status = status ∧
    (script.alone process call.sawEnabled call.args).performed = call.vendorCalls

/-- The vendor has not been called, and the event slots are as the caller left them. -/
structure Fresh (process : VendorSymbols) (call : EnqueueCall) : Prop where
  present : process.enqueue = true
  performed : call.vendorCalls = []
  callerEvent : call.callerEvent = call.args.event.getD NULL
  boundaryEvent : call.boundaryEvent = NULL

/-- The vendor has accepted the kernel, which the call is to wait for. -/
structure Accepted (process : VendorSymbols) (call : EnqueueCall) (answer : EnqueueAnswer)
    (waits : List VendorCall) : Prop where
  present : process.enqueue = true
  complete : ¬ (process.wait = false ∨ process.release = false)
  saw : call.sawEnabled = true
  success : answer.status = CL_SUCCESS
  callerEvent : call.callerEvent = (storedCall call.args answer.stored).callerEvent
  boundaryEvent : call.boundaryEvent = (storedCall call.args answer.stored).boundaryEvent
  performed : call.vendorCalls =
    .enqueueNDRangeKernel call.args (eventSlot call.args true) answer :: waits

/-- What the program counter says about the vendor calls so far. -/
def Follows (process : VendorSymbols) (call : EnqueueCall) : Prop :=
  match call.pc with
  | .pthreadOnce =>
      call.sawEnabled = false ∧ (process.enqueue = true → call.Fresh process) ∧
        call.vendorCalls = []
  | .loadInferenceEnabled => call.Fresh process ∧ call.sawEnabled = false
  | .addDispatchCount => call.Fresh process ∧ call.sawEnabled = true
  | .realEnqueue shouldWait => call.Fresh process ∧ call.sawEnabled = shouldWait
  | .readStarted event | .realWait event _ =>
      ∃ answer, call.Accepted process answer [] ∧ event = call.eventToWait
  | .readEnded _ waitStatus | .addWaitCount _ waitStatus | .addTotalWaitNs _ waitStatus
  | .loadMaxWaitNs _ waitStatus | .casMaxWaitNs _ _ waitStatus =>
      ∃ answer, call.Accepted process answer [.waitForEvents [call.eventToWait] waitStatus]
  | .realRelease waitStatus =>
      (∃ answer, call.Accepted process answer [.waitForEvents [call.eventToWait] waitStatus]) ∧
        call.args.event = none ∧ call.boundaryEvent ≠ NULL
  | .returned status => call.BehavesAlone process status

section Follows

variable {process : VendorSymbols} {globals globals' : Globals} {call call' : EnqueueCall}
  {outside : Outside} {answer : EnqueueAnswer}

theorem Accepted.eventToWait {waits : List VendorCall}
    (accepted : call.Accepted process answer waits) :
    call.eventToWait = (storedCall call.args answer.stored).eventToWait := by
  have sameArgs : (storedCall call.args answer.stored).args = call.args := rfl
  unfold EnqueueCall.eventToWait
  rw [accepted.callerEvent, accepted.boundaryEvent, sameArgs]

/-- Neither the program counter nor the mark of a recorded wait matters. -/
theorem Accepted.moved {waits : List VendorCall} (accepted : call.Accepted process answer waits)
    (pc : EnqueuePc) (recorded : Bool) :
    ({ call with pc, recorded } : EnqueueCall).Accepted process answer waits :=
  ⟨accepted.present, accepted.complete, accepted.saw, accepted.success, accepted.callerEvent,
    accepted.boundaryEvent, accepted.performed⟩

/-- After the wait, what is left is the release of a private event. -/
theorem Accepted.behavesAlone {waitStatus releaseStatus : ClInt} {pc : EnqueuePc}
    (accepted : call.Accepted process answer [.waitForEvents [call.eventToWait] waitStatus]) :
    BehavesAlone process
      { call with
        vendorCalls := call.vendorCalls ++ releases call releaseStatus
        pc }
      (if call.args.event = none ∧ call.boundaryEvent ≠ NULL then
        releasedStatus waitStatus releaseStatus else waitStatus) := by
  obtain ⟨status, performed⟩ := @alone_waited ⟨answer, waitStatus, releaseStatus⟩ process call.args
    accepted.present accepted.success accepted.complete
  have sameArgs : (storedCall call.args answer.stored).args = call.args := rfl
  refine ⟨⟨answer, waitStatus, releaseStatus⟩, ?_, ?_⟩
  · rw [accepted.saw, status, ← accepted.boundaryEvent]
  · dsimp only
    rw [accepted.saw, performed, accepted.performed, accepted.eventToWait, releases, releases,
      sameArgs, ← accepted.boundaryEvent]
    rfl

theorem follows_afterWait {waitStatus : ClInt}
    (accepted : call.Accepted process answer [.waitForEvents [call.eventToWait] waitStatus]) :
    ({ call with pc := call.afterWait waitStatus } : EnqueueCall).Follows process := by
  unfold afterWait
  split
  · rename_i isPrivate
    exact ⟨⟨answer, accepted.moved _ _⟩, isPrivate⟩
  · rename_i notPrivate
    have alone := @Accepted.behavesAlone process call answer waitStatus 0 (.returned waitStatus)
      accepted
    rw [releases, if_neg notPrivate, if_neg notPrivate, List.append_nil] at alone
    exact alone

theorem follows_maxLoop {durationNs previousMax : UInt64} {waitStatus : ClInt}
    (accepted : call.Accepted process answer [.waitForEvents [call.eventToWait] waitStatus]) :
    ({ call with pc := call.maxLoop durationNs previousMax waitStatus } : EnqueueCall).Follows
      process := by
  unfold maxLoop
  split
  · exact ⟨answer, accepted.moved _ _⟩
  · exact follows_afterWait accepted

/-- What the vendor answers to the kernel decides how the call goes on. -/
theorem follows_afterEnqueue {shouldWait : Bool} (fresh : call.Fresh process)
    (saw : call.sawEnabled = shouldWait) (real : globals.real = process) :
    let slot := call.resultEvent shouldWait
    let stored := call.store slot outside.answer.stored
    ({ stored with
        vendorCalls := call.vendorCalls ++
          [VendorCall.enqueueNDRangeKernel call.args slot outside.answer]
        pc := stored.afterEnqueue globals.real shouldWait outside.answer.status } :
      EnqueueCall).Follows process := by
  dsimp only
  unfold afterEnqueue
  rw [fresh.performed, List.nil_append, real]
  have sameSlot : call.resultEvent shouldWait = eventSlot call.args shouldWait := rfl
  let script : VendorScript := ⟨outside.answer, 0, 0⟩
  split
  · rename_i unwaited
    obtain ⟨status, performed⟩ :=
      @alone_submitted script process call.args shouldWait fresh.present unwaited
    exact ⟨script, by rw [← status]; exact saw ▸ rfl, by rw [sameSlot, ← performed]; exact saw ▸ rfl⟩
  · rename_i waiting
    obtain ⟨accepted, rfl⟩ : outside.answer.status = CL_SUCCESS ∧ shouldWait = true := by
      simpa using waiting
    split
    · rename_i missing
      obtain ⟨status, performed⟩ :=
        @alone_missing script process call.args fresh.present accepted missing
      exact ⟨script, by rw [← status]; exact saw ▸ rfl, by rw [sameSlot, ← performed]; exact saw ▸ rfl⟩
    · rename_i complete
      refine ⟨outside.answer, ⟨fresh.present, complete, saw, accepted, ?_, ?_, rfl⟩, rfl⟩
      · simp only [store, storedCall, fresh.callerEvent, sameSlot]
      · simp only [store, storedCall, fresh.boundaryEvent, sameSlot]

/-- One step of a call. -/
theorem step_follows (resolved : globals.initOnce = true → globals.real = process)
    (past : call.pc ≠ .pthreadOnce → globals.initOnce = true) (follows : call.Follows process)
    (stepped : call.step process globals outside = some (globals', call')) :
    call'.Follows process := by
  unfold step at stepped
  cases atPc : call.pc with
  | pthreadOnce =>
      simp only [Follows, atPc] at follows stepped
      obtain ⟨saw, fresh, untouched⟩ := follows
      have real : (globals.pthreadOnce process).real = process :=
        (Globals.pthreadOnce_symbols resolved).2
      rw [real] at stepped
      split at stepped <;> cases stepped
      · rename_i present
        obtain ⟨-, performed, callerEvent, boundaryEvent⟩ := fresh present
        exact ⟨⟨present, performed, callerEvent, boundaryEvent⟩, saw⟩
      · rename_i missing
        obtain ⟨status, performed⟩ := @alone_refused ⟨⟨0, 0, none⟩, 0, 0⟩ process call.args
          call.sawEnabled (by simpa using missing)
        exact ⟨_, status, performed.trans untouched.symm⟩
  | loadInferenceEnabled =>
      simp only [Follows, atPc] at follows stepped
      obtain ⟨⟨present, performed, callerEvent, boundaryEvent⟩, saw⟩ := follows
      split at stepped <;> cases stepped
      · exact ⟨⟨present, performed, callerEvent, boundaryEvent⟩, rfl⟩
      · exact ⟨⟨present, performed, callerEvent, boundaryEvent⟩, saw⟩
  | addDispatchCount =>
      simp only [Follows, atPc] at follows stepped
      obtain ⟨⟨present, performed, callerEvent, boundaryEvent⟩, saw⟩ := follows
      cases stepped
      exact ⟨⟨present, performed, callerEvent, boundaryEvent⟩, saw⟩
  | realEnqueue shouldWait =>
      simp only [Follows, atPc] at follows stepped
      obtain ⟨fresh, saw⟩ := follows
      have real : globals.real = process := resolved (past (by simp [atPc]))
      cases stepped
      exact follows_afterEnqueue fresh saw real
  | readStarted event =>
      simp only [Follows, atPc] at follows stepped
      obtain ⟨answer, accepted, same⟩ := follows
      cases stepped
      exact ⟨answer, accepted.moved _ _, same⟩
  | realWait event startedNs =>
      simp only [Follows, atPc] at follows stepped
      obtain ⟨answer, accepted, rfl⟩ := follows
      cases stepped
      refine ⟨answer, accepted.present, accepted.complete, accepted.saw, accepted.success,
        accepted.callerEvent, accepted.boundaryEvent, ?_⟩
      dsimp only
      rw [accepted.performed]
      rfl
  | readEnded startedNs waitStatus =>
      simp only [Follows, atPc] at follows stepped
      obtain ⟨answer, accepted⟩ := follows
      split at stepped <;> cases stepped
      · exact ⟨answer, accepted.moved _ _⟩
      · exact follows_afterWait accepted
  | addWaitCount durationNs waitStatus =>
      simp only [Follows, atPc] at follows stepped
      obtain ⟨answer, accepted⟩ := follows
      cases stepped
      exact ⟨answer, accepted.moved _ _⟩
  | addTotalWaitNs durationNs waitStatus =>
      simp only [Follows, atPc] at follows stepped
      obtain ⟨answer, accepted⟩ := follows
      cases stepped
      exact ⟨answer, accepted.moved _ _⟩
  | loadMaxWaitNs durationNs waitStatus =>
      simp only [Follows, atPc] at follows stepped
      obtain ⟨answer, accepted⟩ := follows
      cases stepped
      exact follows_maxLoop accepted
  | casMaxWaitNs durationNs previousMax waitStatus =>
      simp only [Follows, atPc] at follows stepped
      obtain ⟨answer, accepted⟩ := follows
      split at stepped <;> cases stepped
      · exact follows_afterWait accepted
      · exact follows_maxLoop accepted
  | realRelease waitStatus =>
      simp only [Follows, atPc] at follows stepped
      obtain ⟨⟨answer, accepted⟩, isPrivate⟩ := follows
      cases stepped
      have alone := @Accepted.behavesAlone process call answer waitStatus outside.releaseStatus
        (.returned (releasedStatus waitStatus outside.releaseStatus)) accepted
      rw [releases, if_pos isPrivate, if_pos isPrivate] at alone
      exact alone
  | returned status =>
      simp only [atPc] at stepped
      contradiction

end Follows

end EnqueueCall

/-! ### Any interleaving -/

namespace State

/-- One step of the shim whose callers keep to no order: an enqueue may begin during a
reset, and a reset during an enqueue. -/
def anyStep (state : State) : Action → Option State
  | .clEnqueueNDRangeKernel args =>
      some { state with calls := state.calls ++ [{ args, epoch := state.epoch }] }
  | .nativeResetInferenceCounters =>
      some { state with
        globals := state.globals.pthreadOnce state.process
        resets := state.resets ++ [.storeInferenceEnabled] }
  | .advance index outside => state.step (.advance index outside)
  | .nativeSetInferenceEnabled enabled => state.step (.nativeSetInferenceEnabled enabled)
  | .advanceReset index => state.step (.advanceReset index)

/-- A run of the shim from the start of the process, without restriction. -/
abbrev Interleaved (process : VendorSymbols) : List Action → State → Prop :=
  ReachesWhile State.anyStep (fun _ _ _ => True) (State.initial process)

/-- Every call is where its vendor calls say. -/
structure Following (process : VendorSymbols) (state : State) : Prop where
  linked : state.process = process
  symbols : state.globals.initOnce = true → state.globals.real = process
  past : ∀ call ∈ state.calls, call.pc ≠ .pthreadOnce → state.globals.initOnce = true
  follows : ∀ call ∈ state.calls, call.Follows process

namespace Following

variable {process : VendorSymbols} {state after : State}

theorem initial (process : VendorSymbols) : Following process (State.initial process) where
  linked := rfl
  symbols initialized := by cases initialized
  past := by simp [State.initial]
  follows := by simp [State.initial]

theorem clEnqueueNDRangeKernel {args : EnqueueArgs} (following : Following process state)
    (stepped : state.anyStep (.clEnqueueNDRangeKernel args) = some after) :
    Following process after := by
  cases stepped
  refine ⟨following.linked, following.symbols, ?_, ?_⟩
  · exact forall_append_one following.past (fun moved => absurd rfl moved)
  · refine forall_append_one following.follows ⟨rfl, fun present => ?_, rfl⟩
    exact ⟨present, rfl, rfl, rfl⟩

theorem advance {index : Nat} {outside : Outside} (following : Following process state)
    (stepped : state.step (.advance index outside) = some after) : Following process after := by
  obtain ⟨call, found, moved⟩ := Option.bind_eq_some_iff.mp stepped
  obtain ⟨⟨globals, next⟩, callStepped, rfl⟩ := Option.map_eq_some_iff.mp moved
  rw [following.linked] at callStepped
  have member : call ∈ state.calls := List.mem_of_getElem? found
  have past := following.past call member
  have symbols := EnqueueCall.step_symbols following.symbols past callStepped
  refine ⟨following.linked, fun _ => symbols.2, fun _ _ _ => symbols.1, ?_⟩
  apply forall_set following.follows
  exact EnqueueCall.step_follows following.symbols past (following.follows call member) callStepped

/-- Resolving the symbols of the vendor moves no call. -/
theorem pthreadOnce (following : Following process state) (sameProcess : after.process = process)
    (sameOnce : after.globals.initOnce = (state.globals.pthreadOnce process).initOnce)
    (sameReal : after.globals.real = (state.globals.pthreadOnce process).real)
    (sameCalls : after.calls = state.calls) : Following process after := by
  obtain ⟨once, real⟩ := Globals.pthreadOnce_symbols following.symbols
  refine ⟨sameProcess, fun _ => sameReal.trans real, fun _ _ _ => sameOnce.trans once, ?_⟩
  rw [sameCalls]
  exact following.follows

theorem nativeSetInferenceEnabled {enabled : Bool} (following : Following process state)
    (stepped : state.step (.nativeSetInferenceEnabled enabled) = some after) :
    Following process after := by
  obtain rfl := following.linked
  cases stepped
  exact following.pthreadOnce rfl rfl rfl rfl

theorem nativeResetInferenceCounters (following : Following process state)
    (stepped : state.anyStep .nativeResetInferenceCounters = some after) :
    Following process after := by
  obtain rfl := following.linked
  cases stepped
  exact following.pthreadOnce rfl rfl rfl rfl

theorem advanceReset {index : Nat} (following : Following process state)
    (stepped : state.step (.advanceReset index) = some after) : Following process after := by
  obtain ⟨reset, found, moved⟩ := Option.bind_eq_some_iff.mp stepped
  obtain ⟨⟨globals, next⟩, resetStepped, rfl⟩ := Option.map_eq_some_iff.mp moved
  obtain ⟨-, sameOnce, sameReal⟩ := ResetPc.step_frame resetStepped
  refine ⟨following.linked, ?_, ?_, following.follows⟩
  · simpa only [sameOnce, sameReal] using following.symbols
  · simpa only [sameOnce] using following.past

theorem step {action : Action} (following : Following process state)
    (stepped : state.anyStep action = some after) : Following process after := by
  cases action with
  | clEnqueueNDRangeKernel args => exact following.clEnqueueNDRangeKernel stepped
  | advance index outside => exact following.advance stepped
  | nativeSetInferenceEnabled enabled => exact following.nativeSetInferenceEnabled stepped
  | nativeResetInferenceCounters => exact following.nativeResetInferenceCounters stepped
  | advanceReset index => exact following.advanceReset stepped

end Following

theorem Interleaved.following {process : VendorSymbols} {actions : List Action} {state : State}
    (interleaved : Interleaved process actions state) : Following process state :=
  @ReachesWhile.invariant _ _ _ _ _ (fun _ state => Following process state)
    (Following.initial process) (fun _ _ _ _ following _ stepped => following.step stepped) _ _
    interleaved

theorem Interleaved.behavesAlone {process : VendorSymbols} {actions : List Action} {state : State}
    (interleaved : Interleaved process actions state) {call : EnqueueCall}
    (member : call ∈ state.calls) {status : ClInt} (returned : call.pc = .returned status) :
    call.BehavesAlone process status := by
  have follows := interleaved.following.follows call member
  rw [EnqueueCall.Follows, returned] at follows
  exact follows

/-! ### The run of one call -/

/-- The shim with a single call and no reset. -/
def single (process : VendorSymbols) (current : Globals × EnqueueCall) : State :=
  ⟨process, current.1, 0, [current.2], []⟩

section Single

variable {process : VendorSymbols} {allowed : EnqueueAnswer → Prop}
  {before after : Globals × EnqueueCall}

theorem step_single {outside : Outside}
    (stepped : before.2.step process before.1 outside = some after) :
    (single process before).anyStep (.advance 0 outside) = some (single process after) := by
  simp [anyStep, State.step, single, stepped]

theorem interleaved_single {actions : List Action}
    (run : ReflTransGen (EnqueueCall.Steps process allowed) before after)
    (interleaved : Interleaved process actions (single process before)) :
    ∃ more, Interleaved process more (single process after) := by
  induction run with
  | refl => exact ⟨actions, interleaved⟩
  | tail _ last inductionHypothesis =>
      obtain ⟨earlier, reached⟩ := inductionHypothesis
      obtain ⟨outside, -, stepped⟩ := last
      exact ⟨_, reached.next trivial (step_single stepped)⟩

theorem args_single (run : ReflTransGen (EnqueueCall.Steps process allowed) before after) :
    after.2.args = before.2.args := by
  induction run with
  | refl => rfl
  | tail _ last inductionHypothesis =>
      obtain ⟨outside, -, stepped⟩ := last
      exact (EnqueueCall.step_frame stepped).2.1.trans inductionHypothesis

end Single

theorem interleaved_begin (process : VendorSymbols) (inferenceEnabled : Bool) (args : EnqueueArgs) :
    Interleaved process
      ([] ++ [.nativeSetInferenceEnabled inferenceEnabled] ++ [.clEnqueueNDRangeKernel args])
      (single process ((settled process inferenceEnabled).globals, { args, epoch := 0 })) :=
  (ReachesWhile.start.next trivial rfl).next trivial rfl

/-- Interleaving adds nothing to a call and takes nothing away. A call that has returned,
whatever enqueues, flag changes and resets ran beside it, made the vendor calls and has
the status of a call made alone with the flag that it saw; and what a call made alone
does is done in some run. -/
theorem calls_behave_alone (process : VendorSymbols) :
    (∀ actions state, Interleaved process actions state → ∀ call ∈ state.calls, ∀ status,
      call.pc = .returned status → call.BehavesAlone process status) ∧
    ∀ (script : VendorScript) (inferenceEnabled : Bool) (args : EnqueueArgs),
      let outcome := script.alone process inferenceEnabled args
      ∃ actions state, Interleaved process actions state ∧ ∃ call ∈ state.calls,
        call.args = args ∧ call.pc = .returned outcome.status ∧
          call.vendorCalls = outcome.performed := by
  constructor
  · exact fun _ _ interleaved _ member _ returned => interleaved.behavesAlone member returned
  · intro script inferenceEnabled args outcome
    obtain ⟨call, run, returned, performed⟩ :=
      @finishes_clEnqueueNDRangeKernel Unit process (fun _ => True) script.vendor
        (fun _ _ _ => trivial) 0 args (settled process inferenceEnabled) nofun
    obtain ⟨actions, reached⟩ :=
      interleaved_single run (interleaved_begin process inferenceEnabled args)
    exact ⟨actions, _, reached, call, List.mem_singleton.mpr rfl, args_single run, returned,
      performed⟩

end State

end BssLiteRt.Shim
