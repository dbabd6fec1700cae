import BssLiteRt.Shim.Counters
import BssLiteRt.Shim.ExperimentAgreement
import Mathlib.Logic.Relation

/-!
Owns the calls made one at a time as runs of the transition system: what they
return and leave behind is reached by its steps.
-/

namespace BssLiteRt.Shim

open Relation BssLiteRt.Library.Transition BssLiteRt.Library.Lockstep

section Call

variable {ω : Type} {process : VendorSymbols} {allowed : EnqueueAnswer → Prop}
  {globals : Globals} {call : EnqueueCall} {answer : EnqueueAnswer}

/-- One step of a call, with an answer that the vendor is allowed. -/
def EnqueueCall.Steps (process : VendorSymbols) (allowed : EnqueueAnswer → Prop)
    (before after : Globals × EnqueueCall) : Prop :=
  ∃ outside : Outside, allowed outside.answer ∧
    before.2.step process before.1 outside = some after

/-- The call, alone, runs to what a sequential call returns. -/
def Finishes (process : VendorSymbols) (allowed : EnqueueAnswer → Prop)
    (start : Globals × EnqueueCall) (outcome : Returned ω) : Prop :=
  ∃ call, ReflTransGen (EnqueueCall.Steps process allowed) start (outcome.machine.globals, call) ∧
    call.pc = .returned outcome.status ∧ call.vendorCalls = outcome.performed

theorem Finishes.after {start next : Globals × EnqueueCall} {outcome : Returned ω}
    (finishes : Finishes process allowed next outcome)
    (run : ReflTransGen (EnqueueCall.Steps process allowed) start next) :
    Finishes process allowed start outcome := by
  obtain ⟨last, rest, returned, performed⟩ := finishes
  exact ⟨last, run.trans rest, returned, performed⟩

theorem Finishes.head {start next : Globals × EnqueueCall} {outcome : Returned ω}
    (finishes : Finishes process allowed next outcome)
    (stepped : EnqueueCall.Steps process allowed start next) :
    Finishes process allowed start outcome :=
  finishes.after (.single stepped)

theorem finishes_returned {status : ClInt} {performed : List VendorCall} {world : ω}
    (returned : call.pc = .returned status) (same : call.vendorCalls = performed) :
    Finishes process allowed (globals, call) ⟨status, performed, ⟨globals, world⟩⟩ :=
  ⟨call, .refl, returned, same⟩

/-- What the world outside does while the vendor answers the kernel with `answer`. -/
def answering (answer : EnqueueAnswer) (waitStatus releaseStatus : ClInt) (now : Option Timespec) :
    Outside :=
  ⟨answer, waitStatus, releaseStatus, now, false⟩

/-- The steps of `record_wait`, when no other call touches the globals between them. -/
theorem steps_recordWait {durationNs : UInt64} {waitStatus : ClInt} (given : allowed answer)
    (atWait : call.pc = .addWaitCount durationNs waitStatus) :
    ReflTransGen (EnqueueCall.Steps process allowed) (globals, call)
      (globals.recordWait durationNs,
        { call with recorded := true, pc := call.afterWait waitStatus }) := by
  refine .head ⟨answering answer 0 0 none, given, by rw [EnqueueCall.step, atWait]⟩ ?_
  refine .head ⟨answering answer 0 0 none, given, rfl⟩ ?_
  refine .head ⟨answering answer 0 0 none, given, rfl⟩ ?_
  dsimp only [EnqueueCall.maxLoop, Globals.recordWait]
  split
  · refine .single ⟨answering answer 0 0 none, given, ?_⟩
    simp [EnqueueCall.step, answering, EnqueueCall.afterWait]
  · exact .refl

/-- The code after `record_wait`. -/
theorem finishes_afterWait {waitStatus releaseStatus : ClInt} {performed : List VendorCall}
    {world released : ω} (given : allowed answer) (same : call.vendorCalls = performed)
    (after : call.pc = call.afterWait waitStatus) :
    Finishes process allowed (globals, call)
      (if call.args.event = none ∧ call.boundaryEvent ≠ NULL then
        ⟨if waitStatus = CL_SUCCESS ∧ releaseStatus ≠ CL_SUCCESS then releaseStatus else waitStatus,
          performed ++ [.releaseEvent call.boundaryEvent releaseStatus], ⟨globals, released⟩⟩
      else ⟨waitStatus, performed, ⟨globals, world⟩⟩) := by
  unfold EnqueueCall.afterWait at after
  split
  · rename_i isPrivate
    rw [if_pos isPrivate] at after
    refine .head ?_ ⟨answering answer 0 releaseStatus none, given, by rw [EnqueueCall.step, after]⟩
    exact finishes_returned rfl (congrArg (· ++ _) same)
  · rename_i isShared
    rw [if_neg isShared] at after
    exact finishes_returned after same

/-- The wait with its four outside answers named. -/
theorem waitForKernel_eq (vendor : Vendor ω) (submitted : VendorCall) (machine : Machine ω) :
    waitForKernel vendor call submitted machine =
      let started := vendor.clockGettime machine.world
      let waited := vendor.waitForEvents [call.eventToWait] started.2
      let ended := vendor.clockGettime waited.2
      let released := vendor.releaseEvent call.boundaryEvent ended.2
      let globals :=
        if monotonicTimeNs ended.1 ≥ monotonicTimeNs started.1 then
          machine.globals.recordWait (monotonicTimeNs ended.1 - monotonicTimeNs started.1)
        else machine.globals
      if call.args.event = none ∧ call.boundaryEvent ≠ NULL then
        ⟨if waited.1 = CL_SUCCESS ∧ released.1 ≠ CL_SUCCESS then released.1 else waited.1,
          [submitted, .waitForEvents [call.eventToWait] waited.1] ++
            [.releaseEvent call.boundaryEvent released.1], ⟨globals, released.2⟩⟩
      else
        ⟨waited.1, [submitted, .waitForEvents [call.eventToWait] waited.1], ⟨globals, ended.2⟩⟩ :=
  rfl

/-- The wait, on a call that holds the same event slots. -/
theorem finishes_waitForKernel (vendor : Vendor ω) (machine : Machine ω)
    {waiting : EnqueueCall} {submitted : VendorCall} (given : allowed answer)
    (sameArgs : waiting.args = call.args)
    (sameBoundary : waiting.boundaryEvent = call.boundaryEvent)
    (performed : waiting.vendorCalls = [submitted])
    (atStart : waiting.pc = .readStarted call.eventToWait) :
    Finishes process allowed (machine.globals, waiting)
      (waitForKernel vendor call submitted machine) := by
  rw [waitForKernel_eq, ← sameArgs, ← sameBoundary]
  dsimp only
  generalize vendor.clockGettime machine.world = started
  generalize vendor.waitForEvents [call.eventToWait] started.2 = waited
  generalize vendor.clockGettime waited.2 = ended
  generalize vendor.releaseEvent waiting.boundaryEvent ended.2 = released
  have calls : waiting.vendorCalls ++ [.waitForEvents [call.eventToWait] waited.1] =
      [submitted, .waitForEvents [call.eventToWait] waited.1] := by
    rw [performed]
    rfl
  refine .head ?_ ⟨answering answer 0 0 started.1, given, by rw [EnqueueCall.step, atStart]⟩
  refine .head ?_ ⟨answering answer waited.1 0 none, given, rfl⟩
  by_cases recorded : monotonicTimeNs ended.1 ≥ monotonicTimeNs started.1
  · rw [if_pos recorded]
    refine .head ?_ ⟨answering answer 0 0 ended.1, given, if_pos recorded⟩
    refine .after ?_ (steps_recordWait given rfl)
    exact finishes_afterWait given calls rfl
  · rw [if_neg recorded]
    refine .head ?_ ⟨answering answer 0 0 ended.1, given, if_neg recorded⟩
    exact finishes_afterWait given calls rfl

/-- The submission with the vendor's answer named. -/
theorem submitKernel_eq (vendor : Vendor ω) (shouldWait : Bool) (args : EnqueueArgs)
    (machine : Machine ω) :
    submitKernel vendor shouldWait args machine =
      let fresh : EnqueueCall := { args, epoch := 0 }
      let slot := fresh.resultEvent shouldWait
      let answered := vendor.enqueueNDRangeKernel args slot machine.world
      let submitted := VendorCall.enqueueNDRangeKernel args slot answered.1
      if answered.1.status ≠ CL_SUCCESS ∨ shouldWait = false then
        ⟨answered.1.status, [submitted], ⟨machine.globals, answered.2⟩⟩
      else if machine.globals.real.wait = false ∨ machine.globals.real.release = false then
        ⟨CL_INVALID_OPERATION, [submitted], ⟨machine.globals, answered.2⟩⟩
      else
        waitForKernel vendor (fresh.store slot answered.1.stored) submitted
          ⟨machine.globals, answered.2⟩ :=
  rfl

/-- The code after the decision whether to wait. -/
theorem finishes_submitKernel (vendor : Vendor ω)
    (given : ∀ args slot world, allowed (vendor.enqueueNDRangeKernel args slot world).1)
    (shouldWait sawEnabled counted : Bool) (epoch : Nat) (args : EnqueueArgs)
    (machine : Machine ω) :
    Finishes process allowed
      (machine.globals, { args, epoch, pc := .realEnqueue shouldWait, sawEnabled, counted })
      (submitKernel vendor shouldWait args machine) := by
  rw [submitKernel_eq]
  dsimp only
  have permitted := given args
    (({ args, epoch := 0 } : EnqueueCall).resultEvent shouldWait) machine.world
  generalize vendor.enqueueNDRangeKernel args
    (({ args, epoch := 0 } : EnqueueCall).resultEvent shouldWait) machine.world = answered
    at permitted ⊢
  refine .head ?_ ⟨answering answered.1 0 0 none, permitted, rfl⟩
  by_cases stops : answered.1.status ≠ CL_SUCCESS ∨ shouldWait = false
  · rw [if_pos stops]
    exact finishes_returned (if_pos stops) rfl
  · rw [if_neg stops]
    by_cases missing : machine.globals.real.wait = false ∨ machine.globals.real.release = false
    · rw [if_pos missing]
      exact finishes_returned ((if_neg stops).trans (if_pos missing)) rfl
    · rw [if_neg missing]
      apply finishes_waitForKernel vendor ⟨machine.globals, answered.2⟩ permitted
      · rfl
      · rfl
      · rfl
      · exact (if_neg stops).trans (if_neg missing)

theorem pthreadOnce_globals {vendor : Vendor ω} {machine : Machine ω}
    (resolves : machine.globals.initOnce = false →
      (vendor.resolveSymbols machine.world).1 = process) :
    (machine.pthreadOnce vendor).globals = machine.globals.pthreadOnce process := by
  unfold Machine.pthreadOnce
  cases initialized : machine.globals.initOnce with
  | false => simp [← resolves initialized]
  | true => simp [Globals.pthreadOnce, initialized]

/-- A call made alone runs to what the sequential call returns. -/
theorem finishes_clEnqueueNDRangeKernel (vendor : Vendor ω)
    (given : ∀ args slot world, allowed (vendor.enqueueNDRangeKernel args slot world).1)
    (epoch : Nat) (args : EnqueueArgs) (machine : Machine ω)
    (resolves : machine.globals.initOnce = false →
      (vendor.resolveSymbols machine.world).1 = process) :
    Finishes process allowed (machine.globals, { args, epoch })
      (Bounded.clEnqueueNDRangeKernel vendor args machine) := by
  have permitted := given args .null machine.world
  generalize (vendor.enqueueNDRangeKernel args .null machine.world).1 = answer at permitted
  have started := pthreadOnce_globals resolves
  have first : EnqueueCall.Steps process allowed (machine.globals, { args, epoch })
      (machine.globals.pthreadOnce process,
        { args, epoch, pc := if (machine.globals.pthreadOnce process).real.enqueue
          then .loadInferenceEnabled else .returned CL_INVALID_OPERATION }) := by
    refine ⟨answering answer 0 0 none, permitted, ?_⟩
    unfold EnqueueCall.step
    dsimp only
    split <;> rfl
  unfold Bounded.clEnqueueNDRangeKernel
  refine .head ?_ first
  rw [← started]
  generalize machine.pthreadOnce vendor = ready
  dsimp only
  cases resolved : ready.globals.real.enqueue with
  | false => exact finishes_returned rfl rfl
  | true =>
      cases enabled : ready.globals.inferenceEnabled with
      | false =>
          refine .head ?_ ⟨answering answer 0 0 none, permitted,
            if_neg (Bool.not_eq_true _ ▸ enabled)⟩
          exact finishes_submitKernel vendor given false false false epoch args ready
      | true =>
          refine .head ?_ ⟨answering answer 0 0 none, permitted, if_pos enabled⟩
          refine .head ?_ ⟨answering answer 0 0 none, permitted, rfl⟩
          exact finishes_submitKernel vendor given true true true epoch args
            ⟨ready.globals.addDispatch, ready.world⟩

end Call

/-! ### The whole shim -/

section Session

variable {ω : Type} {vendor : Vendor ω} {allowed : EnqueueAnswer → Prop} {state : State}
  {machine : Machine ω}

def Action.Allowed (allowed : EnqueueAnswer → Prop) : Action → Prop
  | .advance _ outside => allowed outside.answer
  | .clEnqueueNDRangeKernel _ | .nativeSetInferenceEnabled _ | .nativeResetInferenceCounters
  | .advanceReset _ => True

/-- One step of the shim, with an answer that the vendor is allowed. -/
def State.Steps (allowed : EnqueueAnswer → Prop) (before after : State) : Prop :=
  ∃ action : Action, action.Allowed allowed ∧ before.step action = some after

/-- The status and the vendor calls of a call that has returned. -/
def EnqueueCall.result? (call : EnqueueCall) : Option (ClInt × List VendorCall) :=
  match call.pc with
  | .returned status => some (status, call.vendorCalls)
  | _ => none

def State.results (state : State) : List (ClInt × List VendorCall) :=
  state.calls.filterMap EnqueueCall.result?

def Shown.result? (shown : Shown) : Option (ClInt × List VendorCall) :=
  shown.status.map fun status => (status, shown.performed)

/-- Between two operations of one caller: nothing is under way, and the globals are
those of the sequential shim. -/
structure Alone (vendor : Vendor ω) (state : State) (machine : Machine ω) : Prop where
  globals : state.globals = machine.globals
  resolves : machine.globals.initOnce = false →
    (vendor.resolveSymbols machine.world).1 = state.process
  returned : ∀ call ∈ state.calls, call.inFlight = false
  settled : ∀ reset ∈ state.resets, reset = .returned

/-- The last call advances. -/
theorem steps_advance {before after : Globals × EnqueueCall}
    (stepped : EnqueueCall.Steps state.process allowed before after) :
    State.Steps allowed { state with globals := before.1, calls := state.calls ++ [before.2] }
      { state with globals := after.1, calls := state.calls ++ [after.2] } := by
  obtain ⟨outside, given, taken⟩ := stepped
  refine ⟨.advance state.calls.length outside, given, ?_⟩
  simp [State.step, taken]

/-- The last reset advances. -/
theorem steps_advanceReset {globals globals' : Globals} {reset next : ResetPc} {epoch : Nat}
    (stepped : reset.step globals = some (globals', next)) :
    State.Steps allowed { state with globals, epoch, resets := state.resets ++ [reset] }
      { state with
        globals := globals'
        epoch := if reset = .storeDispatchCount then epoch + 1 else epoch
        resets := state.resets ++ [next] } := by
  refine ⟨.advanceReset state.resets.length, trivial, ?_⟩
  simp [State.step, stepped]

theorem clEnqueueNDRangeKernel_initOnce (args : EnqueueArgs) :
    (Bounded.clEnqueueNDRangeKernel vendor args machine).machine.globals.initOnce = true := by
  have initialized := @Machine.pthreadOnce_initOnce _ vendor machine
  unfold Bounded.clEnqueueNDRangeKernel
  generalize machine.pthreadOnce vendor = ready at initialized ⊢
  dsimp only
  split
  · exact initialized
  · rw [(submitKernel_settings vendor _ _ _).1]
    split <;> exact initialized

namespace Alone

theorem clEnqueueNDRangeKernel (alone : Alone vendor state machine)
    (given : ∀ args slot world, allowed (vendor.enqueueNDRangeKernel args slot world).1)
    (args : EnqueueArgs) :
    let outcome := Bounded.clEnqueueNDRangeKernel vendor args machine
    ∃ after, ReflTransGen (State.Steps allowed) state after ∧ Alone vendor after outcome.machine ∧
      after.results = state.results ++ [(outcome.status, outcome.performed)] := by
  intro outcome
  obtain ⟨last, run, finished, performed⟩ :=
    finishes_clEnqueueNDRangeKernel vendor given state.epoch args machine alone.resolves
  have begun : State.Steps allowed state
      { state with
        globals := machine.globals
        calls := state.calls ++ [{ args, epoch := state.epoch }] } := by
    refine ⟨.clEnqueueNDRangeKernel args, trivial, ?_⟩
    rw [← alone.globals]
    exact if_pos (List.all_eq_true.mpr fun reset member => decide_eq_true (alone.settled _ member))
  have lifted := run.lift (fun shared => { state with
    globals := shared.1, calls := state.calls ++ [shared.2] }) fun _ _ => steps_advance
  refine ⟨_, .head begun lifted, ⟨rfl, ?_, ?_, alone.settled⟩, ?_⟩
  · intro fresh
    rw [clEnqueueNDRangeKernel_initOnce] at fresh
    cases fresh
  · intro call member
    rcases List.mem_append.mp member with earlier | isLast
    · exact alone.returned call earlier
    · rw [List.mem_singleton.mp isLast, EnqueueCall.inFlight, finished]
  · rw [State.results, List.filterMap_append]
    have shown : last.result? = some (outcome.status, outcome.performed) := by
      rw [EnqueueCall.result?, finished, performed]
    rw [List.filterMap_cons_some shown]
    rfl

theorem nativeSetInferenceEnabled (alone : Alone vendor state machine) (enabled : Bool) :
    ∃ after, ReflTransGen (State.Steps allowed) state after ∧
      Alone vendor after (Bounded.nativeSetInferenceEnabled vendor enabled machine) ∧
      after.results = state.results := by
  refine ⟨_, .single ⟨.nativeSetInferenceEnabled enabled, trivial, rfl⟩,
    ⟨?_, ?_, alone.returned, alone.settled⟩, rfl⟩
  · rw [Bounded.nativeSetInferenceEnabled, pthreadOnce_globals alone.resolves, alone.globals]
  · intro fresh
    have initialized := @Machine.pthreadOnce_initOnce _ vendor machine
    exact absurd (initialized.symm.trans fresh) nofun

theorem nativeReset (alone : Alone vendor state machine) :
    ∃ after, ReflTransGen (State.Steps allowed) state after ∧
      Alone vendor after (Bounded.nativeResetInferenceCounters vendor machine) ∧
      after.results = state.results := by
  have begun : State.Steps allowed state
      { state with
        globals := state.globals.pthreadOnce state.process
        epoch := state.epoch
        resets := state.resets ++ [.storeInferenceEnabled] } := by
    refine ⟨.nativeResetInferenceCounters, trivial, if_pos (List.all_eq_true.mpr ?_)⟩
    intro call member
    rw [alone.returned call member]
    rfl
  refine ⟨_, .head begun (.head (steps_advanceReset rfl) (.head (steps_advanceReset rfl)
    (.head (steps_advanceReset rfl) (.head (steps_advanceReset rfl)
      (.single (steps_advanceReset rfl)))))), ⟨?_, ?_, alone.returned, ?_⟩, rfl⟩
  · rw [Bounded.nativeResetInferenceCounters, pthreadOnce_globals alone.resolves, alone.globals]
    rfl
  · intro fresh
    have initialized := @Machine.pthreadOnce_initOnce _ vendor machine
    exact absurd (initialized.symm.trans fresh) nofun
  · intro reset member
    rcases List.mem_append.mp member with earlier | isLast
    · exact alone.settled reset earlier
    · exact List.mem_singleton.mp isLast

/-- One operation of the sequential shim is a run of the shim. -/
theorem operate (alone : Alone vendor state machine)
    (given : ∀ args slot world, allowed (vendor.enqueueNDRangeKernel args slot world).1)
    (operation : Operation) :
    let outcome := Bounded.operate vendor machine operation
    ∃ after, ReflTransGen (State.Steps allowed) state after ∧ Alone vendor after outcome.2 ∧
      after.results = state.results ++ outcome.1.result?.toList := by
  cases operation with
  | clEnqueueNDRangeKernel args => exact alone.clEnqueueNDRangeKernel given args
  | nativeSetInferenceEnabled enabled =>
      obtain ⟨after, run, still, same⟩ := alone.nativeSetInferenceEnabled enabled
      exact ⟨after, run, still, same.trans (List.append_nil _).symm⟩
  | nativeReset =>
      obtain ⟨after, run, still, same⟩ := alone.nativeReset
      exact ⟨after, run, still, same.trans (List.append_nil _).symm⟩

/-- So is a whole list of operations. -/
theorem run (alone : Alone vendor state machine)
    (given : ∀ args slot world, allowed (vendor.enqueueNDRangeKernel args slot world).1)
    (operations : List Operation) :
    ∃ after, ReflTransGen (State.Steps allowed) state after ∧
      Alone vendor after (run (Bounded.operate vendor) machine operations) ∧
      after.results = state.results ++
        (outputs (Bounded.operate vendor) machine operations).filterMap Shown.result? := by
  induction operations generalizing state machine with
  | nil => exact ⟨state, .refl, alone, (List.append_nil _).symm⟩
  | cons operation rest inductionHypothesis =>
      obtain ⟨between, first, stillAlone, shown⟩ := alone.operate given operation
      obtain ⟨after, later, atEnd, results⟩ := inductionHypothesis stillAlone
      refine ⟨after, first.trans later, atEnd, ?_⟩
      rw [results, shown, outputs, List.append_assoc, List.filterMap_cons]
      cases (Bounded.operate vendor machine operation).1.result? <;> rfl

theorem initial (vendor : Vendor ω) (world : ω) :
    Alone vendor (.initial (vendor.resolveSymbols world).1) ⟨.initial, world⟩ :=
  ⟨rfl, fun _ => rfl, nofun, nofun⟩

theorem length_results (alone : Alone vendor state machine) :
    state.results.length = state.calls.length := by
  apply List.filterMap_length_eq_length.mpr
  intro call member
  have returned := alone.returned call member
  unfold EnqueueCall.inFlight at returned
  unfold EnqueueCall.result?
  cases atPc : call.pc with
  | returned status => rfl
  | _ =>
      rw [atPc] at returned
      contradiction

end Alone

/-- Runs with the events of accepted kernels stored are those the invariants hold of. -/
theorem reached_of_steps {process : VendorSymbols} {actions : List Action} {after : State}
    (reached : State.Reached process actions state)
    (run : ReflTransGen (State.Steps EnqueueAnswer.StoresEvent) state after) :
    ∃ more, State.Reached process more after := by
  induction run with
  | refl => exact ⟨actions, reached⟩
  | tail _ last inductionHypothesis =>
      obtain ⟨before, reachedBefore⟩ := inductionHypothesis
      obtain ⟨action, allowed, stepped⟩ := last
      refine ⟨before ++ [action], .next reachedBefore ?_ stepped⟩
      cases action <;> exact allowed

/-- After any operations of one caller, fewer than `2 ^ 64`, the wait counter does not
exceed the dispatch counter. -/
theorem session_counters_ordered (vendor : Vendor ω) (world : ω)
    (stores : ∀ args slot world, (vendor.enqueueNDRangeKernel args slot world).1.StoresEvent)
    (operations : List Operation) (few : operations.length < 2 ^ 64) :
    let globals := (run (Bounded.operate vendor) ⟨.initial, world⟩ operations).globals
    globals.waitCount ≤ globals.dispatchCount := by
  obtain ⟨state, steps, alone, results⟩ := (Alone.initial vendor world).run stores operations
  obtain ⟨actions, reached⟩ := reached_of_steps .start steps
  obtain ⟨calls, counters⟩ := State.Reached.invariant reached
  have fewCalls : state.calls.length < 2 ^ 64 := by
    rw [← alone.length_results, results, List.length_append]
    have atMost := List.length_filterMap_le Shown.result?
      (outputs (Bounded.operate vendor) ⟨.initial, world⟩ operations)
    rw [length_outputs] at atMost
    exact Nat.lt_of_le_of_lt (Nat.zero_add _ ▸ atMost) few
  have between : ¬ state.MidReset := fun mid => absurd (alone.settled _ mid) nofun
  dsimp only
  rw [← alone.globals, UInt64.le_iff_toNat_le, counters.dispatchCount_toNat fewCalls,
    counters.waitCount_toNat between fewCalls]
  exact List.countP_mono_left calls.recordedIn_countedIn

end Session

end BssLiteRt.Shim
