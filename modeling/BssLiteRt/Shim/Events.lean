import BssLiteRt.Shim.Interleaved

/-!
Owns the private events of the bounded shim under any interleaving: a call releases no
event but the one that the vendor stored in its private slot, and a call that returns
has released it, unless the wrapper had to refuse after the vendor accepted.
-/

namespace BssLiteRt.Shim

open BssLiteRt.Library.Transition BssLiteRt.Library.Counting

/-! ### The events of a call -/

/-- What the vendor answered to a kernel. -/
@[simp] def VendorCall.answer? : VendorCall → Option EnqueueAnswer
  | .enqueueNDRangeKernel _ _ answer => some answer
  | .waitForEvents _ _ | .releaseEvent _ _ => none

/-- A rejected kernel has no event. -/
def EnqueueAnswer.Tidy (answer : EnqueueAnswer) : Prop :=
  answer.status ≠ CL_SUCCESS → answer.stored.filter (· ≠ NULL) = none

instance (answer : EnqueueAnswer) : Decidable answer.Tidy :=
  inferInstanceAs (Decidable (_ → _))

namespace EnqueueCall

def answers (call : EnqueueCall) : List EnqueueAnswer :=
  call.vendorCalls.filterMap VendorCall.answer?

def released (call : EnqueueCall) : List ClEvent :=
  call.vendorCalls.filterMap VendorCall.released?

def privateEvents (call : EnqueueCall) : List ClEvent :=
  call.vendorCalls.filterMap VendorCall.privateEvent?

/-- A kernel that was to be waited for could be, or was rejected without an event. -/
def Finishable (process : VendorSymbols) (call : EnqueueCall) : Prop :=
  process.enqueue = true → call.sawEnabled = true → ∀ answer ∈ call.answers,
    if answer.status = CL_SUCCESS then process.wait = true ∧ process.release = true
    else call.args.event = none → answer.stored.filter (· ≠ NULL) = none

variable {process : VendorSymbols} {globals globals' : Globals} {call call' : EnqueueCall}
  {outside : Outside} {status : ClInt}

theorem filterMap_answer_releases (call : EnqueueCall) (status : ClInt) :
    (releases call status).filterMap VendorCall.answer? = [] := by
  unfold releases
  split <;> rfl

/-- Alone, the vendor is asked once when it can be asked. -/
theorem answers_alone {script : VendorScript} {inferenceEnabled : Bool} {args : EnqueueArgs}
    (present : process.enqueue = true) :
    (script.alone process inferenceEnabled args).performed.filterMap VendorCall.answer? =
      [script.answer] := by
  by_cases unwaited : script.answer.status ≠ CL_SUCCESS ∨ inferenceEnabled = false
  · rw [(alone_submitted present unwaited).2]
    rfl
  obtain ⟨accepted, rfl⟩ : script.answer.status = CL_SUCCESS ∧ inferenceEnabled = true := by
    simpa using unwaited
  by_cases missing : process.wait = false ∨ process.release = false
  · rw [(alone_missing present accepted missing).2]
    rfl
  · rw [(alone_waited present accepted missing).2]
    simp only [List.filterMap_cons, VendorCall.answer?, filterMap_answer_releases]

/-- A call that has returned keeps the ownership of events exactly when it was
finishable. -/
theorem BehavesAlone.keepsOwnership_iff (alone : call.BehavesAlone process status) :
    KeepsOwnership call.args status call.vendorCalls ↔ call.Finishable process := by
  obtain ⟨script, sameStatus, performed⟩ := alone
  rw [← sameStatus, ← performed, VendorScript.alone, keeps_ownership_iff, CanFinish, Finishable]
  have settledStays : (settled process call.sawEnabled).pthreadOnce script.vendor =
      settled process call.sawEnabled := rfl
  rw [settledStays]
  refine forall_congr' fun present => forall_congr' fun _ => ?_
  have asked := @answers_alone process script call.sawEnabled call.args present
  rw [answers, ← performed, asked, List.forall_mem_singleton]
  rfl

/-- Alone, nothing but the private event is released. -/
theorem released_first_alone {script : VendorScript} {inferenceEnabled : Bool}
    {args : EnqueueArgs} :
    let performed := (script.alone process inferenceEnabled args).performed
    performed.filterMap VendorCall.released? <+: performed.filterMap VendorCall.privateEvent? := by
  dsimp only
  cases present : process.enqueue with
  | false =>
      rw [(alone_refused present).2]
      exact List.nil_prefix
  | true =>
      by_cases unwaited : script.answer.status ≠ CL_SUCCESS ∨ inferenceEnabled = false
      · rw [(alone_submitted present unwaited).2]
        exact List.nil_prefix
      obtain ⟨accepted, rfl⟩ : script.answer.status = CL_SUCCESS ∧ inferenceEnabled = true := by
        simpa using unwaited
      by_cases missing : process.wait = false ∨ process.release = false
      · rw [(alone_missing present accepted missing).2]
        exact List.nil_prefix
      · have owned : KeepsOwnership args (script.alone process true args).status
            (script.alone process true args).performed :=
          (keeps_ownership_iff _ _ _).mpr fun _ _ => by
            simpa [vendorAnswer, VendorScript.vendor, accepted, Machine.pthreadOnce, settled]
              using missing
        exact ⟨[], (List.append_nil _).trans owned.privateReleased⟩

/-- Before its release a call has released nothing. -/
theorem Accepted.released_eq {answer : EnqueueAnswer} {waitStatus : ClInt}
    (accepted : call.Accepted process answer [.waitForEvents [call.eventToWait] waitStatus]) :
    call.released = [] := by
  simp [released, accepted.performed]

/-- At every program counter, the events released are among the private ones, in their
order. -/
theorem Follows.released_first (follows : call.Follows process) :
    call.released <+: call.privateEvents := by
  have nothing (untouched : call.released = []) : call.released <+: call.privateEvents :=
    untouched ▸ List.nil_prefix
  have fresh (same : call.vendorCalls = []) : call.released <+: call.privateEvents :=
    nothing (by rw [released, same]; rfl)
  cases atPc : call.pc with
  | pthreadOnce =>
      simp only [Follows, atPc] at follows
      exact fresh follows.2.2
  | loadInferenceEnabled | addDispatchCount | realEnqueue =>
      simp only [Follows, atPc] at follows
      exact fresh follows.1.performed
  | readStarted | realWait =>
      simp only [Follows, atPc] at follows
      obtain ⟨answer, accepted, -⟩ := follows
      exact nothing (by simp [released, accepted.performed])
  | readEnded | addWaitCount | addTotalWaitNs | loadMaxWaitNs | casMaxWaitNs =>
      simp only [Follows, atPc] at follows
      obtain ⟨answer, accepted⟩ := follows
      exact nothing accepted.released_eq
  | realRelease =>
      simp only [Follows, atPc] at follows
      obtain ⟨⟨answer, accepted⟩, -⟩ := follows
      exact nothing accepted.released_eq
  | returned status =>
      simp only [Follows, atPc] at follows
      obtain ⟨script, -, performed⟩ := follows
      rw [released, privateEvents, ← performed]
      exact released_first_alone

/-- A step makes at most one vendor call. -/
theorem step_vendorCalls (stepped : call.step process globals outside = some (globals', call')) :
    call'.vendorCalls = call.vendorCalls ∨ ∃ performed : VendorCall,
      call'.vendorCalls = call.vendorCalls ++ [performed] ∧
        ∀ answer, performed.answer? = some answer → answer = outside.answer := by
  unfold step at stepped
  cases atPc : call.pc <;> simp only [atPc] at stepped <;>
    (try split at stepped) <;> cases stepped <;>
    first
    | exact .inl rfl
    | exact .inr ⟨_, rfl, fun _ given => by cases given <;> rfl⟩

/-- A step asks the vendor at most for the answer that the step is given. -/
theorem step_answers (stepped : call.step process globals outside = some (globals', call')) :
    ∀ answer ∈ call'.answers, answer ∈ call.answers ∨ answer = outside.answer := by
  intro answer member
  rcases step_vendorCalls stepped with same | ⟨performed, same, given⟩
  · rw [answers, same] at member
    exact .inl member
  · rw [answers, same, List.filterMap_append] at member
    refine (List.mem_append.mp member).imp_right fun new => ?_
    obtain ⟨only, isPerformed, asked⟩ := List.mem_filterMap.mp new
    exact given answer (List.mem_singleton.mp isPerformed ▸ asked)

end EnqueueCall

/-! ### The events of a run -/

def Action.Tidy : Action → Prop
  | .advance _ outside => outside.answer.Tidy
  | .clEnqueueNDRangeKernel _ | .nativeSetInferenceEnabled _ | .nativeResetInferenceCounters
  | .advanceReset _ => True

instance : (action : Action) → Decidable action.Tidy
  | .advance _ outside => inferInstanceAs (Decidable outside.answer.Tidy)
  | .clEnqueueNDRangeKernel _ | .nativeSetInferenceEnabled _ | .nativeResetInferenceCounters
  | .advanceReset _ => inferInstanceAs (Decidable True)

namespace State

variable {process : VendorSymbols} {actions : List Action} {state after : State}

/-- A run in which the vendor gives events to accepted kernels only. -/
abbrev TidyRun (process : VendorSymbols) : List Action → State → Prop :=
  ReachesWhile State.anyStep (fun _ _ action => action.Tidy) (State.initial process)

/-- Every event that the shim has released. -/
def released (state : State) : List ClEvent :=
  state.calls.flatMap EnqueueCall.released

/-- Every event that the vendor has stored in a private slot. -/
def privateEvents (state : State) : List ClEvent :=
  state.calls.flatMap EnqueueCall.privateEvents

theorem step_tidy {action : Action} (tidy : ∀ call ∈ state.calls, ∀ answer ∈ call.answers, answer.Tidy)
    (given : action.Tidy) (stepped : state.anyStep action = some after) :
    ∀ call ∈ after.calls, ∀ answer ∈ call.answers, answer.Tidy := by
  cases action with
  | clEnqueueNDRangeKernel args =>
      cases stepped
      exact forall_append_one tidy (by simp [EnqueueCall.answers])
  | advance index outside =>
      obtain ⟨call, found, moved⟩ := Option.bind_eq_some_iff.mp stepped
      obtain ⟨⟨globals, next⟩, callStepped, rfl⟩ := Option.map_eq_some_iff.mp moved
      refine forall_set tidy fun answer member => ?_
      rcases EnqueueCall.step_answers callStepped answer member with old | rfl
      · exact tidy call (List.mem_of_getElem? found) answer old
      · exact given
  | nativeSetInferenceEnabled enabled =>
      cases stepped
      exact tidy
  | nativeResetInferenceCounters =>
      cases stepped
      exact tidy
  | advanceReset index =>
      obtain ⟨reset, -, moved⟩ := Option.bind_eq_some_iff.mp stepped
      obtain ⟨-, -, rfl⟩ := Option.map_eq_some_iff.mp moved
      exact tidy

theorem TidyRun.interleaved (tidyRun : TidyRun process actions state) :
    Interleaved process actions state ∧
      ∀ call ∈ state.calls, ∀ answer ∈ call.answers, answer.Tidy := by
  induction tidyRun with
  | start => exact ⟨.start, by simp [State.initial]⟩
  | next before meets stepped inductionHypothesis =>
      obtain ⟨interleaved, tidy⟩ := inductionHypothesis
      exact ⟨.next interleaved trivial stepped, step_tidy tidy meets stepped⟩

theorem flatMap_sublist {left right : EnqueueCall → List ClEvent} {calls : List EnqueueCall}
    (each : ∀ call ∈ calls, (left call).Sublist (right call)) :
    (calls.flatMap left).Sublist (calls.flatMap right) := by
  induction calls with
  | nil => exact List.Sublist.refl []
  | cons call rest inductionHypothesis =>
      obtain ⟨first, later⟩ := List.forall_mem_cons.mp each
      rw [List.flatMap_cons, List.flatMap_cons]
      exact first.append (inductionHypothesis later)

/-- Under every interleaving a call that has returned keeps the ownership of its events
exactly when its kernel could be waited for, or was rejected without an event. -/
theorem interleaved_ownership (interleaved : Interleaved process actions state)
    {call : EnqueueCall} (member : call ∈ state.calls) {status : ClInt}
    (returned : call.pc = .returned status) :
    KeepsOwnership call.args status call.vendorCalls ↔ call.Finishable process :=
  (interleaved.behavesAlone member returned).keepsOwnership_iff

/-- With all vendor symbols, no interleaving releases an event twice, or one of a caller,
and none is left when the calls have returned. -/
theorem private_events_released (process : VendorSymbols)
    (complete : process.wait = true ∧ process.release = true) (actions : List Action)
    (state : State) (tidyRun : TidyRun process actions state) :
    state.released.Sublist state.privateEvents ∧
      ((∀ call ∈ state.calls, call.inFlight = false) → state.released = state.privateEvents) := by
  obtain ⟨interleaved, tidy⟩ := tidyRun.interleaved
  constructor
  · refine flatMap_sublist fun call member => ?_
    exact (interleaved.following.follows call member).released_first.sublist
  · intro idle
    refine List.flatMap_congr fun call member => ?_
    cases atPc : call.pc with
    | returned status =>
        have finishable : call.Finishable process := by
          intro _ _ answer given
          split
          · exact complete
          · rename_i rejected
            exact fun _ => tidy call member answer given rejected
        exact ((interleaved_ownership interleaved member atPc).mpr finishable).privateReleased
    | _ =>
        have running := idle call member
        simp [EnqueueCall.inFlight, atPc] at running

/-- Two threads whose calls take turns, with a reset under way. -/
def twoThreads : List Action :=
  [.nativeSetInferenceEnabled true, .clEnqueueNDRangeKernel oneKernel,
    .clEnqueueNDRangeKernel oneKernel] ++
    (List.replicate 5 [.advance 0 accepting, .advance 1 accepting]).flatten ++
    [.nativeResetInferenceCounters, .advanceReset 0, .advanceReset 0] ++
    (List.replicate 6 [.advance 1 accepting, .advance 0 accepting]).flatten

theorem private_events_released_two_threads :
    ∃ state, TidyRun ⟨true, true, true⟩ twoThreads state ∧
      state.privateEvents = [7, 7] ∧ state.released = state.privateEvents := by
  have tidyRun : TidyRun ⟨true, true, true⟩ twoThreads _ := reachesWhile_of_runActions rfl
  obtain ⟨-, released⟩ := private_events_released _ (by decide) _ _ tidyRun
  exact ⟨_, tidyRun, by decide, released (by decide)⟩

end State

end BssLiteRt.Shim
