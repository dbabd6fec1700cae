import BssLiteRt.Shim.State

/-!
Owns what one call of `clEnqueueNDRangeKernel` has done at each of its program
counters: the increments and vendor calls behind it, and how one step moves
them together with the globals.
-/

namespace BssLiteRt.Shim

/-! ### What a call has done -/

/-- The completion event of a kernel the vendor accepted. -/
@[simp] def VendorCall.completion? : VendorCall → Option ClEvent
  | .enqueueNDRangeKernel _ _ answer =>
      if answer.status = CL_SUCCESS then some answer.completion else none
  | .waitForEvents _ _ | .releaseEvent _ _ => none

/-- The events `clWaitForEvents` was called on. -/
@[simp] def VendorCall.waited? : VendorCall → Option (List ClEvent)
  | .waitForEvents events _ => some events
  | .enqueueNDRangeKernel _ _ _ | .releaseEvent _ _ => none

namespace EnqueueCall

def completions (call : EnqueueCall) : List ClEvent :=
  call.vendorCalls.filterMap VendorCall.completion?

def waits (call : EnqueueCall) : List (List ClEvent) :=
  call.vendorCalls.filterMap VendorCall.waited?

/-- The vendor accepted the kernel, and `clWaitForEvents` was called exactly
once, on the kernel's completion event. -/
def WaitedOnce (call : EnqueueCall) : Prop :=
  ∃ completion, call.completions = [completion] ∧ call.waits = [[completion]]

/-- The vendor accepted the kernel, whose event nothing has waited for. -/
def Submitted (call : EnqueueCall) (completion : ClEvent) : Prop :=
  call.completions = [completion] ∧ call.waits = []

/-- The vendor has not been called. -/
def Untouched (call : EnqueueCall) : Prop :=
  call.vendorCalls = []

/-- The call did not observe inference enabled, was rejected, or found a vendor
symbol missing; or it waited. -/
def Finished (process : VendorSymbols) (call : EnqueueCall) : Prop :=
  (call.counted = true → call.sawEnabled = true) ∧
    (call.recorded = true → call.counted = true ∧ call.WaitedOnce) ∧
    (process = ⟨true, true, true⟩ → call.completions ≠ [] → call.sawEnabled = true →
      call.WaitedOnce)

/-- What the program counter of a call says about it. -/
def Progress (process : VendorSymbols) (call : EnqueueCall) : Prop :=
  match call.pc with
  | .pthreadOnce | .loadInferenceEnabled =>
      call.Untouched ∧ call.sawEnabled = false ∧ call.counted = false ∧ call.recorded = false
  | .addDispatchCount =>
      call.Untouched ∧ call.sawEnabled = true ∧ call.counted = false ∧ call.recorded = false
  | .realEnqueue shouldWait =>
      call.Untouched ∧ call.sawEnabled = shouldWait ∧ call.counted = shouldWait ∧
        call.recorded = false
  | .readStarted event | .realWait event _ =>
      call.Submitted event ∧ call.sawEnabled = true ∧ call.counted = true ∧ call.recorded = false
  | .readEnded _ _ | .addWaitCount _ _ =>
      call.WaitedOnce ∧ call.sawEnabled = true ∧ call.counted = true ∧ call.recorded = false
  | .addTotalWaitNs _ _ | .loadMaxWaitNs _ _ | .casMaxWaitNs _ _ _ | .realRelease _ =>
      call.WaitedOnce ∧ call.sawEnabled = true ∧ call.counted = true
  | .returned _ => call.Finished process

end EnqueueCall

/-- A vendor that accepts a kernel stores its event in the slot it is given. -/
def EnqueueAnswer.StoresEvent (answer : EnqueueAnswer) : Prop :=
  answer.status = CL_SUCCESS → answer.stored = some answer.completion

instance (answer : EnqueueAnswer) : Decidable answer.StoresEvent :=
  inferInstanceAs (Decidable (_ → _))

def Action.StoresEvent : Action → Prop
  | .advance _ outside => outside.answer.StoresEvent
  | _ => True

instance : (action : Action) → Decidable action.StoresEvent
  | .advance _ outside => inferInstanceAs (Decidable outside.answer.StoresEvent)
  | .clEnqueueNDRangeKernel _ | .nativeSetInferenceEnabled _ | .nativeResetInferenceCounters
  | .advanceReset _ => inferInstanceAs (Decidable True)

/-! ### One step of a call -/

namespace EnqueueCall

variable {process : VendorSymbols} {globals globals' : Globals} {call call' : EnqueueCall}
  {outside : Outside}

/-- A step changes neither the arguments nor the epoch, and leaves the flag. -/
theorem step_frame (stepped : call.step process globals outside = some (globals', call')) :
    call'.epoch = call.epoch ∧ call'.args = call.args ∧
      globals'.inferenceEnabled = globals.inferenceEnabled ∧ call.inFlight = true := by
  unfold step at stepped
  cases atPc : call.pc <;> simp only [atPc] at stepped <;>
    (try split at stepped) <;> cases stepped <;>
    simp [inFlight, atPc, Globals.pthreadOnce, store]
  all_goals split <;> rfl

/-- After its first step a call finds the vendor symbols of the process. -/
theorem step_symbols (resolved : globals.initOnce = true → globals.real = process)
    (past : call.pc ≠ .pthreadOnce → globals.initOnce = true)
    (stepped : call.step process globals outside = some (globals', call')) :
    globals'.initOnce = true ∧ globals'.real = process := by
  by_cases first : call.pc = .pthreadOnce
  · have same : globals' = globals.pthreadOnce process := by
      simp only [step, first] at stepped
      split at stepped <;> cases stepped <;> rfl
    rw [same, Globals.pthreadOnce]
    split
    · rename_i initialized
      exact ⟨initialized, resolved initialized⟩
    · exact ⟨rfl, rfl⟩
  · have initialized := past first
    have same : globals'.initOnce = globals.initOnce ∧ globals'.real = globals.real := by
      unfold step at stepped
      cases atPc : call.pc <;> simp only [atPc] at stepped <;>
        (try split at stepped) <;> cases stepped <;>
        first | exact ⟨rfl, rfl⟩ | exact absurd atPc first
    rw [same.1, same.2]
    exact ⟨initialized, resolved initialized⟩

theorem waited_afterWait (waitStatus : ClInt) (waited : call.WaitedOnce)
    (saw : call.sawEnabled = true) (counted : call.counted = true) :
    ({ call with pc := call.afterWait waitStatus } : EnqueueCall).Progress process := by
  unfold afterWait
  split
  · exact ⟨waited, saw, counted⟩
  · exact ⟨fun _ => saw, fun _ => ⟨counted, waited⟩, fun _ _ _ => waited⟩

theorem waited_maxLoop (durationNs previousMax : UInt64) (waitStatus : ClInt)
    (waited : call.WaitedOnce) (saw : call.sawEnabled = true) (counted : call.counted = true) :
    ({ call with pc := call.maxLoop durationNs previousMax waitStatus } : EnqueueCall).Progress
      process := by
  unfold maxLoop
  split
  · exact ⟨waited, saw, counted⟩
  · exact waited_afterWait waitStatus waited saw counted

theorem waitedOnce_release {event : ClEvent} {status : ClInt} {pc : EnqueuePc}
    (waited : call.WaitedOnce) :
    ({ call with
        vendorCalls := call.vendorCalls ++ [VendorCall.releaseEvent event status]
        pc } : EnqueueCall).WaitedOnce := by
  obtain ⟨completion, accepted, waitedOn⟩ := waited
  refine ⟨completion, ?_, ?_⟩
  · simpa [completions, List.filterMap_cons] using accepted
  · simpa [waits, List.filterMap_cons] using waitedOn

/-- The slot a waiting call reads holds the event the vendor stored. -/
theorem eventToWait_store (stored : ClEvent) :
    (call.store (call.resultEvent true) (some stored)).eventToWait = stored := by
  cases atEvent : call.args.event <;> simp [eventToWait, store, resultEvent, atEvent]

/-- The vendor's enqueue: what it accepts and stores is what the call then knows. -/
theorem progress_afterEnqueue {shouldWait : Bool} (present : globals.real = process)
    (stores : outside.answer.StoresEvent) (untouched : call.vendorCalls = [])
    (saw : call.sawEnabled = shouldWait) (counted : call.counted = shouldWait)
    (recorded : call.recorded = false) :
    let slot := call.resultEvent shouldWait
    let stored := call.store slot outside.answer.stored
    ({ stored with
        vendorCalls := call.vendorCalls ++
          [VendorCall.enqueueNDRangeKernel call.args slot outside.answer]
        pc := stored.afterEnqueue globals.real shouldWait outside.answer.status } :
      EnqueueCall).Progress process := by
  dsimp only
  unfold afterEnqueue
  rw [untouched, List.nil_append]
  split
  · -- Rejected, or the flag was not observed: no wait follows.
    rename_i unwaited
    refine ⟨fun wasCounted => ?_, fun wasRecorded => ?_, fun _ accepted wasSeen => ?_⟩
    · exact saw.trans (counted.symm.trans wasCounted)
    · exact absurd wasRecorded (by simp [store, recorded])
    · rcases unwaited with rejected | unseen
      · exact absurd (by simp [completions, rejected]) accepted
      · exact absurd wasSeen (by simp [store, saw, unseen])
  · rename_i waiting
    obtain ⟨accepted, shouldWait⟩ : outside.answer.status = CL_SUCCESS ∧ shouldWait = true := by
      simpa using waiting
    subst shouldWait
    split
    · rename_i missing
      refine ⟨fun _ => saw, fun wasRecorded => ?_, fun complete => ?_⟩
      · exact absurd wasRecorded (by simp [store, recorded])
      · simp [present, complete] at missing
    · refine ⟨⟨?_, rfl⟩, saw, counted, recorded⟩
      rw [stores accepted, eventToWait_store]
      simp [completions, accepted]

theorem step_progress (resolved : globals.initOnce = true → globals.real = process)
    (past : call.pc ≠ .pthreadOnce → globals.initOnce = true)
    (stores : outside.answer.StoresEvent) (progress : call.Progress process)
    (stepped : call.step process globals outside = some (globals', call')) :
    call'.Progress process := by
  unfold step at stepped
  cases atPc : call.pc with
  | pthreadOnce =>
      simp only [Progress, atPc] at progress stepped
      obtain ⟨untouched, saw, counted, recorded⟩ := progress
      rw [Untouched] at untouched
      split at stepped <;> cases stepped
      · exact ⟨untouched, saw, counted, recorded⟩
      · simp [Progress, Finished, saw, counted, recorded]
  | loadInferenceEnabled =>
      simp only [Progress, atPc] at progress stepped
      obtain ⟨untouched, saw, counted, recorded⟩ := progress
      split at stepped <;> cases stepped
      · exact ⟨untouched, rfl, counted, recorded⟩
      · exact ⟨untouched, saw, counted, recorded⟩
  | addDispatchCount =>
      simp only [Progress, atPc] at progress stepped
      obtain ⟨untouched, saw, counted, recorded⟩ := progress
      cases stepped
      exact ⟨untouched, saw, rfl, recorded⟩
  | realEnqueue shouldWait =>
      simp only [Progress, atPc] at progress stepped
      obtain ⟨untouched, saw, counted, recorded⟩ := progress
      have present : globals.real = process := resolved (past (by simp [atPc]))
      cases stepped
      exact progress_afterEnqueue present stores untouched saw counted recorded
  | readStarted event =>
      simp only [Progress, atPc] at progress stepped
      cases stepped
      exact progress
  | realWait event startedNs =>
      simp only [Progress, atPc] at progress stepped
      obtain ⟨⟨accepted, unwaited⟩, saw, counted, recorded⟩ := progress
      cases stepped
      refine ⟨⟨event, ?_, ?_⟩, saw, counted, recorded⟩
      · simpa [completions, List.filterMap_cons] using accepted
      · simpa [waits, List.filterMap_cons] using unwaited
  | readEnded startedNs waitStatus =>
      simp only [Progress, atPc] at progress stepped
      split at stepped <;> cases stepped
      · exact progress
      · exact waited_afterWait waitStatus progress.1 progress.2.1 progress.2.2.1
  | addWaitCount durationNs waitStatus =>
      simp only [Progress, atPc] at progress stepped
      cases stepped
      exact ⟨progress.1, progress.2.1, progress.2.2.1⟩
  | addTotalWaitNs durationNs waitStatus =>
      simp only [Progress, atPc] at progress stepped
      cases stepped
      exact progress
  | loadMaxWaitNs durationNs waitStatus =>
      simp only [Progress, atPc] at progress stepped
      cases stepped
      exact waited_maxLoop _ _ _ progress.1 progress.2.1 progress.2.2
  | casMaxWaitNs durationNs previousMax waitStatus =>
      simp only [Progress, atPc] at progress stepped
      split at stepped <;> cases stepped
      · exact waited_afterWait _ progress.1 progress.2.1 progress.2.2
      · exact waited_maxLoop _ _ _ progress.1 progress.2.1 progress.2.2
  | realRelease waitStatus =>
      simp only [Progress, atPc] at progress stepped
      obtain ⟨waited, saw, counted⟩ := progress
      cases stepped
      exact ⟨fun _ => saw, fun _ => ⟨counted, waitedOnce_release waited⟩,
        fun _ _ _ => waitedOnce_release waited⟩
  | returned status =>
      simp only [atPc] at stepped
      contradiction

/-- The dispatch counter moves with `counted`. -/
theorem step_dispatchCount (progress : call.Progress process)
    (stepped : call.step process globals outside = some (globals', call')) :
    (globals'.dispatchCount = globals.dispatchCount ∧ call'.counted = call.counted) ∨
      (globals'.dispatchCount = globals.dispatchCount + 1 ∧
        call.counted = false ∧ call'.counted = true) := by
  unfold step at stepped
  cases atPc : call.pc <;> simp only [atPc] at stepped
  case addDispatchCount =>
    simp only [Progress, atPc] at progress
    cases stepped
    exact Or.inr ⟨rfl, progress.2.2.1, rfl⟩
  case pthreadOnce =>
    split at stepped <;> cases stepped <;> unfold Globals.pthreadOnce <;>
      split <;> exact Or.inl ⟨rfl, rfl⟩
  all_goals
    (try split at stepped) <;> cases stepped <;> exact Or.inl ⟨rfl, rfl⟩

/-- The wait counter moves with `recorded`. -/
theorem step_waitCount (progress : call.Progress process)
    (stepped : call.step process globals outside = some (globals', call')) :
    (globals'.waitCount = globals.waitCount ∧ call'.recorded = call.recorded) ∨
      (globals'.waitCount = globals.waitCount + 1 ∧
        call.recorded = false ∧ call'.recorded = true) := by
  unfold step at stepped
  cases atPc : call.pc <;> simp only [atPc] at stepped
  case addWaitCount =>
    simp only [Progress, atPc] at progress
    cases stepped
    exact Or.inr ⟨rfl, progress.2.2.2, rfl⟩
  case pthreadOnce =>
    split at stepped <;> cases stepped <;> unfold Globals.pthreadOnce <;>
      split <;> exact Or.inl ⟨rfl, rfl⟩
  all_goals
    (try split at stepped) <;> cases stepped <;> exact Or.inl ⟨rfl, rfl⟩

/-- At every program counter an increment of the wait counter implies one of
the dispatch counter and the wait itself. -/
theorem Progress.recorded_waited (progress : call.Progress process)
    (recorded : call.recorded = true) : call.counted = true ∧ call.WaitedOnce := by
  cases atPc : call.pc <;> simp only [Progress, atPc] at progress
  case returned => exact progress.2.1 recorded
  case addTotalWaitNs | loadMaxWaitNs | casMaxWaitNs | realRelease =>
    exact ⟨progress.2.2, progress.1⟩
  all_goals exact absurd recorded (by simp [progress.2.2.2])

theorem Progress.counted_sawEnabled (progress : call.Progress process)
    (counted : call.counted = true) : call.sawEnabled = true := by
  cases atPc : call.pc <;> simp only [Progress, atPc] at progress
  case returned => exact progress.1 counted
  case realEnqueue => exact progress.2.1.trans (progress.2.2.1.symm.trans counted)
  case pthreadOnce | loadInferenceEnabled => exact absurd counted (by simp [progress.2.2.1])
  all_goals exact progress.2.1

end EnqueueCall

end BssLiteRt.Shim
