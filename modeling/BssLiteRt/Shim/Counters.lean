import BssLiteRt.Shim.Progress
import BssLiteRt.Library.Counting
import Mathlib.Algebra.Group.Nat.Defs

/-!
Owns what the dispatch and wait counters of the shim say about its calls, in
every state reachable with resets only between calls.

Each counter is the number of calls since the last reset that performed its
increment, with one exception: a reset that has cleared `g_dispatch_count` and
not yet `g_wait_count`.
-/

namespace BssLiteRt.Shim

open BssLiteRt.Library.Transition BssLiteRt.Library.Counting

/-! ### One step of a reset -/

theorem Globals.pthreadOnce_counters (process : VendorSymbols) (globals : Globals) :
    (globals.pthreadOnce process).dispatchCount = globals.dispatchCount ∧
      (globals.pthreadOnce process).waitCount = globals.waitCount := by
  unfold Globals.pthreadOnce
  split <;> exact ⟨rfl, rfl⟩

theorem ResetPc.step_frame {globals globals' : Globals} {reset next : ResetPc}
    (stepped : reset.step globals = some (globals', next)) :
    reset ≠ .returned ∧ globals'.initOnce = globals.initOnce ∧ globals'.real = globals.real := by
  cases reset <;> cases stepped <;> exact ⟨by simp, rfl, rfl⟩

theorem Globals.pthreadOnce_symbols {process : VendorSymbols} {globals : Globals}
    (resolved : globals.initOnce = true → globals.real = process) :
    (globals.pthreadOnce process).initOnce = true ∧ (globals.pthreadOnce process).real = process := by
  unfold Globals.pthreadOnce
  split
  · rename_i initialized
    exact ⟨initialized, resolved initialized⟩
  · exact ⟨rfl, rfl⟩

/-! ### The counters -/

/-- The call was started since the given number of resets and performed its
dispatch increment. -/
def EnqueueCall.countedIn (epoch : Nat) (call : EnqueueCall) : Bool :=
  call.epoch == epoch && call.counted

/-- The call was started since the given number of resets and performed its
wait increment. -/
def EnqueueCall.recordedIn (epoch : Nat) (call : EnqueueCall) : Bool :=
  call.epoch == epoch && call.recorded

namespace State

/-- Some reset has stored 0 to `g_dispatch_count` and not yet to
`g_wait_count`. -/
def MidReset (state : State) : Prop :=
  .storeWaitCount ∈ state.resets

instance (state : State) : Decidable state.MidReset :=
  inferInstanceAs (Decidable (_ ∈ _))

/-- What holds of the calls in every reachable state. -/
structure CallsInvariant (state : State) : Prop where
  symbols : state.globals.initOnce = true → state.globals.real = state.process
  past : ∀ call ∈ state.calls, call.pc ≠ .pthreadOnce → state.globals.initOnce = true
  progress : ∀ call ∈ state.calls, call.Progress state.process
  epochs : ∀ call ∈ state.calls, call.epoch ≤ state.epoch
  current : ∀ call ∈ state.calls, call.inFlight = true → call.epoch = state.epoch
  alone : (∃ reset ∈ state.resets, reset ≠ .returned) →
    ∀ call ∈ state.calls, call.inFlight = false
  cleared : (∃ reset ∈ state.resets, reset ≠ .returned ∧ reset ≠ .storeInferenceEnabled ∧
      reset ≠ .storeDispatchCount) →
    ∀ call ∈ state.calls, call.epoch < state.epoch

/-- Each counter is the number of calls that performed its increment. -/
structure CountersInvariant (state : State) : Prop where
  dispatchCount :
    state.globals.dispatchCount = UInt64.ofNat (state.calls.countP (EnqueueCall.countedIn state.epoch))
  waitCount : state.MidReset ∨
    state.globals.waitCount = UInt64.ofNat (state.calls.countP (EnqueueCall.recordedIn state.epoch))

namespace CallsInvariant

variable {state after : State}

theorem initial (process : VendorSymbols) : (State.initial process).CallsInvariant where
  symbols initialized := by cases initialized
  past := by simp [State.initial]
  progress := by simp [State.initial]
  epochs := by simp [State.initial]
  current := by simp [State.initial]
  alone := by simp [State.initial]
  cleared := by simp [State.initial]

theorem clEnqueueNDRangeKernel {args : EnqueueArgs} (invariant : state.CallsInvariant)
    (stepped : state.step (.clEnqueueNDRangeKernel args) = some after) :
    after.CallsInvariant := by
  simp only [State.step, Option.ite_none_right_eq_some, Option.some.injEq] at stepped
  obtain ⟨idle, rfl⟩ := stepped
  have none (reset : ResetPc) (member : reset ∈ state.resets) : reset = .returned := by
    simpa using List.all_eq_true.mp idle reset member
  constructor
  case symbols => exact invariant.symbols
  case past => exact forall_append_one invariant.past (fun moved => absurd rfl moved)
  case progress => exact forall_append_one invariant.progress ⟨rfl, rfl, rfl, rfl⟩
  case epochs => exact forall_append_one invariant.epochs (Nat.le_refl _)
  case current => exact forall_append_one invariant.current (fun _ => rfl)
  case alone =>
    rintro ⟨reset, member, running⟩
    exact absurd (none reset member) running
  case cleared =>
    rintro ⟨reset, member, running, -⟩
    exact absurd (none reset member) running

theorem advance {index : Nat} {outside : Outside} (invariant : state.CallsInvariant)
    (stores : outside.answer.StoresEvent)
    (stepped : state.step (.advance index outside) = some after) : after.CallsInvariant := by
  obtain ⟨call, found, moved⟩ := Option.bind_eq_some_iff.mp stepped
  obtain ⟨⟨globals, next⟩, callStepped, rfl⟩ := Option.map_eq_some_iff.mp moved
  have member : call ∈ state.calls := List.mem_of_getElem? found
  obtain ⟨sameEpoch, -, -, inFlight⟩ := EnqueueCall.step_frame callStepped
  have past := invariant.past call member
  have symbols := EnqueueCall.step_symbols invariant.symbols past callStepped
  have current := invariant.current call member inFlight
  have noReset : ¬ ∃ reset ∈ state.resets, reset ≠ .returned := fun running =>
    absurd (invariant.alone running call member) (by simp [inFlight])
  constructor
  case symbols => exact fun _ => symbols.2
  case past => exact fun _ _ _ => symbols.1
  case progress =>
    exact forall_set invariant.progress
      (EnqueueCall.step_progress invariant.symbols past stores
        (invariant.progress call member) callStepped)
  case epochs => exact forall_set invariant.epochs (Nat.le_of_eq (sameEpoch.trans current))
  case current => exact forall_set invariant.current (fun _ => sameEpoch.trans current)
  case alone => exact fun running => absurd running noReset
  case cleared =>
    rintro ⟨reset, resetMember, running, -⟩
    exact absurd ⟨reset, resetMember, running⟩ noReset

theorem nativeSetInferenceEnabled {enabled : Bool} (invariant : state.CallsInvariant)
    (stepped : state.step (.nativeSetInferenceEnabled enabled) = some after) :
    after.CallsInvariant := by
  cases stepped
  have symbols := Globals.pthreadOnce_symbols invariant.symbols
  exact { invariant with symbols := fun _ => symbols.2, past := fun _ _ _ => symbols.1 }

theorem nativeResetInferenceCounters (invariant : state.CallsInvariant)
    (stepped : state.step .nativeResetInferenceCounters = some after) :
    after.CallsInvariant := by
  simp only [State.step, Option.ite_none_right_eq_some, Option.some.injEq] at stepped
  obtain ⟨idle, rfl⟩ := stepped
  have symbols := Globals.pthreadOnce_symbols invariant.symbols
  constructor
  case symbols => exact fun _ => symbols.2
  case past => exact fun _ _ _ => symbols.1
  case progress => exact invariant.progress
  case epochs => exact invariant.epochs
  case current => exact invariant.current
  case alone =>
    intro _ call member
    simpa using List.all_eq_true.mp idle call member
  case cleared =>
    rintro ⟨reset, member, running, started, stored⟩
    rcases List.mem_append.mp member with old | new
    · exact invariant.cleared ⟨reset, old, running, started, stored⟩
    · exact absurd (List.mem_singleton.mp new) started

theorem advanceReset {index : Nat} (invariant : state.CallsInvariant)
    (stepped : state.step (.advanceReset index) = some after) : after.CallsInvariant := by
  obtain ⟨reset, found, moved⟩ := Option.bind_eq_some_iff.mp stepped
  obtain ⟨⟨globals, next⟩, resetStepped, rfl⟩ := Option.map_eq_some_iff.mp moved
  have member : reset ∈ state.resets := List.mem_of_getElem? found
  obtain ⟨running, sameOnce, sameReal⟩ := ResetPc.step_frame resetStepped
  have idle := invariant.alone ⟨reset, member, running⟩
  constructor
  case symbols => simpa only [sameOnce, sameReal] using invariant.symbols
  case past => simpa only [sameOnce] using invariant.past
  case progress => exact invariant.progress
  case epochs =>
    intro call callMember
    have before := invariant.epochs call callMember
    show call.epoch ≤ if reset = .storeDispatchCount then state.epoch + 1 else state.epoch
    split <;> omega
  case current =>
    intro call callMember inFlight
    exact absurd inFlight (by simp [idle call callMember])
  case alone => exact fun _ => idle
  case cleared =>
    rintro ⟨other, otherMember, otherRunning, started, stored⟩ call callMember
    show call.epoch < if reset = .storeDispatchCount then state.epoch + 1 else state.epoch
    split
    · exact Nat.lt_succ_of_le (invariant.epochs call callMember)
    · rename_i later
      refine invariant.cleared ?_ call callMember
      rcases List.mem_or_eq_of_mem_set otherMember with old | rfl
      · exact ⟨other, old, otherRunning, started, stored⟩
      · -- The reset that moved had passed the dispatch counter already.
        refine ⟨reset, member, running, ?_, later⟩
        rintro rfl
        cases resetStepped
        exact stored rfl

theorem step {action : Action} (invariant : state.CallsInvariant) (stores : action.StoresEvent)
    (stepped : state.step action = some after) : after.CallsInvariant := by
  cases action with
  | clEnqueueNDRangeKernel args => exact invariant.clEnqueueNDRangeKernel stepped
  | advance index outside => exact invariant.advance stores stepped
  | nativeSetInferenceEnabled enabled => exact invariant.nativeSetInferenceEnabled stepped
  | nativeResetInferenceCounters => exact invariant.nativeResetInferenceCounters stepped
  | advanceReset index => exact invariant.advanceReset stepped

end CallsInvariant

/-! ### The counters count -/

namespace CountersInvariant

variable {state after : State}

theorem initial (process : VendorSymbols) : (State.initial process).CountersInvariant :=
  ⟨rfl, Or.inr rfl⟩

theorem clEnqueueNDRangeKernel {args : EnqueueArgs} (counters : state.CountersInvariant)
    (stepped : state.step (.clEnqueueNDRangeKernel args) = some after) :
    after.CountersInvariant := by
  simp only [State.step, Option.ite_none_right_eq_some, Option.some.injEq] at stepped
  obtain ⟨-, rfl⟩ := stepped
  constructor
  · rw [List.countP_append]
    simpa [EnqueueCall.countedIn] using counters.dispatchCount
  · refine counters.waitCount.imp_right fun waitCount => ?_
    rw [List.countP_append]
    simpa [EnqueueCall.recordedIn] using waitCount

theorem advance {index : Nat} {outside : Outside} (counters : state.CountersInvariant)
    (calls : state.CallsInvariant)
    (stepped : state.step (.advance index outside) = some after) : after.CountersInvariant := by
  obtain ⟨call, found, moved⟩ := Option.bind_eq_some_iff.mp stepped
  obtain ⟨⟨globals, next⟩, callStepped, rfl⟩ := Option.map_eq_some_iff.mp moved
  have member : call ∈ state.calls := List.mem_of_getElem? found
  have progress := calls.progress call member
  obtain ⟨sameEpoch, -, -, inFlight⟩ := EnqueueCall.step_frame callStepped
  have current := calls.current call member inFlight
  have nextCurrent := sameEpoch.trans current
  constructor
  · show globals.dispatchCount =
      UInt64.ofNat ((state.calls.set index next).countP (EnqueueCall.countedIn state.epoch))
    rcases EnqueueCall.step_dispatchCount progress callStepped with
      ⟨sameCount, same⟩ | ⟨oneMore, absent, present⟩
    · rw [countP_set_same found (by simp [EnqueueCall.countedIn, current, nextCurrent, same]), sameCount]
      exact counters.dispatchCount
    · rw [countP_set_gained found (by simp [EnqueueCall.countedIn, absent])
        (by simp [EnqueueCall.countedIn, nextCurrent, present]), oneMore, counters.dispatchCount]
      exact (UInt64.ofNat_add _ _).symm
  · refine counters.waitCount.imp_right fun waitCount => ?_
    show globals.waitCount =
      UInt64.ofNat ((state.calls.set index next).countP (EnqueueCall.recordedIn state.epoch))
    rcases EnqueueCall.step_waitCount progress callStepped with
      ⟨sameCount, same⟩ | ⟨oneMore, absent, present⟩
    · rw [countP_set_same found (by simp [EnqueueCall.recordedIn, current, nextCurrent, same]), sameCount]
      exact waitCount
    · rw [countP_set_gained found (by simp [EnqueueCall.recordedIn, absent])
        (by simp [EnqueueCall.recordedIn, nextCurrent, present]), oneMore, waitCount]
      exact (UInt64.ofNat_add _ _).symm

/-- No call belongs to the epoch a reset has opened. -/
theorem countP_cleared {counted : EnqueueCall → Bool} {epoch : Nat}
    (cleared : ∀ call ∈ state.calls, call.epoch < epoch) :
    state.calls.countP (fun call => call.epoch == epoch && counted call) = 0 := by
  rw [List.countP_eq_zero]
  intro call member
  have before := cleared call member
  simp [Nat.ne_of_lt before]

theorem advanceReset {index : Nat} (counters : state.CountersInvariant)
    (calls : state.CallsInvariant)
    (stepped : state.step (.advanceReset index) = some after) : after.CountersInvariant := by
  obtain ⟨reset, found, moved⟩ := Option.bind_eq_some_iff.mp stepped
  obtain ⟨⟨globals, next⟩, resetStepped, rfl⟩ := Option.map_eq_some_iff.mp moved
  have member : reset ∈ state.resets := List.mem_of_getElem? found
  have inRange : index < state.resets.length := (List.getElem?_eq_some_iff.mp found).1
  have keepsMidReset (other : reset ≠ .storeWaitCount) (mid : state.MidReset) :
      .storeWaitCount ∈ state.resets.set index next :=
    mem_set_other found other mid
  cases reset with
  | storeInferenceEnabled =>
      cases resetStepped
      exact ⟨counters.dispatchCount, counters.waitCount.imp_left (keepsMidReset (by simp))⟩
  | storeDispatchCount =>
      cases resetStepped
      have cleared : ∀ call ∈ state.calls, call.epoch < state.epoch + 1 :=
        fun call callMember => Nat.lt_succ_of_le (calls.epochs call callMember)
      refine ⟨?_, Or.inl (List.mem_set inRange _)⟩
      exact (congrArg UInt64.ofNat (countP_cleared cleared)).symm
  | storeWaitCount =>
      cases resetStepped
      have cleared := calls.cleared ⟨.storeWaitCount, member, by simp⟩
      exact ⟨counters.dispatchCount,
        Or.inr (congrArg UInt64.ofNat (countP_cleared cleared)).symm⟩
  | storeTotalWaitNs | storeMaxWaitNs =>
      cases resetStepped
      exact ⟨counters.dispatchCount, counters.waitCount.imp_left (keepsMidReset (by simp))⟩
  | returned => cases resetStepped

theorem step {action : Action} (counters : state.CountersInvariant)
    (calls : state.CallsInvariant) (stepped : state.step action = some after) :
    after.CountersInvariant := by
  cases action with
  | clEnqueueNDRangeKernel args => exact counters.clEnqueueNDRangeKernel stepped
  | advance index outside => exact counters.advance calls stepped
  | nativeSetInferenceEnabled enabled =>
      cases stepped
      obtain ⟨sameDispatch, sameWait⟩ := Globals.pthreadOnce_counters state.process state.globals
      refine ⟨sameDispatch.trans counters.dispatchCount, counters.waitCount.imp_right fun waits => ?_⟩
      exact sameWait.trans waits
  | nativeResetInferenceCounters =>
      simp only [State.step, Option.ite_none_right_eq_some, Option.some.injEq] at stepped
      obtain ⟨-, rfl⟩ := stepped
      obtain ⟨sameDispatch, sameWait⟩ := Globals.pthreadOnce_counters state.process state.globals
      refine ⟨sameDispatch.trans counters.dispatchCount, counters.waitCount.imp ?_ fun waits => ?_⟩
      · exact fun mid => List.mem_append_left _ mid
      · exact sameWait.trans waits
  | advanceReset index => exact counters.advanceReset calls stepped

end CountersInvariant


/-- The calls started since the last reset stored 0 to `g_dispatch_count` that
observed inference enabled and performed their dispatch increment. -/
def dispatched (state : State) : List EnqueueCall :=
  state.calls.filter fun call => call.epoch == state.epoch && call.sawEnabled && call.counted

/-- A state of the shim reached by any interleaving, with a vendor that stores
the events of the kernels it accepts. -/
abbrev Reached (process : VendorSymbols) : List Action → State → Prop :=
  ReachesWhile State.step (fun _ _ action => action.StoresEvent) (State.initial process)

theorem Reached.invariant {process : VendorSymbols} {actions : List Action} {state : State}
    (reached : Reached process actions state) :
    state.CallsInvariant ∧ state.CountersInvariant := by
  refine @ReachesWhile.invariant _ _ _ _ _
    (fun _ state => state.CallsInvariant ∧ state.CountersInvariant) ?_ ?_ _ _ reached
  · exact ⟨.initial process, .initial process⟩
  · rintro _ _ action after ⟨calls, counters⟩ stores stepped
    exact ⟨calls.step stores stepped, counters.step calls stepped⟩

namespace CallsInvariant

variable {state : State}

theorem length_dispatched (calls : state.CallsInvariant) :
    state.dispatched.length = state.calls.countP (EnqueueCall.countedIn state.epoch) := by
  rw [dispatched, ← List.countP_eq_length_filter]
  apply List.countP_congr
  intro call member
  have saw := (calls.progress call member).counted_sawEnabled
  cases counted : call.counted <;> simp_all [EnqueueCall.countedIn]

theorem recordedIn_countedIn (calls : state.CallsInvariant) :
    ∀ call ∈ state.calls, EnqueueCall.recordedIn state.epoch call = true →
      EnqueueCall.countedIn state.epoch call = true := by
  intro call member recorded
  rw [EnqueueCall.recordedIn, Bool.and_eq_true] at recorded
  obtain ⟨counted, -⟩ := (calls.progress call member).recorded_waited recorded.2
  rw [EnqueueCall.countedIn, recorded.1, counted]
  rfl

end CallsInvariant

namespace CountersInvariant

variable {state : State}

theorem toNat_ofNat_countP {property : EnqueueCall → Bool} (few : state.calls.length < 2 ^ 64) :
    (UInt64.ofNat (state.calls.countP property)).toNat = state.calls.countP property :=
  UInt64.toNat_ofNat_of_lt (Nat.lt_of_le_of_lt List.countP_le_length few)

theorem dispatchCount_toNat (counters : state.CountersInvariant)
    (few : state.calls.length < 2 ^ 64) :
    state.globals.dispatchCount.toNat =
      state.calls.countP (EnqueueCall.countedIn state.epoch) := by
  rw [counters.dispatchCount, toNat_ofNat_countP few]

theorem waitCount_toNat (counters : state.CountersInvariant) (between : ¬ state.MidReset)
    (few : state.calls.length < 2 ^ 64) :
    state.globals.waitCount.toNat =
      state.calls.countP (EnqueueCall.recordedIn state.epoch) := by
  rw [counters.waitCount.resolve_left between, toNat_ofNat_countP few]

end CountersInvariant

/-- While a reset is between its two stores no call is counted. -/
theorem dispatched_midReset {state : State} (calls : state.CallsInvariant)
    (mid : state.MidReset) : state.dispatched = [] := by
  have cleared := calls.cleared ⟨.storeWaitCount, mid, by simp⟩
  apply List.filter_eq_nil_iff.mpr
  intro call member
  have before := cleared call member
  simp [Nat.ne_of_lt before]

/-- In every reachable state with fewer than `2 ^ 64` calls the counters are
evidence of waits: the wait counter exceeds the dispatch counter only while a
reset is between its stores to the two, the dispatch counter is the number of
calls it stands for, and where the two agree each of these calls waited once for
its own kernel. -/
theorem counters_are_evidence {process : VendorSymbols} {actions : List Action} {state : State}
    (reached : Reached process actions state) (few : state.calls.length < 2 ^ 64) :
    (¬ state.MidReset → state.globals.waitCount ≤ state.globals.dispatchCount) ∧
      state.globals.dispatchCount.toNat = state.dispatched.length ∧
      (state.globals.waitCount = state.globals.dispatchCount →
        ∀ call ∈ state.dispatched, call.WaitedOnce) := by
  obtain ⟨calls, counters⟩ := reached.invariant
  have dispatchCount := counters.dispatchCount_toNat few
  refine ⟨fun between => ?_, ?_, fun agree call member => ?_⟩
  · rw [UInt64.le_iff_toNat_le, dispatchCount, counters.waitCount_toNat between few]
    exact List.countP_mono_left calls.recordedIn_countedIn
  · rw [dispatchCount, calls.length_dispatched]
  · by_cases mid : state.MidReset
    · rw [dispatched_midReset calls mid] at member
      cases member
    · obtain ⟨inCalls, shown⟩ := List.mem_filter.mp member
      obtain ⟨⟨now, -⟩, counted⟩ : (call.epoch = state.epoch ∧ call.sawEnabled = true) ∧
          call.counted = true := by simpa using shown
      have equal : state.calls.countP (EnqueueCall.recordedIn state.epoch) =
          state.calls.countP (EnqueueCall.countedIn state.epoch) := by
        rw [← dispatchCount, ← counters.waitCount_toNat mid few, agree]
      have recorded := forall_of_countP_eq calls.recordedIn_countedIn equal call inCalls
        (by simp [EnqueueCall.countedIn, now, counted])
      have hasRecorded : call.recorded = true := (Bool.and_eq_true _ _ ▸ recorded).2
      exact ((calls.progress call inCalls).recorded_waited hasRecorded).2

/-! ### A run -/

/-- One answer of a vendor that accepts every kernel, with a clock that fails. -/
def accepting : Outside where
  answer := ⟨CL_SUCCESS, 7, some 7⟩
  waitStatus := CL_SUCCESS
  releaseStatus := CL_SUCCESS
  now := none
  casFails := false

/-- One kernel without an event of the caller. -/
def oneKernel : EnqueueArgs := ⟨1, 2, 3, 0, 4, 5, 0, 0, none⟩

/-- One call of an active inference, from its start to its return. -/
def oneWaitedCall : List Action :=
  .nativeSetInferenceEnabled true :: .clEnqueueNDRangeKernel oneKernel ::
    List.replicate 11 (.advance 0 accepting)

/-- A reset that has cleared `g_dispatch_count` only. -/
def halfReset : List Action :=
  [.nativeResetInferenceCounters, .advanceReset 0, .advanceReset 0]

theorem counters_are_evidence_one_waited_call :
    ∃ state : State, Reached ⟨true, true, true⟩ oneWaitedCall state ∧
      state.globals.waitCount = 1 ∧ state.globals.waitCount ≤ state.globals.dispatchCount ∧
      ∀ call ∈ state.dispatched, call.WaitedOnce := by
  have reached : Reached ⟨true, true, true⟩ oneWaitedCall _ := reachesWhile_of_runActions rfl
  obtain ⟨ordered, -, waited⟩ := counters_are_evidence reached (by decide)
  exact ⟨_, reached, by decide, ordered (by decide), waited (by decide)⟩

/-- Between two stores of a reset the wait counter exceeds the dispatch
counter. -/
theorem wait_count_exceeds_mid_reset :
    ¬ ∀ (process : VendorSymbols) (actions : List Action) (state : State),
        Reached process actions state → state.calls.length < 2 ^ 64 →
          state.globals.waitCount ≤ state.globals.dispatchCount := by
  intro ordered
  have reached : Reached ⟨true, true, true⟩ (oneWaitedCall ++ halfReset) _ :=
    reachesWhile_of_runActions rfl
  exact absurd (ordered _ _ _ reached (by decide)) (by decide)

end State

end BssLiteRt.Shim
