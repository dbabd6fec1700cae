import BssLiteRt.Shim.Counters
import Mathlib.Data.Int.Order.Basic

/-!
Owns what the two counters tell an observer who reads them one after the other while
kernels are submitted: the waits have to be read first.
-/

namespace BssLiteRt.Shim

open BssLiteRt.Library.Transition BssLiteRt.Library.Counting

/-! ### The getters -/

/-- `(jlong)atomic_load_explicit(&g_dispatch_count, memory_order_relaxed)` -/
def Globals.nativeGetDispatchCount (globals : Globals) : Int64 :=
  globals.dispatchCount.toInt64

def Globals.nativeGetEventWaitCount (globals : Globals) : Int64 :=
  globals.waitCount.toInt64

theorem toInt_toInt64 {count : UInt64} (small : count.toNat < 2 ^ 63) :
    count.toInt64.toInt = count.toNat := by
  rw [← Int64.toInt_toBitVec, UInt64.toBitVec_toInt64, BitVec.toInt_eq_toNat_of_lt]
  · rfl
  · show 2 * count.toNat < 2 ^ 64
    omega

/-! ### Between two reads -/

/-- The action resets no counter, and its vendor stores the events of accepted kernels. -/
def Action.LeavesCounters : Action → Prop
  | .advance _ outside => outside.answer.StoresEvent
  | .nativeResetInferenceCounters => False
  | .clEnqueueNDRangeKernel _ | .nativeSetInferenceEnabled _ | .advanceReset _ => True

instance : (action : Action) → Decidable action.LeavesCounters
  | .advance _ outside => inferInstanceAs (Decidable outside.answer.StoresEvent)
  | .nativeResetInferenceCounters => inferInstanceAs (Decidable False)
  | .clEnqueueNDRangeKernel _ | .nativeSetInferenceEnabled _ | .advanceReset _ =>
      inferInstanceAs (Decidable True)

theorem Action.LeavesCounters.storesEvent {action : Action} (leaves : action.LeavesCounters) :
    action.StoresEvent := by
  cases action with
  | advance index outside => exact leaves
  | _ => trivial

namespace State

variable {process : VendorSymbols} {actions more : List Action} {state after : State}
  {action : Action}

/-- A run between two reads. -/
abbrev Undisturbed (state : State) : List Action → State → Prop :=
  ReachesWhile State.step (fun _ _ action => action.LeavesCounters) state

/-- What has been waited for at the first read still counts at the second. -/
structure Grown (state after : State) : Prop where
  resets : after.resets = state.resets
  epoch : after.epoch = state.epoch
  calls : state.calls.length ≤ after.calls.length
  recorded : state.calls.countP (EnqueueCall.recordedIn state.epoch) ≤
    after.calls.countP (EnqueueCall.recordedIn state.epoch)

theorem Grown.trans {last : State} (first : Grown state after) (second : Grown after last) :
    Grown state last where
  resets := second.resets.trans first.resets
  epoch := second.epoch.trans first.epoch
  calls := Nat.le_trans first.calls second.calls
  recorded := Nat.le_trans first.recorded (first.epoch ▸ second.recorded)

theorem grown_advance {index : Nat} {outside : Outside} (calls : state.CallsInvariant)
    (stepped : state.step (.advance index outside) = some after) : Grown state after := by
  obtain ⟨call, found, moved⟩ := Option.bind_eq_some_iff.mp stepped
  obtain ⟨⟨globals, next⟩, callStepped, rfl⟩ := Option.map_eq_some_iff.mp moved
  have member : call ∈ state.calls := List.mem_of_getElem? found
  obtain ⟨sameEpoch, -, -, inFlight⟩ := EnqueueCall.step_frame callStepped
  have current := calls.current call member inFlight
  have nextCurrent := sameEpoch.trans current
  refine ⟨rfl, rfl, Nat.le_of_eq List.length_set.symm, ?_⟩
  rcases EnqueueCall.step_waitCount (calls.progress call member) callStepped with
    ⟨-, same⟩ | ⟨-, absent, present⟩
  · refine Nat.le_of_eq (countP_set_same found ?_).symm
    simp [EnqueueCall.recordedIn, current, nextCurrent, same]
  · rw [countP_set_gained found (by simp [EnqueueCall.recordedIn, absent])
      (by simp [EnqueueCall.recordedIn, nextCurrent, present])]
    omega

theorem grown_step (calls : state.CallsInvariant)
    (settled : ∀ reset ∈ state.resets, reset = .returned) (leaves : action.LeavesCounters)
    (stepped : state.step action = some after) : Grown state after := by
  cases action with
  | clEnqueueNDRangeKernel args =>
      simp only [State.step, Option.ite_none_right_eq_some, Option.some.injEq] at stepped
      obtain ⟨-, rfl⟩ := stepped
      refine ⟨rfl, rfl, ?_, ?_⟩
      · simp
      · rw [List.countP_append]
        omega
  | advance index outside => exact grown_advance calls stepped
  | nativeSetInferenceEnabled enabled =>
      cases stepped
      exact ⟨rfl, rfl, Nat.le_refl _, Nat.le_refl _⟩
  | nativeResetInferenceCounters => exact absurd leaves id
  | advanceReset index =>
      obtain ⟨reset, found, moved⟩ := Option.bind_eq_some_iff.mp stepped
      rw [settled reset (List.mem_of_getElem? found)] at moved
      cases moved

theorem Undisturbed.grown (undisturbed : state.Undisturbed more after)
    (calls : state.CallsInvariant) (settled : ∀ reset ∈ state.resets, reset = .returned) :
    Grown state after := by
  have kept : after.CallsInvariant ∧ Grown state after := by
    refine @ReachesWhile.invariant _ _ _ _ _
      (fun _ current => current.CallsInvariant ∧ Grown state current) ?_ ?_ _ _ undisturbed
    · exact ⟨calls, rfl, rfl, Nat.le_refl _, Nat.le_refl _⟩
    · intro _ current action next ⟨invariant, grown⟩ leaves stepped
      have stillSettled : ∀ reset ∈ current.resets, reset = .returned := by
        rwa [grown.resets]
      exact ⟨invariant.step leaves.storesEvent stepped,
        grown.trans (grown_step invariant stillSettled leaves stepped)⟩
  exact kept.2

theorem not_midReset (settled : ∀ reset ∈ state.resets, reset = .returned) : ¬ state.MidReset :=
  fun mid => absurd (settled _ mid) (by decide)

/-- One kernel has been waited for. -/
def afterOneWait : State :=
  (runActions State.step (fun _ _ action => action.StoresEvent) [] (.initial ⟨true, true, true⟩)
    oneWaitedCall).getD (.initial ⟨true, true, true⟩)

theorem reached_afterOneWait : Reached ⟨true, true, true⟩ oneWaitedCall afterOneWait :=
  reachesWhile_of_runActions rfl

/-- Another kernel is submitted. -/
def secondKernel (steps : Nat) : List Action :=
  .clEnqueueNDRangeKernel oneKernel :: List.replicate steps (.advance 1 accepting)

/-- The other way round, equal reads are no evidence: a kernel dispatched in between has
not been waited for. -/
theorem dispatches_read_first_no_evidence :
    ¬ ∀ (process : VendorSymbols) (actions more : List Action) (state after : State),
        Reached process actions state → (∀ reset ∈ state.resets, reset = .returned) →
        state.Undisturbed more after → after.calls.length < 2 ^ 63 →
        state.globals.nativeGetDispatchCount = after.globals.nativeGetEventWaitCount →
          ∀ call ∈ after.dispatched, call.WaitedOnce := by
  intro evidence
  have undisturbed : afterOneWait.Undisturbed (secondKernel 4) _ := reachesWhile_of_runActions rfl
  obtain ⟨completion, -, waits⟩ := evidence _ _ _ _ _ reached_afterOneWait (by decide) undisturbed
    (by decide) (by decide) _ (List.mem_of_mem_getLast? (by rfl))
  cases waits

end State

end BssLiteRt.Shim
