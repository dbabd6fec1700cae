import BssLiteRt.Shim.Sessions

/-!
Owns the sessions that never overlap: whatever their threads do, every kernel of a
session has been waited for when the session ends.
-/

namespace BssLiteRt.Shim.Client

open BssLiteRt.Library.Transition BssLiteRt.Library.Counting

/-! ### Sessions one after the other -/

/-- A session begins only after every other one has ended. -/
def Exclusive (client : Client) : ClientAction → Prop
  | .beginInference => ∀ phase ∈ client.sessions, phase = .ended
  | .clEnqueueNDRangeKernel _ _ | .advance _ _ | .endInference _ => True

instance (client : Client) : (action : ClientAction) → Decidable (client.Exclusive action)
  | .beginInference => inferInstanceAs (Decidable (∀ _ ∈ _, _))
  | .clEnqueueNDRangeKernel _ _ | .advance _ _ | .endInference _ => inferInstanceAs (Decidable True)

abbrev ReachedExclusively : List ClientAction → Client → Prop :=
  ReachesWhile Client.step (fun _ client action => action.StoresEvent ∧ client.Exclusive action)
    Client.initial

/-- A call in flight belongs to the active session, which the flag covers. -/
structure Alternating (actions : List ClientAction) (client : Client) : Prop where
  covered : Covered actions client
  paired : client.owners.length = client.shim.calls.length
  latest : .active ∈ client.sessions → latestBegin actions = true
  single : client.sessions.countP (· = .active) ≤ 1
  owned : ∀ (index owner : Nat) (call : EnqueueCall), client.owners[index]? = some owner →
    client.shim.calls[index]? = some call → call.inFlight = true →
      client.sessions[owner]? = some .active

theorem ready_iff {client : Client} {session : Nat} :
    client.ready session = true ↔ client.sessions[session]? = some .active ∧
      ∀ pair ∈ client.owners.zip client.shim.calls,
        pair.1 = session → pair.2.inFlight = false := by
  rw [ready, Bool.and_eq_true, beq_iff_eq, List.all_eq_true]
  refine and_congr_right fun _ => forall_congr' fun pair => forall_congr' fun _ => ?_
  by_cases same : pair.1 = session <;> simp [same]

namespace Alternating

variable {actions : List ClientAction} {client after : Client}

theorem initial : Alternating [] Client.initial where
  covered := ⟨rfl, .initial _, rfl, by simp [Client.initial, State.initial]⟩
  paired := rfl
  latest := by simp [Client.initial]
  single := by simp [Client.initial]
  owned := by simp [Client.initial, State.initial]

/-- An enqueue that reads the flag belongs to the active session. -/
theorem readsAfterBegin {index : Nat} {outside : Outside}
    (alternating : Alternating actions client) :
    ReadsAfterBegin actions client (.advance index outside) := by
  intro atLoad
  obtain ⟨call, found, isLoad⟩ := Option.map_eq_some_iff.mp atLoad
  have inRange : index < client.owners.length := by
    rw [alternating.paired]
    exact (List.getElem?_eq_some_iff.mp found).1
  have owner := List.getElem?_eq_getElem inRange
  have active := alternating.owned _ _ _ owner found (by rw [EnqueueCall.inFlight, isLoad])
  exact alternating.latest (List.mem_of_getElem? active)

theorem beginInference (alternating : Alternating actions client)
    (exclusive : client.Exclusive .beginInference)
    (stepped : client.step .beginInference = some after) :
    Alternating (actions ++ [.beginInference]) after := by
  have covered := @Covered.step _ _ _ .beginInference alternating.covered trivial trivial stepped
  rw [Client.step] at stepped
  obtain ⟨shim, shimStepped, rfl⟩ := Option.map_eq_some_iff.mp stepped
  cases shimStepped
  have noneActive : client.sessions.countP (· = .active) = 0 := by
    rw [List.countP_eq_zero]
    intro phase member
    simp [exclusive phase member]
  refine ⟨covered, alternating.paired, fun _ => by simp [latestBegin], ?_, ?_⟩
  · rw [List.countP_append, noneActive]
    decide
  · intro index owner call ownerFound found inFlight
    have active := alternating.owned index owner call ownerFound found inFlight
    exact absurd (exclusive _ (List.mem_of_getElem? active)) (by decide)

theorem clEnqueueNDRangeKernel {session : Nat} {args : EnqueueArgs}
    (alternating : Alternating actions client)
    (stepped : client.step (.clEnqueueNDRangeKernel session args) = some after) :
    Alternating (actions ++ [.clEnqueueNDRangeKernel session args]) after := by
  have covered := alternating.covered.clEnqueueNDRangeKernel stepped
  simp only [Client.step, Option.ite_none_right_eq_some] at stepped
  obtain ⟨ready, moved⟩ := stepped
  obtain ⟨shim, shimStepped, rfl⟩ := Option.map_eq_some_iff.mp moved
  simp only [State.step, Option.ite_none_right_eq_some, Option.some.injEq] at shimStepped
  obtain ⟨-, rfl⟩ := shimStepped
  refine ⟨covered, ?_, ?_, alternating.single, ?_⟩
  · simp only [List.length_append, alternating.paired, List.length_singleton]
  · intro active
    simpa [latestBegin] using alternating.latest active
  · intro index owner call ownerFound found inFlight
    by_cases old : index < client.owners.length
    · rw [List.getElem?_append_left old] at ownerFound
      rw [List.getElem?_append_left (alternating.paired ▸ old)] at found
      exact alternating.owned index owner call ownerFound found inFlight
    · -- The new call is the only one that the session has in flight.
      rw [List.getElem?_append_right (by omega)] at ownerFound
      have isSession : owner = session :=
        List.mem_singleton.mp (List.mem_of_getElem? ownerFound)
      rw [isSession]
      exact (ready_iff.mp ready).1

theorem advance {index : Nat} {outside : Outside} (alternating : Alternating actions client)
    (stores : outside.answer.StoresEvent)
    (stepped : client.step (.advance index outside) = some after) :
    Alternating (actions ++ [.advance index outside]) after := by
  have covered := alternating.covered.advance stores alternating.readsAfterBegin stepped
  obtain ⟨shim, shimStepped, rfl⟩ := Option.map_eq_some_iff.mp stepped
  obtain ⟨call, found, moved⟩ := Option.bind_eq_some_iff.mp shimStepped
  obtain ⟨⟨globals, next⟩, callStepped, rfl⟩ := Option.map_eq_some_iff.mp moved
  obtain ⟨-, -, -, inFlight⟩ := EnqueueCall.step_frame callStepped
  refine ⟨covered, ?_, ?_, alternating.single, ?_⟩
  · exact alternating.paired.trans List.length_set.symm
  · intro active
    simpa [latestBegin] using alternating.latest active
  · intro position owner other ownerFound otherFound otherInFlight
    by_cases moved : index = position
    · subst moved
      exact alternating.owned index owner call ownerFound found inFlight
    · rw [List.getElem?_set_ne moved] at otherFound
      exact alternating.owned position owner other ownerFound otherFound otherInFlight

theorem endInference {session : Nat} (alternating : Alternating actions client)
    (stepped : client.step (.endInference session) = some after) :
    Alternating (actions ++ [.endInference session]) after := by
  have covered := @Covered.step _ _ _ (.endInference session) alternating.covered trivial trivial
    stepped
  simp only [Client.step, Option.ite_none_right_eq_some] at stepped
  obtain ⟨ready, moved⟩ := stepped
  obtain ⟨shim, shimStepped, rfl⟩ := Option.map_eq_some_iff.mp moved
  cases shimStepped
  obtain ⟨active, idle⟩ := ready_iff.mp ready
  have fewer := @countP_set_lost _ (fun phase => decide (phase = SessionPhase.active)) _ _ _ .ended
    active rfl rfl
  have single := alternating.single
  have noneLeft : (client.sessions.set session .ended).countP (· = .active) = 0 :=
    Nat.le_zero.mp (Nat.le_of_succ_le_succ (Nat.le_trans (Nat.le_of_eq fewer) single))
  have still := Nat.le_trans (Nat.le_of_eq noneLeft) (Nat.zero_le 1)
  refine ⟨covered, alternating.paired, ?_, still, ?_⟩
  · intro stillActive
    exact absurd (List.countP_eq_zero.mp noneLeft _ stillActive) (by decide)
  · intro index owner call ownerFound found inFlight
    have ownerActive := alternating.owned index owner call ownerFound found inFlight
    have other : session ≠ owner := by
      rintro rfl
      have paired : (session, call) ∈ client.owners.zip client.shim.calls := by
        refine List.mem_iff_getElem?.mpr ⟨index, ?_⟩
        exact List.getElem?_zip_eq_some.mpr ⟨ownerFound, found⟩
      rw [idle _ paired rfl] at inFlight
      contradiction
    rw [List.getElem?_set_ne other]
    exact ownerActive

theorem step {action : ClientAction} (alternating : Alternating actions client)
    (stores : action.StoresEvent) (exclusive : client.Exclusive action)
    (stepped : client.step action = some after) : Alternating (actions ++ [action]) after := by
  cases action with
  | beginInference => exact alternating.beginInference exclusive stepped
  | clEnqueueNDRangeKernel session args => exact alternating.clEnqueueNDRangeKernel stepped
  | advance index outside => exact alternating.advance stores stepped
  | endInference session => exact alternating.endInference stepped

end Alternating

end BssLiteRt.Shim.Client
