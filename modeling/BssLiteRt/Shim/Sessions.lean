import BssLiteRt.Shim.Counters

/-!
Owns inference sessions over the shim. A session calls `beginInference`, then
`clEnqueueNDRangeKernel` any number of times, then `endInference`; the steps of
any number of sessions interleave in any order.

All sessions share the one flag of the process, so the end of any session
clears it for the others. `accepted_waited_of_latest_begin` says when every
accepted kernel is nevertheless waited for.
-/

namespace BssLiteRt.Shim

open BssLiteRt.Library.Transition BssLiteRt.Library.Counting

/-! ### The sessions of a process -/

inductive SessionPhase where
  | active
  | ended
deriving DecidableEq

/-- The shim with the sessions begun so far, and the session of each call. -/
structure Client where
  shim : State
  sessions : List SessionPhase
  owners : List Nat
deriving DecidableEq

/-- A process in which all vendor symbols are present. -/
def Client.initial : Client := ⟨.initial ⟨true, true, true⟩, [], []⟩

inductive ClientAction where
  | beginInference
  | clEnqueueNDRangeKernel (session : Nat) (args : EnqueueArgs)
  | advance (index : Nat) (outside : Outside)
  | endInference (session : Nat)

namespace Client

/-- The session is active, and all its calls have returned. -/
def ready (client : Client) (session : Nat) : Bool :=
  client.sessions[session]? == some .active &&
    (client.owners.zip client.shim.calls).all fun (owner, call) =>
      owner != session || !call.inFlight

/-- One step of one session. -/
def step (client : Client) : ClientAction → Option Client
  | .beginInference =>
      (client.shim.step (.nativeSetInferenceEnabled true)).map fun shim =>
        { client with shim, sessions := client.sessions ++ [.active] }
  | .clEnqueueNDRangeKernel session args =>
      if client.ready session then
        (client.shim.step (.clEnqueueNDRangeKernel args)).map fun shim =>
          { client with shim, owners := client.owners ++ [session] }
      else
        none
  | .advance index outside =>
      (client.shim.step (.advance index outside)).map fun shim => { client with shim }
  | .endInference session =>
      if client.ready session then
        (client.shim.step (.nativeSetInferenceEnabled false)).map fun shim =>
          { client with shim, sessions := client.sessions.set session .ended }
      else
        none

/-- Every kernel that the vendor accepted and whose call has returned was
waited for exactly once. -/
def AcceptedWaited (client : Client) : Prop :=
  ∀ call ∈ client.shim.calls, call.inFlight = false → call.completions ≠ [] → call.WaitedOnce

end Client

/-! ### When the flag covers a kernel -/

/-- Whether the latest session boundary among the actions is a begin. -/
def latestBegin (actions : List ClientAction) : Bool :=
  actions.foldl (fun latest action =>
    match action with
    | .beginInference => true
    | .endInference _ => false
    | .clEnqueueNDRangeKernel _ _ | .advance _ _ => latest) false

/-- A vendor that accepts a kernel stores its event in the slot it is given. -/
def ClientAction.StoresEvent : ClientAction → Prop
  | .advance _ outside => outside.answer.StoresEvent
  | .beginInference | .clEnqueueNDRangeKernel _ _ | .endInference _ => True

instance : (action : ClientAction) → Decidable action.StoresEvent
  | .advance _ outside => inferInstanceAs (Decidable outside.answer.StoresEvent)
  | .beginInference | .clEnqueueNDRangeKernel _ _ | .endInference _ =>
      inferInstanceAs (Decidable True)

/-- A call that is about to read the flag does so after a begin, with no end of
any session in between. -/
def ReadsAfterBegin (before : List ClientAction) (client : Client) : ClientAction → Prop
  | .advance index _ =>
      (client.shim.calls[index]?.map EnqueueCall.pc) = some .loadInferenceEnabled →
        latestBegin before = true
  | .beginInference | .clEnqueueNDRangeKernel _ _ | .endInference _ => True

instance (before : List ClientAction) (client : Client) :
    (action : ClientAction) → Decidable (ReadsAfterBegin before client action)
  | .advance _ _ => inferInstanceAs (Decidable (_ → _))
  | .beginInference | .clEnqueueNDRangeKernel _ _ | .endInference _ =>
      inferInstanceAs (Decidable True)

/-! ### The invariant of covered runs -/

/-- Past its load of the flag, the call observed inference enabled. -/
def EnqueueCall.SawEnabled (call : EnqueueCall) : Prop :=
  match call.pc with
  | .pthreadOnce | .loadInferenceEnabled => True
  | _ => call.sawEnabled = true

theorem EnqueueCall.sawEnabled_of_field {call : EnqueueCall} (saw : call.sawEnabled = true) :
    call.SawEnabled := by
  unfold SawEnabled
  split
  · trivial
  · trivial
  · exact saw

/-- A call that finds the vendor's enqueue and reads a set flag has observed
inference enabled. -/
theorem EnqueueCall.step_sawEnabled {process : VendorSymbols} {globals globals' : Globals}
    {call call' : EnqueueCall} {outside : Outside}
    (present : globals'.real.enqueue = true)
    (enabled : call.pc = .loadInferenceEnabled → globals.inferenceEnabled = true)
    (saw : call.SawEnabled)
    (stepped : call.step process globals outside = some (globals', call')) :
    call'.SawEnabled := by
  unfold step at stepped
  cases atPc : call.pc <;> simp only [atPc] at stepped
  case pthreadOnce =>
    split at stepped <;> cases stepped
    · trivial
    · contradiction
  case loadInferenceEnabled =>
    rw [if_pos (enabled atPc)] at stepped
    cases stepped
    rfl
  case returned => contradiction
  all_goals
    simp only [SawEnabled, atPc] at saw
    (try split at stepped) <;> cases stepped <;> exact sawEnabled_of_field saw

namespace Client

/-- What holds after a run whose enqueues all read the flag after a begin. -/
structure Covered (actions : List ClientAction) (client : Client) : Prop where
  process : client.shim.process = ⟨true, true, true⟩
  calls : client.shim.CallsInvariant
  flag : client.shim.globals.inferenceEnabled = latestBegin actions
  saw : ∀ call ∈ client.shim.calls, call.SawEnabled

namespace Covered

variable {actions : List ClientAction} {client after : Client}

theorem acceptedWaited (covered : Covered actions client) : client.AcceptedWaited := by
  intro call member returned accepted
  have progress := covered.calls.progress call member
  have saw := covered.saw call member
  cases atPc : call.pc <;> simp only [EnqueueCall.inFlight, atPc] at returned
  case returned status =>
    simp only [EnqueueCall.Progress, EnqueueCall.SawEnabled, atPc] at progress saw
    exact progress.2.2 covered.process accepted saw
  all_goals contradiction

/-- A begin or an end stores its flag and touches no call. -/
theorem setInferenceEnabled {enabled : Bool} {action : ClientAction} {shim : State}
    (covered : Covered actions client)
    (stepped : client.shim.step (.nativeSetInferenceEnabled enabled) = some shim)
    (latest : latestBegin (actions ++ [action]) = enabled) (same : after.shim = shim) :
    Covered (actions ++ [action]) after := by
  have calls := covered.calls.nativeSetInferenceEnabled stepped
  cases stepped
  constructor
  · rw [same]
    exact covered.process
  · rwa [same]
  · rw [same, latest]
  · rw [same]
    exact covered.saw

theorem clEnqueueNDRangeKernel {session : Nat} {args : EnqueueArgs}
    (covered : Covered actions client)
    (stepped : client.step (.clEnqueueNDRangeKernel session args) = some after) :
    Covered (actions ++ [.clEnqueueNDRangeKernel session args]) after := by
  simp only [Client.step, Option.ite_none_right_eq_some] at stepped
  obtain ⟨shim, shimStepped, rfl⟩ := Option.map_eq_some_iff.mp stepped.2
  have calls := covered.calls.clEnqueueNDRangeKernel shimStepped
  simp only [State.step, Option.ite_none_right_eq_some, Option.some.injEq] at shimStepped
  obtain ⟨-, rfl⟩ := shimStepped
  refine ⟨covered.process, calls, ?_, forall_append_one covered.saw trivial⟩
  simpa [latestBegin] using covered.flag

theorem advance {index : Nat} {outside : Outside} (covered : Covered actions client)
    (stores : outside.answer.StoresEvent)
    (reads : ReadsAfterBegin actions client (.advance index outside))
    (stepped : client.step (.advance index outside) = some after) :
    Covered (actions ++ [.advance index outside]) after := by
  obtain ⟨shim, shimStepped, rfl⟩ := Option.map_eq_some_iff.mp stepped
  have calls := covered.calls.advance stores shimStepped
  obtain ⟨call, found, moved⟩ := Option.bind_eq_some_iff.mp shimStepped
  obtain ⟨⟨globals, next⟩, callStepped, rfl⟩ := Option.map_eq_some_iff.mp moved
  have member : call ∈ client.shim.calls := List.mem_of_getElem? found
  obtain ⟨-, -, sameFlag, -⟩ := EnqueueCall.step_frame callStepped
  have symbols := EnqueueCall.step_symbols covered.calls.symbols
    (covered.calls.past call member) callStepped
  have present : globals.real.enqueue = true := by rw [symbols.2, covered.process]
  have enabled : call.pc = .loadInferenceEnabled →
      client.shim.globals.inferenceEnabled = true := by
    intro atLoad
    rw [covered.flag]
    exact reads (by rw [found, Option.map_some, atLoad])
  refine ⟨covered.process, calls, ?_, ?_⟩
  · show globals.inferenceEnabled = _
    rw [sameFlag, covered.flag]
    simp [latestBegin]
  · exact forall_set covered.saw
      (EnqueueCall.step_sawEnabled present enabled (covered.saw call member) callStepped)

theorem step {action : ClientAction} (covered : Covered actions client)
    (stores : action.StoresEvent) (reads : ReadsAfterBegin actions client action)
    (stepped : client.step action = some after) : Covered (actions ++ [action]) after := by
  cases action with
  | beginInference =>
      rw [Client.step] at stepped
      obtain ⟨shim, shimStepped, rfl⟩ := Option.map_eq_some_iff.mp stepped
      exact covered.setInferenceEnabled shimStepped (by simp [latestBegin]) rfl
  | clEnqueueNDRangeKernel session args => exact covered.clEnqueueNDRangeKernel stepped
  | advance index outside => exact covered.advance stores reads stepped
  | endInference session =>
      simp only [Client.step, Option.ite_none_right_eq_some] at stepped
      obtain ⟨shim, shimStepped, rfl⟩ := Option.map_eq_some_iff.mp stepped.2
      exact covered.setInferenceEnabled shimStepped (by simp [latestBegin]) rfl

end Covered

/-- A run of sessions with a vendor that stores the events of the kernels it
accepts. -/
abbrev Reached : List ClientAction → Client → Prop :=
  ReachesWhile Client.step (fun _ _ action => action.StoresEvent) Client.initial

/-- A run of sessions in which, besides, every enqueue reads the flag after a
begin with no end of any session in between. -/
abbrev ReachedAfterBegin : List ClientAction → Client → Prop :=
  ReachesWhile Client.step
    (fun before client action => action.StoresEvent ∧ ReadsAfterBegin before client action)
    Client.initial

theorem accepted_waited_of_latest_begin {actions : List ClientAction} {client : Client}
    (reached : ReachedAfterBegin actions client) : client.AcceptedWaited := by
  suffices covered : Covered actions client from covered.acceptedWaited
  refine @ReachesWhile.invariant _ _ _ _ _ Covered ?_ ?_ _ _ reached
  · exact ⟨rfl, .initial _, rfl, by simp [Client.initial, State.initial]⟩
  · rintro _ _ action after covered ⟨stores, reads⟩ stepped
    exact covered.step stores reads stepped

/-! ### Two sessions -/

/-- One kernel of a session, from its call to its return. -/
def oneKernelOf (session index steps : Nat) : List ClientAction :=
  .clEnqueueNDRangeKernel session State.oneKernel ::
    List.replicate steps (.advance index State.accepting)

/-- Two sessions overlap, and both end after their last kernel. -/
theorem accepted_waited_of_latest_begin_two_sessions :
    ∃ client, ReachedAfterBegin
        ([.beginInference, .beginInference] ++ oneKernelOf 0 0 11 ++ oneKernelOf 1 1 11 ++
          [.endInference 0, .endInference 1]) client ∧
      client.shim.calls.length = 2 ∧ client.AcceptedWaited := by
  have reached : ReachedAfterBegin ([.beginInference, .beginInference] ++ oneKernelOf 0 0 11 ++
      oneKernelOf 1 1 11 ++ [.endInference 0, .endInference 1]) _ :=
    reachesWhile_of_runActions rfl
  exact ⟨_, reached, rfl, accepted_waited_of_latest_begin reached⟩

/-- The end of one session leaves the kernels of another without a wait. -/
theorem overlapping_session_unwaited :
    ¬ ∀ (actions : List ClientAction) (client : Client),
        Reached actions client → client.AcceptedWaited := by
  intro waited
  have reached : Reached ([.beginInference, .beginInference, .endInference 1] ++
      oneKernelOf 0 0 3) _ := reachesWhile_of_runActions rfl
  obtain ⟨completion, -, waits⟩ :=
    waited _ _ reached _ (List.mem_singleton.mpr rfl) rfl (by decide)
  cases waits

end Client

end BssLiteRt.Shim
