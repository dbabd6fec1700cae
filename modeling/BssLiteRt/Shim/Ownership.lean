import BssLiteRt.Shim.Calls

/-!
Owns the events of one call of `clEnqueueNDRangeKernel`: which calls the wrapper
passes to the vendor, which events it releases, and whose refusal it returns.
-/

namespace BssLiteRt.Shim

/-! ### What a call may do -/

/-- The event that the vendor stored in the private slot. -/
@[simp] def VendorCall.privateEvent? : VendorCall → Option ClEvent
  | .enqueueNDRangeKernel _ .boundary answer => answer.stored.filter (· ≠ NULL)
  | .enqueueNDRangeKernel _ .null _ | .enqueueNDRangeKernel _ .caller _
  | .waitForEvents _ _ | .releaseEvent _ _ => none

@[simp] def VendorCall.released? : VendorCall → Option ClEvent
  | .releaseEvent event _ => some event
  | .enqueueNDRangeKernel _ _ _ | .waitForEvents _ _ => none

@[simp] def VendorCall.isEnqueue : VendorCall → Bool
  | .enqueueNDRangeKernel _ _ _ => true
  | .waitForEvents _ _ | .releaseEvent _ _ => false

@[simp] def VendorCall.status : VendorCall → ClInt
  | .enqueueNDRangeKernel _ _ answer => answer.status
  | .waitForEvents _ status | .releaseEvent _ status => status

/-- The arguments are those of the caller; only a NULL event may become the private
slot. -/
def VendorCall.PassesOn (args : EnqueueArgs) : VendorCall → Prop
  | .enqueueNDRangeKernel passed slot _ =>
      passed = args ∧ (slot = .caller ↔ args.event ≠ none)
  | .waitForEvents _ _ | .releaseEvent _ _ => True

/-- The wrapper itself refused: no vendor function answered its status. -/
def RefusedItself (status : ClInt) (performed : List VendorCall) : Prop :=
  status = CL_INVALID_OPERATION ∧ ∀ call ∈ performed, call.status ≠ CL_INVALID_OPERATION

/-- The wrapper keeps the ownership of events and refuses cleanly. -/
structure KeepsOwnership (args : EnqueueArgs) (status : ClInt) (performed : List VendorCall) :
    Prop where
  enqueuesOnce : performed.countP VendorCall.isEnqueue ≤ 1
  passesOn : ∀ call ∈ performed, call.PassesOn args
  callerKept : args.event ≠ none → performed.filterMap VendorCall.released? = []
  privateReleased : performed.filterMap VendorCall.released? =
    performed.filterMap VendorCall.privateEvent?
  refusesCleanly : RefusedItself status performed → ∀ call ∈ performed, call.isEnqueue = false

section Ownership

variable {ω : Type} {vendor : Vendor ω} {args : EnqueueArgs} {machine : Machine ω}

/-- The vendor's answer to the kernel of a call. -/
def vendorAnswer (vendor : Vendor ω) (args : EnqueueArgs) (machine : Machine ω) :
    EnqueueAnswer :=
  let machine := machine.pthreadOnce vendor
  let call : EnqueueCall := { args, epoch := 0 }
  (vendor.enqueueNDRangeKernel args (call.resultEvent machine.globals.inferenceEnabled)
    machine.world).1

/-- A kernel that is to be waited for can be, or is rejected without an event. -/
def CanFinish (vendor : Vendor ω) (args : EnqueueArgs) (machine : Machine ω) : Prop :=
  let globals := (machine.pthreadOnce vendor).globals
  let answer := vendorAnswer vendor args machine
  globals.real.enqueue = true → globals.inferenceEnabled = true →
    if answer.status = CL_SUCCESS then globals.real.wait = true ∧ globals.real.release = true
    else args.event = none → answer.stored.filter (· ≠ NULL) = none

/-- The slot that is passed for the event. -/
theorem resultEvent_eq_caller_iff {call : EnqueueCall} {shouldWait : Bool} :
    call.resultEvent shouldWait = .caller ↔ call.args.event ≠ none := by
  unfold EnqueueCall.resultEvent
  cases call.args.event <;> cases shouldWait <;> simp

section Submitted

variable {slot : ResultEvent} {answer : EnqueueAnswer} {status : ClInt}

/-- A call that only submits its kernel. -/
theorem keepsOwnership_submitted_iff (passes : slot = .caller ↔ args.event ≠ none) :
    KeepsOwnership args status [.enqueueNDRangeKernel args slot answer] ↔
      (VendorCall.enqueueNDRangeKernel args slot answer).privateEvent? = none ∧
        ¬ RefusedItself status [.enqueueNDRangeKernel args slot answer] := by
  constructor
  · rintro ⟨-, -, -, released, refuses⟩
    constructor
    · cases stored : (VendorCall.enqueueNDRangeKernel args slot answer).privateEvent? with
      | none => rfl
      | some event =>
          rw [List.filterMap_cons_none rfl, List.filterMap_cons_some stored] at released
          cases released
    · intro refused
      exact absurd (refuses refused _ List.mem_cons_self) nofun
  · rintro ⟨unstored, notRefused⟩
    refine ⟨by simp, ?_, fun _ => rfl, ?_, fun refused => absurd refused notRefused⟩
    · exact List.forall_mem_singleton.mpr ⟨rfl, passes⟩
    · rw [List.filterMap_cons_none rfl, List.filterMap_cons_none unstored]
      rfl

/-- A rejected kernel, or one that is not waited for, returns the status of the
vendor. -/
theorem not_refusedItself_submitted :
    ¬ RefusedItself answer.status [.enqueueNDRangeKernel args slot answer] :=
  fun refused => refused.2 _ List.mem_cons_self refused.1

end Submitted

/-- The release of a private event. -/
def releases (call : EnqueueCall) (status : ClInt) : List VendorCall :=
  if call.args.event = none ∧ call.boundaryEvent ≠ NULL then
    [.releaseEvent call.boundaryEvent status]
  else []

theorem mem_releases {call : EnqueueCall} {status : ClInt} {performed : VendorCall}
    (member : performed ∈ releases call status) : ∃ event, performed = .releaseEvent event status := by
  unfold releases at member
  split at member
  · exact ⟨_, List.mem_singleton.mp member⟩
  · contradiction

/-- A release submits no kernel. -/
theorem countP_releases (call : EnqueueCall) (status : ClInt) :
    (releases call status).countP VendorCall.isEnqueue = 0 := by
  rw [List.countP_eq_zero]
  intro performed member
  obtain ⟨event, rfl⟩ := mem_releases member
  simp

/-- A release stores no event. -/
theorem filterMap_releases (call : EnqueueCall) (status : ClInt) :
    (releases call status).filterMap VendorCall.privateEvent? = [] := by
  rw [List.filterMap_eq_nil_iff]
  intro performed member
  obtain ⟨event, rfl⟩ := mem_releases member
  rfl

/-- A wait performs the wait and the release, and returns one of their statuses. -/
theorem waitForKernel_performed (call : EnqueueCall) (submitted : VendorCall) :
    ∃ waitStatus releaseStatus,
      (waitForKernel vendor call submitted machine).performed =
          submitted :: .waitForEvents [call.eventToWait] waitStatus ::
            releases call releaseStatus ∧
        ∃ performed ∈ (waitForKernel vendor call submitted machine).performed,
          performed.status = (waitForKernel vendor call submitted machine).status := by
  unfold waitForKernel releases
  dsimp only
  by_cases isPrivate : call.args.event = none ∧ call.boundaryEvent ≠ NULL
  · rw [if_pos isPrivate]
    refine ⟨_, _, by rw [if_pos isPrivate], ?_⟩
    dsimp only
    split
    · exact ⟨_, List.mem_cons_of_mem _ (List.mem_cons_of_mem _ List.mem_cons_self), rfl⟩
    · exact ⟨_, List.mem_cons_of_mem _ List.mem_cons_self, rfl⟩
  · rw [if_neg isPrivate]
    refine ⟨_, CL_SUCCESS, by rw [if_neg isPrivate], _, List.mem_cons_of_mem _ List.mem_cons_self,
      rfl⟩

/-- What is released is what the vendor stored in the private slot. -/
theorem released_eq_private (answer : EnqueueAnswer) (status : ClInt) :
    let call : EnqueueCall := { args, epoch := 0 }
    let slot := call.resultEvent true
    (releases (call.store slot answer.stored) status).filterMap VendorCall.released? =
      [VendorCall.enqueueNDRangeKernel args slot answer].filterMap VendorCall.privateEvent? := by
  dsimp only
  cases given : args.event with
  | some event => simp [EnqueueCall.resultEvent, EnqueueCall.store, releases, given]
  | none =>
      cases stored : answer.stored with
      | none => simp [EnqueueCall.resultEvent, EnqueueCall.store, releases, given, stored]
      | some event =>
          by_cases isNull : event = NULL <;>
            simp [EnqueueCall.resultEvent, EnqueueCall.store, releases, given, stored, isNull,
              Option.filter]

/-- The wait keeps the ownership of events. -/
theorem keepsOwnership_waitForKernel (answer : EnqueueAnswer) :
    let call : EnqueueCall := { args, epoch := 0 }
    let slot := call.resultEvent true
    let outcome := waitForKernel vendor (call.store slot answer.stored)
      (.enqueueNDRangeKernel args slot answer) machine
    KeepsOwnership args outcome.status outcome.performed := by
  intro call slot outcome
  have passes : slot = .caller ↔ args.event ≠ none := resultEvent_eq_caller_iff
  obtain ⟨waitStatus, releaseStatus, performed, answered⟩ :=
    @waitForKernel_performed _ vendor machine (call.store slot answer.stored)
      (.enqueueNDRangeKernel args slot answer)
  constructor
  case enqueuesOnce =>
    rw [performed, List.countP_cons, List.countP_cons, countP_releases]
    simp
  case passesOn =>
    rw [performed]
    refine List.forall_mem_cons.mpr ⟨⟨rfl, passes⟩, List.forall_mem_cons.mpr ⟨trivial, ?_⟩⟩
    intro performed member
    obtain ⟨event, rfl⟩ := mem_releases member
    trivial
  case callerKept =>
    intro given
    have notPrivate : ¬ (args.event = none ∧
        (call.store slot answer.stored).boundaryEvent ≠ NULL) := fun both => given both.1
    have noRelease : releases (call.store slot answer.stored) releaseStatus = [] :=
      if_neg notPrivate
    rw [performed, noRelease]
    rfl
  case privateReleased =>
    have afterwards : (VendorCall.waitForEvents [(call.store slot answer.stored).eventToWait]
        waitStatus :: releases (call.store slot answer.stored) releaseStatus).filterMap
          VendorCall.privateEvent? = [] :=
      (List.filterMap_cons_none rfl).trans (filterMap_releases _ _)
    have whole := @List.filterMap_append _ _ [VendorCall.enqueueNDRangeKernel args slot answer]
      (VendorCall.waitForEvents [(call.store slot answer.stored).eventToWait] waitStatus ::
        releases (call.store slot answer.stored) releaseStatus) VendorCall.privateEvent?
    rw [List.singleton_append, afterwards, List.append_nil] at whole
    rw [performed]
    exact (@released_eq_private args answer releaseStatus).trans whole.symm
  case refusesCleanly =>
    intro refused
    obtain ⟨performed, member, same⟩ := answered
    exact absurd (same.trans refused.1) (refused.2 performed member)

/-- When the wrapper keeps the ownership of events and refuses cleanly. -/
theorem keeps_ownership_iff (vendor : Vendor ω) (args : EnqueueArgs) (machine : Machine ω) :
    KeepsOwnership args (Bounded.clEnqueueNDRangeKernel vendor args machine).status
        (Bounded.clEnqueueNDRangeKernel vendor args machine).performed ↔
      CanFinish vendor args machine := by
  unfold Bounded.clEnqueueNDRangeKernel CanFinish vendorAnswer
  generalize machine.pthreadOnce vendor = ready
  dsimp only
  by_cases missing : ready.globals.real.enqueue = false
  · rw [if_pos missing]
    constructor
    · intro _ present
      rw [missing] at present
      cases present
    · intro _
      exact ⟨by simp, by simp, fun _ => rfl, rfl, by simp⟩
  · rw [if_neg missing]
    have present : ready.globals.real.enqueue = true := by simpa using missing
    have realKept : (if ready.globals.inferenceEnabled then ready.globals.addDispatch
        else ready.globals).real = ready.globals.real := by
      split <;> rfl
    have passes := @resultEvent_eq_caller_iff { args, epoch := 0 } ready.globals.inferenceEnabled
    unfold submitKernel
    dsimp only
    rw [realKept]
    generalize (vendor.enqueueNDRangeKernel args (({ args, epoch := 0 } : EnqueueCall).resultEvent
      ready.globals.inferenceEnabled) ready.world).1 = answer
    cases enabled : ready.globals.inferenceEnabled with
    | false =>
        rw [enabled] at passes
        rw [if_pos (Or.inr rfl), keepsOwnership_submitted_iff passes]
        refine ⟨fun _ _ impossible => absurd impossible nofun, fun _ => ⟨?_, ?_⟩⟩
        · cases given : args.event <;> simp [EnqueueCall.resultEvent, given]
        · exact not_refusedItself_submitted
    | true =>
        rw [enabled] at passes
        by_cases accepted : answer.status = CL_SUCCESS
        · rw [if_neg (not_or.mpr ⟨not_not.mpr accepted, nofun⟩), if_pos accepted]
          by_cases lost : ready.globals.real.wait = false ∨ ready.globals.real.release = false
          · rw [if_pos lost, keepsOwnership_submitted_iff passes]
            constructor
            · intro kept
              refine absurd ⟨rfl, List.forall_mem_singleton.mpr ?_⟩ kept.2
              exact fun same => absurd (accepted.symm.trans same) (by decide)
            · intro both
              obtain ⟨wait, release⟩ := both present rfl
              simp [wait, release] at lost
          · rw [if_neg lost]
            rw [not_or, Bool.not_eq_false, Bool.not_eq_false] at lost
            exact iff_of_true (keepsOwnership_waitForKernel answer) fun _ _ => lost
        · rw [if_pos (Or.inl accepted), if_neg accepted, keepsOwnership_submitted_iff passes,
            and_iff_left not_refusedItself_submitted]
          cases given : args.event with
          | none => simp [EnqueueCall.resultEvent, given, present]
          | some event => simp [EnqueueCall.resultEvent, given]

end Ownership

/-- A vendor library without `clWaitForEvents`, which accepts every kernel. -/
def vendorWithoutWait : Vendor Unit where
  resolveSymbols := fun world => (⟨true, false, true⟩, world)
  enqueueNDRangeKernel := fun _ _ world => (⟨CL_SUCCESS, 7, some 7⟩, world)
  waitForEvents := fun _ world => (CL_SUCCESS, world)
  releaseEvent := fun _ world => (CL_SUCCESS, world)
  clockGettime := fun world => (none, world)

/-- A kernel that was submitted is refused, and its private event is lost. -/
theorem submitted_kernel_refused :
    let machine := Bounded.nativeSetInferenceEnabled vendorWithoutWait true ⟨.initial, ()⟩
    let outcome := Bounded.clEnqueueNDRangeKernel vendorWithoutWait eventlessArgs machine
    outcome.status = CL_INVALID_OPERATION ∧
      outcome.performed =
        [.enqueueNDRangeKernel eventlessArgs .boundary ⟨CL_SUCCESS, 7, some 7⟩] ∧
      ¬ KeepsOwnership eventlessArgs outcome.status outcome.performed := by
  refine ⟨by decide, by decide, ?_⟩
  intro kept
  exact absurd kept.privateReleased (by decide)

end BssLiteRt.Shim
