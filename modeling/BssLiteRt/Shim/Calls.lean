import BssLiteRt.Shim.State

/-!
Owns the calls of the bounded shim when they are made one at a time, against a
vendor library, a dynamic linker and a clock that may answer anything.
-/

namespace BssLiteRt.Shim

/-- What the shim calls outside, with the state that the answers depend on. -/
structure Vendor (ω : Type) where
  resolveSymbols : ω → VendorSymbols × ω
  enqueueNDRangeKernel : EnqueueArgs → ResultEvent → ω → EnqueueAnswer × ω
  waitForEvents : List ClEvent → ω → ClInt × ω
  releaseEvent : ClEvent → ω → ClInt × ω
  clockGettime : ω → Option Timespec × ω

/-- The globals of the shim and the state of what is outside. -/
structure Machine (ω : Type) where
  globals : Globals
  world : ω

/-- What a call of `clEnqueueNDRangeKernel` leaves behind. -/
structure Returned (ω : Type) where
  status : ClInt
  performed : List VendorCall
  machine : Machine ω

section Calls

variable {ω : Type}

def Machine.pthreadOnce (vendor : Vendor ω) (machine : Machine ω) : Machine ω :=
  if machine.globals.initOnce then machine
  else
    let (process, world) := vendor.resolveSymbols machine.world
    ⟨machine.globals.pthreadOnce process, world⟩

/-- `record_wait`, whose exchange ends when it stores the greater value. -/
def Globals.recordWait (globals : Globals) (durationNs : UInt64) : Globals :=
  { globals with
    waitCount := globals.waitCount + 1
    totalWaitNs := globals.totalWaitNs + durationNs
    maxWaitNs := if durationNs > globals.maxWaitNs then durationNs else globals.maxWaitNs }

/-- The wait for a kernel that the vendor has accepted. The call holds the two event
slots. -/
def waitForKernel (vendor : Vendor ω) (call : EnqueueCall) (submitted : VendorCall)
    (machine : Machine ω) : Returned ω :=
  let eventToWait := call.eventToWait
  let (started, world) := vendor.clockGettime machine.world
  let (waitStatus, world) := vendor.waitForEvents [eventToWait] world
  let (ended, world) := vendor.clockGettime world
  let startedNs := monotonicTimeNs started
  let endedNs := monotonicTimeNs ended
  let globals :=
    if endedNs ≥ startedNs then machine.globals.recordWait (endedNs - startedNs)
    else machine.globals
  let waited := VendorCall.waitForEvents [eventToWait] waitStatus
  if call.args.event = none ∧ call.boundaryEvent ≠ NULL then
    let (releaseStatus, world) := vendor.releaseEvent call.boundaryEvent world
    let status :=
      if waitStatus = CL_SUCCESS ∧ releaseStatus ≠ CL_SUCCESS then releaseStatus else waitStatus
    ⟨status, [submitted, waited, .releaseEvent call.boundaryEvent releaseStatus],
      ⟨globals, world⟩⟩
  else
    ⟨waitStatus, [submitted, waited], ⟨globals, world⟩⟩

/-- The code of `clEnqueueNDRangeKernel` after the decision whether to wait. -/
def submitKernel (vendor : Vendor ω) (shouldWait : Bool) (args : EnqueueArgs)
    (machine : Machine ω) : Returned ω :=
  let call : EnqueueCall := { args, epoch := 0 }
  let slot := call.resultEvent shouldWait
  let (answer, world) := vendor.enqueueNDRangeKernel args slot machine.world
  let submitted := VendorCall.enqueueNDRangeKernel args slot answer
  if answer.status ≠ CL_SUCCESS ∨ shouldWait = false then
    ⟨answer.status, [submitted], ⟨machine.globals, world⟩⟩
  else if machine.globals.real.wait = false ∨ machine.globals.real.release = false then
    ⟨CL_INVALID_OPERATION, [submitted], ⟨machine.globals, world⟩⟩
  else
    waitForKernel vendor (call.store slot answer.stored) submitted ⟨machine.globals, world⟩

/-- The globals that only the initialisation and the caller's settings change. -/
def Globals.SameSettings (before after : Globals) : Prop :=
  after.initOnce = before.initOnce ∧ after.real = before.real ∧
    after.inferenceEnabled = before.inferenceEnabled

theorem waitForKernel_settings (vendor : Vendor ω) (call : EnqueueCall) (submitted : VendorCall)
    (machine : Machine ω) :
    machine.globals.SameSettings (waitForKernel vendor call submitted machine).machine.globals := by
  unfold waitForKernel
  dsimp only
  -- Whether an event is released does not matter here; whether the wait is recorded does.
  split <;> dsimp only <;> split <;> exact ⟨rfl, rfl, rfl⟩

theorem submitKernel_settings (vendor : Vendor ω) (shouldWait : Bool) (args : EnqueueArgs)
    (machine : Machine ω) :
    machine.globals.SameSettings (submitKernel vendor shouldWait args machine).machine.globals := by
  unfold submitKernel
  dsimp only
  split
  · exact ⟨rfl, rfl, rfl⟩
  · split
    · exact ⟨rfl, rfl, rfl⟩
    · exact waitForKernel_settings vendor _ _ _

def Globals.addDispatch (globals : Globals) : Globals :=
  { globals with dispatchCount := globals.dispatchCount + 1 }

/-- `reset_counters` -/
def Globals.resetCounters (globals : Globals) : Globals :=
  { globals with
    inferenceEnabled := false
    dispatchCount := 0
    waitCount := 0
    totalWaitNs := 0
    maxWaitNs := 0 }

namespace Bounded

def clEnqueueNDRangeKernel (vendor : Vendor ω) (args : EnqueueArgs) (machine : Machine ω) :
    Returned ω :=
  let machine := machine.pthreadOnce vendor
  if machine.globals.real.enqueue = false then
    ⟨CL_INVALID_OPERATION, [], machine⟩
  else
    let shouldWait := machine.globals.inferenceEnabled
    let globals := if shouldWait then machine.globals.addDispatch else machine.globals
    submitKernel vendor shouldWait args ⟨globals, machine.world⟩

def nativeResetInferenceCounters (vendor : Vendor ω) (machine : Machine ω) : Machine ω :=
  let machine := machine.pthreadOnce vendor
  { machine with globals := machine.globals.resetCounters }

def nativeSetInferenceEnabled (vendor : Vendor ω) (enabled : Bool) (machine : Machine ω) :
    Machine ω :=
  let machine := machine.pthreadOnce vendor
  { machine with globals := { machine.globals with inferenceEnabled := enabled } }

end Bounded

end Calls

/-! ### Concrete callers and vendors -/

/-- The kernel of a caller that asks for no event. -/
def eventlessArgs : EnqueueArgs := ⟨1, 2, 1, 0, 3, 0, 0, 0, none⟩

/-- A complete vendor library that answers its kernels with the given statuses in turn,
and gives an event for each kernel it accepts. -/
def scriptedVendor : Vendor (List ClInt) where
  resolveSymbols := fun statuses => (⟨true, true, true⟩, statuses)
  enqueueNDRangeKernel := fun _ slot statuses =>
    let status := statuses.headD CL_SUCCESS
    let stored := if status = CL_SUCCESS ∧ slot ≠ .null then some 7 else none
    (⟨status, 7, stored⟩, statuses.tail)
  waitForEvents := fun _ statuses => (CL_SUCCESS, statuses)
  releaseEvent := fun _ statuses => (CL_SUCCESS, statuses)
  clockGettime := fun statuses => (none, statuses)

end BssLiteRt.Shim
