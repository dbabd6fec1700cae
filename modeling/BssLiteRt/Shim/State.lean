import BssLiteRt.Library.Transition
import Mathlib.Data.List.Basic

/-!
Owns the bounded OpenCL shim as a transition system: its process-wide globals,
every call of `clEnqueueNDRangeKernel` with its program counter, and the resets
under way. Every atomic operation is one step, and so is every call into the
vendor library or the clock. Plain code between two of them belongs to the step
before it.

Calls are never removed, so that a state says what became of all of them. Log
output is left out.
-/

namespace BssLiteRt.Shim

open BssLiteRt.Library.Transition

/-! ### Values of the OpenCL interface -/

/-- A pointer or a handle of the OpenCL interface; `NULL` is 0. -/
abbrev Handle := Nat

abbrev ClEvent := Handle

abbrev ClInt := Int

def NULL : Handle := 0

def CL_SUCCESS : ClInt := 0

def CL_INVALID_OPERATION : ClInt := -59

/-- The arguments of `clEnqueueNDRangeKernel`. The event argument is a slot of
the caller with its contents, or NULL. -/
structure EnqueueArgs where
  commandQueue : Handle
  kernel : Handle
  workDim : Nat
  globalWorkOffset : Handle
  globalWorkSize : Handle
  localWorkSize : Handle
  numEventsInWaitList : Nat
  eventWaitList : Handle
  event : Option ClEvent
deriving DecidableEq

/-- Where `result_event` points. -/
inductive ResultEvent where
  | null
  | caller
  | boundary
deriving DecidableEq

/-- What the vendor answers to one kernel: its status, the kernel's completion
event, and what it stores in the slot it is given. -/
structure EnqueueAnswer where
  status : ClInt
  completion : ClEvent
  stored : Option ClEvent
deriving DecidableEq

inductive VendorCall where
  | enqueueNDRangeKernel (args : EnqueueArgs) (resultEvent : ResultEvent) (answer : EnqueueAnswer)
  | waitForEvents (events : List ClEvent) (status : ClInt)
  | releaseEvent (event : ClEvent) (status : ClInt)
deriving DecidableEq

/-! ### Globals -/

/-- Which of the three vendor symbols are present. -/
structure VendorSymbols where
  enqueue : Bool
  wait : Bool
  release : Bool
deriving DecidableEq

/-- The globals of the shim: `g_init_once`, the three `g_real_` pointers, the
flag and the four counters. -/
structure Globals where
  initOnce : Bool
  real : VendorSymbols
  inferenceEnabled : Bool
  dispatchCount : UInt64
  waitCount : UInt64
  totalWaitNs : UInt64
  maxWaitNs : UInt64
deriving DecidableEq

def Globals.initial : Globals := ⟨false, ⟨false, false, false⟩, false, 0, 0, 0, 0⟩

/-- `pthread_once(&g_init_once, initialize_shim)`, where `dlsym` finds the
symbols of `process`. -/
def Globals.pthreadOnce (process : VendorSymbols) (globals : Globals) : Globals :=
  if globals.initOnce then globals else { globals with initOnce := true, real := process }

/-! ### One call of `clEnqueueNDRangeKernel` -/

/-- What `clock_gettime` stores, when it succeeds. -/
structure Timespec where
  tvSec : Int64
  tvNsec : Int64

def monotonicTimeNs : Option Timespec → UInt64
  | none => 0
  | some now => now.tvSec.toUInt64 * 1000000000 + now.tvNsec.toUInt64

/-- The next atomic operation or outside call, with the locals still needed. -/
inductive EnqueuePc where
  | pthreadOnce
  | loadInferenceEnabled
  | addDispatchCount
  | realEnqueue (shouldWait : Bool)
  | readStarted (eventToWait : ClEvent)
  | realWait (eventToWait : ClEvent) (startedNs : UInt64)
  | readEnded (startedNs : UInt64) (waitStatus : ClInt)
  | addWaitCount (durationNs : UInt64) (waitStatus : ClInt)
  | addTotalWaitNs (durationNs : UInt64) (waitStatus : ClInt)
  | loadMaxWaitNs (durationNs : UInt64) (waitStatus : ClInt)
  | casMaxWaitNs (durationNs previousMax : UInt64) (waitStatus : ClInt)
  | realRelease (waitStatus : ClInt)
  | returned (status : ClInt)
deriving DecidableEq

/-- One call: its arguments, its two event slots, its program counter and what
it has done. `sawEnabled`, `counted` and `recorded` tell whether it observed
inference enabled and performed its two increments; `epoch` is the number of
resets of the dispatch counter before it. The code reads none of these four. -/
structure EnqueueCall where
  args : EnqueueArgs
  epoch : Nat
  pc : EnqueuePc := .pthreadOnce
  callerEvent : ClEvent := args.event.getD NULL
  boundaryEvent : ClEvent := NULL
  sawEnabled : Bool := false
  counted : Bool := false
  recorded : Bool := false
  vendorCalls : List VendorCall := []
deriving DecidableEq

/-- What the world outside the shim does in one step. -/
structure Outside where
  answer : EnqueueAnswer
  waitStatus : ClInt
  releaseStatus : ClInt
  now : Option Timespec
  casFails : Bool

namespace EnqueueCall

def inFlight (call : EnqueueCall) : Bool :=
  match call.pc with
  | .returned _ => false
  | _ => true

/-- `should_wait && event == NULL ? &boundary_event : event` -/
def resultEvent (call : EnqueueCall) (shouldWait : Bool) : ResultEvent :=
  match call.args.event with
  | none => if shouldWait then .boundary else .null
  | some _ => .caller

/-- The vendor stores an event in the slot it is given. -/
def store (call : EnqueueCall) (slot : ResultEvent) (stored : Option ClEvent) : EnqueueCall :=
  { call with
    callerEvent := if slot = .caller then stored.getD call.callerEvent else call.callerEvent
    boundaryEvent := if slot = .boundary then stored.getD call.boundaryEvent else call.boundaryEvent }

/-- `event == NULL ? boundary_event : *event` -/
def eventToWait (call : EnqueueCall) : ClEvent :=
  match call.args.event with
  | none => call.boundaryEvent
  | some _ => call.callerEvent

/-- The code after `record_wait`: a private event is released. -/
def afterWait (call : EnqueueCall) (waitStatus : ClInt) : EnqueuePc :=
  if call.args.event = none ∧ call.boundaryEvent ≠ NULL then
    .realRelease waitStatus
  else
    .returned waitStatus

/-- The test of the loop in `record_wait`. -/
def maxLoop (call : EnqueueCall) (durationNs previousMax : UInt64) (waitStatus : ClInt) :
    EnqueuePc :=
  if durationNs > previousMax then
    .casMaxWaitNs durationNs previousMax waitStatus
  else
    call.afterWait waitStatus

/-- The code after the vendor's enqueue. -/
def afterEnqueue (call : EnqueueCall) (real : VendorSymbols) (shouldWait : Bool)
    (enqueueStatus : ClInt) : EnqueuePc :=
  if enqueueStatus ≠ CL_SUCCESS ∨ shouldWait = false then
    .returned enqueueStatus
  else if real.wait = false ∨ real.release = false then
    .returned CL_INVALID_OPERATION
  else
    .readStarted call.eventToWait

/-- The next step of a call, on the globals it shares with the others. -/
def step (process : VendorSymbols) (globals : Globals) (call : EnqueueCall) (outside : Outside) :
    Option (Globals × EnqueueCall) :=
  match call.pc with
  | .pthreadOnce =>
      let globals := globals.pthreadOnce process
      if globals.real.enqueue then
        some (globals, { call with pc := .loadInferenceEnabled })
      else
        some (globals, { call with pc := .returned CL_INVALID_OPERATION })
  | .loadInferenceEnabled =>
      if globals.inferenceEnabled then
        some (globals, { call with sawEnabled := true, pc := .addDispatchCount })
      else
        some (globals, { call with pc := .realEnqueue false })
  | .addDispatchCount =>
      some ({ globals with dispatchCount := globals.dispatchCount + 1 },
        { call with counted := true, pc := .realEnqueue true })
  | .realEnqueue shouldWait =>
      let slot := call.resultEvent shouldWait
      let stored := call.store slot outside.answer.stored
      some (globals, { stored with
        vendorCalls := call.vendorCalls ++
          [VendorCall.enqueueNDRangeKernel call.args slot outside.answer]
        pc := stored.afterEnqueue globals.real shouldWait outside.answer.status })
  | .readStarted event =>
      some (globals, { call with pc := .realWait event (monotonicTimeNs outside.now) })
  | .realWait event startedNs =>
      some (globals, { call with
        vendorCalls := call.vendorCalls ++ [VendorCall.waitForEvents [event] outside.waitStatus]
        pc := .readEnded startedNs outside.waitStatus })
  | .readEnded startedNs waitStatus =>
      let endedNs := monotonicTimeNs outside.now
      if endedNs ≥ startedNs then
        some (globals, { call with pc := .addWaitCount (endedNs - startedNs) waitStatus })
      else
        some (globals, { call with pc := call.afterWait waitStatus })
  | .addWaitCount durationNs waitStatus =>
      some ({ globals with waitCount := globals.waitCount + 1 },
        { call with recorded := true, pc := .addTotalWaitNs durationNs waitStatus })
  | .addTotalWaitNs durationNs waitStatus =>
      some ({ globals with totalWaitNs := globals.totalWaitNs + durationNs },
        { call with pc := .loadMaxWaitNs durationNs waitStatus })
  | .loadMaxWaitNs durationNs waitStatus =>
      some (globals, { call with pc := call.maxLoop durationNs globals.maxWaitNs waitStatus })
  | .casMaxWaitNs durationNs previousMax waitStatus =>
      -- A failed exchange refreshes `previous_max`, also when it failed without cause.
      if outside.casFails = false ∧ globals.maxWaitNs = previousMax then
        some ({ globals with maxWaitNs := durationNs },
          { call with pc := call.afterWait waitStatus })
      else
        some (globals, { call with pc := call.maxLoop durationNs globals.maxWaitNs waitStatus })
  | .realRelease waitStatus =>
      let releaseStatus := outside.releaseStatus
      some (globals, { call with
        vendorCalls := call.vendorCalls ++ [VendorCall.releaseEvent call.boundaryEvent releaseStatus]
        pc := .returned
          (if waitStatus = CL_SUCCESS ∧ releaseStatus ≠ CL_SUCCESS then releaseStatus
            else waitStatus) })
  | .returned _ => none

end EnqueueCall

/-! ### The whole shim -/

/-- The next store of `reset_counters`. -/
inductive ResetPc where
  | storeInferenceEnabled
  | storeDispatchCount
  | storeWaitCount
  | storeTotalWaitNs
  | storeMaxWaitNs
  | returned
deriving DecidableEq

/-- The next step of a reset. -/
def ResetPc.step (globals : Globals) : ResetPc → Option (Globals × ResetPc)
  | .storeInferenceEnabled =>
      some ({ globals with inferenceEnabled := false }, .storeDispatchCount)
  | .storeDispatchCount => some ({ globals with dispatchCount := 0 }, .storeWaitCount)
  | .storeWaitCount => some ({ globals with waitCount := 0 }, .storeTotalWaitNs)
  | .storeTotalWaitNs => some ({ globals with totalWaitNs := 0 }, .storeMaxWaitNs)
  | .storeMaxWaitNs => some ({ globals with maxWaitNs := 0 }, .returned)
  | .returned => none

/-- The shim with all its calls and resets. `epoch` counts the stores of 0 to
`g_dispatch_count`. -/
structure State where
  process : VendorSymbols
  globals : Globals
  epoch : Nat
  calls : List EnqueueCall
  resets : List ResetPc
deriving DecidableEq

def State.initial (process : VendorSymbols) : State := ⟨process, .initial, 0, [], []⟩

inductive Action where
  | clEnqueueNDRangeKernel (args : EnqueueArgs)
  | advance (index : Nat) (outside : Outside)
  | nativeSetInferenceEnabled (enabled : Bool)
  | nativeResetInferenceCounters
  | advanceReset (index : Nat)

/-- One step of the shim. A reset runs only while no enqueue is in flight: none
is when it begins, and none begins before it has returned. -/
def State.step (state : State) : Action → Option State
  | .clEnqueueNDRangeKernel args =>
      if state.resets.all (· = .returned) then
        some { state with calls := state.calls ++ [{ args, epoch := state.epoch }] }
      else
        none
  | .advance index outside =>
      state.calls[index]?.bind fun call =>
        (call.step state.process state.globals outside).map fun (globals, call) =>
          { state with globals, calls := state.calls.set index call }
  | .nativeSetInferenceEnabled enabled =>
      some { state with
        globals := { state.globals.pthreadOnce state.process with inferenceEnabled := enabled } }
  | .nativeResetInferenceCounters =>
      if state.calls.all (!·.inFlight) then
        some { state with
          globals := state.globals.pthreadOnce state.process
          resets := state.resets ++ [.storeInferenceEnabled] }
      else
        none
  | .advanceReset index =>
      state.resets[index]?.bind fun reset =>
        (reset.step state.globals).map fun (globals, next) =>
          { state with
            globals
            epoch := if reset = .storeDispatchCount then state.epoch + 1 else state.epoch
            resets := state.resets.set index next }

end BssLiteRt.Shim
