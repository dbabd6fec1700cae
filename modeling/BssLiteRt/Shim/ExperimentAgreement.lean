import BssLiteRt.Library.Lockstep
import BssLiteRt.Shim.Experiment

/-!
Owns the agreement of the two shims: at window 1 the queue table of the experimental
shim decides nothing, so that the two run in lock-step.
-/

namespace BssLiteRt.Shim

open BssLiteRt.Library.Lockstep

/-- What a caller does to a shim. -/
inductive Operation where
  | clEnqueueNDRangeKernel (args : EnqueueArgs)
  | nativeSetInferenceEnabled (enabled : Bool)
  | nativeReset

/-- What an operation shows: the status of an enqueue, the vendor calls made, and the
flag and the counters after it. -/
structure Shown where
  status : Option ClInt
  performed : List VendorCall
  inferenceEnabled : Bool
  dispatchCount : UInt64
  waitCount : UInt64
  totalWaitNs : UInt64
  maxWaitNs : UInt64

def Globals.show (globals : Globals) (status : Option ClInt) (performed : List VendorCall) :
    Shown :=
  ⟨status, performed, globals.inferenceEnabled, globals.dispatchCount, globals.waitCount,
    globals.totalWaitNs, globals.maxWaitNs⟩

section Operations

variable {ω : Type} (vendor : Vendor ω)

def Bounded.operate (machine : Machine ω) : Operation → Shown × Machine ω
  | .clEnqueueNDRangeKernel args =>
      let outcome := clEnqueueNDRangeKernel vendor args machine
      (outcome.machine.globals.show outcome.status outcome.performed, outcome.machine)
  | .nativeSetInferenceEnabled enabled =>
      let machine := nativeSetInferenceEnabled vendor enabled machine
      (machine.globals.show none [], machine)
  | .nativeReset =>
      let machine := nativeResetInferenceCounters vendor machine
      (machine.globals.show none [], machine)

def Experimental.operate (windowProperty : List UInt8) (machine : Experiment ω) :
    Operation → Shown × Experiment ω
  | .clEnqueueNDRangeKernel args =>
      let outcome := clEnqueueNDRangeKernel vendor windowProperty args machine
      (outcome.machine.globals.show outcome.status outcome.performed, outcome.machine)
  | .nativeSetInferenceEnabled enabled =>
      let machine := nativeSetInferenceEnabled vendor windowProperty enabled machine
      (machine.globals.show none [], machine)
  | .nativeReset =>
      let machine := nativeReset vendor windowProperty machine
      (machine.globals.show none [], machine)

end Operations

section Agreement

variable {ω : Type} {vendor : Vendor ω} {windowProperty : List UInt8}

/-- The experimental shim with the globals of the bounded one; once initialised, its
window is 1. -/
def WindowOne (experiment : Experiment ω) (bounded : Machine ω) : Prop :=
  experiment.toMachine = bounded ∧ (bounded.globals.initOnce = true → experiment.windowSize = 1)

/-- The same after initialisation. -/
def InitializedAtOne (experiment : Experiment ω) (bounded : Machine ω) : Prop :=
  experiment.toMachine = bounded ∧ bounded.globals.initOnce = true ∧ experiment.windowSize = 1

theorem InitializedAtOne.windowOne {experiment : Experiment ω} {bounded : Machine ω}
    (initialized : InitializedAtOne experiment bounded) : WindowOne experiment bounded :=
  ⟨initialized.1, fun _ => initialized.2.2⟩

theorem Machine.pthreadOnce_initOnce (machine : Machine ω) :
    (machine.pthreadOnce vendor).globals.initOnce = true := by
  unfold Machine.pthreadOnce
  split
  · assumption
  · rename_i fresh
    dsimp only [Globals.pthreadOnce]
    rw [if_neg fresh]

theorem WindowOne.pthreadOnce (one : readWindowSize windowProperty = 1)
    {experiment : Experiment ω} {bounded : Machine ω} (same : WindowOne experiment bounded) :
    InitializedAtOne (Experimental.pthreadOnce vendor windowProperty experiment)
      (bounded.pthreadOnce vendor) := by
  obtain ⟨rfl, atOne⟩ := same
  unfold Experimental.pthreadOnce
  by_cases initialized : experiment.globals.initOnce = true
  · rw [if_pos initialized]
    have unchanged : experiment.toMachine.pthreadOnce vendor = experiment.toMachine :=
      if_pos initialized
    rw [unchanged]
    exact ⟨rfl, initialized, atOne initialized⟩
  · rw [if_neg initialized]
    exact ⟨rfl, Machine.pthreadOnce_initOnce _, one⟩

/-- Every number of dispatches is a multiple of window 1. -/
theorem shouldWaitAfterDispatch_windowOne (queue : Handle) {experiment : Experiment ω}
    (one : experiment.windowSize = 1) :
    let decided := Experimental.shouldWaitAfterDispatch queue experiment
    decided.1 = experiment.globals.inferenceEnabled ∧
      decided.2.toMachine =
        ⟨if experiment.globals.inferenceEnabled then experiment.globals.addDispatch
          else experiment.globals, experiment.world⟩ ∧
      decided.2.windowSize = 1 := by
  unfold Experimental.shouldWaitAfterDispatch
  cases enabled : experiment.globals.inferenceEnabled with
  | false => simp [one]
  | true => simp [one]

theorem clEnqueueNDRangeKernel_agrees (args : EnqueueArgs) {experiment : Experiment ω}
    {bounded : Machine ω} (one : readWindowSize windowProperty = 1)
    (same : WindowOne experiment bounded) :
    let first := Experimental.clEnqueueNDRangeKernel vendor windowProperty args experiment
    let second := Bounded.clEnqueueNDRangeKernel vendor args bounded
    first.status = second.status ∧ first.performed = second.performed ∧
      InitializedAtOne first.machine second.machine := by
  have ready := @WindowOne.pthreadOnce _ vendor _ one _ _ same
  unfold Experimental.clEnqueueNDRangeKernel Bounded.clEnqueueNDRangeKernel
  generalize Experimental.pthreadOnce vendor windowProperty experiment = started at ready ⊢
  generalize bounded.pthreadOnce vendor = boundedStarted at ready ⊢
  obtain ⟨rfl, initialized, atOne⟩ := ready
  dsimp only
  by_cases missing : started.globals.real.enqueue = false
  · rw [if_pos missing, if_pos missing]
    exact ⟨rfl, rfl, rfl, initialized, atOne⟩
  · rw [if_neg missing, if_neg missing]
    obtain ⟨waits, counted, stays⟩ :=
      shouldWaitAfterDispatch_windowOne args.commandQueue atOne
    rw [waits, counted]
    refine ⟨rfl, rfl, rfl, ?_, stays⟩
    rw [(submitKernel_settings vendor _ _ _).1]
    split <;> exact initialized

theorem nativeSetInferenceEnabled_agrees (enabled : Bool) {experiment : Experiment ω}
    {bounded : Machine ω} (one : readWindowSize windowProperty = 1)
    (same : WindowOne experiment bounded) :
    InitializedAtOne
      (Experimental.nativeSetInferenceEnabled vendor windowProperty enabled experiment)
      (Bounded.nativeSetInferenceEnabled vendor enabled bounded) := by
  have ready := @WindowOne.pthreadOnce _ vendor _ one _ _ same
  unfold Experimental.nativeSetInferenceEnabled Bounded.nativeSetInferenceEnabled
  obtain ⟨machines, initialized, atOne⟩ := ready
  rw [← machines] at initialized ⊢
  exact ⟨rfl, initialized, atOne⟩

theorem nativeReset_agrees {experiment : Experiment ω} {bounded : Machine ω}
    (one : readWindowSize windowProperty = 1) (same : WindowOne experiment bounded) :
    InitializedAtOne (Experimental.nativeReset vendor windowProperty experiment)
      (Bounded.nativeResetInferenceCounters vendor bounded) := by
  have ready := @WindowOne.pthreadOnce _ vendor _ one _ _ same
  unfold Experimental.nativeReset Bounded.nativeResetInferenceCounters
  obtain ⟨machines, initialized, atOne⟩ := ready
  rw [← machines] at initialized ⊢
  exact ⟨rfl, initialized, atOne⟩

/-- One operation of each, from related machines. -/
theorem operate_windowOne (one : readWindowSize windowProperty = 1) :
    Simulates (Experimental.operate vendor windowProperty) (Bounded.operate vendor)
      WindowOne where
  answers := by
    intro experiment bounded same operation
    cases operation with
    | clEnqueueNDRangeKernel args =>
        obtain ⟨status, performed, after⟩ := clEnqueueNDRangeKernel_agrees args one same
        unfold Experimental.operate Bounded.operate
        dsimp only at status performed after ⊢
        rw [status, performed, after.1]
    | nativeSetInferenceEnabled enabled =>
        exact congrArg (fun machine : Machine ω => machine.globals.show none [])
          (nativeSetInferenceEnabled_agrees enabled one same).1
    | nativeReset =>
        exact congrArg (fun machine : Machine ω => machine.globals.show none [])
          (nativeReset_agrees one same).1
  keeps := by
    intro experiment bounded same operation
    cases operation with
    | clEnqueueNDRangeKernel args =>
        exact (clEnqueueNDRangeKernel_agrees args one same).2.2.windowOne
    | nativeSetInferenceEnabled enabled =>
        exact (nativeSetInferenceEnabled_agrees enabled one same).windowOne
    | nativeReset => exact (nativeReset_agrees one same).windowOne

/-- At window 1 the experimental shim shows what the bounded shim shows, over every
list of operations. -/
theorem experiment_eq_bounded_at_window_one (vendor : Vendor ω) (world : ω)
    (windowProperty : List UInt8) (one : readWindowSize windowProperty = 1)
    (operations : List Operation) :
    outputs (Experimental.operate vendor windowProperty) (.initial world) operations =
      outputs (Bounded.operate vendor) ⟨.initial, world⟩ operations :=
  (operate_windowOne one).outputs_eq operations ⟨rfl, fun started => absurd started nofun⟩

end Agreement

/-- A session of two kernels, the second of them rejected. -/
theorem experiment_eq_bounded_session :
    let operations : List Operation :=
      [.nativeReset, .nativeSetInferenceEnabled true, .clEnqueueNDRangeKernel eventlessArgs,
        .clEnqueueNDRangeKernel eventlessArgs, .nativeSetInferenceEnabled false]
    outputs (Experimental.operate scriptedVendor [49]) (.initial [CL_SUCCESS, -5]) operations =
      outputs (Bounded.operate scriptedVendor) ⟨.initial, [CL_SUCCESS, -5]⟩ operations :=
  experiment_eq_bounded_at_window_one scriptedVendor [CL_SUCCESS, -5] [49] (by decide) _

end BssLiteRt.Shim
