import BssLiteRt.Library.Counting
import BssLiteRt.Library.Transition
import BssLiteRt.Shim.State
import Mathlib.Algebra.BigOperators.Group.List.Basic
import Mathlib.Algebra.GroupWithZero.Nat

/-!
Owns `record_wait` as threads call it at the same time: each atomic operation is one
step, and a compare-exchange may fail without cause. Nothing that a call adds is lost,
and the maximum is the greatest duration.
-/

namespace BssLiteRt.Shim

open BssLiteRt.Library.Counting BssLiteRt.Library.Transition

/-! ### The calls of a thread -/

/-- The next atomic operation of `record_wait`. -/
inductive RecordPc where
  | addWaitCount
  | addTotalWaitNs
  | loadMaxWaitNs
  | casMaxWaitNs (previousMax : UInt64)
deriving DecidableEq

/-- A thread that records durations one after the other. The first of them is the
argument of the call that it is in, or that it makes next. -/
structure Recorder where
  pc : RecordPc
  durations : List UInt64
deriving DecidableEq

namespace Recorder

/-- The test of the loop, against the local `previous_max`. -/
def maxLoop (durationNs previousMax : UInt64) (rest : List UInt64) : Recorder :=
  if durationNs > previousMax then
    ⟨.casMaxWaitNs previousMax, durationNs :: rest⟩
  else
    ⟨.addWaitCount, rest⟩

/-- The next step of a thread; none when its calls have returned. -/
def step (globals : Globals) (recorder : Recorder) (casFails : Bool) :
    Option (Globals × Recorder) :=
  match recorder.durations with
  | [] => none
  | durationNs :: rest =>
      match recorder.pc with
      | .addWaitCount =>
          some ({ globals with waitCount := globals.waitCount + 1 },
            { recorder with pc := .addTotalWaitNs })
      | .addTotalWaitNs =>
          some ({ globals with totalWaitNs := globals.totalWaitNs + durationNs },
            { recorder with pc := .loadMaxWaitNs })
      | .loadMaxWaitNs => some (globals, maxLoop durationNs globals.maxWaitNs rest)
      | .casMaxWaitNs previousMax =>
          -- A failed exchange refreshes `previous_max`, also when it failed without cause.
          if casFails = false ∧ globals.maxWaitNs = previousMax then
            some ({ globals with maxWaitNs := durationNs }, ⟨.addWaitCount, rest⟩)
          else
            some (globals, maxLoop durationNs globals.maxWaitNs rest)

end Recorder

/-- What one step of a thread can do. -/
inductive RecordStep (globals : Globals) (recorder : Recorder) : Globals → Recorder → Prop where
  | counted {durationNs : UInt64} {rest : List UInt64}
      (here : recorder = ⟨.addWaitCount, durationNs :: rest⟩) :
      RecordStep globals recorder { globals with waitCount := globals.waitCount + 1 }
        ⟨.addTotalWaitNs, durationNs :: rest⟩
  | added {durationNs : UInt64} {rest : List UInt64}
      (here : recorder = ⟨.addTotalWaitNs, durationNs :: rest⟩) :
      RecordStep globals recorder { globals with totalWaitNs := globals.totalWaitNs + durationNs }
        ⟨.loadMaxWaitNs, durationNs :: rest⟩
  | exceeds {durationNs : UInt64} {rest : List UInt64}
      (pc : recorder.pc ≠ .addWaitCount ∧ recorder.pc ≠ .addTotalWaitNs)
      (here : recorder.durations = durationNs :: rest) (greater : globals.maxWaitNs < durationNs) :
      RecordStep globals recorder globals ⟨.casMaxWaitNs globals.maxWaitNs, durationNs :: rest⟩
  | covered {durationNs : UInt64} {rest : List UInt64}
      (pc : recorder.pc ≠ .addWaitCount ∧ recorder.pc ≠ .addTotalWaitNs)
      (here : recorder.durations = durationNs :: rest) (atMost : durationNs ≤ globals.maxWaitNs) :
      RecordStep globals recorder globals ⟨.addWaitCount, rest⟩
  | exchanged {durationNs : UInt64} {rest : List UInt64}
      (here : recorder = ⟨.casMaxWaitNs globals.maxWaitNs, durationNs :: rest⟩) :
      RecordStep globals recorder { globals with maxWaitNs := durationNs } ⟨.addWaitCount, rest⟩

theorem recordStep_maxLoop {globals : Globals} {recorder : Recorder} {durationNs : UInt64}
    {rest : List UInt64} (pc : recorder.pc ≠ .addWaitCount ∧ recorder.pc ≠ .addTotalWaitNs)
    (here : recorder.durations = durationNs :: rest) :
    RecordStep globals recorder globals (Recorder.maxLoop durationNs globals.maxWaitNs rest) := by
  unfold Recorder.maxLoop
  split
  · exact .exceeds pc here ‹_›
  · exact .covered pc here (UInt64.not_lt.mp ‹_›)

theorem recordStep_of_step {globals globals' : Globals} {recorder recorder' : Recorder}
    {casFails : Bool} (stepped : recorder.step globals casFails = some (globals', recorder')) :
    RecordStep globals recorder globals' recorder' := by
  obtain ⟨pc, durations⟩ := recorder
  cases durations with
  | nil => contradiction
  | cons durationNs rest =>
      cases pc with
      | addWaitCount =>
          cases stepped
          exact .counted rfl
      | addTotalWaitNs =>
          cases stepped
          exact .added rfl
      | loadMaxWaitNs =>
          cases stepped
          exact recordStep_maxLoop ⟨nofun, nofun⟩ rfl
      | casMaxWaitNs previousMax =>
          unfold Recorder.step at stepped
          dsimp only at stepped
          split at stepped
          · rename_i exchanges
            cases stepped
            exact .exchanged (by rw [exchanges.2])
          · cases stepped
            exact recordStep_maxLoop ⟨nofun, nofun⟩ rfl

/-! ### The calls of the shim -/

/-- The call of `record_wait` in which an enqueue is. -/
def EnqueuePc.recorder? : EnqueuePc → Option Recorder
  | .addWaitCount durationNs _ => some ⟨.addWaitCount, [durationNs]⟩
  | .addTotalWaitNs durationNs _ => some ⟨.addTotalWaitNs, [durationNs]⟩
  | .loadMaxWaitNs durationNs _ => some ⟨.loadMaxWaitNs, [durationNs]⟩
  | .casMaxWaitNs durationNs previousMax _ => some ⟨.casMaxWaitNs previousMax, [durationNs]⟩
  | _ => none

/-- What follows a step of `record_wait`: the next one, or the code after the wait. -/
def EnqueueCall.Continues (call : EnqueueCall) (pc : EnqueuePc) (recorder : Recorder) : Prop :=
  pc.recorder? = some recorder ∨
    recorder.durations = [] ∧ ∃ waitStatus, pc = call.afterWait waitStatus

theorem continues_maxLoop (call : EnqueueCall) (durationNs previousMax : UInt64)
    (waitStatus : ClInt) :
    call.Continues (call.maxLoop durationNs previousMax waitStatus)
      (Recorder.maxLoop durationNs previousMax []) := by
  unfold EnqueueCall.maxLoop Recorder.maxLoop
  split
  · exact .inl rfl
  · exact .inr ⟨rfl, waitStatus, rfl⟩

/-- Inside `record_wait` an enqueue takes the steps of a thread that records. -/
theorem EnqueueCall.step_records {process : VendorSymbols} {globals globals' : Globals}
    {call call' : EnqueueCall} {outside : Outside} {recorder : Recorder}
    (inside : call.pc.recorder? = some recorder)
    (stepped : call.step process globals outside = some (globals', call')) :
    ∃ recorder', recorder.step globals outside.casFails = some (globals', recorder') ∧
      call.Continues call'.pc recorder' := by
  unfold EnqueueCall.step at stepped
  cases pc : call.pc with
  | addWaitCount durationNs waitStatus =>
      rw [pc] at inside stepped
      cases inside
      cases stepped
      exact ⟨_, rfl, .inl rfl⟩
  | addTotalWaitNs durationNs waitStatus =>
      rw [pc] at inside stepped
      cases inside
      cases stepped
      exact ⟨_, rfl, .inl rfl⟩
  | loadMaxWaitNs durationNs waitStatus =>
      rw [pc] at inside stepped
      cases inside
      cases stepped
      exact ⟨_, rfl, continues_maxLoop call durationNs globals.maxWaitNs waitStatus⟩
  | casMaxWaitNs durationNs previousMax waitStatus =>
      rw [pc] at inside stepped
      cases inside
      dsimp only at stepped
      split at stepped
      · rename_i exchanges
        cases stepped
        exact ⟨_, if_pos exchanges, .inr ⟨rfl, waitStatus, rfl⟩⟩
      · rename_i fails
        cases stepped
        exact ⟨_, if_neg fails, continues_maxLoop call durationNs globals.maxWaitNs waitStatus⟩
  | _ =>
      rw [pc] at inside
      contradiction

/-- No other step of an enqueue changes what `record_wait` adds to. -/
theorem EnqueueCall.step_records_nothing {process : VendorSymbols} {globals globals' : Globals}
    {call call' : EnqueueCall} {outside : Outside} (elsewhere : call.pc.recorder? = none)
    (stepped : call.step process globals outside = some (globals', call')) :
    globals'.waitCount = globals.waitCount ∧ globals'.totalWaitNs = globals.totalWaitNs ∧
      globals'.maxWaitNs = globals.maxWaitNs := by
  unfold EnqueueCall.step at stepped
  cases pc : call.pc with
  | addWaitCount => rw [pc] at elsewhere; contradiction
  | addTotalWaitNs => rw [pc] at elsewhere; contradiction
  | loadMaxWaitNs => rw [pc] at elsewhere; contradiction
  | casMaxWaitNs => rw [pc] at elsewhere; contradiction
  | pthreadOnce =>
      rw [pc] at stepped
      have counters : (globals.pthreadOnce process).waitCount = globals.waitCount ∧
          (globals.pthreadOnce process).totalWaitNs = globals.totalWaitNs ∧
          (globals.pthreadOnce process).maxWaitNs = globals.maxWaitNs := by
        unfold Globals.pthreadOnce
        split <;> exact ⟨rfl, rfl, rfl⟩
      dsimp only at stepped
      split at stepped <;> cases stepped <;> exact counters
  | addDispatchCount | realEnqueue | readStarted | realWait | realRelease =>
      rw [pc] at stepped
      cases stepped
      exact ⟨rfl, rfl, rfl⟩
  | loadInferenceEnabled | readEnded =>
      rw [pc] at stepped
      dsimp only at stepped
      split at stepped <;> cases stepped <;> exact ⟨rfl, rfl, rfl⟩
  | returned =>
      rw [pc] at stepped
      contradiction

/-! ### All threads -/

/-- The counters and the threads that record into them. -/
structure Recording where
  globals : Globals
  threads : List Recorder
deriving DecidableEq

/-- Thread `thread` takes a step. -/
structure RecordAction where
  thread : Nat
  casFails : Bool

/-- No thread has begun a call. -/
def Recording.start (globals : Globals) (durations : List (List UInt64)) : Recording :=
  ⟨globals, durations.map (Recorder.mk .addWaitCount)⟩

def Recording.step (state : Recording) (action : RecordAction) : Option Recording :=
  state.threads[action.thread]?.bind fun recorder =>
    (recorder.step state.globals action.casFails).map fun (globals, recorder) =>
      ⟨globals, state.threads.set action.thread recorder⟩

/-- All calls have returned. -/
def Recording.AllReturned (state : Recording) : Prop :=
  ∀ recorder ∈ state.threads, recorder.durations = []

theorem Recording.step_cases {state after : Recording} {action : RecordAction}
    (stepped : state.step action = some after) :
    ∃ recorder recorder', state.threads[action.thread]? = some recorder ∧
      RecordStep state.globals recorder after.globals recorder' ∧
      after.threads = state.threads.set action.thread recorder' := by
  obtain ⟨recorder, found, moved⟩ := Option.bind_eq_some_iff.mp stepped
  obtain ⟨⟨globals, recorder'⟩, taken, isAfter⟩ := Option.map_eq_some_iff.mp moved
  cases isAfter
  exact ⟨recorder, recorder', found, recordStep_of_step taken, rfl⟩

/-! ### What is still to be added -/

namespace Recorder

/-- The calls that have not counted themselves. -/
def uncounted (recorder : Recorder) : Nat :=
  match recorder.pc with
  | .addWaitCount => recorder.durations.length
  | _ => recorder.durations.tail.length

/-- The durations that have not been added. -/
def unadded (recorder : Recorder) : Nat :=
  match recorder.pc with
  | .addWaitCount | .addTotalWaitNs => (recorder.durations.map UInt64.toNat).sum
  | _ => (recorder.durations.tail.map UInt64.toNat).sum

/-- The exchange that is next would store a greater maximum. -/
def Raises (recorder : Recorder) : Prop :=
  ∀ previousMax durationNs rest,
    recorder = ⟨.casMaxWaitNs previousMax, durationNs :: rest⟩ → previousMax < durationNs

theorem uncounted_running {pc : RecordPc} {durations : List UInt64}
    (running : pc ≠ .addWaitCount) :
    uncounted ⟨pc, durations⟩ = durations.tail.length := by
  cases pc with
  | addWaitCount => contradiction
  | addTotalWaitNs => rfl
  | loadMaxWaitNs => rfl
  | casMaxWaitNs => rfl

theorem unadded_running {pc : RecordPc} {durations : List UInt64}
    (running : pc ≠ .addWaitCount ∧ pc ≠ .addTotalWaitNs) :
    unadded ⟨pc, durations⟩ = (durations.tail.map UInt64.toNat).sum := by
  cases pc with
  | addWaitCount => exact absurd rfl running.1
  | addTotalWaitNs => exact absurd rfl running.2
  | loadMaxWaitNs => rfl
  | casMaxWaitNs => rfl

end Recorder

section Steps

variable {globals globals' : Globals} {recorder recorder' : Recorder}

/-- A step that counts a call leaves one call less to count. -/
theorem RecordStep.waitCount (stepped : RecordStep globals recorder globals' recorder')
    (others : Nat) :
    globals'.waitCount + UInt64.ofNat (others + recorder'.uncounted) =
      globals.waitCount + UInt64.ofNat (others + recorder.uncounted) := by
  cases stepped with
  | @counted durationNs rest here =>
      subst here
      have oneLess : others + Recorder.uncounted ⟨.addWaitCount, durationNs :: rest⟩ =
          1 + (others + Recorder.uncounted ⟨.addTotalWaitNs, durationNs :: rest⟩) := by
        simp only [Recorder.uncounted, List.length_cons, List.tail_cons]
        omega
      rw [oneLess, UInt64.ofNat_add 1, ← UInt64.add_assoc]
      rfl
  | added here =>
      subst here
      rfl
  | exceeds pc here _ =>
      obtain ⟨ownPc, ownDurations⟩ := recorder
      subst here
      rw [Recorder.uncounted_running pc.1]
      rfl
  | covered pc here _ =>
      obtain ⟨ownPc, ownDurations⟩ := recorder
      subst here
      rw [Recorder.uncounted_running pc.1]
      rfl
  | exchanged here =>
      subst here
      rfl

/-- A step that adds a duration leaves that much less to add. -/
theorem RecordStep.totalWaitNs (stepped : RecordStep globals recorder globals' recorder')
    (others : Nat) :
    globals'.totalWaitNs + UInt64.ofNat (others + recorder'.unadded) =
      globals.totalWaitNs + UInt64.ofNat (others + recorder.unadded) := by
  cases stepped with
  | counted here =>
      subst here
      rfl
  | @added durationNs rest here =>
      subst here
      have less : others + Recorder.unadded ⟨.addTotalWaitNs, durationNs :: rest⟩ =
          durationNs.toNat +
            (others + Recorder.unadded ⟨.loadMaxWaitNs, durationNs :: rest⟩) := by
        simp only [Recorder.unadded, List.map_cons, List.sum_cons, List.tail_cons]
        omega
      rw [less, UInt64.ofNat_add durationNs.toNat, ← UInt64.add_assoc, UInt64.ofNat_toNat]
  | exceeds pc here _ =>
      obtain ⟨ownPc, ownDurations⟩ := recorder
      subst here
      rw [Recorder.unadded_running pc]
      rfl
  | covered pc here _ =>
      obtain ⟨ownPc, ownDurations⟩ := recorder
      subst here
      rw [Recorder.unadded_running pc]
      rfl
  | exchanged here =>
      subst here
      rfl

/-- The maximum never decreases. -/
theorem RecordStep.maxWaitNs_le (stepped : RecordStep globals recorder globals' recorder')
    (raises : recorder.Raises) : globals.maxWaitNs ≤ globals'.maxWaitNs := by
  cases stepped with
  | counted => exact UInt64.le_refl _
  | added => exact UInt64.le_refl _
  | exceeds => exact UInt64.le_refl _
  | covered => exact UInt64.le_refl _
  | exchanged here => exact UInt64.le_of_lt (raises _ _ _ here)

/-- The maximum changes to a duration only. -/
theorem RecordStep.maxWaitNs_mem (stepped : RecordStep globals recorder globals' recorder') :
    globals'.maxWaitNs = globals.maxWaitNs ∨ globals'.maxWaitNs ∈ recorder.durations := by
  cases stepped with
  | counted => exact .inl rfl
  | added => exact .inl rfl
  | exceeds => exact .inl rfl
  | covered => exact .inl rfl
  | exchanged here =>
      subst here
      exact .inr List.mem_cons_self

/-- A duration leaves its thread when the maximum has reached it. -/
theorem RecordStep.durations_covered (stepped : RecordStep globals recorder globals' recorder')
    {durationNs : UInt64} (member : durationNs ∈ recorder.durations) :
    durationNs ≤ globals'.maxWaitNs ∨ durationNs ∈ recorder'.durations := by
  cases stepped with
  | counted here =>
      subst here
      exact .inr member
  | added here =>
      subst here
      exact .inr member
  | exceeds _ here =>
      rw [here] at member
      exact .inr member
  | covered _ here atMost =>
      rw [here] at member
      rcases List.mem_cons.mp member with rfl | later
      · exact .inl atMost
      · exact .inr later
  | exchanged here =>
      subst here
      rcases List.mem_cons.mp member with rfl | later
      · exact .inl (UInt64.le_refl _)
      · exact .inr later

theorem RecordStep.durations_subset (stepped : RecordStep globals recorder globals' recorder') :
    recorder'.durations ⊆ recorder.durations := by
  cases stepped with
  | counted here =>
      subst here
      exact List.Subset.refl _
  | added here =>
      subst here
      exact List.Subset.refl _
  | exceeds _ here => exact here ▸ List.Subset.refl _
  | covered _ here => exact here ▸ List.subset_cons_self _ _
  | exchanged here =>
      subst here
      exact List.subset_cons_self _ _

theorem RecordStep.raises (stepped : RecordStep globals recorder globals' recorder') :
    recorder'.Raises := by
  intro previousMax durationNs rest there
  cases stepped with
  | counted => cases there
  | added => cases there
  | exceeds _ _ greater =>
      cases there
      exact greater
  | covered => cases there
  | exchanged => cases there

end Steps

/-! ### Runs -/

/-- The greatest of a value and some durations. -/
def largest (value : UInt64) : List UInt64 → UInt64
  | [] => value
  | durationNs :: rest => largest (if durationNs > value then durationNs else value) rest

theorem le_largest (value : UInt64) (durations : List UInt64) :
    value ≤ largest value durations ∧ ∀ durationNs ∈ durations,
      durationNs ≤ largest value durations := by
  induction durations generalizing value with
  | nil => exact ⟨UInt64.le_refl _, fun _ member => absurd member List.not_mem_nil⟩
  | cons durationNs rest inductionHypothesis =>
      obtain ⟨keptLe, restLe⟩ := inductionHypothesis
        (if durationNs > value then durationNs else value)
      have bothLe : value ≤ (if durationNs > value then durationNs else value) ∧
          durationNs ≤ (if durationNs > value then durationNs else value) := by
        split
        · exact ⟨UInt64.le_of_lt ‹_›, UInt64.le_refl _⟩
        · exact ⟨UInt64.le_refl _, UInt64.not_lt.mp ‹_›⟩
      refine ⟨UInt64.le_trans bothLe.1 keptLe, fun other member => ?_⟩
      rcases List.mem_cons.mp member with rfl | later
      · exact UInt64.le_trans bothLe.2 keptLe
      · exact restLe other later

theorem largest_le {value bound : UInt64} {durations : List UInt64} (valueLe : value ≤ bound)
    (durationsLe : ∀ durationNs ∈ durations, durationNs ≤ bound) :
    largest value durations ≤ bound := by
  induction durations generalizing value with
  | nil => exact valueLe
  | cons durationNs rest inductionHypothesis =>
      apply inductionHypothesis
      · split
        · exact durationsLe durationNs List.mem_cons_self
        · exact valueLe
      · exact fun other member => durationsLe other (List.mem_cons_of_mem _ member)

/-- What holds at every moment of the calls: what is counted and what is not add up,
and every duration is still with its thread or reached by the maximum. -/
structure Recorded (globals : Globals) (durations : List (List UInt64)) (state : Recording) :
    Prop where
  waitCount : state.globals.waitCount +
      UInt64.ofNat (state.threads.map Recorder.uncounted).sum =
    globals.waitCount + UInt64.ofNat durations.flatten.length
  totalWaitNs : state.globals.totalWaitNs +
      UInt64.ofNat (state.threads.map Recorder.unadded).sum =
    globals.totalWaitNs + UInt64.ofNat (durations.flatten.map UInt64.toNat).sum
  atLeast : globals.maxWaitNs ≤ state.globals.maxWaitNs
  given : state.globals.maxWaitNs = globals.maxWaitNs ∨
    state.globals.maxWaitNs ∈ durations.flatten
  covered : ∀ durationNs ∈ durations.flatten, durationNs ≤ state.globals.maxWaitNs ∨
    ∃ recorder ∈ state.threads, durationNs ∈ recorder.durations
  remaining : ∀ recorder ∈ state.threads, recorder.durations ⊆ durations.flatten
  raises : ∀ recorder ∈ state.threads, recorder.Raises

theorem recorded_start (globals : Globals) (durations : List (List UInt64)) :
    Recorded globals durations (.start globals durations) where
  waitCount := by
    unfold Recording.start
    rw [List.map_map, List.length_flatten]
    rfl
  totalWaitNs := by
    unfold Recording.start
    rw [List.map_map, List.map_flatten, List.sum_flatten, List.map_map]
    rfl
  atLeast := UInt64.le_refl _
  given := .inl rfl
  covered := by
    intro durationNs member
    obtain ⟨own, ownMember, inOwn⟩ := List.mem_flatten.mp member
    exact .inr ⟨_, List.mem_map_of_mem ownMember, inOwn⟩
  remaining := by
    intro recorder member durationNs inOwn
    obtain ⟨own, ownMember, rfl⟩ := List.mem_map.mp member
    exact List.mem_flatten.mpr ⟨own, ownMember, inOwn⟩
  raises := by
    intro recorder member previousMax durationNs rest there
    obtain ⟨own, -, rfl⟩ := List.mem_map.mp member
    cases there

/-- One step of one thread. -/
theorem Recorded.step {globals : Globals} {durations : List (List UInt64)}
    {state after : Recording} {action : RecordAction} (recorded : Recorded globals durations state)
    (stepped : state.step action = some after) :
    Recorded globals durations after ∧ state.globals.maxWaitNs ≤ after.globals.maxWaitNs := by
  obtain ⟨recorder, recorder', found, moved, threads⟩ := Recording.step_cases stepped
  have member : recorder ∈ state.threads := List.mem_of_getElem? found
  have grows := moved.maxWaitNs_le (recorded.raises recorder member)
  refine ⟨⟨?waitCount, ?totalWaitNs, ?atLeast, ?given, ?covered, ?remaining, ?raises⟩, grows⟩
  case waitCount =>
    obtain ⟨others, before, now⟩ := sum_map_set Recorder.uncounted found
    rw [threads, now, moved.waitCount others, ← before]
    exact recorded.waitCount
  case totalWaitNs =>
    obtain ⟨others, before, now⟩ := sum_map_set Recorder.unadded found
    rw [threads, now, moved.totalWaitNs others, ← before]
    exact recorded.totalWaitNs
  case atLeast => exact UInt64.le_trans recorded.atLeast grows
  case given =>
    rcases moved.maxWaitNs_mem with same | stored
    · rw [same]
      exact recorded.given
    · exact .inr (recorded.remaining recorder member stored)
  case covered =>
    intro durationNs given
    rcases recorded.covered durationNs given with reached | ⟨other, otherMember, with_⟩
    · exact .inl (UInt64.le_trans reached grows)
    · rw [threads]
      by_cases same : recorder = other
      · subst same
        rcases moved.durations_covered with_ with reached | still
        · exact .inl reached
        · have position : action.thread < state.threads.length :=
            (List.getElem?_eq_some_iff.mp found).1
          exact .inr ⟨recorder', List.mem_set position _, still⟩
      · exact .inr ⟨other, mem_set_other found same otherMember, with_⟩
  case remaining =>
    rw [threads]
    exact forall_set recorded.remaining
      (List.Subset.trans moved.durations_subset (recorded.remaining recorder member))
  case raises =>
    rw [threads]
    exact forall_set recorded.raises moved.raises

/-- Nothing is left to add when all calls have returned. -/
theorem sum_allReturned {state : Recording} (returned : state.AllReturned)
    {measure : Recorder → Nat} (nothing : ∀ pc, measure ⟨pc, []⟩ = 0) :
    (state.threads.map measure).sum = 0 := by
  apply List.sum_eq_zero
  intro value member
  obtain ⟨⟨pc, durations⟩, threadMember, rfl⟩ := List.mem_map.mp member
  have done : durations = [] := returned _ threadMember
  rw [done]
  exact nothing pc

/-- Calls of any number of threads, in any order of their steps, lose nothing. -/
theorem wait_statistics_lose_nothing (globals : Globals) (durations : List (List UInt64))
    (actions : List RecordAction) (state : Recording)
    (reached : ReachesWhile Recording.step (fun _ _ _ => True) (.start globals durations) actions
      state) :
    (∀ action after, state.step action = some after →
      state.globals.maxWaitNs ≤ after.globals.maxWaitNs) ∧
    state.globals.maxWaitNs ≤ largest globals.maxWaitNs durations.flatten ∧
    (state.AllReturned →
      state.globals.waitCount = globals.waitCount + UInt64.ofNat durations.flatten.length ∧
      state.globals.totalWaitNs =
        globals.totalWaitNs + UInt64.ofNat (durations.flatten.map UInt64.toNat).sum ∧
      state.globals.maxWaitNs = largest globals.maxWaitNs durations.flatten) := by
  have recorded : Recorded globals durations state := by
    refine @ReachesWhile.invariant _ _ _ _ _ (fun _ state => Recorded globals durations state)
      (recorded_start globals durations) ?_ _ _ reached
    intro _ before _ after held _ stepped
    exact (held.step stepped).1
  obtain ⟨initialLe, durationsLe⟩ := le_largest globals.maxWaitNs durations.flatten
  have atMost : state.globals.maxWaitNs ≤ largest globals.maxWaitNs durations.flatten := by
    rcases recorded.given with same | given
    · rw [same]
      exact initialLe
    · exact durationsLe _ given
  refine ⟨fun _ _ stepped => (recorded.step stepped).2, atMost, fun returned => ⟨?_, ?_, ?_⟩⟩
  · have counted := recorded.waitCount
    rw [sum_allReturned returned fun pc => by cases pc <;> rfl] at counted
    exact (UInt64.add_zero _).symm.trans counted
  · have added := recorded.totalWaitNs
    rw [sum_allReturned returned fun pc => by cases pc <;> rfl] at added
    exact (UInt64.add_zero _).symm.trans added
  · apply UInt64.le_antisymm atMost
    apply largest_le recorded.atLeast
    intro durationNs given
    rcases recorded.covered durationNs given with reachedIt | ⟨recorder, member, still⟩
    · exact reachedIt
    · rw [returned recorder member] at still
      contradiction

/-- Two threads that both read 0 as the maximum; the exchange of the greater duration
fails once without cause, and the smaller one's fails because it comes second. -/
def racingExchanges : List RecordAction :=
  [⟨0, false⟩, ⟨1, false⟩, ⟨0, false⟩, ⟨1, false⟩, ⟨0, false⟩, ⟨1, false⟩, ⟨1, true⟩, ⟨1, false⟩,
    ⟨0, false⟩]

/-- Both calls have returned. -/
def raced : Recording :=
  ⟨{ Globals.initial with waitCount := 2, totalWaitNs := 14, maxWaitNs := 9 },
    [⟨.addWaitCount, []⟩, ⟨.addWaitCount, []⟩]⟩

theorem wait_statistics_lose_nothing_racing :
    raced.globals.waitCount = Globals.initial.waitCount + 2 ∧
      raced.globals.totalWaitNs = Globals.initial.totalWaitNs + 14 ∧
      raced.globals.maxWaitNs = largest Globals.initial.maxWaitNs [5, 9] := by
  have taken : runActions Recording.step (fun _ _ _ => True) [] (.start .initial [[5], [9]])
      racingExchanges = some raced := by decide
  obtain ⟨-, -, returned⟩ := wait_statistics_lose_nothing .initial [[5], [9]] racingExchanges raced
    (reachesWhile_of_runActions taken)
  exact returned (by unfold Recording.AllReturned; decide)

end BssLiteRt.Shim
