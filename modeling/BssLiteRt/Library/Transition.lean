import Mathlib.Data.List.Basic

/-!
Owns runs of a labelled step function that may refuse an action. A run is
recorded with the actions taken, so that an invariant can speak about the past,
and it can be restricted to steps that meet a guard.
-/

namespace BssLiteRt.Library.Transition

variable {State Action : Type}

/-- The states reached from `start` by accepted actions, each of which met the
guard when it was taken. The guard sees the actions before it. -/
inductive ReachesWhile (step : State → Action → Option State)
    (guard : List Action → State → Action → Prop) (start : State) :
    List Action → State → Prop where
  | start : ReachesWhile step guard start [] start
  | next {actions : List Action} {state after : State} {action : Action}
      (before : ReachesWhile step guard start actions state)
      (meets : guard actions state action)
      (stepped : step state action = some after) :
      ReachesWhile step guard start (actions ++ [action]) after

/-- Take the actions one after the other, as long as they meet the guard. -/
def runActions (step : State → Action → Option State)
    (guard : List Action → State → Action → Prop)
    [∀ actions state action, Decidable (guard actions state action)] :
    List Action → State → List Action → Option State
  | _, state, [] => some state
  | before, state, action :: rest =>
      if guard before state action then
        (step state action).bind fun next => runActions step guard (before ++ [action]) next rest
      else
        none

variable {step : State → Action → Option State}
  {guard : List Action → State → Action → Prop} {start : State}

/-- A property that holds at the start and is kept by every step that meets the
guard holds of every run. -/
theorem ReachesWhile.invariant {property : List Action → State → Prop}
    (atStart : property [] start)
    (kept : ∀ actions state action after, property actions state →
      guard actions state action → step state action = some after →
      property (actions ++ [action]) after)
    {actions : List Action} {state : State}
    (reached : ReachesWhile step guard start actions state) : property actions state := by
  induction reached with
  | start => exact atStart
  | next _ meets stepped inductionHypothesis =>
      exact kept _ _ _ _ inductionHypothesis meets stepped

/-- A run from where a run has ended extends it. -/
theorem ReachesWhile.trans {laterGuard : List Action → State → Action → Prop}
    (allows : ∀ before more state action, laterGuard more state action →
      guard (before ++ more) state action)
    {actions more : List Action} {state after : State}
    (reached : ReachesWhile step guard start actions state)
    (later : ReachesWhile step laterGuard state more after) :
    ReachesWhile step guard start (actions ++ more) after := by
  induction later with
  | start => rwa [List.append_nil]
  | next _ meets stepped inductionHypothesis =>
      rw [← List.append_assoc]
      exact inductionHypothesis.next (allows _ _ _ _ meets) stepped

/-- Actions taken after a run extend it. -/
theorem ReachesWhile.append [∀ actions state action, Decidable (guard actions state action)]
    {actions rest : List Action} {state after : State}
    (reached : ReachesWhile step guard start actions state)
    (taken : runActions step guard actions state rest = some after) :
    ReachesWhile step guard start (actions ++ rest) after := by
  induction rest generalizing actions state with
  | nil =>
      cases taken
      rwa [List.append_nil]
  | cons action rest inductionHypothesis =>
      unfold runActions at taken
      by_cases meets : guard actions state action
      · rw [if_pos meets] at taken
        obtain ⟨next, stepped, later⟩ := Option.bind_eq_some_iff.mp taken
        rw [List.append_cons]
        exact inductionHypothesis (.next reached meets stepped) later
      · rw [if_neg meets] at taken
        contradiction

theorem reachesWhile_of_runActions
    [∀ actions state action, Decidable (guard actions state action)]
    {actions : List Action} {state : State}
    (taken : runActions step guard [] start actions = some state) :
    ReachesWhile step guard start actions state :=
  ReachesWhile.append .start taken

end BssLiteRt.Library.Transition
