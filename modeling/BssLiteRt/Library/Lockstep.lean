import Mathlib.Data.List.Basic

/-!
Owns deterministic machines that answer every input, and the comparison of two
of them in lock-step.
-/

namespace BssLiteRt.Library.Lockstep

variable {Input Output Left Right State : Type}

/-- The answers of a machine to a list of inputs, in order. -/
def outputs (step : State → Input → Output × State) : State → List Input → List Output
  | _, [] => []
  | state, input :: rest =>
      let (output, next) := step state input
      output :: outputs step next rest

theorem length_outputs (step : State → Input → Output × State) (state : State)
    (inputs : List Input) : (outputs step state inputs).length = inputs.length := by
  induction inputs generalizing state with
  | nil => rfl
  | cons input rest inductionHypothesis => exact congrArg (· + 1) (inductionHypothesis _)

/-- The state after a list of inputs. -/
def run (step : State → Input → Output × State) : State → List Input → State
  | state, [] => state
  | state, input :: rest => run step (step state input).2 rest

/-- A relation under which two machines answer alike, and which their steps keep. -/
structure Simulates (left : Left → Input → Output × Left) (right : Right → Input → Output × Right)
    (related : Left → Right → Prop) : Prop where
  answers : ∀ {first second}, related first second → ∀ input,
    (left first input).1 = (right second input).1
  keeps : ∀ {first second}, related first second → ∀ input,
    related (left first input).2 (right second input).2

variable {left : Left → Input → Output × Left} {right : Right → Input → Output × Right}
  {related : Left → Right → Prop}

theorem Simulates.outputs_eq (lockstep : Simulates left right related) (inputs : List Input)
    {first : Left} {second : Right} (start : related first second) :
    outputs left first inputs = outputs right second inputs := by
  induction inputs generalizing first second with
  | nil => rfl
  | cons input rest inductionHypothesis =>
      unfold outputs
      dsimp only
      rw [lockstep.answers start input, inductionHypothesis (lockstep.keeps start input)]

end BssLiteRt.Library.Lockstep
