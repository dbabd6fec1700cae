import Mathlib.Data.List.Basic

/-!
Owns do-while loops that record what they do. A body performs operations,
hands on a state and may leave the loop early; a test then decides whether the
loop turns again. A loop need not end, so it runs for a given number of turns.

`Loop.run_simulation` is the only induction on turns that a comparison of two
loops needs: a relation kept by every turn gives equal results and operations
related turn by turn.
-/

namespace BssLiteRt.Library.DoWhile

/-- One turn of a loop body: the operations performed, the state handed on,
and the value of an early return. -/
structure Turn (Op Result State : Type) where
  ops : List Op
  state : State
  early : Option Result

/-- A do-while loop: the body, the test after it, and the value returned once
the test fails. -/
structure Loop (Op Result State : Type) where
  body : State → Turn Op Result State
  again : State → Bool
  finish : State → Result

/-- What a loop has done: the operations of each turn, the state it is in, and
its result once it has ended. -/
structure Outcome (Op Result State : Type) where
  turns : List (List Op)
  state : State
  result : Option Result

variable {Op Result State Other : Type}

/-- The operations performed, in order. -/
def Outcome.trace (outcome : Outcome Op Result State) : List Op :=
  outcome.turns.flatten

/-- Put the operations of an earlier turn in front. -/
def Outcome.after (ops : List Op) (outcome : Outcome Op Result State) :
    Outcome Op Result State :=
  { outcome with turns := ops :: outcome.turns }

@[simp] theorem Outcome.after_turns (ops : List Op) (outcome : Outcome Op Result State) :
    (outcome.after ops).turns = ops :: outcome.turns := rfl

@[simp] theorem Outcome.after_result (ops : List Op) (outcome : Outcome Op Result State) :
    (outcome.after ops).result = outcome.result := rfl

@[simp] theorem Outcome.after_state (ops : List Op) (outcome : Outcome Op Result State) :
    (outcome.after ops).state = outcome.state := rfl

@[simp] theorem Outcome.after_trace (ops : List Op) (outcome : Outcome Op Result State) :
    (outcome.after ops).trace = ops ++ outcome.trace := rfl

@[simp] theorem Outcome.trace_nil (state : State) (result : Option Result) :
    (⟨[], state, result⟩ : Outcome Op Result State).trace = [] := rfl

@[simp] theorem Outcome.trace_singleton (ops : List Op) (state : State)
    (result : Option Result) :
    (⟨[ops], state, result⟩ : Outcome Op Result State).trace = ops := by
  simp [Outcome.trace]

/-- Run a do-while loop for at most `fuel` turns. -/
def Loop.run (loop : Loop Op Result State) : Nat → State → Outcome Op Result State
  | 0, state => ⟨[], state, none⟩
  | fuel + 1, state =>
      let turn := loop.body state
      match turn.early with
      | some result => ⟨[turn.ops], turn.state, some result⟩
      | none =>
          if loop.again turn.state then (loop.run fuel turn.state).after turn.ops
          else ⟨[turn.ops], turn.state, some (loop.finish turn.state)⟩

@[simp] theorem Loop.run_zero (loop : Loop Op Result State) (state : State) :
    loop.run 0 state = ⟨[], state, none⟩ := rfl

section Run

variable (loop : Loop Op Result State) (fuel : Nat) {state next : State} {ops : List Op}

/-- A turn that leaves the loop early is the last one. -/
theorem Loop.run_early {result : Result} (turn : loop.body state = ⟨ops, next, some result⟩) :
    loop.run (fuel + 1) state = ⟨[ops], next, some result⟩ := by
  simp [Loop.run, turn]

/-- A turn after which the test succeeds is followed by the rest of the loop. -/
theorem Loop.run_again (turn : loop.body state = ⟨ops, next, none⟩)
    (again : loop.again next = true) :
    loop.run (fuel + 1) state = (loop.run fuel next).after ops := by
  simp [Loop.run, turn, again]

/-- A turn after which the test fails ends the loop. -/
theorem Loop.run_done (turn : loop.body state = ⟨ops, next, none⟩)
    (again : loop.again next = false) :
    loop.run (fuel + 1) state = ⟨[ops], next, some (loop.finish next)⟩ := by
  simp [Loop.run, turn, again]

end Run

/-- What holds of the operations of every turn of the body holds of every turn
of a run. -/
theorem Loop.run_ops (loop : Loop Op Result State) {property : Op → Prop}
    (body : ∀ state, ∀ op ∈ (loop.body state).ops, property op) (fuel : Nat) (state : State) :
    ∀ ops ∈ (loop.run fuel state).turns, ∀ op ∈ ops, property op := by
  induction fuel generalizing state with
  | zero => simp
  | succ fuel inductionHypothesis =>
      have first := body state
      rcases turn : loop.body state with ⟨ops, next, _ | early⟩
      · rw [turn] at first
        cases again : loop.again next with
        | false => simpa [loop.run_done fuel turn again] using first
        | true =>
            rw [loop.run_again fuel turn again, Outcome.after_turns]
            exact List.forall_mem_cons.mpr ⟨first, inductionHypothesis next⟩
      · rw [turn] at first
        simpa [loop.run_early fuel turn] using first

/-- What one turn must keep for two loops to stay related: the operations of
the left turn are those of the right one changed by `change`, both turns leave
early alike, and the states handed on are related at the next index, with the
same test and the same final value. -/
structure TurnRelated (left : Loop Op Result State) (right : Loop Op Result Other)
    (related : Nat → State → Other → Prop) (change : Nat → List Op → List Op)
    (index : Nat) (turn : Turn Op Result State) (other : Turn Op Result Other) : Prop where
  ops : turn.ops = change index other.ops
  early : turn.early = other.early
  next : other.early = none → related (index + 1) turn.state other.state
  again : left.again turn.state = right.again other.state
  finish : left.finish turn.state = right.finish other.state

/-- Two loops whose turns stay related perform related operations turn by
turn and return the same result after every number of turns. -/
theorem Loop.run_simulation {left : Loop Op Result State} {right : Loop Op Result Other}
    {related : Nat → State → Other → Prop} {change : Nat → List Op → List Op}
    (body : ∀ index state other, related index state other →
      TurnRelated left right related change index (left.body state) (right.body other))
    (fuel : Nat) {index : Nat} {state : State} {other : Other}
    (start : related index state other) :
    (left.run fuel state).turns =
        (right.run fuel other).turns.mapIdx (fun offset ops => change (index + offset) ops) ∧
      (left.run fuel state).result = (right.run fuel other).result := by
  induction fuel generalizing index state other with
  | zero => exact ⟨rfl, rfl⟩
  | succ fuel inductionHypothesis =>
      have step := body index state other start
      rcases turn : left.body state with ⟨ops, next, early⟩
      rcases otherTurn : right.body other with ⟨otherOps, otherNext, otherEarly⟩
      rw [turn, otherTurn] at step
      obtain ⟨sameOps, sameEarly, related, sameAgain, sameFinish⟩ := step
      simp only at sameOps sameEarly related sameAgain sameFinish
      subst sameEarly
      rcases early with _ | result
      · cases again : right.again otherNext with
        | false =>
            rw [left.run_done fuel turn (sameAgain.trans again),
              right.run_done fuel otherTurn again]
            simp [sameOps, sameFinish]
        | true =>
            rw [left.run_again fuel turn (sameAgain.trans again),
              right.run_again fuel otherTurn again]
            obtain ⟨turns, result⟩ := inductionHypothesis (related rfl)
            refine ⟨?_, result⟩
            have shift : ∀ offset, index + 1 + offset = index + (offset + 1) := by
              intro offset
              omega
            simp [sameOps, turns, List.mapIdx_cons, shift]
      · rw [left.run_early fuel turn, right.run_early fuel otherTurn]
        simp [sameOps]

end BssLiteRt.Library.DoWhile
