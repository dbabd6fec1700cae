import Mathlib.Data.List.Basic

/-!
Owns programs that give commands to another party, which has a state of its own: what
they return, the state they leave and the commands they gave, also when they fail. A
questionnaire gives a fixed list of commands and stops at the first answer it refuses.
-/

namespace BssLiteRt.Library.Commands

/-- What a program leaves when it ends. -/
structure Outcome (State Command ε α : Type) where
  result : Except ε α
  state : State
  commands : List Command

def Program (State Command ε α : Type) :=
  State → Outcome State Command ε α

/-- The answer to a command and the state after it. -/
abbrev Answers (State Command Answer : Type) :=
  Command → State → Answer × State

variable {State Command Answer ε α β : Type}

namespace Program

/-- A result that needs no command. -/
def lift (result : Except ε α) : Program State Command ε α :=
  fun state => ⟨result, state, []⟩

def give (answers : Answers State Command Answer) (command : Command) :
    Program State Command ε Answer :=
  fun state => ⟨.ok (answers command state).1, (answers command state).2, [command]⟩

/-- The second program runs on what the first one returned. -/
def andThen (first : Program State Command ε α) (next : α → Program State Command ε β) :
    Program State Command ε β :=
  fun state =>
    match (first state).result with
    | .error failure => ⟨.error failure, (first state).state, (first state).commands⟩
    | .ok value =>
        let later := next value (first state).state
        ⟨later.result, later.state, (first state).commands ++ later.commands⟩

instance : Monad (Program State Command ε) where
  pure value := lift (.ok value)
  bind := andThen

/-! ### One program after the other -/

variable {next : α → Program State Command ε β} {answers : Answers State Command Answer}

theorem give_bind_apply (command : Command) (next : Answer → Program State Command ε β)
    (state : State) :
    (give answers command >>= next) state =
      let later := next (answers command state).1 (answers command state).2
      ⟨later.result, later.state, command :: later.commands⟩ := rfl

theorem andThen_assoc {γ : Type} (first : Program State Command ε α)
    (next : α → Program State Command ε β) (last : β → Program State Command ε γ) :
    (first.andThen next).andThen last = first.andThen fun value => (next value).andThen last := by
  funext state
  cases returned : (first state).result with
  | error failure => simp only [andThen, returned]
  | ok value =>
      cases later : (next value (first state).state).result with
      | error failure => simp only [andThen, returned, later]
      | ok other => simp only [andThen, returned, later, List.append_assoc]

theorem andThen_lift (program : Program State Command ε α) :
    (program.andThen fun value => lift (.ok value)) = program := by
  funext state
  rcases left : program state with ⟨result, after, commands⟩
  cases result with
  | error failure => simp only [andThen, left]
  | ok value => simp only [andThen, left, lift, List.append_nil]

instance : LawfulMonad (Program State Command ε) :=
  .mk' _ andThen_lift (fun _ _ => rfl) andThen_assoc

/-- Results are returned one after the other. -/
theorem lift_bind (result : Except ε α) (later : α → Except ε β) :
    (lift (result >>= later) : Program State Command ε β) =
      lift result >>= fun value => lift (later value) := by
  cases result <;> rfl

end Program

/-! ### Questionnaires -/

/-- A command and which answers to it let the program go on. -/
structure Question (Command Answer ε : Type) where
  command : Command
  accept : Answer → Except ε Unit

namespace Question

open Program

variable (answers : Answers State Command Answer)

/-- The questions are asked in order, up to the first answer that is refused. -/
def askAll : List (Question Command Answer ε) → Program State Command ε Unit
  | [] => pure ()
  | question :: rest => do
      let answer ← give answers question.command
      lift (question.accept answer)
      askAll rest

/-- The state after commands. -/
def settle (state : State) : List Command → State
  | [] => state
  | command :: rest => settle (answers command state).2 rest

/-- Commands that change nothing leave the state. -/
theorem settle_of_keeps {answers : Answers State Command Answer} {commands : List Command}
    (keeps : ∀ command ∈ commands, ∀ state, (answers command state).2 = state) (state : State) :
    settle answers state commands = state := by
  induction commands generalizing state with
  | nil => rfl
  | cons command rest inductionHypothesis =>
      obtain ⟨head, tail⟩ := List.forall_mem_cons.mp keeps
      rw [settle, head, inductionHypothesis tail]

theorem settle_append_one (state : State) (commands : List Command) (last : Command) :
    settle answers state (commands ++ [last]) =
      (answers last (settle answers state commands)).2 := by
  induction commands generalizing state with
  | nil => rfl
  | cons command rest inductionHypothesis => exact inductionHypothesis _

/-- Every question is answered acceptably, each in the state that the ones before left. -/
def Accepted (state : State) : List (Question Command Answer ε) → Prop
  | [] => True
  | question :: rest =>
      question.accept (answers question.command state).1 = .ok () ∧
        Accepted (answers question.command state).2 rest

variable {answers} {questions front back : List (Question Command Answer ε)}
  {question : Question Command Answer ε} {state : State} {failure : ε}

theorem askAll_cons_of_error
    (refused : question.accept (answers question.command state).1 = .error failure) :
    askAll answers (question :: back) state =
      ⟨.error failure, (answers question.command state).2, [question.command]⟩ := by
  rw [askAll, give_bind_apply, refused]
  rfl

theorem askAll_cons_of_ok
    (accepted : question.accept (answers question.command state).1 = .ok ()) :
    askAll answers (question :: back) state =
      let later := askAll answers back (answers question.command state).2
      ⟨later.result, later.state, question.command :: later.commands⟩ := by
  rw [askAll, give_bind_apply, accepted]
  rfl

theorem commands_askAll (questions : List (Question Command Answer ε)) (state : State) :
    (askAll answers questions state).commands <+: questions.map Question.command := by
  induction questions generalizing state with
  | nil => exact List.prefix_rfl
  | cons question rest inductionHypothesis =>
      cases answered : question.accept (answers question.command state).1 with
      | error failure =>
          rw [askAll_cons_of_error answered]
          exact ⟨_, rfl⟩
      | ok returned =>
          rw [askAll_cons_of_ok answered]
          exact List.cons_prefix_cons.mpr ⟨rfl, inductionHypothesis _⟩

/-- The state is the one that the commands given have left. -/
theorem state_askAll (questions : List (Question Command Answer ε)) (state : State) :
    (askAll answers questions state).state =
      settle answers state (askAll answers questions state).commands := by
  induction questions generalizing state with
  | nil => rfl
  | cons question rest inductionHypothesis =>
      cases answered : question.accept (answers question.command state).1 with
      | error failure =>
          rw [askAll_cons_of_error answered]
          rfl
      | ok returned =>
          rw [askAll_cons_of_ok answered]
          exact inductionHypothesis _

theorem askAll_eq_ok_iff :
    (askAll answers questions state).result = .ok () ↔ Accepted answers state questions := by
  induction questions generalizing state with
  | nil => exact ⟨fun _ => trivial, fun _ => rfl⟩
  | cons question rest inductionHypothesis =>
      rw [Accepted]
      cases answered : question.accept (answers question.command state).1 with
      | error failure =>
          rw [askAll_cons_of_error answered]
          exact ⟨nofun, fun accepted => absurd accepted.1 nofun⟩
      | ok returned =>
          rw [askAll_cons_of_ok answered, inductionHypothesis]
          exact (and_iff_right rfl).symm

/-- A question is reached exactly when every one before it was answered acceptably. -/
theorem reaches_iff :
    front.map Question.command ++ [question.command] <+:
        (askAll answers (front ++ question :: back) state).commands ↔
      Accepted answers state front := by
  induction front generalizing state with
  | nil =>
      refine ⟨fun _ => trivial, fun _ => ?_⟩
      cases answered : question.accept (answers question.command state).1 with
      | error failure => rw [List.nil_append, askAll_cons_of_error answered]; exact ⟨[], rfl⟩
      | ok returned => rw [List.nil_append, askAll_cons_of_ok answered]; exact ⟨_, rfl⟩
  | cons first rest inductionHypothesis =>
      rw [Accepted, List.cons_append, List.map_cons, List.cons_append]
      cases answered : first.accept (answers first.command state).1 with
      | error failure =>
          rw [askAll_cons_of_error answered]
          refine ⟨fun reached => ?_, fun accepted => absurd accepted.1 nofun⟩
          obtain ⟨-, reached⟩ := List.cons_prefix_cons.mp reached
          simp at reached
      | ok returned =>
          rw [askAll_cons_of_ok answered, List.cons_prefix_cons, inductionHypothesis]
          exact and_congr_left fun _ => ⟨fun _ => rfl, fun _ => rfl⟩

/-- A last command that is no earlier one is given exactly when all before it are answered
acceptably. -/
theorem gives_last_iff (fresh : question.command ∉ front.map Question.command) :
    question.command ∈ (askAll answers (front ++ [question]) state).commands ↔
      Accepted answers state front := by
  rw [← @reaches_iff _ _ _ _ answers front []]
  have given := @commands_askAll _ _ _ _ answers (front ++ [question]) state
  rw [List.map_append, List.map_singleton, List.prefix_concat_iff] at given
  constructor
  · intro member
    rcases given with whole | part
    · exact ⟨[], by rw [List.append_nil, whole]⟩
    · exact absurd (part.subset member) fresh
  · exact fun whole => whole.subset (List.mem_append_right _ (List.mem_singleton_self _))

end Question

end BssLiteRt.Library.Commands
