/-!
# Dialogues

A program that talks to the world around it is a tree: it is done, or it makes one call and goes on
with the reply. Nothing is assumed of the replies, so what holds of a dialogue holds whatever the
world does; a world that plays its part is a handler, with which a dialogue is run.

## Main definitions

* `GraphOffload.Dialogue` : a program that makes calls and ends with a value.
* `GraphOffload.Dialogue.Run` : the exchanges of a program with some world, and the value it ends with.
* `GraphOffload.Dialogue.interpret` : a program in which another program makes each call.
* `GraphOffload.Dialogue.play` : the run of a program with a handler.

## Main results

* `GraphOffload.Dialogue.run_bind_iff` : a run of two programs in sequence is a run of the first and then
  a run of the second.
* `GraphOffload.Dialogue.run_bindCont_iff` : the same for programs that may fail.
* `GraphOffload.Dialogue.interpreted_of_run` : a run of an interpreted program is a run of the program,
  call by call.
-/

namespace GraphOffload

/-- A program that makes calls in `Q`, each with its own type of reply, and ends with a value. -/
inductive Dialogue {Q : Type} (A : Q → Type) (α : Type) : Type
  | done (value : α)
  | ask (call : Q) (next : A call → Dialogue A α)

namespace Dialogue

variable {Q : Type} {A : Q → Type} {α β γ : Type}

/-- Two programs in sequence. -/
protected def bind : Dialogue A α → (α → Dialogue A β) → Dialogue A β
  | done value, f => f value
  | ask call next, f => ask call fun reply => (next reply).bind f

/-- Programs in sequence: the second one goes on with what the first one ends with. -/
instance : Monad (Dialogue A) where
  pure := done
  bind := Dialogue.bind

/-- The program that makes one call and ends with its reply. -/
def request (call : Q) : Dialogue A (A call) := ask call done

/-- The program that only gives a value is done. -/
@[simp] theorem pure_eq (value : α) : (pure value : Dialogue A α) = done value := rfl

/-- What follows a program that is done is all that is left to do. -/
@[simp] theorem done_bind (value : α) (f : α → Dialogue A β) : done value >>= f = f value := rfl

/-- What follows a program that makes a call follows the rest of it. -/
@[simp] theorem ask_bind (call : Q) (next : A call → Dialogue A α) (f : α → Dialogue A β) :
    ask call next >>= f = ask call fun reply => next reply >>= f := rfl

/-- A call and what follows are one program that makes the call. -/
@[simp] theorem request_bind (call : Q) (f : A call → Dialogue A β) :
    request call >>= f = ask call f := rfl

/-- To be done at once changes nothing. -/
theorem bind_done (program : Dialogue A α) : program >>= done = program := by
  induction program with
  | done value => rfl
  | ask call next ih => simp [ih]

/-- Three programs in sequence may be taken together in either way. -/
theorem bind_bind (program : Dialogue A α) (f : α → Dialogue A β) (g : β → Dialogue A γ) :
    program >>= f >>= g = program >>= fun value => f value >>= g := by
  induction program with
  | done value => rfl
  | ask call next ih => simp [ih]

/-- It does not matter how three programs in sequence are put together. -/
instance : LawfulMonad (Dialogue A) :=
  LawfulMonad.mk' (Dialogue A) bind_done done_bind bind_bind

/-! ### Runs -/

/-- A call with its reply. -/
abbrev Exchange (A : Q → Type) := (call : Q) × A call

/-- The program makes the calls of a trace, each is replied to as the trace says, and it ends with the
value. -/
inductive Run : Dialogue A α → List (Exchange A) → α → Prop
  | done (value : α) : Run (done value) [] value
  | ask {call : Q} {next : A call → Dialogue A α} {reply : A call} {trace : List (Exchange A)}
      {value : α} : Run (next reply) trace value → Run (ask call next) (⟨call, reply⟩ :: trace) value

/-- A program that is done makes no call and ends with its value. -/
theorem run_done_iff {value result : α} {trace : List (Exchange A)} :
    Run (done value) trace result ↔ trace = [] ∧ result = value := by
  constructor
  · rintro ⟨⟩
    exact ⟨rfl, rfl⟩
  · rintro ⟨rfl, rfl⟩
    exact .done _

/-- A program that makes a call goes on with the reply, whatever it is. -/
theorem run_ask_iff {call : Q} {next : A call → Dialogue A α} {trace : List (Exchange A)} {result : α} :
    Run (ask call next) trace result ↔
      ∃ reply rest, trace = ⟨call, reply⟩ :: rest ∧ Run (next reply) rest result := by
  constructor
  · rintro ⟨⟩
    exact ⟨_, _, rfl, ‹_›⟩
  · rintro ⟨reply, rest, rfl, run⟩
    exact .ask run

/-- A run of two programs in sequence is a run of the first and then a run of the second. -/
theorem run_bind_iff {program : Dialogue A α} {f : α → Dialogue A β} {trace : List (Exchange A)}
    {result : β} :
    Run (program >>= f) trace result ↔
      ∃ value front back, trace = front ++ back ∧ Run program front value ∧ Run (f value) back result := by
  induction program generalizing trace with
  | done value =>
    constructor
    · intro run
      exact ⟨value, [], trace, rfl, .done value, run⟩
    · rintro ⟨_, _, _, rfl, first, second⟩
      obtain ⟨rfl, rfl⟩ := run_done_iff.mp first
      exact second
  | ask call next ih =>
    rw [ask_bind, run_ask_iff]
    constructor
    · rintro ⟨reply, rest, rfl, run⟩
      obtain ⟨value, front, back, rfl, first, second⟩ := (ih reply).mp run
      exact ⟨value, ⟨call, reply⟩ :: front, back, rfl, .ask first, second⟩
    · rintro ⟨value, front, back, rfl, first, second⟩
      obtain ⟨reply, rest, rfl, earlier⟩ := run_ask_iff.mp first
      exact ⟨reply, rest ++ back, rfl, (ih reply).mpr ⟨value, rest, back, rfl, earlier, second⟩⟩

/-! ### Programs that may fail -/

/-- A run of two programs in sequence, of which the first may fail, ends with its failure or is a run of
both. -/
theorem run_bindCont_iff {ε : Type} {program : ExceptT ε (Dialogue A) α}
    {next : α → ExceptT ε (Dialogue A) β} {outcome : Except ε β} {trace : List (Exchange A)} :
    Run (program >>= next).run trace outcome ↔
      (∃ failure, outcome = .error failure ∧ Run program.run trace (.error failure)) ∨
      ∃ value front back, trace = front ++ back ∧ Run program.run front (.ok value) ∧
        Run (next value).run back outcome := by
  have unfolded : Run (program >>= next).run trace outcome ↔
      Run (program.run >>= ExceptT.bindCont next) trace outcome := Iff.rfl
  rw [unfolded, run_bind_iff]
  constructor
  · rintro ⟨first, front, back, rfl, run, rest⟩
    cases first with
    | error failure =>
      obtain ⟨rfl, rfl⟩ := run_done_iff.mp rest
      exact .inl ⟨failure, rfl, by simpa using run⟩
    | ok value => exact .inr ⟨value, front, back, rfl, run, rest⟩
  · rintro (⟨failure, rfl, run⟩ | ⟨value, front, back, rfl, run, rest⟩)
    · exact ⟨.error failure, trace, [], by simp, run, .done _⟩
    · exact ⟨.ok value, front, back, rfl, run, rest⟩

/-! ### Interpretation -/

/-- A program in which another program makes each call. -/
def interpret {R : Type} {B : R → Type} (perform : (call : Q) → Dialogue B (A call)) :
    Dialogue A α → Dialogue B α
  | done value => done value
  | ask call next => perform call >>= fun reply => (next reply).interpret perform

/-- A trace of calls is made call by call, each by the program that performs it. -/
inductive Interpreted {R : Type} {B : R → Type} (perform : (call : Q) → Dialogue B (A call)) :
    List (Exchange A) → List (Exchange B) → Prop
  | nil : Interpreted perform [] []
  | cons {call : Q} {reply : A call} {piece back : List (Exchange B)} {rest : List (Exchange A)} :
    Run (perform call) piece reply → Interpreted perform rest back →
      Interpreted perform (⟨call, reply⟩ :: rest) (piece ++ back)

/-- A run of an interpreted program is a run of the program, call by call. -/
theorem interpreted_of_run {R : Type} {B : R → Type} {perform : (call : Q) → Dialogue B (A call)}
    {program : Dialogue A α} {trace : List (Exchange B)} {value : α}
    (run : Run (program.interpret perform) trace value) :
    ∃ calls, Run program calls value ∧ Interpreted perform calls trace := by
  induction program generalizing trace with
  | done value' =>
    obtain ⟨rfl, rfl⟩ := run_done_iff.mp run
    exact ⟨[], .done _, .nil⟩
  | ask call next ih =>
    obtain ⟨reply, piece, back, rfl, first, later⟩ := run_bind_iff.mp run
    obtain ⟨calls, runs, rest⟩ := ih reply later
    exact ⟨_, .ask runs, .cons first rest⟩

/-! ### Handlers -/

variable {σ : Type}

/-- The run of a program with a handler that keeps a state: the value it ends with and the last
state. -/
def play (handle : (call : Q) → σ → A call × σ) : Dialogue A α → σ → α × σ
  | done value, state => (value, state)
  | ask call next, state =>
    let (reply, state) := handle call state
    (next reply).play handle state

end Dialogue

end GraphOffload
