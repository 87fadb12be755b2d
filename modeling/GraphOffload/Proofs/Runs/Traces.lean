import GraphOffload.Proofs.Runs.Calls

/-!
# Traces that move a state

A trace says what was called and replied. What that means for a part of the world, a store or a sink,
is a step relation: an exchange takes the state before it to the states that may follow. A handler
plays such a part if each of its replies is such a step; its transcripts are then traces that the
relation allows.

## Main definitions

* `GraphOffload.Trace.Through` : a trace takes a state to another one.
* `GraphOffload.Trace.Orderly` : each exchange is as it has to be after those before it.
* `GraphOffload.Dialogue.transcript` : the trace of a program with a handler.

## Main results

* `GraphOffload.Trace.through_append_iff` : the way through a trace is cut where the trace is cut.
* `GraphOffload.Trace.eq_of_append_cons_eq` : the one exchange of its kind cuts a trace in one way.
* `GraphOffload.Trace.Orderly.append` : a trace is in order if its parts are.
* `GraphOffload.Dialogue.run_transcript` : the transcript is a run of the program.
* `GraphOffload.Dialogue.exists_through_transcript` : a handler that simulates the steps gives
  traces that the steps allow.
* `GraphOffload.Dialogue.exists_run_through` : steps that leave a reply to every call give a run.
-/

namespace GraphOffload

namespace Trace

variable {σ τ : Type} {step step' : Exchange → σ → σ → Prop}

/-! ### States along a trace -/

/-- The exchanges of a trace, one after the other, take a state to another one. -/
def Through (step : Exchange → σ → σ → Prop) (before : σ) : Trace → σ → Prop
  | [], after => after = before
  | exchange :: rest, after => ∃ middle, step exchange before middle ∧ Through step middle rest after

/-- An empty trace leads nowhere. -/
@[simp] theorem through_nil_iff {before after : σ} : Through step before [] after ↔ after = before :=
  Iff.rfl

/-- A trace leads through what its first exchange does, and on from there. -/
@[simp] theorem through_cons_iff {before after : σ} {exchange : Exchange} {rest : Trace} :
    Through step before (exchange :: rest) after ↔
      ∃ middle, step exchange before middle ∧ Through step middle rest after :=
  Iff.rfl

/-- The way through a trace is cut where the trace is cut. -/
theorem through_append_iff {before after : σ} {front back : Trace} :
    Through step before (front ++ back) after ↔
      ∃ middle, Through step before front middle ∧ Through step middle back after := by
  induction front generalizing before with
  | nil => simp
  | cons exchange rest ih =>
    simp only [List.cons_append, through_cons_iff, ih]
    constructor
    · rintro ⟨first, taken, middle, earlier, later⟩
      exact ⟨middle, ⟨first, taken, earlier⟩, later⟩
    · rintro ⟨middle, ⟨first, taken, earlier⟩, later⟩
      exact ⟨first, taken, middle, earlier, later⟩

/-- A way through a trace is one by any steps that allow at least as much. -/
theorem Through.mono {before after : σ} {trace : Trace} (through : Through step before trace after)
    (weaker : ∀ exchange s s', step exchange s s' → step' exchange s s') :
    Through step' before trace after := by
  induction trace generalizing before with
  | nil => exact through
  | cons exchange rest ih =>
    obtain ⟨middle, taken, later⟩ := through
    exact ⟨middle, weaker _ _ _ taken, ih later⟩

/-- What no exchange of a trace changes is the same after it. -/
theorem Through.unchanged {before after : σ} {trace : Trace} (through : Through step before trace after)
    (view : σ → τ) (kept : ∀ exchange ∈ trace, ∀ s s', step exchange s s' → view s' = view s) :
    view after = view before := by
  induction trace generalizing before with
  | nil => exact congrArg view through
  | cons exchange rest ih =>
    obtain ⟨middle, taken, later⟩ := through
    rw [ih later fun e mem => kept e (List.mem_cons_of_mem _ mem)]
    exact kept exchange List.mem_cons_self _ _ taken

/-! ### Parts of a trace -/

/-- A trace is cut in one way only at the one exchange of its kind. -/
theorem eq_of_append_cons_eq (kind : Exchange → Prop) {before after front back : Trace}
    {exchange other : Exchange} (same : before ++ exchange :: after = front ++ other :: back)
    (is_kind : kind other) (not_before : ∀ e ∈ before, ¬ kind e) (not_after : ∀ e ∈ after, ¬ kind e) :
    front = before ∧ other = exchange ∧ back = after := by
  rcases List.append_eq_append_iff.mp same with ⟨middle, rfl, tail⟩ | ⟨middle, rfl, tail⟩
  · cases middle with
    | nil =>
      obtain ⟨rfl, rfl⟩ := List.cons.inj tail
      exact ⟨List.append_nil _, rfl, rfl⟩
    | cons first rest =>
      obtain ⟨_, rfl⟩ := List.cons.inj tail
      exact absurd is_kind (not_after other (by simp))
  · cases middle with
    | nil =>
      obtain ⟨rfl, rfl⟩ := List.cons.inj tail
      exact ⟨(List.append_nil _).symm, rfl, rfl⟩
    | cons first rest =>
      obtain ⟨rfl, _⟩ := List.cons.inj tail
      exact absurd is_kind (not_before _ (by simp))

/-- What comes after the first exchange of its kind comes after all that has none of the kind. -/
theorem subset_of_append_eq_append_cons (kind : Exchange → Prop) {before after front back : Trace}
    {other : Exchange} (same : before ++ after = front ++ other :: back) (is_kind : kind other)
    (not_before : ∀ e ∈ before, ¬ kind e) : back ⊆ after := by
  rcases List.append_eq_append_iff.mp same with ⟨middle, rfl, tail⟩ | ⟨middle, rfl, tail⟩
  · intro e mem
    rw [tail]
    exact List.mem_append_right _ (List.mem_cons_of_mem _ mem)
  · cases middle with
    | nil =>
      intro e mem
      rw [List.nil_append] at tail
      exact tail ▸ List.mem_cons_of_mem _ mem
    | cons first rest =>
      obtain ⟨rfl, rfl⟩ := List.cons.inj tail
      exact absurd is_kind (not_before other (by simp))

/-! ### Order -/

/-- Each exchange of a trace is as it has to be after all that came before it, which began with
`earlier`. -/
def Orderly (P : Trace → Exchange → Prop) (earlier trace : Trace) : Prop :=
  ∀ front exchange back, trace = front ++ exchange :: back → P (earlier ++ front) exchange

variable {P : Trace → Exchange → Prop} {earlier : Trace}

/-- A trace is in order if its parts are, the second one after the first. -/
theorem Orderly.append {front back : Trace} (h : Orderly P earlier front)
    (h' : Orderly P (earlier ++ front) back) : Orderly P earlier (front ++ back) := by
  intro before exchange after split
  rcases List.append_eq_append_iff.mp split with ⟨middle, rfl, tail⟩ | ⟨middle, rfl, tail⟩
  · rw [← List.append_assoc]
    exact h' middle exchange after tail
  · cases middle with
    | nil => simpa using h' [] exchange after (by simpa using tail.symm)
    | cons first rest =>
      obtain ⟨rfl, rfl⟩ := List.cons.inj tail
      exact h before exchange rest rfl

/-- A single exchange is in order if it is as it has to be. -/
theorem Orderly.singleton {exchange : Exchange} (h : P earlier exchange) :
    Orderly P earlier [exchange] := by
  intro front other back split
  cases front with
  | nil =>
    obtain ⟨rfl, _⟩ := List.cons.inj split
    simpa using h
  | cons first rest => simp at split

end Trace

/-! ### Transcripts -/

namespace Dialogue

variable {Q : Type} {A : Q → Type} {α σ τ : Type}

/-- The trace of a program with a handler. -/
def transcript (handle : (call : Q) → σ → A call × σ) : Dialogue A α → σ → List (Exchange A)
  | done _, _ => []
  | ask call next, state =>
    ⟨call, (handle call state).1⟩ ::
      (next (handle call state).1).transcript handle (handle call state).2

/-- The transcript is a run of the program. -/
theorem run_transcript (handle : (call : Q) → σ → A call × σ) (program : Dialogue A α) (state : σ) :
    Run program (program.transcript handle state) (program.play handle state).1 := by
  induction program generalizing state with
  | done value => exact .done value
  | ask call next ih => exact .ask (ih _ _)

/-- A handler that simulates the steps of a relation gives traces that the relation allows.

**Proof sketch.** Induction on the program. The state of the relation is carried along by the
simulation, one call at a time. -/
theorem exists_through_transcript {handle : (call : Call) → σ → call.Reply × σ}
    {step : GraphOffload.Exchange → τ → τ → Prop} (simulates : σ → τ → Prop)
    (simulated : ∀ call state view, simulates state view →
      ∃ view', step ⟨call, (handle call state).1⟩ view view' ∧ simulates (handle call state).2 view')
    (program : Program α) {state : σ} {view : τ} (start : simulates state view) :
    ∃ view', Trace.Through step view (program.transcript handle state) view' ∧
      simulates (program.play handle state).2 view' := by
  induction program generalizing state view with
  | done value => exact ⟨view, rfl, start⟩
  | ask call next ih =>
    obtain ⟨middle, taken, kept⟩ := simulated call state view start
    obtain ⟨final, later, ends⟩ := ih _ kept
    exact ⟨final, ⟨middle, taken, later⟩, ends⟩

/-- If the steps of a relation leave a reply to every call that a program makes, then some run of the
program takes such steps.

**Proof sketch.** Induction on the program: the steps choose the reply to its first call. -/
theorem exists_run_through {step : GraphOffload.Exchange → τ → τ → Prop} {P : Call → Prop}
    (total : ∀ call, P call → ∀ s, ∃ reply s', step ⟨call, reply⟩ s s') {program : Program α}
    (within : program.Within P) (before : τ) :
    ∃ trace value after, Run program trace value ∧ Trace.Through step before trace after := by
  induction program generalizing before with
  | done value => exact ⟨[], value, before, .done value, rfl⟩
  | ask call next ih =>
    obtain ⟨reply, middle, taken⟩ := total call within.1 before
    obtain ⟨trace, value, after, run, later⟩ := ih reply (within.2 reply) middle
    exact ⟨_, value, after, .ask run, middle, taken, later⟩

/-- What every reply of a handler has, every exchange of a transcript has, as long as what the handler
needs for it is kept. -/
theorem forall_transcript {handle : (call : Q) → σ → A call × σ} (keeps : σ → Prop)
    {P : Exchange A → Prop}
    (holds : ∀ call state, keeps state → P ⟨call, (handle call state).1⟩ ∧ keeps (handle call state).2)
    (program : Dialogue A α) {state : σ} (start : keeps state) :
    ∀ exchange ∈ program.transcript handle state, P exchange := by
  induction program generalizing state with
  | done value => simp [transcript]
  | ask call next ih =>
    obtain ⟨first, kept⟩ := holds call state start
    intro exchange mem
    rcases List.mem_cons.mp mem with rfl | mem
    · exact first
    · exact ih _ kept exchange mem

end Dialogue

end GraphOffload
