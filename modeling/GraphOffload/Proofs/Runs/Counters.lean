import GraphOffload.Proofs.Runs.Calls
import Mathlib.Algebra.Order.Floor.Div

/-!
# Counters

What a trace counts is published under series, each of which grows by what the measurements of the trace
add to it. Two measurements add to one series only if they count the same thing.

## Main definitions

* `GraphOffload.Trace.growth` : by how much a trace raises a series.
* `GraphOffload.Trace.measured` : what a trace counts, in its order.
* `GraphOffload.Trace.tally` : the values of all series after a trace, starting from zero.
* `GraphOffload.Tally.value` : the value of a series.
* `GraphOffload.Counter` : what can be counted, with the name of its series.
* `GraphOffload.Trace.ledger` : what is counted in a trace, entry by entry.

## Main results

* `GraphOffload.Trace.value_tally` : a series that starts from zero has the value by which it grew.
* `GraphOffload.Counter.name_injective` : no two counters have one series.
* `GraphOffload.Trace.growth_name` : a series grows by what is entered under its counter.
-/

namespace GraphOffload

/-! ### Growth -/

namespace Trace

/-- By how much an exchange raises a counter. -/
def raise (counter : String) : Exchange → Nat
  | ⟨.count measurement, _⟩ =>
    ((measurement.increments.filter fun increment => increment.1 = counter).map Prod.snd).sum
  | _ => 0

/-- By how much a trace raises a counter. -/
def growth (counter : String) (trace : Trace) : Nat := (trace.map (raise counter)).sum

variable {counter : String}

/-- Without calls no counter grows. -/
@[simp] theorem growth_nil : growth counter [] = 0 := rfl

/-- The first call raises a counter, and then the others do. -/
@[simp] theorem growth_cons {exchange : Exchange} {rest : Trace} :
    growth counter (exchange :: rest) = raise counter exchange + growth counter rest := rfl

/-- Two traces raise a counter one after the other. -/
@[simp] theorem growth_append {front back : Trace} :
    growth counter (front ++ back) = growth counter front + growth counter back := by
  simp [growth]

end Trace

/-! ### Measurements -/

/-- What is counted in an exchange. -/
def Exchange.measurement? : Exchange → Option Measurement
  | ⟨.count measurement, _⟩ => some measurement
  | _ => none

/-- Nothing is counted in the exchange. -/
def Exchange.Uncounted (exchange : Exchange) : Prop := exchange.measurement? = none

namespace Trace

/-- What is counted in a trace, in its order. -/
def measured (trace : Trace) : List Measurement := trace.filterMap Exchange.measurement?

/-- Without calls nothing is measured. -/
@[simp] theorem measured_nil : measured [] = [] := rfl

/-- What is measured in two traces is what is measured in each. -/
@[simp] theorem measured_append {front back : Trace} :
    measured (front ++ back) = front.measured ++ back.measured :=
  List.filterMap_append

/-- Nothing is measured where nothing is counted. -/
theorem measured_eq_nil {trace : Trace} (h : ∀ exchange ∈ trace, exchange.Uncounted) :
    trace.measured = [] :=
  List.filterMap_eq_nil_iff.mpr h

/-- A series grows by what the measurements add to it. -/
theorem growth_eq (counter : String) (trace : Trace) : trace.growth counter =
    (((trace.measured.flatMap Measurement.increments).filter fun increment =>
      increment.1 = counter).map Prod.snd).sum := by
  induction trace with
  | nil => rfl
  | cons exchange rest ih =>
    obtain ⟨call, reply⟩ := exchange
    rw [growth_cons, ih]
    cases call with
    | count measurement =>
      have split : measured (⟨.count measurement, reply⟩ :: rest) = measurement :: measured rest := rfl
      rw [split, List.flatMap_cons, List.filter_append, List.map_append, List.sum_append]
      rfl
    | _ => exact Nat.zero_add _

end Trace

/-! ### Values -/

namespace Tally

/-- The value of a counter; one that was never raised is at zero. -/
def value (tally : Tally) (counter : String) : Nat := (tally.lookup counter).getD 0

/-- Raising a counter raises its value and no other. -/
theorem value_add (tally : Tally) (name counter : String) (amount : Nat) :
    (tally.add name amount).value counter =
      tally.value counter + if name = counter then amount else 0 := by
  induction tally with
  | nil =>
    by_cases same : name = counter
    · simp [add, value, same]
    · have apart : (counter == name) = false := beq_eq_false_iff_ne.mpr (Ne.symm same)
      simp [add, value, List.lookup_cons, same, apart]
  | cons entry rest ih =>
    obtain ⟨other, held⟩ := entry
    simp only [value] at ih ⊢
    by_cases raised : other = name
    · subst raised
      by_cases same : other = counter
      · simp [add, same]
      · have apart : (counter == other) = false := beq_eq_false_iff_ne.mpr (Ne.symm same)
        simp [add, List.lookup_cons, apart, same]
    · rw [add, if_neg raised]
      by_cases found : counter = other
      · subst found
        simp [Ne.symm raised]
      · have apart : (counter == other) = false := beq_eq_false_iff_ne.mpr found
        simpa [List.lookup_cons, apart] using ih

/-- The value of a counter is what the increments of its name sum up to. -/
theorem value_ofIncrements (increments : List (String × Nat)) (counter : String) :
    (ofIncrements increments).value counter =
      ((increments.filter fun increment => increment.1 = counter).map Prod.snd).sum := by
  have summed (tally : Tally) :
      (increments.foldl (fun tally increment => tally.add increment.1 increment.2) tally).value counter =
        tally.value counter +
          ((increments.filter fun increment => increment.1 = counter).map Prod.snd).sum := by
    induction increments generalizing tally with
    | nil => rfl
    | cons increment rest ih =>
      rw [List.foldl_cons, ih, value_add]
      by_cases same : increment.1 = counter
      · rw [if_pos same, List.filter_cons_of_pos (by simpa using same), List.map_cons, List.sum_cons,
          Nat.add_assoc]
      · rw [if_neg same, List.filter_cons_of_neg (by simpa using same), Nat.add_zero]
  exact (summed []).trans (Nat.zero_add _)

end Tally

namespace Trace

/-- The values of all series after a trace, starting from zero. -/
def tally (trace : Trace) : Tally := .ofIncrements (trace.measured.flatMap Measurement.increments)

/-- **A series that starts from zero has the value by which it grew.** -/
theorem value_tally (trace : Trace) (counter : String) :
    trace.tally.value counter = trace.growth counter := by
  rw [tally, Tally.value_ofIncrements, growth_eq]

end Trace

/-! ### Series -/

/-- Two texts that are split by a sign that is in neither front have the same parts if they are the
same. -/
theorem append_cons_inj {α : Type} {sign : α} {front front' back back' : List α}
    (absent : sign ∉ front) (absent' : sign ∉ front')
    (same : front ++ sign :: back = front' ++ sign :: back') : front = front' ∧ back = back' := by
  rcases List.append_eq_append_iff.mp same with ⟨more, rfl, rest⟩ | ⟨more, rfl, rest⟩
  · cases more with
    | nil => exact ⟨by simp, by simpa using rest⟩
    | cons first more =>
      obtain rfl := (List.cons.inj rest).1
      simp at absent'
  · cases more with
    | nil => exact ⟨by simp, by simpa using rest.symm⟩
    | cons first more =>
      obtain rfl := (List.cons.inj rest).1
      simp at absent

namespace Measurement

/-- Series with one name have the same names without labels. -/
theorem base_eq_of_series {name name' : String} {labels labels' : List (String × String)}
    (plain : '\x7b' ∉ name.toList) (plain' : '\x7b' ∉ name'.toList)
    (same : series name labels = series name' labels') : name = name' := by
  have chars := congrArg String.toList same
  simp only [series, String.toList_append, List.append_assoc] at chars
  exact String.toList_inj.mp (append_cons_inj plain plain' chars).1

/-- The value of its only label is known from a series. -/
theorem eq_of_series_one {name label value value' : String}
    (same : series name [(label, value)] = series name [(label, value')]) : value = value' := by
  have chars := congrArg String.toList same
  exact String.toList_inj.mp (by simpa [series] using chars)

/-- Both values are known from a series with two labels, if the first has no quotation mark. -/
theorem eq_of_series_two {name label label' value value' last last' : String}
    (plain : '"' ∉ value.toList) (plain' : '"' ∉ value'.toList)
    (same : series name [(label, value), (label', last)] =
      series name [(label, value'), (label', last')]) : value = value' ∧ last = last' := by
  have split (value last : String) : (series name [(label, value), (label', last)]).toList =
      name.toList ++ '\x7b' :: (label.toList ++ '=' :: '"' :: (value.toList ++ '"' :: ',' ::
        (label'.toList ++ '=' :: '"' :: (last.toList ++ ['"', '\x7d'])))) := by
    simp [series]
  have chars := congrArg String.toList same
  rw [split, split] at chars
  simp only [List.append_cancel_left_eq, List.cons.injEq, true_and] at chars
  obtain ⟨values, rest⟩ := append_cons_inj plain plain' chars
  exact ⟨String.toList_inj.mp values, String.toList_inj.mp (by simpa using rest)⟩

end Measurement

/-- The series of the bytes that were moved in a direction. -/
def Direction.counter (direction : Direction) : String :=
  Measurement.series "graphlift_bytes_transferred_total" [("direction", direction.word)]

/-- Different directions have different words. -/
theorem Direction.word_injective {direction direction' : Direction}
    (same : direction.word = direction'.word) : direction = direction' := by
  cases direction <;> cases direction' <;> first | rfl | exact absurd same (by decide)

/-- Different ends of a poll have different words. -/
theorem PollEnd.word_injective {result result' : PollEnd} (same : result.word = result'.word) :
    result = result' := by
  cases result <;> cases result' <;> first | rfl | exact absurd same (by decide)

/-- Different stages have different words. -/
theorem Stage.word_injective {stage stage' : Stage} (same : stage.word = stage'.word) :
    stage = stage' := by
  cases stage <;> cases stage' <;> first | rfl | exact absurd same (by decide)

/-- What can be counted. -/
inductive Counter
  | outcome (stage : Stage)
  | fallback (stage : Stage) (label : String)
  | stageTime (stage : Stage)
  | moved (direction : Direction)
  | polled (result : PollEnd)
  deriving DecidableEq

namespace Counter

/-- The name without labels. -/
def base : Counter → String
  | outcome _ => "graphlift_remote_builds_total"
  | fallback _ _ => "graphlift_fallbacks_total"
  | stageTime _ => "graphlift_stage_duration_seconds_count"
  | moved _ => "graphlift_bytes_transferred_total"
  | polled _ => "graphlift_status_polls_total"

/-- The labels with their values. -/
def labels : Counter → List (String × String)
  | outcome stage => [("outcome", stage.word)]
  | fallback stage label => [("error", label), ("stage", stage.word)]
  | stageTime stage => [("stage", stage.word)]
  | moved direction => [("direction", direction.word)]
  | polled result => [("result", result.word)]

/-- The series under which a counter is published. -/
def name (counter : Counter) : String := Measurement.series counter.base counter.labels

/-- Its labels have no quotation marks. -/
def Plain : Counter → Prop
  | fallback _ label => '"' ∉ label.toList
  | _ => True

/-- The first part of a counter's name has no brace, so that the labels begin with the first one. -/
theorem notMem_base (counter : Counter) : '\x7b' ∉ counter.base.toList := by
  cases counter <;> simp only [base] <;> decide

/-- **No two counters have one series.**

**Proof sketch.** The name without labels tells what is counted. What is left are the values of the
labels, which end at quotation marks. -/
theorem name_injective {counter counter' : Counter} (plain : counter.Plain) (plain' : counter'.Plain)
    (same : counter.name = counter'.name) : counter = counter' := by
  have same_base := Measurement.base_eq_of_series counter.notMem_base counter'.notMem_base same
  cases counter <;> cases counter'
  case outcome.outcome => exact congrArg _ (Stage.word_injective (Measurement.eq_of_series_one same))
  case fallback.fallback =>
    obtain ⟨rfl, same_stage⟩ := Measurement.eq_of_series_two plain plain' same
    rw [Stage.word_injective same_stage]
  case stageTime.stageTime =>
    exact congrArg _ (Stage.word_injective (Measurement.eq_of_series_one same))
  case moved.moved => exact congrArg _ (Direction.word_injective (Measurement.eq_of_series_one same))
  case polled.polled => exact congrArg _ (PollEnd.word_injective (Measurement.eq_of_series_one same))
  all_goals
    simp only [base] at same_base
    exact absurd same_base (by decide)

end Counter

namespace Measurement

/-- What a measurement counts. -/
def counter : Measurement → Counter
  | outcome stage => .outcome stage
  | fallback stage failure => .fallback stage failure
  | stageTime stage _ => .stageTime stage
  | moved direction _ => .moved direction
  | polled result => .polled result

/-- How much it counts. -/
def amount : Measurement → Nat
  | moved _ bytes => bytes
  | _ => 1

/-- A measurement raises one counter, which is its own. -/
theorem increments_eq (measurement : Measurement) :
    measurement.increments = [(measurement.counter.name, measurement.amount)] := by
  cases measurement <;> rfl

end Measurement

/-! ### Ledgers -/

/-- What was counted, entry by entry: under which counter, and how much. -/
abbrev Ledger := List (Counter × Nat)

namespace Ledger

variable {counter : Counter}

/-- How much is entered under a counter. -/
def total (counter : Counter) (ledger : Ledger) : Nat :=
  ((ledger.filter fun entry => entry.1 = counter).map Prod.snd).sum

/-- An empty ledger has nothing of any counter. -/
@[simp] theorem total_nil : total counter [] = 0 := rfl

/-- An entry adds to the counter that it is of, and to no other. -/
@[simp] theorem total_cons {entry : Counter × Nat} {ledger : Ledger} :
    total counter (entry :: ledger) =
      (if entry.1 = counter then entry.2 else 0) + total counter ledger := by
  by_cases same : entry.1 = counter <;> simp [total, same]

/-- The totals of two ledgers are added. -/
@[simp] theorem total_append {front back : Ledger} :
    total counter (front ++ back) = total counter front + total counter back := by
  simp [total]

end Ledger

/-- The ledger of some measurements. -/
def Ledger.ofMeasured (measured : List Measurement) : Ledger :=
  measured.map fun measurement => (measurement.counter, measurement.amount)

/-- The measurements add to a series what is entered under its counter. -/
theorem Ledger.sum_increments {counter : Counter} {measured : List Measurement} (plain : counter.Plain)
    (all_plain : ∀ measurement ∈ measured, measurement.counter.Plain) :
    (((measured.flatMap Measurement.increments).filter fun increment =>
      increment.1 = counter.name).map Prod.snd).sum = (ofMeasured measured).total counter := by
  induction measured with
  | nil => rfl
  | cons measurement rest ih =>
    obtain ⟨first, others⟩ := List.forall_mem_cons.mp all_plain
    have entered : ofMeasured (measurement :: rest) =
        (measurement.counter, measurement.amount) :: ofMeasured rest := rfl
    rw [List.flatMap_cons, List.filter_append, List.map_append, List.sum_append, ih others, entered,
      total_cons, measurement.increments_eq]
    by_cases same : measurement.counter = counter
    · simp [same]
    · have apart : measurement.counter.name ≠ counter.name :=
        fun same_name => same (Counter.name_injective first plain same_name)
      simp [same, apart]

namespace Trace

/-- The ledger of a trace. -/
def ledger (trace : Trace) : Ledger := .ofMeasured trace.measured

/-- The ledger of two traces is that of the first and then that of the second. -/
@[simp] theorem ledger_append {front back : Trace} :
    ledger (front ++ back) = front.ledger ++ back.ledger := by
  simp [ledger, Ledger.ofMeasured]

/-- **A series grows by what is entered under its counter.** -/
theorem growth_name {counter : Counter} {trace : Trace} (plain : counter.Plain)
    (all_plain : ∀ entry ∈ trace.ledger, entry.1.Plain) :
    trace.growth counter.name = trace.ledger.total counter := by
  rw [growth_eq, ledger]
  exact Ledger.sum_increments plain fun measurement mem => all_plain _ (List.mem_map_of_mem mem)

end Trace

end GraphOffload
