import LlmopsGateway.Machine.Run

/-! # One machine's runs as another's

A machine simulates another when each of its steps is answered by a run of the other, often of one step or
none, between related states. Then every run has an answer: the answers to its steps, one after the other. What
is proved of all runs of the second machine holds of the first machine's through the relation.

An observer sees some of the labels of a machine and compares states by a relation. If hidden labels
change nothing the relation looks at, and visible ones lead from related states to related states, then
leaving the hidden labels out of a run leads to a related state.
-/

namespace LlmopsGateway.Machine

section simulations

variable {σ τ α β : Type*} {concrete : σ → α → Option σ} {abstract : τ → β → Option τ}
  {guard : σ → α → Prop} {related : σ → τ → Prop} {answer : σ → α → List β}

/-- Every step under the guard is answered. -/
def Simulates (concrete : σ → α → Option σ) (abstract : τ → β → Option τ) (guard : σ → α → Prop)
    (related : σ → τ → Prop) (answer : σ → α → List β) : Prop :=
  ∀ state spec label next, related state spec → guard state label → concrete state label = some next →
    ∃ after, run? abstract spec (answer state label) = some after ∧ related next after

/-- The answers to the steps of a run. -/
def answers (concrete : σ → α → Option σ) (answer : σ → α → List β) : σ → List α → List β
  | _, [] => []
  | state, label :: rest =>
    answer state label ++ (concrete state label).elim [] fun next => answers concrete answer next rest

theorem answers_cons {state next : σ} {label : α} {rest : List α} (stepped : concrete state label = some next) :
    answers concrete answer state (label :: rest) =
      answer state label ++ answers concrete answer next rest := by
  rw [answers, stepped, Option.elim_some]

theorem Simulates.run (simulates : Simulates concrete abstract guard related answer)
    {state final : σ} {spec : τ}
    {labels : List α} (start : related state spec) (guarded : Along concrete guard state labels)
    (ran : run? concrete state labels = some final) :
    ∃ after, run? abstract spec (answers concrete answer state labels) = some after ∧ related final after := by
  induction labels generalizing state spec with
  | nil =>
    obtain rfl := Option.some.inj ran
    exact ⟨spec, rfl, start⟩
  | cons label rest ih =>
    obtain ⟨next, stepped, ran⟩ := run?_cons_iff.mp ran
    obtain ⟨middle, answered, there⟩ := simulates state spec label next start guarded.1 stepped
    obtain ⟨after, followed, ends⟩ := ih there (guarded.2 next stepped) ran
    rw [answers_cons stepped]
    exact ⟨after, run?_append_iff.mpr ⟨middle, answered, followed⟩, ends⟩

end simulations

section unwinding

variable {σ α : Type*} {step : σ → α → Option σ} {visible : α → Bool} {agree : σ → σ → Prop}

/-- What the observer must be shown of a single step. -/
structure Unwinding (step : σ → α → Option σ) (visible : α → Bool) (agree : σ → σ → Prop) : Prop where
  hidden : ∀ state next other label, agree state other → visible label = false →
    step state label = some next → agree next other
  seen : ∀ state next other label, agree state other → visible label = true →
    step state label = some next → ∃ after, step other label = some after ∧ agree next after

/-- The run of the visible labels alone exists, and ends alike. -/
theorem Unwinding.run (unwinding : Unwinding step visible agree) {state final other : σ} {labels : List α}
    (related : agree state other) (ran : run? step state labels = some final) :
    ∃ alone, run? step other (labels.filter visible) = some alone ∧ agree final alone := by
  induction labels generalizing state other with
  | nil =>
    obtain rfl := Option.some.inj ran
    exact ⟨other, rfl, related⟩
  | cons label rest ih =>
    obtain ⟨next, stepped, ran⟩ := run?_cons_iff.mp ran
    cases sees : visible label with
    | true =>
      obtain ⟨after, otherStep, related⟩ := unwinding.seen state next other label related sees stepped
      obtain ⟨alone, otherRan, related⟩ := ih related ran
      rw [List.filter_cons_of_pos sees]
      exact ⟨alone, run?_cons_iff.mpr ⟨after, otherStep, otherRan⟩, related⟩
    | false =>
      rw [List.filter_cons_of_neg (Bool.eq_false_iff.mp sees)]
      exact ih (unwinding.hidden state next other label related sees stepped) ran

end unwinding

end LlmopsGateway.Machine
