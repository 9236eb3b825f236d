import Mathlib.Data.Option.Basic
import Mathlib.Tactic.Common

/-! # Finite runs of a partial labelled step function

A system is given by `step : σ → α → Option σ`; a disabled label has no successor. A run is a
list of labels, so an interleaving of several parties is a list that mixes their labels.
`Along` checks a condition at every transition of a run, on the state before the transition and
its label. The rules below move invariants and conditions along runs; they know nothing about
the states and labels they are instantiated with.
-/

namespace LlmopsGateway.Machine

variable {σ α : Type*} {step : σ → α → Option σ}

/-- Execute the labels in order; a disabled label stops the whole run. -/
def run? (step : σ → α → Option σ) : σ → List α → Option σ
  | state, [] => some state
  | state, label :: rest => (step state label).bind fun next => run? step next rest

/-- The condition holds at every transition of the run. -/
def Along (step : σ → α → Option σ) (holds : σ → α → Prop) : σ → List α → Prop
  | _, [] => True
  | state, label :: rest =>
      holds state label ∧ ∀ next, step state label = some next → Along step holds next rest

@[simp] theorem run?_nil (state : σ) : run? step state [] = some state := rfl

theorem run?_cons_iff {state final : σ} {label : α} {rest : List α} :
    run? step state (label :: rest) = some final ↔
      ∃ next, step state label = some next ∧ run? step next rest = some final :=
  Option.bind_eq_some_iff

theorem run?_append_iff {state final : σ} {first second : List α} :
    run? step state (first ++ second) = some final ↔
      ∃ middle, run? step state first = some middle ∧ run? step middle second = some final := by
  induction first generalizing state with
  | nil => simp
  | cons label rest ih =>
    rw [List.cons_append, run?_cons_iff]
    constructor
    · rintro ⟨next, stepped, ran⟩
      obtain ⟨middle, before, after⟩ := ih.mp ran
      exact ⟨middle, run?_cons_iff.mpr ⟨next, stepped, before⟩, after⟩
    · rintro ⟨middle, before, after⟩
      obtain ⟨next, stepped, before⟩ := run?_cons_iff.mp before
      exact ⟨next, stepped, ih.mpr ⟨middle, before, after⟩⟩

/-- The last step of a run. -/
theorem run?_concat_iff {state final : σ} {labels : List α} {label : α} :
    run? step state (labels ++ [label]) = some final ↔
      ∃ before, run? step state labels = some before ∧ step before label = some final := by
  rw [run?_append_iff]
  constructor
  · rintro ⟨before, ran, last⟩
    obtain ⟨after, stepped, same⟩ := run?_cons_iff.mp last
    obtain rfl := Option.some.inj same
    exact ⟨before, ran, stepped⟩
  · rintro ⟨before, ran, stepped⟩
    exact ⟨before, ran, run?_cons_iff.mpr ⟨final, stepped, rfl⟩⟩

theorem along_cons_of_step {holds : σ → α → Prop} {state next : σ} {label : α} {rest : List α}
    (stepped : step state label = some next) :
    Along step holds state (label :: rest) ↔ holds state label ∧ Along step holds next rest := by
  constructor
  · rintro ⟨here, later⟩
    exact ⟨here, later next stepped⟩
  · rintro ⟨here, later⟩
    refine ⟨here, fun other otherStep => ?_⟩
    obtain rfl := Option.some.inj (stepped.symm.trans otherStep)
    exact later

theorem Along.append_right {holds : σ → α → Prop} {state middle : σ} {first second : List α}
    (along : Along step holds state (first ++ second))
    (ran : run? step state first = some middle) : Along step holds middle second := by
  induction first generalizing state with
  | nil =>
    obtain rfl := Option.some.inj ran
    exact along
  | cons label rest ih =>
    obtain ⟨next, stepped, ran⟩ := run?_cons_iff.mp ran
    exact ih (along.2 next stepped) ran

theorem Along.append_left {holds : σ → α → Prop} {state : σ} {first second : List α}
    (along : Along step holds state (first ++ second)) : Along step holds state first := by
  induction first generalizing state with
  | nil => trivial
  | cons label rest ih => exact ⟨along.1, fun next stepped => ih (along.2 next stepped)⟩

theorem along_of_forall {holds : α → Prop} (state : σ) {labels : List α} (all : ∀ label ∈ labels, holds label) :
    Along step (fun _ label => holds label) state labels := by
  induction labels generalizing state with
  | nil => trivial
  | cons label rest ih =>
    obtain ⟨here, later⟩ := List.forall_mem_cons.mp all
    exact ⟨here, fun next _ => ih next later⟩

/-- Along a run of steps that are never disabled, a condition on the labels holds of them all. -/
theorem along_forall_iff {holds : α → Prop} (enabled : ∀ state label, ∃ next, step state label = some next)
    {state : σ} {labels : List α} :
    Along step (fun _ label => holds label) state labels ↔ ∀ label ∈ labels, holds label := by
  induction labels generalizing state with
  | nil => exact iff_of_true trivial nofun
  | cons label rest ih =>
    obtain ⟨next, stepped⟩ := enabled state label
    rw [along_cons_of_step stepped, ih, List.forall_mem_cons]

/-- Conditions that can be tested at a step can be tested along a run. -/
instance Along.decidable (holds : σ → α → Prop) [∀ state label, Decidable (holds state label)] :
    (state : σ) → (labels : List α) → Decidable (Along step holds state labels)
  | _, [] => isTrue trivial
  | state, label :: rest =>
    match stepped : step state label with
    | none => decidable_of_iff (holds state label) (by simp [Along, stepped])
    | some next =>
      have := Along.decidable holds next rest
      decidable_of_iff _ (along_cons_of_step stepped).symm

/-- The induction over runs: what every guarded step preserves holds at the end of every guarded run. -/
theorem run_invariant (guard : σ → α → Prop) (invariant : σ → Prop)
    (preserved : ∀ state label next, invariant state → guard state label →
      step state label = some next → invariant next)
    {state final : σ} {labels : List α} (start : invariant state)
    (along : Along step guard state labels) (ran : run? step state labels = some final) :
    invariant final := by
  induction labels generalizing state with
  | nil =>
    obtain rfl := Option.some.inj ran
    exact start
  | cons label rest ih =>
    obtain ⟨next, stepped, ran⟩ := run?_cons_iff.mp ran
    exact ih (preserved state label next start along.1 stepped) (along.2 next stepped) ran

theorem Along.imp {first second : σ → α → Prop} (weaker : ∀ state label, first state label → second state label)
    {state : σ} {labels : List α} (along : Along step first state labels) : Along step second state labels := by
  induction labels generalizing state with
  | nil => trivial
  | cons label rest ih => exact ⟨weaker state label along.1, fun next stepped => ih (along.2 next stepped)⟩

theorem Along.and {first second : σ → α → Prop} {state : σ} {labels : List α}
    (left : Along step first state labels) (right : Along step second state labels) :
    Along step (fun state label => first state label ∧ second state label) state labels := by
  induction labels generalizing state with
  | nil => trivial
  | cons label rest ih =>
    exact ⟨⟨left.1, right.1⟩, fun next stepped => ih (left.2 next stepped) (right.2 next stepped)⟩

theorem along_true (state : σ) (labels : List α) : Along step (fun _ _ => True) state labels := by
  induction labels generalizing state with
  | nil => trivial
  | cons label rest ih => exact ⟨trivial, fun next _ => ih next⟩

/-- The unguarded rule: an invariant of every step holds in every reachable state. -/
theorem reachable_invariant (invariant : σ → Prop)
    (preserved : ∀ state label next, invariant state → step state label = some next → invariant next)
    {state final : σ} {labels : List α} (start : invariant state)
    (ran : run? step state labels = some final) : invariant final :=
  run_invariant (fun _ _ => True) invariant
    (fun state label next holds _ => preserved state label next holds) start
    (along_true state labels) ran

/-- Two conditions that agree wherever the invariant holds agree along every guarded run, as
long as one of them preserves the invariant: at the first step where either fails, both fail. -/
theorem along_congr {guard left right : σ → α → Prop} (invariant : σ → Prop)
    (agree : ∀ state label, invariant state → guard state label →
      (left state label ↔ right state label))
    (preserved : ∀ state label next, invariant state → guard state label → left state label →
      step state label = some next → invariant next)
    {state : σ} {labels : List α} (start : invariant state)
    (guarded : Along step guard state labels) :
    Along step left state labels ↔ Along step right state labels := by
  induction labels generalizing state with
  | nil => exact Iff.rfl
  | cons label rest ih =>
    have here := agree state label start guarded.1
    constructor
    · rintro ⟨holds, later⟩
      refine ⟨here.mp holds, fun next stepped => ?_⟩
      have there := preserved state label next start guarded.1 holds stepped
      exact (ih there (guarded.2 next stepped)).mp (later next stepped)
    · rintro ⟨holds, later⟩
      refine ⟨here.mpr holds, fun next stepped => ?_⟩
      have there := preserved state label next start guarded.1 (here.mpr holds) stepped
      exact (ih there (guarded.2 next stepped)).mpr (later next stepped)

/-- What an invariant of every step implies holds all along. -/
theorem along_of_invariant {holds : σ → α → Prop} (invariant : σ → Prop)
    (implied : ∀ state label, invariant state → holds state label)
    (preserved : ∀ state label next, invariant state → step state label = some next → invariant next)
    {state : σ} (start : invariant state) (labels : List α) : Along step holds state labels := by
  induction labels generalizing state with
  | nil => trivial
  | cons label rest ih =>
    exact ⟨implied state label start, fun next stepped => ih (preserved state label next start stepped)⟩

/-- A counter that never decreases stays below a bound throughout a run iff it ends below it. -/
theorem along_le_iff (measure : σ → ℕ) (bound : ℕ)
    (grows : ∀ state label next, step state label = some next → measure state ≤ measure next)
    {state final : σ} {labels : List α} (start : measure state ≤ bound)
    (ran : run? step state labels = some final) :
    Along step (fun state label => ∀ next, step state label = some next → measure next ≤ bound)
      state labels ↔ measure final ≤ bound := by
  induction labels generalizing state with
  | nil =>
    obtain rfl := Option.some.inj ran
    exact ⟨fun _ => start, fun _ => trivial⟩
  | cons label rest ih =>
    obtain ⟨next, stepped, ran⟩ := run?_cons_iff.mp ran
    constructor
    · intro along
      exact (ih (along.1 next stepped) ran).mp (along.2 next stepped)
    · intro ended
      have later : measure next ≤ measure final := by
        refine reachable_invariant (fun other => measure next ≤ measure other) ?_ (Nat.le_refl _) ran
        intro state label other holds stepped
        exact Nat.le_trans holds (grows state label other stepped)
      have below : measure next ≤ bound := Nat.le_trans later ended
      refine (along_cons_of_step stepped).mpr ⟨fun other otherStep => ?_, (ih below ran).mpr ended⟩
      obtain rfl := Option.some.inj (stepped.symm.trans otherStep)
      exact below

end LlmopsGateway.Machine
