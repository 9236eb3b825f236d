import LlmopsGateway.Machine.Run
import Mathlib.Algebra.BigOperators.Group.Finset.Basic
import Mathlib.Algebra.Order.BigOperators.Group.Finset
import Mathlib.Algebra.Order.Ring.Defs
import Mathlib.Data.Finset.Dedup
import Mathlib.Tactic.Linarith

/-! # What a run costs

Every transition of a run has a cost. To bound the cost of a whole run one finds a potential: where each
transition costs at most its credit and what the potential loses, the run costs at most the credit of its
transitions and the potential it starts with. A system of several parties has the potential of its parties
together, and a transition of one party changes only that party's part.
-/

namespace LlmopsGateway.Machine

variable {σ α κ : Type*} {step : σ → α → Option σ}

/-- The cost of the transitions of a run together. -/
def total (step : σ → α → Option σ) (cost : σ → α → ℕ) : σ → List α → ℕ
  | _, [] => 0
  | state, label :: rest => cost state label + (step state label).elim 0 fun next => total step cost next rest

@[simp] theorem total_nil (cost : σ → α → ℕ) (state : σ) : total step cost state [] = 0 := rfl

theorem total_cons {cost : σ → α → ℕ} {state next : σ} {label : α} {rest : List α}
    (stepped : step state label = some next) :
    total step cost state (label :: rest) = cost state label + total step cost next rest := by
  rw [total, stepped, Option.elim_some]

theorem total_mul (factor : ℕ) (cost : σ → α → ℕ) (state : σ) (labels : List α) :
    total step (fun state label => factor * cost state label) state labels =
      factor * total step cost state labels := by
  induction labels generalizing state with
  | nil => rfl
  | cons label rest ih =>
    cases stepped : step state label with
    | none => rw [total, total, stepped, Option.elim_none, Option.elim_none, Nat.mul_add, Nat.mul_zero]
    | some next => rw [total_cons stepped, total_cons stepped, ih, Nat.mul_add]

/-- A run with no costly transition costs nothing. -/
theorem total_eq_zero {cost : σ → α → ℕ} {state : σ} {labels : List α}
    (free : Along step (fun state label => cost state label = 0) state labels) :
    total step cost state labels = 0 := by
  induction labels generalizing state with
  | nil => rfl
  | cons label rest ih =>
    cases stepped : step state label with
    | none => rw [total, stepped, free.1, Option.elim_none]
    | some next => rw [total_cons stepped, free.1, ih (free.2 next stepped)]

/-- The potential method: `invariant` may be used at every transition. -/
theorem total_le_of_potential (invariant : σ → Prop) (potential : σ → ℕ) (cost credit : σ → α → ℕ)
    (preserved : ∀ state label next, invariant state → step state label = some next → invariant next)
    {state final : σ} {labels : List α}
    (pays : ∀ state next, ∀ label ∈ labels, invariant state → step state label = some next →
      cost state label + potential next ≤ credit state label + potential state)
    (start : invariant state) (ran : run? step state labels = some final) :
    total step cost state labels + potential final ≤ total step credit state labels + potential state := by
  induction labels generalizing state with
  | nil =>
    obtain rfl := Option.some.inj ran
    simp
  | cons label rest ih =>
    obtain ⟨next, stepped, ran⟩ := run?_cons_iff.mp ran
    have here := pays state next label List.mem_cons_self start stepped
    have later := ih (fun state next label listed => pays state next label (List.mem_cons_of_mem _ listed))
      (preserved state label next start stepped) ran
    rw [total_cons stepped, total_cons stepped]
    omega

/-- A transition that costs one exactly when its label is of a kind. -/
theorem total_indicator (counted : α → Bool) {state final : σ} {labels : List α}
    (ran : run? step state labels = some final) :
    total step (fun _ label => if counted label then 1 else 0) state labels = labels.countP counted := by
  induction labels generalizing state with
  | nil => rfl
  | cons label rest ih =>
    obtain ⟨next, stepped, ran⟩ := run?_cons_iff.mp ran
    rw [total_cons stepped, ih ran, List.countP_cons, Nat.add_comm]

section account

variable {R : Type*} [CommRing R] [LinearOrder R] [IsStrictOrderedRing R]

/-- The potential method with a potential that need not be whole or positive; time that passes may be part of
it. -/
theorem total_cast_le (guard : σ → α → Prop) (invariant : σ → Prop) (potential : σ → R) (cost : σ → α → ℕ)
    (credit : α → R)
    (preserved : ∀ state label next, invariant state → step state label = some next → invariant next)
    (pays : ∀ state label next, invariant state → guard state label → step state label = some next →
      cost state label + potential next ≤ credit label + potential state)
    {state final : σ} {labels : List α} (start : invariant state) (along : Along step guard state labels)
    (ran : run? step state labels = some final) :
    total step cost state labels + potential final ≤ (labels.map credit).sum + potential state := by
  induction labels generalizing state with
  | nil =>
    obtain rfl := Option.some.inj ran
    simp
  | cons label rest ih =>
    obtain ⟨next, stepped, ran⟩ := run?_cons_iff.mp ran
    have here := pays state label next start along.1 stepped
    have later := ih (preserved state label next start stepped) (along.2 next stepped) ran
    rw [total_cons stepped, List.map_cons, List.sum_cons, Nat.cast_add]
    linarith

end account

section peak

variable {measure : σ → ℕ}

/-- The highest value of a measure on the states of a run. -/
def peak (step : σ → α → Option σ) (measure : σ → ℕ) : σ → List α → ℕ
  | state, [] => measure state
  | state, label :: rest =>
    max (measure state) ((step state label).elim 0 fun next => peak step measure next rest)

theorem peak_cons {state next : σ} {label : α} {rest : List α} (stepped : step state label = some next) :
    peak step measure state (label :: rest) = max (measure state) (peak step measure next rest) := by
  rw [peak, stepped, Option.elim_some]

theorem along_of_peak_le {bound : ℕ} {state : σ} {labels : List α}
    (below : peak step measure state labels ≤ bound) :
    Along step (fun state _ => measure state ≤ bound) state labels := by
  induction labels generalizing state with
  | nil => trivial
  | cons label rest ih =>
    refine ⟨(le_max_left ..).trans below, fun next stepped => ih ?_⟩
    rw [peak_cons stepped] at below
    exact (le_max_right ..).trans below

theorem le_of_peak_le {bound : ℕ} {state final : σ} {labels : List α}
    (below : peak step measure state labels ≤ bound) (ran : run? step state labels = some final) :
    measure final ≤ bound := by
  induction labels generalizing state with
  | nil =>
    obtain rfl := Option.some.inj ran
    exact below
  | cons label rest ih =>
    obtain ⟨next, stepped, ran⟩ := run?_cons_iff.mp ran
    rw [peak_cons stepped] at below
    exact ih ((le_max_right ..).trans below) ran

end peak

section projection

variable {τ β : Type*} {shown : τ → β → Option τ} {view : σ → τ} {relabel : α → β}

/-- A machine whose steps, seen through a view, are those of another one. -/
theorem run?_view (commutes : ∀ state label, shown (view state) (relabel label) = (step state label).map view)
    (state : σ) (labels : List α) : run? shown (view state) (labels.map relabel) =
      (run? step state labels).map view := by
  induction labels generalizing state with
  | nil => rfl
  | cons label rest ih =>
    rw [List.map_cons, run?, run?, commutes]
    cases stepped : step state label with
    | none => rfl
    | some next => exact ih next

theorem total_view (commutes : ∀ state label, shown (view state) (relabel label) = (step state label).map view)
    (cost : τ → β → ℕ) (state : σ) (labels : List α) :
    total step (fun state label => cost (view state) (relabel label)) state labels =
      total shown cost (view state) (labels.map relabel) := by
  induction labels generalizing state with
  | nil => rfl
  | cons label rest ih =>
    rw [List.map_cons, total, total, commutes]
    cases stepped : step state label with
    | none => rfl
    | some next => exact congrArg (cost (view state) (relabel label) + ·) (ih next)

end projection

section parties

variable [DecidableEq κ]

/-- The potential of several parties after one of them has moved. -/
theorem sum_move {parties : Finset κ} {before after : κ → ℕ} {moved : κ} (spent gained : ℕ)
    (member : moved ∈ parties) (others : ∀ other, other ≠ moved → after other = before other)
    (here : spent + after moved ≤ gained + before moved) :
    spent + ∑ party ∈ parties, after party ≤ gained + ∑ party ∈ parties, before party := by
  have rest : ∑ party ∈ parties.erase moved, after party = ∑ party ∈ parties.erase moved, before party :=
    Finset.sum_congr rfl fun other distinct => others other (Finset.ne_of_mem_erase distinct)
  rw [← Finset.add_sum_erase _ _ member, ← Finset.add_sum_erase _ before member, rest]
  omega

end parties

end LlmopsGateway.Machine
