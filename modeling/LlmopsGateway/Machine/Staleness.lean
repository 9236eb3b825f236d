import LlmopsGateway.Machine.Run
import Mathlib.Data.List.Infix
import Mathlib.Logic.Function.Basic

/-! # How old the answer of a cache may be

An entry with a deadline repeats something that was read of a source. If it was written soon after the reading,
then whoever finds it alive learns what the source had not longer ago than its lifetime and that delay, whatever
has become of the source since. The readings of a run are states it has been in.
-/

namespace LlmopsGateway.Machine

section past

variable {σ α : Type*} {step : σ → α → Option σ} {initial state : σ} {labels : List α} {holds weaker : σ → Prop}

/-- At the start of a run or after some of its labels the property held. -/
def Once (step : σ → α → Option σ) (initial : σ) (labels : List α) (holds : σ → Prop) : Prop :=
  ∃ first state, first <+: labels ∧ run? step initial first = some state ∧ holds state

theorem once_now (ran : run? step initial labels = some state) (here : holds state) :
    Once step initial labels holds :=
  ⟨labels, state, List.prefix_rfl, ran, here⟩

theorem Once.later (once : Once step initial labels holds) (more : List α) :
    Once step initial (labels ++ more) holds := by
  obtain ⟨first, state, before, ran, held⟩ := once
  exact ⟨first, state, before.trans (List.prefix_append ..), ran, held⟩

theorem Once.imp (implies : ∀ state, holds state → weaker state) (once : Once step initial labels holds) :
    Once step initial labels weaker := by
  obtain ⟨first, state, before, ran, held⟩ := once
  exact ⟨first, state, before, ran, implies state held⟩

/-- The induction over runs for an invariant that also speaks of the labels so far. -/
theorem run_history (guard : σ → α → Prop) (invariant : List α → σ → Prop)
    (kept : ∀ labels state label next, run? step initial labels = some state → invariant labels state →
      guard state label → step state label = some next → invariant (labels ++ [label]) next)
    {final : σ} (start : invariant [] initial) (guarded : Along step guard initial labels)
    (ran : run? step initial labels = some final) : invariant labels final := by
  induction labels using List.reverseRecOn generalizing final with
  | nil =>
    obtain rfl := Option.some.inj ran
    exact start
  | append_singleton labels label ih =>
    obtain ⟨before, ran, stepped⟩ := run?_concat_iff.mp ran
    exact kept labels before label final ran (ih guarded.append_left ran) (guarded.append_right ran).1 stepped

end past

section backed

variable {κ ε : Type*} {deadline : ε → ℕ} {repeats later : κ → ε → ℕ → Prop} {age : ℕ}
    {store other : κ → Option ε}
  {key : κ} {entry : ε}

/-- Every entry repeats a reading and is gone `age` after it. -/
def Backed (deadline : ε → ℕ) (repeats : κ → ε → ℕ → Prop) (age : ℕ) (store : κ → Option ε) : Prop :=
  ∀ key entry, store key = some entry → ∃ time, repeats key entry time ∧ deadline entry ≤ time + age

theorem Backed.empty : Backed deadline repeats age fun _ => none := by
  intro key entry present
  cases present

/-- Who finds an entry alive learns of a reading that is younger than `age`. -/
theorem Backed.read (backed : Backed deadline repeats age store) (present : store key = some entry) {now : ℕ}
    (alive : now < deadline entry) : ∃ time, repeats key entry time ∧ now < time + age := by
  obtain ⟨time, repeated, gone⟩ := backed key entry present
  exact ⟨time, repeated, alive.trans_le gone⟩

theorem Backed.imp (more : ∀ key entry time, repeats key entry time → later key entry time)
    (backed : Backed deadline repeats age store) : Backed deadline later age store := by
  intro key entry present
  obtain ⟨time, repeated, gone⟩ := backed key entry present
  exact ⟨time, more key entry time repeated, gone⟩

/-- Entries may disappear. -/
theorem Backed.subset (backed : Backed deadline repeats age store)
    (fewer : ∀ key entry, other key = some entry → store key = some entry) :
    Backed deadline repeats age other :=
  fun key entry present => backed key entry (fewer key entry present)

variable [DecidableEq κ]

theorem Backed.put (backed : Backed deadline repeats age store) (time : ℕ) (repeated : repeats key entry time)
    (gone : deadline entry ≤ time + age) :
    Backed deadline repeats age (Function.update store key (some entry)) := by
  intro target found present
  by_cases same : target = key
  · subst same
    rw [Function.update_self] at present
    obtain rfl := Option.some.inj present
    exact ⟨time, repeated, gone⟩
  · rw [Function.update_of_ne same] at present
    exact backed target found present

theorem Backed.forget (backed : Backed deadline repeats age store) (key : κ) :
    Backed deadline repeats age (Function.update store key none) := by
  apply backed.subset
  intro target found present
  by_cases same : target = key
  · subst same
    rw [Function.update_self] at present
    cases present
  · rwa [Function.update_of_ne same] at present

end backed

end LlmopsGateway.Machine
