import Mathlib.Data.Nat.Notation
import Mathlib.Logic.Function.Basic

/-! # Caches beside a source

A cache keeps encoded copies of what a source has under a key. It is coherent when every entry it holds
reads as the present value of the source; entries may be missing. Forgetting keeps it so, storing the
source's value keeps it so, and the source may change under the keys that are not cached.
-/

namespace LlmopsGateway.Machine

variable {κ α β : Type}

/-- Every entry reads as what the source has. -/
def Coherent (reads : β → Option α) (source : κ → Option α) (cache : κ → Option β) : Prop :=
  ∀ key entry, cache key = some entry → ∃ value, reads entry = some value ∧ source key = some value

namespace Coherent

variable {reads : β → Option α} {source later : κ → Option α} {cache : κ → Option β} {key : κ} {entry : β}
  {value : α}

theorem empty (reads : β → Option α) (source : κ → Option α) : Coherent reads source fun _ => none := nofun

/-- What an entry reads as is what the source has. -/
theorem hit (coherent : Coherent reads source cache) (cached : cache key = some entry)
    (read : reads entry = some value) : source key = some value := by
  obtain ⟨found, reading, present⟩ := coherent key entry cached
  obtain rfl := Option.some.inj (read.symm.trans reading)
  exact present

/-- Every entry can be read. -/
theorem readable (coherent : Coherent reads source cache) (cached : cache key = some entry) :
    reads entry ≠ none := by
  obtain ⟨found, reading, -⟩ := coherent key entry cached
  rw [reading]
  exact nofun

/-- The source may change wherever nothing is cached. -/
theorem restate (coherent : Coherent reads source cache)
    (kept : ∀ key value, cache key ≠ none → source key = some value → later key = some value) :
    Coherent reads later cache := by
  intro key entry cached
  obtain ⟨value, reading, present⟩ := coherent key entry cached
  exact ⟨value, reading, kept key value (by rw [cached]; exact nofun) present⟩

variable [DecidableEq κ]

theorem forget (coherent : Coherent reads source cache) (key : κ) :
    Coherent reads source (Function.update cache key none) := by
  intro other entry cached
  by_cases same : other = key
  · subst same
    rw [Function.update_self] at cached
    contradiction
  · rw [Function.update_of_ne same] at cached
    exact coherent other entry cached

theorem put (coherent : Coherent reads source cache) (read : reads entry = some value)
    (present : source key = some value) : Coherent reads source (Function.update cache key (some entry)) := by
  intro other stored cached
  by_cases same : other = key
  · subst same
    rw [Function.update_self] at cached
    obtain rfl := Option.some.inj cached
    exact ⟨value, read, present⟩
  · rw [Function.update_of_ne same] at cached
    exact coherent other stored cached

end Coherent

end LlmopsGateway.Machine
