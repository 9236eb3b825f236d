import Mathlib.Data.Nat.Notation
import Mathlib.Data.Option.Basic
import Mathlib.Logic.Function.Basic

/-! # Keyed stores with deadlines

A key holds a value up to a deadline. The time is an argument of reading, so passing time changes
nothing in the store. `All` is what holds of every value the store has, expired or not.
-/

namespace LlmopsGateway.Machine

variable {κ ν : Type}

structure Expiring (κ ν : Type) where
  entries : κ → Option (ν × ℕ) := fun _ => none

namespace Expiring

/-- The value of a key, if its deadline is still to come. -/
def get (store : Expiring κ ν) (now : ℕ) (key : κ) : Option ν :=
  (store.entries key).bind fun entry => if now < entry.2 then some entry.1 else none

/-- A property of all values, each with its key. -/
def All (holds : κ → ν → Prop) (store : Expiring κ ν) : Prop :=
  ∀ key value deadline, store.entries key = some (value, deadline) → holds key value

variable {store other : Expiring κ ν} {key target : κ} {value found : ν} {now deadline : ℕ}
  {holds : κ → ν → Prop}

theorem get_eq_some_iff : store.get now key = some found ↔
    ∃ deadline, store.entries key = some (found, deadline) ∧ now < deadline := by
  unfold get
  rcases store.entries key with _ | ⟨value, deadline⟩
  · exact iff_of_false nofun nofun
  · rw [Option.bind_some]
    constructor
    · intro read
      split at read
      · rename_i live
        obtain rfl := Option.some.inj read
        exact ⟨deadline, rfl, live⟩
      · cases read
    · rintro ⟨deadline, entry, live⟩
      obtain ⟨rfl, rfl⟩ := Prod.mk.inj (Option.some.inj entry)
      exact if_pos live

/-- Reading depends on nothing but the entry. -/
theorem get_congr (same : store.entries key = other.entries key) : store.get now key = other.get now key := by
  rw [get, get, same]

theorem All.empty : All holds ({} : Expiring κ ν) := nofun

theorem All.get (all : All holds store) (read : store.get now key = some found) : holds key found := by
  obtain ⟨deadline, entry, -⟩ := get_eq_some_iff.mp read
  exact all key found deadline entry

theorem All.imp {later : κ → ν → Prop} (weaker : ∀ key value, holds key value → later key value)
    (all : All holds store) : All later store :=
  fun key value deadline entry => weaker key value (all key value deadline entry)

variable [DecidableEq κ]

def set (store : Expiring κ ν) (key : κ) (value : ν) (deadline : ℕ) : Expiring κ ν :=
  ⟨Function.update store.entries key (some (value, deadline))⟩

def delete (store : Expiring κ ν) (key : κ) : Expiring κ ν := ⟨Function.update store.entries key none⟩

@[simp] theorem entries_set_self :
    (store.set key value deadline).entries key = some (value, deadline) := Function.update_self ..

@[simp] theorem entries_delete_self : (store.delete key).entries key = none := Function.update_self ..

theorem entries_set_of_ne (different : target ≠ key) :
    (store.set key value deadline).entries target = store.entries target :=
  Function.update_of_ne different ..

theorem entries_delete_of_ne (different : target ≠ key) :
    (store.delete key).entries target = store.entries target :=
  Function.update_of_ne different ..

theorem All.set (all : All holds store) (fits : holds key value) :
    All holds (store.set key value deadline) := by
  intro target found limit entry
  by_cases same : target = key
  · subst same
    rw [entries_set_self] at entry
    obtain ⟨rfl, -⟩ := Prod.mk.inj (Option.some.inj entry)
    exact fits
  · rw [entries_set_of_ne same] at entry
    exact all target found limit entry

theorem All.delete (all : All holds store) : All holds (store.delete key) := by
  intro target found limit entry
  by_cases same : target = key
  · subst same
    rw [entries_delete_self] at entry
    cases entry
  · rw [entries_delete_of_ne same] at entry
    exact all target found limit entry

end Expiring

end LlmopsGateway.Machine
