import Mathlib.Data.List.Basic
import Mathlib.Data.List.TakeDrop
import Mathlib.Tactic.Common

/-! # Generators that are pulled

A generator is the list of its events, some of which hand an item over. Its consumer pulls: each pull runs it up
to its next item, or to its end. A consumer that goes away leaves it where the last pull has left it.
-/

namespace LlmopsGateway.Machine

variable {ω ι : Type} (item? : ω → Option ι)

/-- What has happened after a number of pulls. -/
def pulled : List ω → ℕ → List ω
  | _, 0 => []
  | [], _ => []
  | event :: rest, pulls + 1 => event :: pulled rest (if (item? event).isSome then pulls else pulls + 1)

@[simp] theorem pulled_zero (events : List ω) : pulled item? events 0 = [] := by
  cases events <;> rfl

@[simp] theorem pulled_nil (pulls : ℕ) : pulled item? [] pulls = [] := by
  cases pulls <;> rfl

variable {item?}

theorem pulled_cons_of_item {event : ω} {item : ι} (hands : item? event = some item) (rest : List ω)
    (pulls : ℕ) : pulled item? (event :: rest) (pulls + 1) = event :: pulled item? rest pulls := by
  rw [pulled, hands, Option.isSome_some, if_pos rfl]

theorem pulled_cons_of_silent {event : ω} (silent : item? event = none) (rest : List ω) (pulls : ℕ) :
    pulled item? (event :: rest) (pulls + 1) = event :: pulled item? rest (pulls + 1) := by
  rw [pulled, silent, Option.isSome_none, if_neg Bool.false_ne_true]

/-- A generator is run in order. -/
theorem pulled_isPrefix (events : List ω) (pulls : ℕ) : pulled item? events pulls <+: events := by
  induction events generalizing pulls with
  | nil =>
    refine ⟨[], ?_⟩
    rw [List.append_nil, pulled_nil]
  | cons event rest ih =>
    cases pulls with
    | zero =>
      rw [pulled_zero]
      exact List.nil_prefix
    | succ pulls =>
      rw [pulled]
      exact (List.prefix_cons_inj event).mpr (ih _)

/-- A consumer that does not get through the first part sees nothing of the second. -/
theorem pulled_append_of_le {first second : List ω} {pulls : ℕ} (few : pulls ≤ (first.filterMap item?).length) :
    pulled item? (first ++ second) pulls = pulled item? first pulls := by
  induction first generalizing pulls with
  | nil =>
    obtain rfl := Nat.le_zero.mp few
    rw [pulled_zero, pulled_zero]
  | cons event rest ih =>
    cases pulls with
    | zero => rw [pulled_zero, pulled_zero]
    | succ pulls =>
      rw [List.cons_append]
      cases hands : item? event with
      | none =>
        rw [List.filterMap_cons_none hands] at few
        rw [pulled_cons_of_silent hands, pulled_cons_of_silent hands, ih few]
      | some item =>
        rw [List.filterMap_cons_some hands, List.length_cons] at few
        rw [pulled_cons_of_item hands, pulled_cons_of_item hands, ih (Nat.le_of_succ_le_succ few)]

/-- A consumer that gets through the first part goes on with what it has left. -/
theorem pulled_append_of_lt {first second : List ω} {pulls : ℕ}
    (many : (first.filterMap item?).length < pulls) :
    pulled item? (first ++ second) pulls =
      first ++ pulled item? second (pulls - (first.filterMap item?).length) := by
  induction first generalizing pulls with
  | nil => rfl
  | cons event rest ih =>
    obtain ⟨pulls, rfl⟩ : ∃ n, pulls = n + 1 := ⟨pulls - 1, by omega⟩
    rw [List.cons_append, List.cons_append]
    cases hands : item? event with
    | none =>
      rw [List.filterMap_cons_none hands] at many ⊢
      rw [pulled_cons_of_silent hands, ih many]
    | some item =>
      rw [List.filterMap_cons_some hands, List.length_cons] at many ⊢
      rw [pulled_cons_of_item hands, ih (Nat.lt_of_succ_lt_succ many), Nat.add_sub_add_right]

/-- Past its last item a generator runs to its end. -/
theorem pulled_eq_self {events : List ω} {pulls : ℕ} (many : (events.filterMap item?).length < pulls) :
    pulled item? events pulls = events := by
  have whole : pulled item? (events ++ []) pulls = events ++ pulled item? [] _ := pulled_append_of_lt many
  rwa [List.append_nil, pulled_nil, List.append_nil] at whole

/-- What comes behind the last item is reached by a pull that finds no more items. -/
theorem mem_pulled_of_last {events silent : List ω} {event : ω} (quiet : silent.filterMap item? = [])
    (last : event ∈ silent) (elsewhere : event ∉ events) {pulls : ℕ} :
    event ∈ pulled item? (events ++ silent) pulls ↔ (events.filterMap item?).length < pulls := by
  constructor
  · intro member
    by_contra few
    rw [pulled_append_of_le (Nat.le_of_not_lt few)] at member
    exact elsewhere ((pulled_isPrefix events pulls).subset member)
  · intro many
    rw [pulled_eq_self (by rwa [List.filterMap_append, quiet, List.append_nil])]
    exact List.mem_append_right _ last

end LlmopsGateway.Machine
