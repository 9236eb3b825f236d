import LlmopsGateway.Machine.Logged

/-! # Two computations before one observer

An observer sees some of the events of a computation, and may see the same in events of different kinds. Two
computations match if it sees no difference and what they raise corresponds. One that raises an exception of its
own, where the other returns, is cut: the observer misses the end.
-/

namespace LlmopsGateway.Machine.Logged

variable {ε ε' ω ω' ι α β : Type} {view : ω → Option ι} {view' : ω' → Option ι} {rename : ε' → ε}

structure Matches (view : ω → Option ι) (view' : ω' → Option ι) (rename : ε' → ε) (first : Logged ε ω α)
    (second : Logged ε' ω' α) : Prop where
  observed : first.events.filterMap view = second.events.filterMap view'
  outcome : first.outcome = second.outcome.mapError rename

structure Cut (view : ω → Option ι) (view' : ω' → Option ι) (missed : List ι) (failure : ε)
    (first : Logged ε ω α)
    (second : Logged ε' ω' α) : Prop where
  observed : first.events.filterMap view ++ missed = second.events.filterMap view'
  raised : first.outcome = .error failure
  other : ∃ value, second.outcome = .ok value

variable {first : Logged ε ω α} {second : Logged ε' ω' α} {next : α → Logged ε ω β} {next' : α → Logged ε' ω' β}

theorem Matches.pure (value : α) :
    Matches view view' rename (Pure.pure value : Logged ε ω α) (Pure.pure value : Logged ε' ω' α) := ⟨rfl, rfl⟩

theorem Matches.bind (same : Matches view view' rename first second)
    (later : ∀ value, second.outcome = .ok value → Matches view view' rename (next value) (next' value)) :
    Matches view view' rename (first >>= next) (second >>= next') := by
  obtain ⟨events, outcome⟩ := first
  obtain ⟨events', outcome'⟩ := second
  obtain ⟨observed, rfl⟩ := same
  cases outcome' with
  | error error => exact ⟨observed, rfl⟩
  | ok value =>
    obtain ⟨observedLater, outcomeLater⟩ := later value rfl
    refine ⟨?_, outcomeLater⟩
    change (events ++ (next value).events).filterMap view = (events' ++ (next' value).events).filterMap view'
    rw [List.filterMap_append, List.filterMap_append, observedLater]
    exact congrArg (· ++ _) observed

/-- The rest may be cut. -/
theorem Matches.bind_cut {value : α} {missed : List ι} {failure : ε}
    (same : Matches view view' rename first second)
    (returned : second.outcome = .ok value) (later : Cut view view' missed failure (next value) (next' value)) :
    Cut view view' missed failure (first >>= next) (second >>= next') := by
  obtain ⟨events, outcome⟩ := first
  obtain ⟨events', outcome'⟩ := second
  obtain ⟨observed, rfl⟩ := same
  obtain rfl := returned
  obtain ⟨observedLater, raised, other⟩ := later
  refine ⟨?_, raised, other⟩
  change (events ++ (next value).events).filterMap view ++ missed =
    (events' ++ (next' value).events).filterMap view'
  rw [List.filterMap_append, List.filterMap_append, List.append_assoc, observedLater]
  exact congrArg (· ++ _) observed

end LlmopsGateway.Machine.Logged
