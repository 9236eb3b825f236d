import LlmopsGateway.Machine.Logged

/-! # Computations that take notes

A computation logs what it does to others and, in between, notes on its own progress. Without the notes it is a
computation as before, and the notes alone are a list. Both views respect how computations are put together, so
a program with notes is compared to the one without them part by part.
-/

namespace LlmopsGateway.Machine.Logged

variable {ε ω ν α β : Type}

theorem bind_pure_eq (body : Logged ε ω α) : (body >>= fun value => Pure.pure value) = body := by
  obtain ⟨events, outcome⟩ := body
  cases outcome with
  | ok value => rw [bind_ok, pure_eq, List.append_nil]
  | error error => rfl

/-- The computation without its notes. -/
def erase (body : Logged ε (ω ⊕ ν) α) : Logged ε ω α := ⟨body.events.filterMap Sum.getLeft?, body.outcome⟩

/-- The notes, in order. -/
def notes (body : Logged ε (ω ⊕ ν) α) : List ν := body.events.filterMap Sum.getRight?

/-- A computation that takes no notes. -/
def lift (body : Logged ε ω α) : Logged ε (ω ⊕ ν) α := ⟨body.events.map .inl, body.outcome⟩

def note (item : ν) : Logged ε (ω ⊕ ν) Unit := log (.inr item)

/-- `with`: one note before the body and one after it, however it ends. -/
def bracket (entered left : ν) (body : Logged ε (ω ⊕ ν) α) : Logged ε (ω ⊕ ν) α :=
  ⟨.inr entered :: (body.events ++ [.inr left]), body.outcome⟩

section erase

variable (body : Logged ε (ω ⊕ ν) α)

@[simp] theorem erase_pure (value : α) : erase (Pure.pure value : Logged ε (ω ⊕ ν) α) = Pure.pure value := rfl

@[simp] theorem erase_raise (error : ε) : erase (raise error : Logged ε (ω ⊕ ν) α) = raise error := rfl

@[simp] theorem erase_note (item : ν) : erase (note item : Logged ε (ω ⊕ ν) Unit) = Pure.pure () := rfl

@[simp] theorem erase_lift (plain : Logged ε ω α) : erase (lift plain : Logged ε (ω ⊕ ν) α) = plain := by
  have kept : (plain.events.map Sum.inl).filterMap (Sum.getLeft? : ω ⊕ ν → Option ω) = plain.events := by
    rw [List.filterMap_map]
    exact List.filterMap_some ..
  exact Logged.ext kept rfl

@[simp] theorem erase_bracket (entered left : ν) : erase (bracket entered left body) = erase body := by
  refine Logged.ext ?_ rfl
  rw [erase, bracket, List.filterMap_cons_none rfl, List.filterMap_append]
  exact List.append_nil _

theorem erase_bind (next : α → Logged ε (ω ⊕ ν) β) :
    erase (body >>= next) = erase body >>= fun value => erase (next value) := by
  obtain ⟨events, outcome⟩ := body
  cases outcome with
  | ok value => exact Logged.ext List.filterMap_append rfl
  | error error => rfl

theorem erase_ensuring (cleanup : List ω) :
    erase (body.ensuring (cleanup.map .inl)) = (erase body).ensuring cleanup := by
  have kept : (cleanup.map Sum.inl).filterMap (Sum.getLeft? : ω ⊕ ν → Option ω) = cleanup := by
    rw [List.filterMap_map]
    exact List.filterMap_some ..
  refine Logged.ext ?_ rfl
  rw [erase, ensuring, List.filterMap_append, kept]
  rfl

end erase

section notes

variable (body : Logged ε (ω ⊕ ν) α)

@[simp] theorem notes_pure (value : α) : notes (Pure.pure value : Logged ε (ω ⊕ ν) α) = [] := rfl

@[simp] theorem notes_raise (error : ε) : notes (raise error : Logged ε (ω ⊕ ν) α) = [] := rfl

@[simp] theorem notes_note (item : ν) : notes (note item : Logged ε (ω ⊕ ν) Unit) = [item] := rfl

@[simp] theorem notes_lift (plain : Logged ε ω α) : notes (lift plain : Logged ε (ω ⊕ ν) α) = [] := by
  rw [notes, lift, List.filterMap_map]
  exact List.filterMap_eq_nil_iff.mpr fun _ _ => rfl

@[simp] theorem notes_bracket (entered left : ν) :
    notes (bracket entered left body) = entered :: (notes body ++ [left]) := by
  simp [notes, bracket]

@[simp] theorem notes_ensuring (cleanup : List ω) : notes (body.ensuring (cleanup.map .inl)) = notes body := by
  have none : (cleanup.map Sum.inl).filterMap (Sum.getRight? : ω ⊕ ν → Option ν) = [] := by
    rw [List.filterMap_map]
    exact List.filterMap_eq_nil_iff.mpr fun _ _ => rfl
  rw [notes, ensuring, List.filterMap_append, none, List.append_nil]
  rfl

theorem notes_bind_of_ok {value : α} (returned : body.outcome = .ok value) (next : α → Logged ε (ω ⊕ ν) β) :
    notes (body >>= next) = notes body ++ notes (next value) := by
  obtain ⟨events, outcome⟩ := body
  obtain rfl := returned
  exact List.filterMap_append

theorem notes_bind_of_error {error : ε} (raised : body.outcome = .error error) (next : α → Logged ε (ω ⊕ ν) β) :
    notes (body >>= next) = notes body := by
  obtain ⟨events, outcome⟩ := body
  obtain rfl := raised
  rfl

end notes

section taking

variable {holds : ν → Prop} {body : Logged ε (ω ⊕ ν) α}

/-- What is true of all notes, whichever way the computation goes. -/
def Takes (holds : ν → Prop) (body : Logged ε (ω ⊕ ν) α) : Prop := ∀ item ∈ notes body, holds item

theorem takes_pure (value : α) : Takes holds (Pure.pure value : Logged ε (ω ⊕ ν) α) :=
  fun _ member => absurd member List.not_mem_nil

theorem takes_lift (plain : Logged ε ω α) : Takes holds (lift plain : Logged ε (ω ⊕ ν) α) := by
  rw [Takes, notes_lift]
  exact List.forall_mem_nil _

theorem takes_note {item : ν} (here : holds item) : Takes holds (note item : Logged ε (ω ⊕ ν) Unit) :=
  List.forall_mem_singleton.mpr here

theorem Takes.bracket (takes : Takes holds body) {entered left : ν} (first : holds entered)
    (last : holds left) :
    Takes holds (bracket entered left body) := by
  rw [Takes, notes_bracket, List.forall_mem_cons, List.forall_mem_append]
  exact ⟨first, takes, List.forall_mem_singleton.mpr last⟩

theorem Takes.ensuring (takes : Takes holds body) (cleanup : List ω) :
    Takes holds (body.ensuring (cleanup.map .inl)) := by
  rw [Takes, notes_ensuring]
  exact takes

theorem Takes.bind (takes : Takes holds body) {next : α → Logged ε (ω ⊕ ν) β}
    (later : ∀ value, Takes holds (next value)) : Takes holds (body >>= next) := by
  cases ended : body.outcome with
  | ok value =>
    rw [Takes, notes_bind_of_ok body ended, List.forall_mem_append]
    exact ⟨takes, later value⟩
  | error error =>
    rw [Takes, notes_bind_of_error body ended]
    exact takes

end taking

section accounts

/-- The notes of a computation and the event that closes its log, if one does. What `closing` says of an
event is true of no other one. -/
def Accounts (closing : ω → Prop) (body : Logged ε (ω ⊕ ν) α) (items : List ν) (ending : Option ω) : Prop :=
  ∃ front : List (ω ⊕ ν), body.events = front ++ ending.toList.map .inl ∧
    front.filterMap Sum.getRight? = items ∧ ∀ event, .inl event ∈ front → ¬ closing event

variable {closing : ω → Prop} {body : Logged ε (ω ⊕ ν) α} {items more : List ν} {ending : Option ω}

theorem accounts_pure (value : α) : Accounts closing (Pure.pure value : Logged ε (ω ⊕ ν) α) [] none :=
  ⟨[], rfl, rfl, fun _ member => absurd member List.not_mem_nil⟩

theorem accounts_note (item : ν) : Accounts closing (note item : Logged ε (ω ⊕ ν) Unit) [item] none :=
  ⟨[.inr item], rfl, rfl, fun _ member => nomatch List.mem_singleton.mp member⟩

theorem accounts_lift {plain : Logged ε ω α} (front : List ω) (logged : plain.events = front ++ ending.toList)
    (quiet : ∀ event ∈ front, ¬ closing event) :
    Accounts closing (lift plain : Logged ε (ω ⊕ ν) α) [] ending := by
  refine ⟨front.map .inl, ?_, ?_, fun event member => ?_⟩
  · rw [lift, logged, List.map_append]
  · exact notes_lift (⟨front, plain.outcome⟩ : Logged ε ω α)
  · obtain ⟨_, inside, same⟩ := List.mem_map.mp member
    exact quiet event (Sum.inl.inj same ▸ inside)

theorem Accounts.bracket (accounts : Accounts closing body items none) (entered left : ν) :
    Accounts closing (bracket entered left body) (entered :: (items ++ [left])) none := by
  obtain ⟨front, logged, rfl, others⟩ := accounts
  rw [Option.toList_none, List.map_nil, List.append_nil] at logged
  refine ⟨.inr entered :: (front ++ [.inr left]), ?_, ?_, fun event member => ?_⟩
  · rw [Logged.bracket, logged]
    exact (List.append_nil _).symm
  · refine congrArg (entered :: ·) ?_
    exact List.filterMap_append
  · refine others event ?_
    rcases List.mem_cons.mp member with same | member
    · cases same
    · rcases List.mem_append.mp member with inside | last
      · exact inside
      · exact nomatch List.mem_singleton.mp last

theorem Accounts.ensuring (accounts : Accounts closing body items none) {cleanup : List ω}
    (quiet : ∀ event ∈ cleanup, ¬ closing event) :
    Accounts closing (body.ensuring (cleanup.map .inl)) items none := by
  obtain ⟨front, logged, rfl, others⟩ := accounts
  rw [Option.toList_none, List.map_nil, List.append_nil] at logged
  refine ⟨front ++ cleanup.map .inl, ?_, ?_, fun event member => ?_⟩
  · rw [Logged.ensuring, logged]
    exact (List.append_nil _).symm
  · exact notes_ensuring (⟨front, body.outcome⟩ : Logged ε (ω ⊕ ν) α) cleanup
  · rcases List.mem_append.mp member with before | after
    · exact others event before
    · obtain ⟨_, inside, same⟩ := List.mem_map.mp after
      exact quiet event (Sum.inl.inj same ▸ inside)

theorem Accounts.bind (accounts : Accounts closing body items none) {value : α}
    (returned : body.outcome = .ok value)
    {next : α → Logged ε (ω ⊕ ν) β} (later : Accounts closing (next value) more ending) :
    Accounts closing (body >>= next) (items ++ more) ending := by
  obtain ⟨events, outcome⟩ := body
  obtain rfl := returned
  obtain ⟨front, logged, rfl, others⟩ := accounts
  obtain ⟨back, followed, rfl, others'⟩ := later
  rw [Option.toList_none, List.map_nil, List.append_nil] at logged
  refine ⟨front ++ back, ?_, List.filterMap_append, fun event member => ?_⟩
  · rw [bind_ok, followed, ← logged, List.append_assoc]
  · exact (List.mem_append.mp member).elim (others event) (others' event)

/-- What follows an exception leaves no trace. -/
theorem Accounts.bind_of_error (accounts : Accounts closing body items none) {error : ε}
    (raised : body.outcome = .error error) (next : α → Logged ε (ω ⊕ ν) β) :
    Accounts closing (body >>= next) items none := by
  obtain ⟨events, outcome⟩ := body
  obtain rfl := raised
  exact accounts

/-- A result that is dropped leaves no trace. -/
theorem Accounts.discard (accounts : Accounts closing body items ending) :
    Accounts closing (body >>= fun _ => (Pure.pure () : Logged ε (ω ⊕ ν) Unit)) items ending := by
  obtain ⟨front, logged, told⟩ := accounts
  exact ⟨front, (events_discard body).trans logged, told⟩

theorem Accounts.notes_eq (accounts : Accounts closing body items ending) : notes body = items := by
  obtain ⟨front, logged, rfl, -⟩ := accounts
  have none : (ending.toList.map Sum.inl).filterMap (Sum.getRight? : ω ⊕ ν → Option ν) = [] := by
    rw [List.filterMap_map]
    exact List.filterMap_eq_nil_iff.mpr fun _ _ => rfl
  rw [notes, logged, List.filterMap_append, none, List.append_nil]

/-- An event that closes the log is its last one, and all notes come before it. -/
theorem Accounts.closed (accounts : Accounts closing body items ending) {front back : List (ω ⊕ ν)} {event : ω}
    (logged : body.events = front ++ .inl event :: back) (closes : closing event) :
    back = [] ∧ ending = some event := by
  obtain ⟨before, same, -, others⟩ := accounts
  rw [logged] at same
  rcases List.append_eq_append_iff.mp same with ⟨between, rfl, rest⟩ | ⟨between, rfl, rest⟩
  · cases between with
    | cons first between =>
      obtain ⟨rfl, -⟩ := List.cons.inj rest
      exact absurd closes (others event (List.mem_append_right _ (List.mem_cons_self ..)))
    | nil =>
      cases ending with
      | none => cases rest
      | some last =>
        obtain ⟨head, rfl⟩ := List.cons.inj rest
        obtain rfl := Sum.inl.inj head
        exact ⟨rfl, rfl⟩
  · cases ending with
    | none =>
      exact absurd rest.symm (List.append_ne_nil_of_right_ne_nil _ (List.cons_ne_nil _ _))
    | some last =>
      cases between with
      | nil =>
        obtain ⟨head, rfl⟩ := List.cons.inj rest
        obtain rfl := Sum.inl.inj head
        exact ⟨rfl, rfl⟩
      | cons first between =>
        have tail := (List.cons.inj rest).2
        exact absurd tail.symm (List.append_ne_nil_of_right_ne_nil _ (List.cons_ne_nil _ _))

end accounts

end LlmopsGateway.Machine.Logged
