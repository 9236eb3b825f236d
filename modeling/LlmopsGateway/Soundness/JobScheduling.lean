import LlmopsGateway.Machine.Run
import LlmopsGateway.Model.BackgroundJobs
import Mathlib.Data.List.Nodup

/-! # When background work is handed over exactly once

What of a task has been scheduled can be read off its phase, except that a refused enqueue of an export
ends the task like an accepted one. So a task loses its export exactly when that enqueue fails after the
one of its trace has been accepted, and nothing is ever scheduled twice.
-/

namespace LlmopsGateway.BackgroundJobs

open Machine

variable {service? : Option BackgroundJobService} {state next : State} {label : Label}

/-- How often some work of a task has been scheduled. -/
def State.count (state : State) (id : ℕ) (work : Work) : ℕ :=
  state.ledger.countP fun scheduled => scheduled.id = id ∧ scheduled.work = work

/-- The work of a task that has ended is scheduled exactly once, and no work more than once. -/
structure EachOnce (state : State) : Prop where
  ended : ∀ id task, state.phases id = .ended task → ∀ work ∈ task.works, state.count id work = 1
  once : ∀ id work, state.count id work ≤ 1

/-- Every state the step leads to has each work scheduled once. -/
def KeepsEachOnce (service? : Option BackgroundJobService) (state : State) (label : Label) : Prop :=
  ∀ next, step service? state label = some next → EachOnce next

/-- The export of a task is accepted once its trace has been. -/
def ExportAccepted (service? : Option BackgroundJobService) (state : State) : Label → Prop
  | .enqueue id accepted => state.phases id = .enqueueExport →
      ∀ service ∈ service?, service.tryEnqueue state accepted = true
  | _ => True

instance (state : State) : (label : Label) → Decidable (ExportAccepted service? state label)
  | .enqueue id _ => inferInstanceAs (Decidable (state.phases id = .enqueueExport → ∀ service ∈ service?, _))
  | .connect | .close | .finalize _ | .scheduleBackfill _ => isTrue trivial

/-- What of a task's work is scheduled by a phase. -/
def Phase.scheduled : Phase → List Work
  | idle | enqueuePersist | enqueueBackfill => []
  | enqueueExport => [.persistTrace]
  | ended task => task.works

/-- The phases tell what has been scheduled. -/
def Accounts (state : State) : Prop := ∀ id work, state.count id work = (state.phases id).scheduled.count work

theorem works_nodup (task : Task) : task.works.Nodup := by
  cases task <;> decide

theorem scheduled_nodup (phase : Phase) : phase.scheduled.Nodup := by
  cases phase with
  | ended task => exact works_nodup task
  | _ => decide

theorem Accounts.eachOnce (accounts : Accounts state) : EachOnce state := by
  constructor
  · intro id task ended work member
    rw [accounts, ended]
    exact List.count_eq_one_of_mem (works_nodup task) member
  · intro id work
    rw [accounts]
    exact List.nodup_iff_count_le_one.mp (scheduled_nodup _) work

theorem accounts_initial : Accounts {} := fun _ _ => rfl

theorem count_schedule (state : State) (id other : ℕ) (work wanted : Work) (destination : Destination) :
    (state.schedule id work destination).count other wanted =
      state.count other wanted + if id = other ∧ work = wanted then 1 else 0 := by
  simp only [State.count, State.schedule, List.countP_cons, decide_eq_true_eq]

@[simp] theorem count_goto (state : State) (id other : ℕ) (phase : Phase) (work : Work) :
    (state.goto id phase).count other work = state.count other work := rfl

/-- A task that goes on has scheduled what its next phase says beyond its present one. -/
theorem Accounts.goto (accounts : Accounts state) {later : State} {id : ℕ} {phase : Phase}
    (phases : later.phases = state.phases)
    (own : ∀ work, later.count id work = phase.scheduled.count work)
    (others : ∀ other work, other ≠ id → later.count other work = state.count other work) :
    Accounts (later.goto id phase) := by
  intro other work
  rw [count_goto]
  by_cases same : other = id
  · subst same
    rw [own, State.phases_goto_self]
  · rw [others other work same, accounts, State.phases_goto_of_ne _ _ same, phases]

theorem Accounts.schedule (accounts : Accounts state) {id : ℕ} {phase : Phase} (work : Work)
    (destination : Destination) (adds : ∀ wanted, phase.scheduled.count wanted =
      (state.phases id).scheduled.count wanted + if work = wanted then 1 else 0) :
    Accounts ((state.schedule id work destination).goto id phase) := by
  refine accounts.goto rfl (fun wanted => ?_) fun other wanted different => ?_
  · rw [count_schedule, accounts, adds]
    simp
  · rw [count_schedule]
    simp [different.symm]

theorem Accounts.flush (accounts : Accounts state) {id : ℕ} (nothing : (state.phases id).scheduled = []) :
    Accounts ((state.flush id).goto id (.ended .finalized)) := by
  refine accounts.goto rfl (fun wanted => ?_) fun other wanted different => ?_
  · rw [State.flush, count_schedule, count_schedule, accounts, nothing]
    cases wanted <;> simp [Phase.scheduled, Task.works]
  · rw [State.flush, count_schedule, count_schedule]
    simp [different.symm]

theorem Accounts.step (accounts : Accounts state) (accepted : ExportAccepted service? state label)
    (stepped : step service? state label = some next) : Accounts next := by
  cases label with
  | connect =>
    obtain ⟨service, -, rfl⟩ := Option.map_eq_some_iff.mp stepped
    exact accounts
  | close =>
    obtain rfl := Option.some.inj stepped
    exact accounts
  | finalize id =>
    simp only [BackgroundJobs.step] at stepped
    split at stepped
    · rename_i idle
      obtain rfl := Option.some.inj stepped
      exact accounts.flush (idle ▸ rfl)
    · rename_i idle
      obtain rfl := Option.some.inj stepped
      refine accounts.goto rfl (fun wanted => ?_) fun _ _ _ => rfl
      rw [accounts, idle]
      rfl
    · contradiction
  | scheduleBackfill id =>
    simp only [BackgroundJobs.step] at stepped
    split at stepped
    · rename_i idle
      obtain rfl := Option.some.inj stepped
      refine accounts.schedule .backfillCache .inProcess fun wanted => ?_
      rw [idle]
      cases wanted <;> rfl
    · rename_i idle
      obtain rfl := Option.some.inj stepped
      refine accounts.goto rfl (fun wanted => ?_) fun _ _ _ => rfl
      rw [accounts, idle]
      rfl
    · contradiction
  | enqueue id outcome =>
    simp only [BackgroundJobs.step] at stepped
    split at stepped
    · rename_i service phase
      obtain rfl := Option.some.inj stepped
      split
      · refine accounts.schedule .persistTrace .pool fun wanted => ?_
        rw [phase]
        cases wanted <;> rfl
      · exact accounts.flush (phase ▸ rfl)
    · rename_i service phase
      obtain rfl := Option.some.inj stepped
      rw [if_pos (accepted phase service rfl)]
      refine accounts.schedule .exportOtelSpans .pool fun wanted => ?_
      rw [phase]
      cases wanted <;> rfl
    · rename_i service phase
      obtain rfl := Option.some.inj stepped
      split
      · refine accounts.schedule .backfillCache .pool fun wanted => ?_
        rw [phase]
        cases wanted <;> rfl
      · refine accounts.schedule .backfillCache .inProcess fun wanted => ?_
        rw [phase]
        cases wanted <;> rfl
    · contradiction

/-- One step: an enqueue that fails after the first one loses the export of its task. -/
theorem Accounts.keepsEachOnce_iff (accounts : Accounts state) (label : Label) :
    KeepsEachOnce service? state label ↔ ExportAccepted service? state label := by
  constructor
  · intro keeps
    cases label with
    | enqueue id outcome =>
      intro phase service given
      by_contra refused
      obtain rfl : service? = some service := given
      have stepped : BackgroundJobs.step (some service) state (.enqueue id outcome) =
          some (state.goto id (.ended .finalized)) := by
        simp only [BackgroundJobs.step, phase, refused, if_false]
      have once :=
        (keeps _ stepped).ended id .finalized (State.phases_goto_self ..) .exportOtelSpans (by decide)
      rw [count_goto, accounts, phase] at once
      contradiction
    | connect | close | finalize | scheduleBackfill => trivial
  · intro accepted next stepped
    exact (accounts.step accepted stepped).eachOnce

/-- In every run: each task that has ended has each of its works accepted by the pool or started in-process
exactly once, and no work is scheduled twice, exactly if no enqueue of an export fails after the one of its
trace has been accepted. -/
theorem run_eachOnce_iff (service? : Option BackgroundJobService) (labels : List Label) :
    Along (step service?) (KeepsEachOnce service?) {} labels ↔
      Along (step service?) (ExportAccepted service?) {} labels :=
  along_congr Accounts (fun _ label accounts _ => accounts.keepsEachOnce_iff label)
    (fun _ label _ accounts _ keeps stepped =>
      accounts.step ((accounts.keepsEachOnce_iff label).mp keeps) stepped)
    accounts_initial (along_true _ labels)

/-- The pool accepts the trace of a request and refuses its export. -/
theorem eachOnce_exportRefused : ¬ Along (step (some {})) (KeepsEachOnce (some {})) {}
    [.connect, .finalize 0, .enqueue 0 true, .enqueue 0 false] := by
  intro along
  have connected := (along_cons_of_step rfl).mp along
  have finalized := (along_cons_of_step rfl).mp connected.2
  have accepted := (along_cons_of_step rfl).mp finalized.2
  have exported := (accepted.2.1 _ rfl).ended 0 .finalized rfl .exportOtelSpans (by decide)
  contradiction

end LlmopsGateway.BackgroundJobs
