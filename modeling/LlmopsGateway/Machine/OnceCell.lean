import LlmopsGateway.Machine.Amortized
import Mathlib.Logic.Function.Basic

/-! # Cells that are filled once

Any number of calls want the value of a cell that is empty at first. A call that finds it empty waits for the
lock, looks once more, and fills the cell with the result of a computation, which may fail; a call may be
abandoned while it waits or computes. One call computes at a time, a full cell is never filled again, and
nothing is computed after that.
-/

namespace LlmopsGateway.Machine.OnceCell

inductive Call
  | absent
  | waiting
  | running
  | returned
  | raised
deriving DecidableEq, Repr

structure State (ι α : Type) where
  cell : Option α := none
  holder : Option ι := none
  call : ι → Call := fun _ => .absent

inductive Label (ι α : Type)
  | enter (caller : ι)
  | acquire (caller : ι)
  | finish (caller : ι) (result : Option α)
  | cancel (caller : ι)

variable {ι α : Type} [DecidableEq ι]

namespace State

variable (state : State ι α)

def goto (caller : ι) (call : Call) : State ι α := { state with call := Function.update state.call caller call }

variable {state} {caller other : ι} {call : Call}

@[simp] theorem call_goto_self : (state.goto caller call).call caller = call := Function.update_self ..

@[simp] theorem call_goto_of_ne (apart : other ≠ caller) :
    (state.goto caller call).call other = state.call other :=
  Function.update_of_ne apart ..

@[simp] theorem cell_goto : (state.goto caller call).cell = state.cell := rfl

@[simp] theorem holder_goto : (state.goto caller call).holder = state.holder := rfl

end State

/-- A call waits for the lock unless the cell is full, and computes if it still is empty then. -/
def step (state : State ι α) : Label ι α → Option (State ι α)
  | .enter caller =>
    if state.call caller = .absent then
      some (state.goto caller (if state.cell.isSome then .returned else .waiting))
    else none
  | .acquire caller =>
    if state.call caller = .waiting ∧ state.holder = none then
      if state.cell.isSome then some (state.goto caller .returned)
      else some ({ state with holder := some caller }.goto caller .running)
    else none
  | .finish caller (some value) =>
    if state.call caller = .running then
      some ({ state with cell := some value, holder := none }.goto caller .returned)
    else none
  | .finish caller none =>
    if state.call caller = .running then some ({ state with holder := none }.goto caller .raised) else none
  | .cancel caller =>
    match state.call caller with
    | .waiting => some (state.goto caller .raised)
    | .running => some ({ state with holder := none }.goto caller .raised)
    | _ => none

variable {state next final : State ι α} {label : Label ι α} {labels : List (Label ι α)}

/-- What a step comes to. -/
inductive Advance (state : State ι α) : Label ι α → State ι α → Prop
  | found (caller : ι) (absent : state.call caller = .absent) (full : state.cell ≠ none) :
    Advance state (.enter caller) (state.goto caller .returned)
  | waits (caller : ι) (absent : state.call caller = .absent) (empty : state.cell = none) :
    Advance state (.enter caller) (state.goto caller .waiting)
  | foundLate (caller : ι) (waiting : state.call caller = .waiting) (free : state.holder = none)
    (full : state.cell ≠ none) : Advance state (.acquire caller) (state.goto caller .returned)
  | begins (caller : ι) (waiting : state.call caller = .waiting) (free : state.holder = none)
    (empty : state.cell = none) :
    Advance state (.acquire caller) ({ state with holder := some caller }.goto caller .running)
  | fills (caller : ι) (value : α) (running : state.call caller = .running) :
    Advance state (.finish caller (some value))
      ({ state with cell := some value, holder := none }.goto caller .returned)
  | fails (caller : ι) (running : state.call caller = .running) :
    Advance state (.finish caller none) ({ state with holder := none }.goto caller .raised)
  | leaves (caller : ι) (waiting : state.call caller = .waiting) :
    Advance state (.cancel caller) (state.goto caller .raised)
  | stops (caller : ι) (running : state.call caller = .running) :
    Advance state (.cancel caller) ({ state with holder := none }.goto caller .raised)

theorem advance (stepped : step state label = some next) : Advance state label next := by
  cases label with
  | enter caller =>
    rw [step] at stepped
    split_ifs at stepped with absent full
    · obtain rfl := Option.some.inj stepped
      exact .found caller absent (Option.isSome_iff_ne_none.mp full)
    · obtain rfl := Option.some.inj stepped
      exact .waits caller absent (Option.not_isSome_iff_eq_none.mp full)
  | acquire caller =>
    rw [step] at stepped
    split_ifs at stepped with waiting full
    · obtain rfl := Option.some.inj stepped
      exact .foundLate caller waiting.1 waiting.2 (Option.isSome_iff_ne_none.mp full)
    · obtain rfl := Option.some.inj stepped
      exact .begins caller waiting.1 waiting.2 (Option.not_isSome_iff_eq_none.mp full)
  | finish caller result =>
    cases result with
    | some value =>
      rw [step] at stepped
      split_ifs at stepped with running
      obtain rfl := Option.some.inj stepped
      exact .fills caller value running
    | none =>
      rw [step] at stepped
      split_ifs at stepped with running
      obtain rfl := Option.some.inj stepped
      exact .fails caller running
  | cancel caller =>
    rw [step] at stepped
    cases phase : state.call caller with
    | waiting =>
      rw [phase] at stepped
      obtain rfl := Option.some.inj stepped
      exact .leaves caller phase
    | running =>
      rw [phase] at stepped
      obtain rfl := Option.some.inj stepped
      exact .stops caller phase
    | _ =>
      rw [phase] at stepped
      cases stepped

/-- The lock is held by the call that computes, the cell is empty meanwhile, and nobody has returned from an
empty cell. -/
structure Sound (state : State ι α) : Prop where
  locked : ∀ caller, state.holder = some caller ↔ state.call caller = .running
  empty : state.holder ≠ none → state.cell = none
  served : ∀ caller, state.call caller = .returned → state.cell ≠ none

omit [DecidableEq ι] in
theorem sound_init : Sound ({} : State ι α) where
  locked _ := iff_of_false nofun nofun
  empty held := absurd rfl held
  served _ returned := nomatch returned

/-- A call that does not compute goes on without the lock. -/
theorem Sound.goto (sound : Sound state) {caller : ι} (call : Call) (before : state.call caller ≠ .running)
    (after : call ≠ .running) (full : call = .returned → state.cell ≠ none) :
    Sound (state.goto caller call) where
  locked other := by
    rw [State.holder_goto]
    rcases eq_or_ne other caller with rfl | apart
    · rw [State.call_goto_self]
      exact iff_of_false (fun held => before ((sound.locked other).mp held)) after
    · rw [State.call_goto_of_ne apart]
      exact sound.locked other
  empty := sound.empty
  served other returned := by
    rcases eq_or_ne other caller with rfl | apart
    · exact full (State.call_goto_self.symm.trans returned)
    · exact sound.served other ((State.call_goto_of_ne apart).symm.trans returned)

/-- The call that computes releases the lock; the cell was empty, so nobody else has returned. -/
theorem Sound.release (sound : Sound state) {caller : ι} (running : state.call caller = .running) (call : Call)
    (after : call ≠ .running) (cell : Option α) (full : call = .returned → cell ≠ none) :
    Sound ({ state with cell := cell, holder := none }.goto caller call) := by
  have held := (sound.locked caller).mpr running
  have empty : state.cell = none := sound.empty (held ▸ Option.some_ne_none caller)
  refine ⟨fun other => iff_of_false nofun fun alsoRunning => ?_, fun free => absurd rfl free,
    fun other returned => ?_⟩
  · rcases eq_or_ne other caller with rfl | apart
    · exact after (State.call_goto_self.symm.trans alsoRunning)
    · have same :=
        held.symm.trans ((sound.locked other).mpr ((State.call_goto_of_ne apart).symm.trans alsoRunning))
      exact apart (Option.some.inj same).symm
  · rcases eq_or_ne other caller with rfl | apart
    · exact full (State.call_goto_self.symm.trans returned)
    · exact absurd empty (sound.served other ((State.call_goto_of_ne apart).symm.trans returned))

theorem Sound.begin (sound : Sound state) {caller : ι} (free : state.holder = none)
    (empty : state.cell = none) :
    Sound ({ state with holder := some caller }.goto caller .running) := by
  refine ⟨fun other => ?_, fun _ => empty, fun other returned => ?_⟩
  · rcases eq_or_ne other caller with rfl | apart
    · exact iff_of_true rfl State.call_goto_self
    · refine iff_of_false (fun held => apart (Option.some.inj held).symm) fun alsoRunning => ?_
      have held := (sound.locked other).mpr ((State.call_goto_of_ne apart).symm.trans alsoRunning)
      exact absurd (held.symm.trans free) nofun
  · rcases eq_or_ne other caller with rfl | apart
    · exact nomatch State.call_goto_self.symm.trans returned
    · exact absurd empty (sound.served other ((State.call_goto_of_ne apart).symm.trans returned))

theorem Sound.step (sound : Sound state) (stepped : step state label = some next) : Sound next := by
  cases advance stepped with
  | found caller absent full => exact sound.goto .returned (by simp [absent]) (by decide) fun _ => full
  | waits caller absent => exact sound.goto .waiting (by simp [absent]) (by decide) nofun
  | foundLate caller waiting free full =>
    exact sound.goto .returned (by simp [waiting]) (by decide) fun _ => full
  | begins caller waiting free empty => exact sound.begin free empty
  | fills caller value running =>
    exact sound.release running .returned (by decide) (some value) fun _ => Option.some_ne_none value
  | fails caller running => exact sound.release running .raised (by decide) state.cell nofun
  | leaves caller waiting => exact sound.goto .raised (by simp [waiting]) (by decide) nofun
  | stops caller running => exact sound.release running .raised (by decide) state.cell nofun

/-- A full cell keeps its value. -/
theorem Sound.cell_step (sound : Sound state) (stepped : OnceCell.step state label = some next)
    (full : state.cell ≠ none) : next.cell = state.cell := by
  cases advance stepped with
  | fills caller value running =>
    have held := (sound.locked caller).mpr running
    exact absurd (sound.empty (held ▸ Option.some_ne_none caller)) full
  | _ => rfl

theorem sound_of_run (ran : run? step {} labels = some final) : Sound final :=
  reachable_invariant Sound (fun _ _ _ sound stepped => sound.step stepped) sound_init ran

/-- Full once, full for good. -/
theorem Sound.cell_of_run (sound : Sound state) (full : state.cell ≠ none)
    (ran : run? OnceCell.step state labels = some final) : final.cell = state.cell := by
  have kept := reachable_invariant (fun later => Sound later ∧ later.cell = state.cell)
    (fun later label next holds stepped => ⟨holds.1.step stepped,
      (holds.1.cell_step stepped (holds.2 ▸ full)).trans holds.2⟩) ⟨sound, rfl⟩ ran
  exact kept.2

section cost

/-- One for each computation that begins. -/
def beginning (state : State ι α) : Label ι α → ℕ
  | .acquire caller =>
    if state.call caller = .waiting ∧ state.holder = none ∧ state.cell.isNone then 1 else 0
  | _ => 0

/-- One for each computation that fails, or whose call is abandoned. -/
def lost (state : State ι α) : Label ι α → ℕ
  | .finish _ none => 1
  | .cancel caller => if state.call caller = .running then 1 else 0
  | _ => 0

/-- A computation may begin. -/
def idle (state : State ι α) : ℕ := if state.holder.isNone && state.cell.isNone then 1 else 0

theorem beginning_pays (sound : Sound state) (stepped : OnceCell.step state label = some next) :
    beginning state label + idle next ≤ lost state label + idle state := by
  cases advance stepped with
  | found caller absent full => simp [beginning, idle, lost]
  | waits caller absent empty => simp [beginning, idle, lost]
  | foundLate caller waiting free full =>
    obtain ⟨value, cell⟩ := Option.ne_none_iff_exists'.mp full
    simp [beginning, idle, lost, cell]
  | begins caller waiting free empty => simp [beginning, idle, lost, waiting, free, empty]
  | fills caller value running => simp [beginning, idle]
  | fails caller running =>
    have held := (sound.locked caller).mpr running
    have empty := sound.empty (held ▸ Option.some_ne_none caller)
    simp [beginning, idle, lost, held, empty]
  | leaves caller waiting => simp [beginning, idle, lost]
  | stops caller running =>
    have held := (sound.locked caller).mpr running
    have empty := sound.empty (held ▸ Option.some_ne_none caller)
    simp [beginning, idle, lost, running, held, empty]

/-- A computation begins at most once, and again for each one that was lost. -/
theorem beginnings_le (ran : run? OnceCell.step {} labels = some final) :
    total OnceCell.step beginning ({} : State ι α) labels ≤ 1 + total OnceCell.step lost {} labels := by
  have paid : total OnceCell.step beginning {} labels + idle final ≤
      total OnceCell.step lost {} labels + idle {} :=
    total_le_of_potential Sound idle beginning lost (fun _ _ _ sound stepped => sound.step stepped)
      (fun _ _ _ _ sound stepped => beginning_pays sound stepped) sound_init ran
  have one : idle ({} : State ι α) = 1 := rfl
  omega

/-- Once the cell is full no computation begins. -/
theorem Sound.beginnings_eq_zero (sound : Sound state) (full : state.cell ≠ none) (labels : List (Label ι α)) :
    total OnceCell.step beginning state labels = 0 := by
  refine total_eq_zero (along_of_invariant (fun later => Sound later ∧
    later.cell ≠ none) ?_ ?_ ⟨sound, full⟩ labels)
  · rintro later label ⟨-, full⟩
    obtain ⟨value, cell⟩ := Option.ne_none_iff_exists'.mp full
    cases label <;> simp [beginning, cell]
  · rintro later label next ⟨sound, full⟩ stepped
    exact ⟨sound.step stepped, (sound.cell_step stepped full).symm ▸ full⟩

end cost

end LlmopsGateway.Machine.OnceCell
