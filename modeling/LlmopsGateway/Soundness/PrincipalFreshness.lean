import LlmopsGateway.Machine.Staleness
import LlmopsGateway.Model.Auth
import LlmopsGateway.Soundness.Revocation

/-! # How long a principal outlives its row

A principal that `authenticate` returns was the row's at some moment of the run: at the read of the call itself,
or at the read behind the cache entry it found. So whatever is changed in the tables, a revoked key, a suspended
tenant or scopes taken away, is noticed by every call that begins a lifetime of entries later, and the time a
call took between its read and its write.
-/

namespace LlmopsGateway.Auth.Rows

open Machine

variable {sha256 : String → String} {settings : Settings} {delay : ℕ} {initial state next : State}
  {labels : List Label}

/-- At this time of the run the row of the digest stood for the principal. -/
def WasActive (sha256 : String → String) (settings : Settings) (initial : State) (labels : List Label)
    (keyHash : String) (principal : AuthenticatedPrincipal) (time : ℕ) : Prop :=
  Once (step sha256 settings) initial labels fun state =>
    state.auth.clock = time ∧ state.auth.loadFromDatabase keyHash = some principal

/-- A call writes to the cache what it has read at most `delay` before. -/
def PromptSets (delay : ℕ) (state : State) : Label → Prop
  | .auth (.set id) => state.auth.clock ≤ state.loadedAt id + delay
  | _ => True

instance (delay : ℕ) (state : State) (label : Label) : Decidable (PromptSets delay state label) :=
  match label with
  | .auth (.set id) => inferInstanceAs (Decidable (state.auth.clock ≤ state.loadedAt id + delay))
  | .auth (.tick _) | .auth (.authenticate ..) | .auth (.get _) | .auth (.load _) | .auth (.revoke _)
  | .auth .delete | .auth .commit | .change .. => isTrue trivial

/-- How long an entry may be older than its row. -/
def maxAge (settings : Settings) (delay : ℕ) : ℕ := settings.cacheTtlMs + delay

/-- A call has its principal from a time when the row stood for it. -/
def CallBacked (sha256 : String → String) (settings : Settings) (age : ℕ) (initial : State)
    (labels : List Label)
    (clock : ℕ) (started : Option (String × ℕ)) (loadedAt : ℕ) : Call → Prop
  | .idle | .returned none => True
  | .get keyHash | .load keyHash => ∃ startedAt, started = some (keyHash, startedAt) ∧ startedAt ≤ clock
  | .set keyHash principal => ∃ startedAt, started = some (keyHash, startedAt) ∧ startedAt ≤ loadedAt ∧
      WasActive sha256 settings initial labels keyHash principal loadedAt
  | .returned (some principal) => ∃ keyHash startedAt time, started = some (keyHash, startedAt) ∧
      startedAt ≤ time + age ∧ WasActive sha256 settings initial labels keyHash principal time

structure RowsBacked (sha256 : String → String) (settings : Settings) (age : ℕ) (initial : State)
    (labels : List Label) (state : State) : Prop where
  entries : Backed CacheEntry.deadline
    (fun keyHash entry time => WasActive sha256 settings initial labels keyHash entry.principal time) age
    state.auth.redis
  alive : ∀ keyHash entry, state.auth.redis keyHash = some entry → state.auth.clock < entry.deadline
  calls : ∀ id, CallBacked sha256 settings age initial labels state.auth.clock (state.started id)
    (state.loadedAt id) (state.auth.calls id)

section keeping

variable {age : ℕ}

theorem WasActive.later {keyHash : String} {principal : AuthenticatedPrincipal} {time : ℕ}
    (was : WasActive sha256 settings initial labels keyHash principal time) (more : List Label) :
    WasActive sha256 settings initial (labels ++ more) keyHash principal time :=
  Once.later was more

theorem CallBacked.later {clock later : ℕ} {started : Option (String × ℕ)} {loadedAt : ℕ} {call : Call}
    (ordered : clock ≤ later)
    (backed : CallBacked sha256 settings age initial labels clock started loadedAt call) (more : List Label) :
    CallBacked sha256 settings age initial (labels ++ more) later started loadedAt call := by
  cases call with
  | idle => trivial
  | get keyHash | load keyHash =>
    obtain ⟨startedAt, begun, past⟩ := backed
    exact ⟨startedAt, begun, past.trans ordered⟩
  | set keyHash principal =>
    obtain ⟨startedAt, begun, past, was⟩ := backed
    exact ⟨startedAt, begun, past, was.later more⟩
  | returned found =>
    cases found with
    | none => trivial
    | some principal =>
      obtain ⟨keyHash, startedAt, time, begun, recent, was⟩ := backed
      exact ⟨keyHash, startedAt, time, begun, recent, was.later more⟩

/-- More labels change nothing. -/
theorem RowsBacked.later (backed : RowsBacked sha256 settings age initial labels state) (label : Label) :
    RowsBacked sha256 settings age initial (labels ++ [label]) state :=
  ⟨backed.entries.imp fun _ _ _ was => was.later [label], backed.alive,
    fun id => (backed.calls id).later le_rfl [label]⟩

/-- A call moves on, with its history. -/
theorem RowsBacked.move (backed : RowsBacked sha256 settings age initial labels state) {id : ℕ} {call : Call}
    (entries : Backed CacheEntry.deadline
      (fun keyHash entry time => WasActive sha256 settings initial labels keyHash entry.principal time) age
      next.auth.redis)
    (alive : ∀ keyHash entry, next.auth.redis keyHash = some entry → next.auth.clock < entry.deadline)
    (clock : next.auth.clock = state.auth.clock)
    (calls : next.auth.calls = Function.update state.auth.calls id call)
    (started : ∀ other, other ≠ id → next.started other = state.started other)
    (loadedAt : ∀ other, other ≠ id → next.loadedAt other = state.loadedAt other)
    (fits : CallBacked sha256 settings age initial labels state.auth.clock (next.started id)
      (next.loadedAt id) call) :
    RowsBacked sha256 settings age initial labels next := by
  refine ⟨entries, alive, fun other => ?_⟩
  rw [clock, calls]
  by_cases same : other = id
  · subst same
    rw [Function.update_self]
    exact fits
  · rw [Function.update_of_ne same, started other same, loadedAt other same]
    exact backed.calls other

theorem RowsBacked.step (ran : run? (Rows.step sha256 settings) initial labels = some state)
    (backed : RowsBacked sha256 settings (maxAge settings delay) initial labels state) {label : Label}
    (prompt : PromptSets delay state label) (stepped : Rows.step sha256 settings state label = some next) :
    RowsBacked sha256 settings (maxAge settings delay) initial (labels ++ [label]) next := by
  have before := backed.later label
  cases label with
  | change keyHash record =>
    obtain rfl := Option.some.inj stepped
    exact ⟨before.entries, before.alive, before.calls⟩
  | auth label =>
    obtain ⟨auth, moved, rfl⟩ := Option.map_eq_some_iff.mp stepped
    cases label with
    | tick ms =>
      obtain rfl := Option.some.inj moved
      refine ⟨before.entries.subset ?_, fun keyHash entry present => ?_, fun id => ?_⟩
      · exact fun keyHash entry present => (Option.filter_eq_some_iff.mp present).1
      · exact of_decide_eq_true (Option.filter_eq_some_iff.mp present).2
      · exact (backed.calls id).later (Nat.le_add_right ..) _
    | authenticate id rawKey =>
      simp only [Auth.step] at moved
      split at moved
      · next phase =>
        obtain rfl := Option.some.inj moved
        rw [start]
        split
        · refine before.move before.entries before.alive rfl rfl ?_ ?_ ?_
          · exact fun other different => Function.update_of_ne different ..
          · exact fun other different => rfl
          · exact ⟨state.auth.clock, Function.update_self .., le_rfl⟩
        · refine before.move before.entries before.alive rfl rfl ?_ ?_ ?_
          · exact fun other different => Function.update_of_ne different ..
          · exact fun other different => rfl
          · trivial
      · cases moved
    | get id =>
      simp only [Auth.step] at moved
      split at moved
      · next keyHash phase =>
        obtain rfl := Option.some.inj moved
        refine before.move before.entries before.alive rfl rfl (fun _ _ => rfl) (fun _ _ => rfl) ?_
        have known := before.calls id
        rw [phase] at known
        obtain ⟨startedAt, begun, past⟩ := known
        split
        · next entry present =>
          obtain ⟨time, was, recent⟩ := before.entries.read present (before.alive keyHash entry present)
          exact ⟨keyHash, startedAt, time, begun, by omega, was⟩
        · exact ⟨startedAt, begun, past⟩
      · cases moved
    | load id =>
      simp only [Auth.step] at moved
      split at moved
      · next keyHash phase =>
        obtain rfl := Option.some.inj moved
        refine before.move before.entries before.alive rfl rfl (fun _ _ => rfl) ?_ ?_
        · exact fun other different => Function.update_of_ne different ..
        · have known := before.calls id
          rw [phase] at known
          obtain ⟨startedAt, begun, past⟩ := known
          split
          · next principal found =>
            have loaded : Function.update state.loadedAt id state.auth.clock id = state.auth.clock :=
              Function.update_self ..
            refine ⟨startedAt, begun, past.trans loaded.ge, ?_⟩
            exact (once_now ran ⟨loaded.symm, found⟩).later _
          · trivial
      · cases moved
    | set id =>
      simp only [Auth.step] at moved
      split at moved
      · next keyHash principal phase =>
        obtain rfl := Option.some.inj moved
        have known := before.calls id
        rw [phase] at known
        obtain ⟨startedAt, begun, past, was⟩ := known
        refine before.move ?_ ?_ rfl rfl (fun _ _ => rfl) (fun _ _ => rfl)
          ⟨keyHash, startedAt, state.loadedAt id, begun, past.trans (Nat.le_add_right ..), was⟩
        · apply before.entries.put (state.loadedAt id) was
          have soon : state.auth.clock ≤ state.loadedAt id + delay := prompt
          simp only [maxAge]
          omega
        · intro target entry present
          by_cases same : target = keyHash
          · subst same
            have written : (state.auth.setCached settings target principal).redis target =
                some ⟨principal, state.auth.clock + settings.cacheTtlMs⟩ := Function.update_self ..
            obtain rfl := Option.some.inj (written.symm.trans present)
            exact Nat.lt_add_of_pos_right settings.cacheTtlMs_pos
          · have unwritten : (state.auth.setCached settings keyHash principal).redis target =
                state.auth.redis target := Function.update_of_ne same ..
            exact before.alive target entry (unwritten.symm.trans present)
      · cases moved
    | revoke keyHash =>
      simp only [Auth.step] at moved
      split at moved
      · split at moved
        · obtain rfl := Option.some.inj moved
          exact ⟨before.entries, before.alive, before.calls⟩
        · split at moved
          · obtain rfl := Option.some.inj moved
            exact ⟨before.entries, before.alive, before.calls⟩
          · obtain rfl := Option.some.inj moved
            exact ⟨before.entries, before.alive, before.calls⟩
      · cases moved
    | delete =>
      simp only [Auth.step] at moved
      split at moved
      · next keyHash phase =>
        obtain rfl := Option.some.inj moved
        refine ⟨before.entries.forget keyHash, fun target entry present => ?_, before.calls⟩
        by_cases same : target = keyHash
        · subst same
          have emptied : (state.auth.invalidateCacheByHash target).redis target = none :=
            Function.update_self ..
          cases emptied.symm.trans present
        · have kept : (state.auth.invalidateCacheByHash keyHash).redis target = state.auth.redis target :=
            Function.update_of_ne same ..
          exact before.alive target entry (kept.symm.trans present)
      · cases moved
    | commit =>
      simp only [Auth.step] at moved
      split at moved
      · obtain rfl := Option.some.inj moved
        exact ⟨before.entries, before.alive, before.calls⟩
      · cases moved

end keeping

/-- Whatever is committed to the tables and however calls and a revocation interleave: a principal that a call
returns stood in the row of its key at a moment no longer than the lifetime of entries and the delay of their
writes before the call began. -/
theorem authenticated_fresh (apiKeys : String → Option ApiKeyRecord) {final : State}
    (ran : run? (step sha256 settings) (.initial apiKeys) labels = some final)
    (prompt : Along (step sha256 settings) (PromptSets delay) (.initial apiKeys) labels) {id : ℕ}
    {principal : AuthenticatedPrincipal} (returned : final.auth.calls id = .returned (some principal)) :
    ∃ keyHash startedAt, final.started id = some (keyHash, startedAt) ∧
      Once (step sha256 settings) (.initial apiKeys) labels fun state =>
        startedAt ≤ state.auth.clock + maxAge settings delay ∧
          state.auth.loadFromDatabase keyHash = some principal := by
  have backed := run_history (PromptSets delay)
    (fun labels => RowsBacked sha256 settings (maxAge settings delay) (.initial apiKeys) labels)
    (fun _ _ _ _ ran backed prompt stepped => backed.step ran prompt stepped)
    ⟨Backed.empty, fun keyHash entry present => (nomatch present), fun _ => trivial⟩ prompt ran
  have known := backed.calls id
  rw [returned] at known
  obtain ⟨keyHash, startedAt, time, begun, recent, was⟩ := known
  exact ⟨keyHash, startedAt, begun, was.imp fun state ⟨clock, row⟩ => ⟨clock ▸ recent, row⟩⟩

/-- The tenant is suspended while its key is cached, and a call that begins four minutes later is let in. -/
def suspended : List Label :=
  [.auth (.authenticate 0 sampleKey), .auth (.get 0), .auth (.load 0), .auth (.set 0),
    .change sampleKey (some { sampleRecord with tenantStatus := "suspended" }), .auth (.tick 240000),
    .auth (.authenticate 1 sampleKey), .auth (.get 1)]

theorem authenticated_fresh_suspended : ∃ final principal,
    run? (step id { pepper := "" }) (.initial sampleApiKeys) suspended = some final ∧
      final.auth.calls 1 = .returned (some principal) ∧ principal.tenantStatus = "active" ∧
      ∃ keyHash startedAt, final.started 1 = some (keyHash, startedAt) ∧
        Once (step id { pepper := "" }) (.initial sampleApiKeys) suspended fun state =>
          startedAt ≤ state.auth.clock + maxAge { pepper := "" } 0 ∧
            state.auth.loadFromDatabase keyHash = some principal := by
  have last : (run? (step id { pepper := "" }) (.initial sampleApiKeys) suspended).map
      (fun final => final.auth.calls 1) = some (.returned sampleRecord.principal?) := by
    decide
  obtain ⟨final, ran, returned⟩ := Option.map_eq_some_iff.mp last
  have prompt : Along (step id { pepper := "" }) (PromptSets 0) (.initial sampleApiKeys) suspended := by
    decide
  exact ⟨final, _, ran, returned, rfl, authenticated_fresh sampleApiKeys ran prompt returned⟩

end LlmopsGateway.Auth.Rows
