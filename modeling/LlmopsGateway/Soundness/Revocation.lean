import LlmopsGateway.Machine.Run
import LlmopsGateway.Model.Auth

/-! # When a revoked key stops working

Once the revocation is committed the database has nothing to return for the key, so a call that
starts afterwards can only be served by the cache. Since the revocation's `DELETE`, the cache holds
an entry exactly while some later `SET` is younger than its TTL, and such a `SET` comes from a call
that read the row before the commit.
-/

namespace LlmopsGateway.Auth

open Machine

variable {sha256 : String → String} {settings : Settings}

/-- No call with the revoked key that started after `revoke_api_key` returned `True` returns a
principal. -/
def RevocationFinal (sha256 : String → String) (settings : Settings) (state : State)
    (label : Label) : Prop :=
  ∀ next, step sha256 settings state label = some next → ∀ id, next.startedAfter id = true →
    ∀ principal, next.calls id ≠ .returned (some principal)

/-- Such a call sends its `GET` when every `SET` since the `DELETE` is at least a TTL old. -/
def GetsExpired (settings : Settings) (state : State) : Label → Prop
  | .get id => state.startedAfter id = true → ∀ keyHash, state.calls id = .get keyHash →
      ∀ setAt ∈ state.lastSet keyHash, setAt + settings.cacheTtlMs ≤ state.clock
  | _ => True

/-- The phases of the revocation after its `DELETE`. -/
def Revocation.Invalidated (revocation : Revocation) (keyHash : String) : Prop :=
  revocation = .deleted keyHash ∨ revocation = .returnedTrue keyHash

structure Settled (settings : Settings) (state : State) : Prop where
  /-- After the `DELETE` every entry stems from a recorded `SET` ... -/
  recorded : ∀ keyHash, state.revocation.Invalidated keyHash → ∀ entry,
    state.redis keyHash = some entry → ∃ setAt, state.lastSet keyHash = some setAt ∧
      entry.deadline = setAt + settings.cacheTtlMs ∧ state.clock < entry.deadline
  /-- ... and lives as long as its TTL. -/
  kept : ∀ keyHash setAt, state.lastSet keyHash = some setAt →
    state.clock < setAt + settings.cacheTtlMs →
      ∃ entry, state.redis keyHash = some entry ∧ entry.deadline = setAt + settings.cacheTtlMs
  revoked : ∀ keyHash, state.revocation = .returnedTrue keyHash →
    state.loadFromDatabase keyHash = none
  late : ∀ id, state.startedAfter id = true → ∃ keyHash, state.revocation = .returnedTrue keyHash ∧
    (state.calls id = .get keyHash ∨ state.calls id = .load keyHash ∨ state.calls id = .returned none)

theorem settled_initial (settings : Settings) (redis : String → Option CacheEntry)
    (apiKeys : String → Option ApiKeyRecord) : Settled settings (.initial redis apiKeys) where
  recorded _ invalidated := by rcases invalidated with deleted | returned <;> contradiction
  kept _ _ present := nomatch present
  revoked _ returned := nomatch returned
  late _ started := nomatch started

/-- A call may take any step that leaves the late ones among their three phases. -/
theorem Settled.goto {state : State} (settled : Settled settings state) {id : ℕ} {next : Call}
    (late : state.startedAfter id = true → ∀ keyHash, state.revocation = .returnedTrue keyHash →
      next = .get keyHash ∨ next = .load keyHash ∨ next = .returned none) :
    Settled settings (state.goto id next) := by
  refine ⟨settled.recorded, settled.kept, settled.revoked, fun other started => ?_⟩
  obtain ⟨keyHash, returned, phase⟩ := settled.late other started
  refine ⟨keyHash, returned, ?_⟩
  by_cases same : other = id
  · subst same
    have moved : (state.goto other next).calls other = next := Function.update_self ..
    rw [moved]
    exact late started keyHash returned
  · have unmoved : (state.goto id next).calls other = state.calls other :=
      Function.update_of_ne same ..
    rwa [unmoved]

theorem Settled.tick {state : State} (settled : Settled settings state) (ms : ℕ) :
    Settled settings (state.tick ms) := by
  refine ⟨fun keyHash invalidated entry present => ?_, fun keyHash setAt set alive => ?_,
    settled.revoked, settled.late⟩
  · obtain ⟨there, alive⟩ := Option.filter_eq_some_iff.mp present
    obtain ⟨setAt, set, deadline, -⟩ := settled.recorded keyHash invalidated entry there
    exact ⟨setAt, set, deadline, of_decide_eq_true alive⟩
  · have alive : state.clock + ms < setAt + settings.cacheTtlMs := alive
    obtain ⟨entry, present, deadline⟩ := settled.kept keyHash setAt set (by omega)
    exact ⟨entry, Option.filter_eq_some_iff.mpr ⟨present, by simpa [deadline] using alive⟩, deadline⟩

theorem Settled.setCached {state : State} (settled : Settled settings state) (keyHash : String)
    (principal : AuthenticatedPrincipal) : Settled settings (state.setCached settings keyHash principal) := by
  have positive := settings.cacheTtlMs_pos
  refine ⟨fun other invalidated entry present => ?_, fun other setAt set alive => ?_,
    settled.revoked, settled.late⟩
  · by_cases same : other = keyHash
    · subst same
      have written : (state.setCached settings other principal).redis other =
          some ⟨principal, state.clock + settings.cacheTtlMs⟩ := Function.update_self ..
      obtain rfl := Option.some.inj (written.symm.trans present)
      exact ⟨state.clock, Function.update_self .., rfl, Nat.lt_add_of_pos_right positive⟩
    · have unwritten : (state.setCached settings keyHash principal).redis other = state.redis other :=
        Function.update_of_ne same ..
      obtain ⟨setAt, set, deadline, alive⟩ :=
        settled.recorded other invalidated entry (unwritten.symm.trans present)
      exact ⟨setAt, (Function.update_of_ne same ..).trans set, deadline, alive⟩
  · by_cases same : other = keyHash
    · subst same
      have written : (state.setCached settings other principal).lastSet other = some state.clock :=
        Function.update_self ..
      obtain rfl := Option.some.inj (written.symm.trans set)
      exact ⟨_, Function.update_self .., rfl⟩
    · have unwritten : (state.setCached settings keyHash principal).lastSet other = state.lastSet other :=
        Function.update_of_ne same ..
      obtain ⟨entry, present, deadline⟩ := settled.kept other setAt (unwritten.symm.trans set) alive
      exact ⟨entry, (Function.update_of_ne same ..).trans present, deadline⟩

/-- The `DELETE` empties cache and history of its key, which establishes the record. -/
theorem Settled.delete {state : State} (settled : Settled settings state) {keyHash : String}
    (updated : state.revocation = .updated keyHash) :
    Settled settings { state.invalidateCacheByHash keyHash with revocation := .deleted keyHash } := by
  refine ⟨fun other invalidated entry present => ?_, fun other setAt set alive => ?_,
    fun other returned => (nomatch returned), fun id started => ?_⟩
  · have same : other = keyHash := by
      rcases invalidated with deleted | returned
      · exact (Revocation.deleted.inj deleted).symm
      · contradiction
    subst same
    have emptied : (state.invalidateCacheByHash other).redis other = none := Function.update_self ..
    rw [show _ = none from emptied] at present
    contradiction
  · by_cases same : other = keyHash
    · subst same
      have emptied : (state.invalidateCacheByHash other).lastSet other = none :=
        Function.update_self ..
      rw [show _ = none from emptied] at set
      contradiction
    · have kept : (state.invalidateCacheByHash keyHash).lastSet other = state.lastSet other :=
        Function.update_of_ne same ..
      obtain ⟨entry, present, deadline⟩ := settled.kept other setAt (kept.symm.trans set) alive
      exact ⟨entry, (Function.update_of_ne same ..).trans present, deadline⟩
  · obtain ⟨other, returned, -⟩ := settled.late id started
    rw [updated] at returned
    contradiction

theorem Settled.commit {state : State} (settled : Settled settings state) {keyHash : String}
    (deleted : state.revocation = .deleted keyHash) :
    Settled settings { state.commitRevocation keyHash with revocation := .returnedTrue keyHash } := by
  refine ⟨fun other invalidated => ?_, settled.kept, fun other returned => ?_, fun id started => ?_⟩
  · have same : other = keyHash := by
      rcases invalidated with again | returned
      · contradiction
      · exact (Revocation.returnedTrue.inj returned).symm
    exact settled.recorded other (.inl (same ▸ deleted))
  · obtain rfl := Revocation.returnedTrue.inj returned
    have committed : (state.commitRevocation keyHash).apiKeys keyHash =
        (state.apiKeys keyHash).map fun record => { record with revokedAt := some state.clock } :=
      Function.update_self ..
    have unreadable : (state.commitRevocation keyHash).loadFromDatabase keyHash = none := by
      rw [State.loadFromDatabase, committed]
      cases state.apiKeys keyHash <;> rfl
    exact unreadable
  · obtain ⟨other, returned, -⟩ := settled.late id started
    rw [deleted] at returned
    contradiction

/-- A call that starts joins the late ones exactly when the revocation is over. -/
theorem Settled.noteStart {state : State} (settled : Settled settings state) {id : ℕ}
    {keyHash : String} {next : Call} (phase : next = .get keyHash ∨ next = .returned none) :
    Settled settings ((state.noteStart id keyHash).goto id next) := by
  refine ⟨settled.recorded, settled.kept, settled.revoked, fun other started => ?_⟩
  by_cases same : other = id
  · subst same
    have flag : decide (state.revocation = .returnedTrue keyHash) = true := by
      have marked : (state.noteStart other keyHash).startedAfter other = _ := Function.update_self ..
      exact marked.symm.trans started
    have moved : ((state.noteStart other keyHash).goto other next).calls other = next :=
      Function.update_self ..
    refine ⟨keyHash, of_decide_eq_true flag, ?_⟩
    rw [moved]
    rcases phase with phase | phase
    · exact .inl phase
    · exact .inr (.inr phase)
  · have before : state.startedAfter other = true := by
      rw [← started]
      exact (Function.update_of_ne same ..).symm
    have unmoved : ((state.noteStart id keyHash).goto id next).calls other = state.calls other :=
      Function.update_of_ne same ..
    rw [unmoved]
    exact settled.late other before

theorem Settled.start {state : State} (settled : Settled settings state) (id : ℕ) (rawKey : String) :
    Settled settings (start sha256 settings state id rawKey) := by
  unfold Auth.start
  split
  · exact settled.noteStart (.inl rfl)
  · exact settled.noteStart (.inr rfl)

/-- A late call's `GET` finds nothing exactly when the recorded `SET`s are too old. -/
theorem Settled.get_iff {state : State} (settled : Settled settings state) {id : ℕ} {keyHash : String}
    (started : state.startedAfter id = true) (phase : state.calls id = .get keyHash) :
    state.redis keyHash = none ↔
      ∀ setAt ∈ state.lastSet keyHash, setAt + settings.cacheTtlMs ≤ state.clock := by
  obtain ⟨other, returned, reached⟩ := settled.late id started
  obtain rfl : other = keyHash := by
    rw [phase] at reached
    rcases reached with get | load | none
    · exact (Call.get.inj get).symm
    · contradiction
    · contradiction
  constructor
  · intro missed setAt set
    by_contra alive
    obtain ⟨entry, present, -⟩ := settled.kept other setAt set (Nat.lt_of_not_le alive)
    rw [missed] at present
    contradiction
  · intro expired
    cases present : state.redis other with
    | none => rfl
    | some entry =>
      obtain ⟨setAt, set, deadline, alive⟩ := settled.recorded other (.inr returned) entry present
      have := expired setAt set
      omega

/-- One step keeps everything settled as long as no late call finds a live entry. -/
theorem Settled.step {state next : State} {label : Label} (settled : Settled settings state)
    (expired : GetsExpired settings state label)
    (stepped : step sha256 settings state label = some next) : Settled settings next := by
  cases label with
  | tick ms =>
    obtain rfl := Option.some.inj stepped
    exact settled.tick ms
  | authenticate id rawKey =>
    simp only [Auth.step] at stepped
    split at stepped
    · obtain rfl := Option.some.inj stepped
      exact settled.start id rawKey
    · contradiction
  | get id =>
    simp only [Auth.step] at stepped
    split at stepped
    · next keyHash phase =>
      obtain rfl := Option.some.inj stepped
      refine settled.goto fun started other returned => ?_
      rw [(settled.get_iff started phase).mpr (expired started keyHash phase)]
      obtain ⟨late, returned', reached⟩ := settled.late id started
      obtain rfl := Revocation.returnedTrue.inj (returned.symm.trans returned')
      rw [phase] at reached
      rcases reached with get | load | none
      · exact .inr (.inl (congrArg Call.load (Call.get.inj get)))
      · contradiction
      · contradiction
    · contradiction
  | load id =>
    simp only [Auth.step] at stepped
    split at stepped
    · next keyHash phase =>
      obtain rfl := Option.some.inj stepped
      refine settled.goto fun started other returned => ?_
      obtain ⟨late, returned', reached⟩ := settled.late id started
      obtain rfl := Revocation.returnedTrue.inj (returned.symm.trans returned')
      rw [phase] at reached
      rcases reached with get | load | none
      · contradiction
      · obtain rfl := Call.load.inj load
        rw [settled.revoked keyHash returned]
        exact .inr (.inr rfl)
      · contradiction
    · contradiction
  | set id =>
    simp only [Auth.step] at stepped
    split at stepped
    · next keyHash principal phase =>
      obtain rfl := Option.some.inj stepped
      refine (settled.setCached keyHash principal).goto fun started other returned => ?_
      obtain ⟨late, returned', reached⟩ := settled.late id started
      rw [phase] at reached
      rcases reached with get | load | none <;> contradiction
    · contradiction
  | revoke keyHash =>
    have moved (revocation : Revocation) (idle : state.revocation = .idle)
        (early : ∀ keyHash, ¬ revocation.Invalidated keyHash) :
        Settled settings { state with revocation } := by
      refine ⟨fun other invalidated => absurd invalidated (early other), settled.kept,
        fun other returned => absurd (.inr returned) (early other), fun id started => ?_⟩
      obtain ⟨other, returned, -⟩ := settled.late id started
      rw [idle] at returned
      contradiction
    simp only [Auth.step] at stepped
    split at stepped
    · next idle =>
      split at stepped
      · obtain rfl := Option.some.inj stepped
        exact moved _ idle fun _ invalidated => by rcases invalidated with h | h <;> contradiction
      · split at stepped
        · obtain rfl := Option.some.inj stepped
          exact moved _ idle fun _ invalidated => by rcases invalidated with h | h <;> contradiction
        · obtain rfl := Option.some.inj stepped
          exact moved _ idle fun _ invalidated => by rcases invalidated with h | h <;> contradiction
    · contradiction
  | delete =>
    simp only [Auth.step] at stepped
    split at stepped
    · next keyHash updated =>
      obtain rfl := Option.some.inj stepped
      exact settled.delete updated
    · contradiction
  | commit =>
    simp only [Auth.step] at stepped
    split at stepped
    · next keyHash deleted =>
      obtain rfl := Option.some.inj stepped
      exact settled.commit deleted
    · contradiction

/-- The late calls that read the cache are the only ones whose answer is open. -/
theorem Settled.final_iff {state : State} (settled : Settled settings state) (label : Label) :
    RevocationFinal sha256 settings state label ↔ GetsExpired settings state label := by
  constructor
  · intro final
    cases label with
    | get id =>
      intro started keyHash phase
      refine (settled.get_iff started phase).mp ?_
      cases present : state.redis keyHash with
      | none => rfl
      | some entry =>
        have stepped : Auth.step sha256 settings state (.get id) =
            some (state.goto id (.returned (some entry.principal))) := by
          simp only [Auth.step, phase, present]
        exact absurd (Function.update_self ..) (final _ stepped id started entry.principal)
    | _ => trivial
  · intro expired next stepped id started principal returned
    obtain ⟨keyHash, -, phase⟩ := (settled.step expired stepped).late id started
    rw [returned] at phase
    rcases phase with phase | phase | phase <;> cases phase

/-- For every key and every interleaving: the revocation is final exactly when each call that starts
after it reads the cache at least a TTL after the last `SET` that followed the `DELETE`. -/
theorem revocation_final_iff (sha256 : String → String) (settings : Settings)
    (redis : String → Option CacheEntry) (apiKeys : String → Option ApiKeyRecord) (labels : List Label) :
    Along (step sha256 settings) (RevocationFinal sha256 settings) (.initial redis apiKeys) labels ↔
      Along (step sha256 settings) (GetsExpired settings) (.initial redis apiKeys) labels :=
  along_congr (Settled settings) (fun _ label settled _ => settled.final_iff label)
    (fun _ label _ settled _ final stepped => settled.step ((settled.final_iff label).mp final) stepped)
    (settled_initial settings redis apiKeys) (along_true _ labels)

/-- The key of the run below; its digest is taken to be the payload itself. -/
def sampleKey : String := "llmops_k"

def sampleRecord : ApiKeyRecord := ⟨"1", "acme", ["chat:write"], "active", none⟩

def sampleApiKeys : String → Option ApiKeyRecord :=
  Function.update (fun _ => none) sampleKey (some sampleRecord)

/-- Call `0` has read the row when the key is revoked and stores the principal afterwards. -/
def staleSet : List Label :=
  [.authenticate 0 sampleKey, .get 0, .load 0, .revoke sampleKey, .delete, .commit, .set 0,
    .authenticate 1 sampleKey, .get 1]

/-- Call `1`, started after the revocation, is served the stale principal. -/
theorem revocation_staleSet : ¬ Along (step id { pepper := "" })
    (RevocationFinal id { pepper := "" }) (.initial (fun _ => none) sampleApiKeys) staleSet := by
  intro along
  have reached : (run? (step id { pepper := "" }) (.initial (fun _ => none) sampleApiKeys) staleSet).map
      (fun state => (state.startedAfter 1, state.calls 1)) =
        some (true, .returned sampleRecord.principal?) := by decide
  obtain ⟨final, ran, facts⟩ := Option.map_eq_some_iff.mp reached
  obtain ⟨started, returned⟩ := Prod.mk.inj facts
  have kept := run_invariant _
    (fun state => ∀ id, state.startedAfter id = true → ∀ principal, state.calls id ≠ .returned (some principal))
    (fun _ _ next _ final stepped => final next stepped) (by intro id started; contradiction) along ran
  exact kept 1 started _ returned

end LlmopsGateway.Auth
