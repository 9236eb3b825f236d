import LlmopsGateway.Machine.Simulation
import LlmopsGateway.Soundness.CacheCommands

/-! # Tenant isolation of the cache layer

All tenants share a Redis keyspace and a collection of points. What a tenant's calls return depends on the
time, on its own entries, locks and points, and on its own calls, and the calls of the other tenants leave
all of that alone. So a run without them returns the same.
-/

namespace LlmopsGateway.CacheLayer

open Machine
open Coalescing (Reply)

variable {κ ν : Type} {deployment : Deployment ν} {state other : State κ ν} {tenantId : String}

/-- A change of an entry, a lock or a point of this tenant. -/
inductive Write.OwnedBy (deployment : Deployment ν) (tenantId : String) : Write ν → Prop
  | entry (request value deadline) :
      OwnedBy deployment tenantId (.set (deployment.exactKey request tenantId) value deadline)
  | lock (request value deadline) :
      OwnedBy deployment tenantId (.set (deployment.lockKey request tenantId) value deadline)
  | unlock (request) : OwnedBy deployment tenantId (.delete (deployment.lockKey request tenantId))
  | point (request response) :
    OwnedBy deployment tenantId (.upsert (deployment.point request tenantId response))

/-- A tenant's calls write nothing but what is the tenant's own. -/
theorem Performs.write_owned {phase : Phase} {effect : Effect ν} {write : Write ν}
    (performs : Performs deployment state tenantId phase effect) (writes : effect.write = some write) :
    write.OwnedBy deployment tenantId := by
  cases performs with
  | exactHit | exactMiss | semanticHit | semanticMiss | waitHit => cases writes
  | storeExact reply =>
    rw [eq_of_landed writes]
    exact .entry ..
  | storePoint reply =>
    rw [eq_of_landed writes]
    exact .point ..
  | acquire won reply =>
    rw [eq_of_setNx writes]
    exact .lock ..
  | release reply =>
    rw [eq_of_landed writes]
    exact .unlock ..
  | waitMiss =>
    rw [sleep] at writes
    split at writes <;> cases writes

/-- Two states that are the same to a tenant. -/
structure Agree (deployment : Deployment ν) (tenantId : String) (state other : State κ ν) : Prop where
  now : state.now = other.now
  entries : ∀ request, state.redis.entries (deployment.exactKey request tenantId) =
    other.redis.entries (deployment.exactKey request tenantId)
  locks : ∀ request, state.redis.entries (deployment.lockKey request tenantId) =
    other.redis.entries (deployment.lockKey request tenantId)
  points : (state.points.filter fun point => point.filter.tenantId = tenantId) =
    other.points.filter fun point => point.filter.tenantId = tenantId
  calls : ∀ id, state.calls ⟨tenantId, id⟩ = other.calls ⟨tenantId, id⟩
  results : ∀ id, state.results ⟨tenantId, id⟩ = other.results ⟨tenantId, id⟩

namespace Agree

theorem refl (deployment : Deployment ν) (tenantId : String) (state : State κ ν) :
    Agree deployment tenantId state state := ⟨rfl, fun _ => rfl, fun _ => rfl, rfl, fun _ => rfl, fun _ => rfl⟩

section reads

variable (agree : Agree deployment tenantId state other) (request : ChatRequest)

include agree

theorem exactCacheGet_eq (reply : Reply) : exactCacheGet deployment state request tenantId reply =
    exactCacheGet deployment other request tenantId reply := by
  cases reply with
  | ok => rw [exactCacheGet, exactCacheGet, agree.now, Expiring.get_congr (agree.entries request)]
  | lost | unanswered => rfl

/-- The points that pass a tenant's filter are among the tenant's points. -/
theorem filtered_eq :
    (state.points.filter fun point => point.filter = deployment.buildFilter request tenantId) =
    other.points.filter fun point => point.filter = deployment.buildFilter request tenantId := by
  have own (points : List (Point ν)) :
      (points.filter fun point => point.filter = deployment.buildFilter request tenantId) =
        (points.filter fun point => point.filter.tenantId = tenantId).filter fun point =>
          point.filter = deployment.buildFilter request tenantId := by
    rw [List.filter_filter]
    refine List.filter_congr fun point _ => ?_
    by_cases passes : point.filter = deployment.buildFilter request tenantId
    · simp [passes, Deployment.buildFilter, QdrantSemanticCache.buildFilter]
    · simp [passes]
  rw [own state.points, own other.points, agree.points]

theorem semanticCacheGet_eq (reply : Reply) : semanticCacheGet deployment state request tenantId reply =
    semanticCacheGet deployment other request tenantId reply := by
  cases reply with
  | ok => rw [semanticCacheGet, semanticCacheGet, agree.filtered_eq request]
  | lost | unanswered => rfl

theorem sleep_eq (deadline : ℕ) :
    sleep deployment state request deadline = sleep deployment other request deadline := by
  rw [sleep, sleep, agree.now]

theorem begin_eq (operation : Operation) :
    begin deployment state operation = begin deployment other operation := by
  cases operation with
  | wait request => rw [begin, begin, agree.sleep_eq, agree.now]
  | lookup | backfill | acquire | release => rfl

/-- A command sees nothing beyond what the two states share. -/
theorem perform_eq (phase : Phase) (store : Store) (reply : Reply) :
    perform deployment state tenantId phase store reply =
      perform deployment other tenantId phase store reply := by
  cases store with
  | redis =>
    cases phase with
    | exactGet request => rw [perform, perform, agree.exactCacheGet_eq]
    | storing request response exact semantic =>
      cases exact with
      | true => rw [perform, perform, agree.now]
      | false => cases semantic <;> rfl
    | acquiring request =>
      have held : state.redis.get other.now (deployment.lockKey request tenantId) =
          other.redis.get other.now (deployment.lockKey request tenantId) :=
            Expiring.get_congr (agree.locks request)
      rw [perform, perform, setNx, setNx, agree.now, held]
    | waiting request deadline wake => rw [perform, perform, agree.exactCacheGet_eq, agree.sleep_eq, agree.now]
    | idle | semanticGet | releasing | done => rfl
  | qdrant =>
    cases phase with
    | semanticGet request => rw [perform, perform, agree.semanticCacheGet_eq]
    | storing request response exact semantic => cases exact <;> cases semantic <;> rfl
    | idle | exactGet | acquiring | releasing | waiting | done => rfl

end reads

section writes

theorem store (agree : Agree deployment tenantId state other) (write : Write ν) :
    Agree deployment tenantId (state.store write) (other.store write) := by
  obtain ⟨now, entries, locks, points, calls, results⟩ := agree
  cases write with
  | set key value deadline =>
    have set_eq {target} (same : state.redis.entries target = other.redis.entries target) :
        (state.redis.set key value deadline).entries target =
          (other.redis.set key value deadline).entries target := by
      by_cases this : target = key
      · rw [this, Expiring.entries_set_self, Expiring.entries_set_self]
      · rw [Expiring.entries_set_of_ne this, Expiring.entries_set_of_ne this, same]
    exact ⟨now, fun request => set_eq (entries request), fun request => set_eq (locks request),
      points, calls, results⟩
  | delete key =>
    have delete_eq {target} (same : state.redis.entries target = other.redis.entries target) :
        (state.redis.delete key).entries target = (other.redis.delete key).entries target := by
      by_cases this : target = key
      · rw [this, Expiring.entries_delete_self, Expiring.entries_delete_self]
      · rw [Expiring.entries_delete_of_ne this, Expiring.entries_delete_of_ne this, same]
    exact ⟨now, fun request => delete_eq (entries request), fun request => delete_eq (locks request),
      points, calls, results⟩
  | upsert point =>
    refine ⟨now, entries, locks, ?_, calls, results⟩
    change (state.points ++ [point]).filter _ = (other.points ++ [point]).filter _
    rw [List.filter_append, List.filter_append, points]

/-- What another tenant owns is out of sight. -/
theorem store_of_ne (fixed : deployment.FixedLength) (agree : Agree deployment tenantId state other)
    {stranger : String} (different : stranger ≠ tenantId) {write : Write ν}
    (owned : write.OwnedBy deployment stranger) : Agree deployment tenantId (state.store write) other := by
  obtain ⟨now, entries, locks, points, calls, results⟩ := agree
  cases owned with
  | entry written value deadline =>
    refine ⟨now, fun request => ?_, fun request => ?_, points, calls, results⟩
    · refine (Expiring.entries_set_of_ne fun same => ?_).trans (entries request)
      exact different (Deployment.tenant_of_exactKey fixed same).symm
    · exact (Expiring.entries_set_of_ne fun same =>
        Deployment.exactKey_ne_lockKey same.symm).trans (locks request)
  | lock written value deadline =>
    refine ⟨now, fun request => ?_, fun request => ?_, points, calls, results⟩
    · exact (Expiring.entries_set_of_ne Deployment.exactKey_ne_lockKey).trans (entries request)
    · refine (Expiring.entries_set_of_ne fun same => ?_).trans (locks request)
      exact different (Deployment.tenant_of_lockKey fixed same).symm
  | unlock written =>
    refine ⟨now, fun request => ?_, fun request => ?_, points, calls, results⟩
    · exact (Expiring.entries_delete_of_ne Deployment.exactKey_ne_lockKey).trans (entries request)
    · refine (Expiring.entries_delete_of_ne fun same => ?_).trans (locks request)
      exact different (Deployment.tenant_of_lockKey fixed same).symm
  | point written response =>
    refine ⟨now, entries, locks, ?_, calls, results⟩
    have hidden : ([deployment.point written stranger response].filter fun point =>
        point.filter.tenantId = tenantId) = [] := by
      refine List.filter_eq_nil_iff.mpr fun point member => ?_
      obtain rfl := List.mem_singleton.mp member
      exact mt of_decide_eq_true different
    change (state.points ++ [_]).filter _ = _
    rw [List.filter_append, points, hidden, List.append_nil]

variable [DecidableEq κ]

theorem proceed (agree : Agree deployment tenantId state other) (caller : Caller κ) (effect : Effect ν) :
    Agree deployment tenantId (state.proceed caller effect) (other.proceed caller effect) := by
  obtain ⟨phase, result, write⟩ := effect
  have written : Agree deployment tenantId (write.elim state state.store) (write.elim other other.store) := by
    cases write with
    | none => exact agree
    | some write => exact agree.store write
  refine ⟨written.now, written.entries, written.locks, written.points, fun id => ?_, fun id => ?_⟩
  · change Function.update state.calls caller phase _ = Function.update other.calls caller phase _
    by_cases here : ⟨tenantId, id⟩ = caller
    · rw [here, Function.update_self, Function.update_self]
    · rw [Function.update_of_ne here, Function.update_of_ne here, agree.calls]
  · cases result with
    | none => exact agree.results id
    | some result =>
      change Function.update state.results caller _ _ = Function.update other.results caller _ _
      by_cases here : ⟨tenantId, id⟩ = caller
      · rw [here, Function.update_self, Function.update_self]
      · rw [Function.update_of_ne here, Function.update_of_ne here, agree.results]

/-- A step of another tenant's call is out of sight. -/
theorem proceed_of_ne (fixed : deployment.FixedLength) (agree : Agree deployment tenantId state other)
    {caller : Caller κ} (different : caller.tenantId ≠ tenantId) {effect : Effect ν}
    (owned : ∀ write, effect.write = some write → write.OwnedBy deployment caller.tenantId) :
    Agree deployment tenantId (state.proceed caller effect) other := by
  obtain ⟨phase, result, write⟩ := effect
  have elsewhere (id : κ) : (⟨tenantId, id⟩ : Caller κ) ≠ caller :=
      fun same => different (congrArg Caller.tenantId same).symm
  have written : Agree deployment tenantId (write.elim state state.store) other := by
    cases write with
    | none => exact agree
    | some write => exact agree.store_of_ne fixed different (owned write rfl)
  refine ⟨written.now, written.entries, written.locks, written.points, fun id => ?_, fun id => ?_⟩
  · exact (Function.update_of_ne (elsewhere id) ..).trans (agree.calls id)
  · cases result with
    | none => exact agree.results id
    | some result => exact (Function.update_of_ne (elsewhere id) ..).trans (agree.results id)

end writes

end Agree

variable [DecidableEq κ]

/-- Time passes for everybody; the other labels are a tenant's own. -/
def Label.concerns (tenantId : String) : Label κ → Bool
  | .tick _ => true
  | .start caller _ => caller.tenantId = tenantId
  | .call caller _ _ => caller.tenantId = tenantId

theorem step_unwinding (fixed : deployment.FixedLength) (tenantId : String) :
    Unwinding (step (κ := κ) deployment) (Label.concerns tenantId) (Agree deployment tenantId) where
  hidden state next other label agree foreign stepped := by
    rcases step_cases stepped with ⟨ms, rfl, rfl⟩ | ⟨caller, operation, rfl, -, rfl⟩ |
        ⟨caller, store, reply, effect, rfl, performs, rfl⟩
    · cases foreign
    · refine agree.proceed_of_ne fixed (of_decide_eq_false foreign) fun write writes => ?_
      rw [begin_write] at writes
      cases writes
    · exact agree.proceed_of_ne fixed (of_decide_eq_false foreign) fun write writes =>
        performs.write_owned writes
  seen state next other label agree own stepped := by
    cases label with
    | tick ms =>
      obtain rfl := Option.some.inj stepped
      exact ⟨_, rfl, congrArg (· + ms) agree.now, agree.entries, agree.locks,
        agree.points, agree.calls, agree.results⟩
    | start caller operation =>
      obtain ⟨owner, id⟩ := caller
      obtain rfl : owner = tenantId := of_decide_eq_true own
      rw [step] at stepped
      split at stepped
      · rename_i idle
        obtain rfl := Option.some.inj stepped
        rw [agree.calls] at idle
        refine ⟨other.proceed ⟨owner, id⟩ (begin deployment other operation), ?_, ?_⟩
        · rw [step, idle]
        · rw [agree.begin_eq]
          exact agree.proceed ..
      · cases stepped
    | call caller store reply =>
      obtain ⟨owner, id⟩ := caller
      obtain rfl : owner = tenantId := of_decide_eq_true own
      rw [step, agree.calls, agree.perform_eq] at stepped
      split at stepped
      · cases stepped
      · rename_i effect performed
        obtain rfl := Option.some.inj stepped
        refine ⟨other.proceed ⟨owner, id⟩ effect, ?_, agree.proceed ..⟩
        rw [step, performed]

/-- What a tenant's calls return is what they return when all calls of the other tenants are left out. -/
theorem run_isolated (fixed : deployment.FixedLength) (tenantId : String) {state final : State κ ν}
    {labels : List (Label κ)} (ran : run? (step deployment) state labels = some final) :
    ∃ alone, run? (step deployment) state (labels.filter (Label.concerns tenantId)) = some alone ∧
      ∀ id, final.results ⟨tenantId, id⟩ = alone.results ⟨tenantId, id⟩ := by
  obtain ⟨alone, ranAlone, agree⟩ := (step_unwinding fixed tenantId).run (.refl deployment tenantId state) ran
  exact ⟨alone, ranAlone, agree.results⟩

/-- Two tenants go for the lock of the same request. -/
def contestedLocks : List (Label ℕ) :=
  [.start ⟨"acme", 0⟩ (.acquire greeting), .start ⟨"globex", 0⟩ (.acquire greeting),
    .call ⟨"globex", 0⟩ .redis .ok, .call ⟨"acme", 0⟩ .redis .ok]

theorem run_isolated_locks : sampleDeployment.FixedLength ∧ ∃ final alone : State ℕ (ℚ × ℚ),
    run? (step sampleDeployment) {} contestedLocks = some final ∧
      run? (step sampleDeployment) {} (contestedLocks.filter (Label.concerns "acme")) = some alone ∧
      (∀ id, final.results ⟨"acme", id⟩ = alone.results ⟨"acme", id⟩) ∧
      final.results ⟨"acme", 0⟩ = some (.acquired greeting true) := by
  have won : (run? (step sampleDeployment) ({} : State ℕ (ℚ × ℚ)) contestedLocks).map
      (fun final => final.results ⟨"acme", 0⟩) = some (some (.acquired greeting true)) := by decide +kernel
  obtain ⟨final, ran, won⟩ := Option.map_eq_some_iff.mp won
  obtain ⟨alone, ranAlone, same⟩ := run_isolated sampleDeployment_fixedLength "acme" ran
  exact ⟨sampleDeployment_fixedLength, final, alone, ran, ranAlone, same, won⟩

end LlmopsGateway.CacheLayer
