import LlmopsGateway.Machine.Coherent
import LlmopsGateway.Machine.Run
import LlmopsGateway.Model.PrincipalCache
import LlmopsGateway.Soundness.PyTextReading

/-! # Authentication with and without its cache

One operation after another keeps the cached principals those of the rows: a row is only ever added under
a hash that had none and only ever changed by a revocation, which deletes the entry before it commits. So
a call of `authenticate` that completes returns what it would have returned without the cache.
-/

namespace LlmopsGateway.AuthService

open Auth Admin Machine

variable {deployment : Deployment} {state next : State} {keyHash : String}

/-- `orjson` reads back the principals it wrote; rows give them no limit of their own. -/
def Deployment.Inverse (deployment : Deployment) : Prop := ∀ principal : AuthenticatedPrincipal,
  principal.rateLimitPerMinute = none →
    deployment.loads (deployment.dumps (payload principal)) = some (payload principal)

theorem mapM_text (texts : List String) : (texts.map Json.str).mapM text = .ok texts := by
  induction texts with
  | nil => rfl
  | cons first rest ih =>
    rw [List.map_cons, List.mapM_cons, ih]
    rfl

/-- The set of scopes comes back from its sorted list. -/
theorem principalOf_payload (principal : AuthenticatedPrincipal) :
    principalOf (payload principal) = .ok principal := by
  have scopes : ((payload principal).getItem "scopes" >>= Json.iterate) =
      .ok ((sortedScopes principal).map .str) := rfl
  have limited : ((payload principal).getD "rate_limit_per_minute" .null >>= limit) =
      .ok principal.rateLimitPerMinute := by
    cases given : principal.rateLimitPerMinute with
    | none => simp only [payload, given]; rfl
    | some value => simp only [payload, given]; rfl
  have texts := mapM_text (sortedScopes principal)
  unfold principalOf
  rw [limited, scopes]
  change (((sortedScopes principal).map Json.str).mapM text >>= fun scopes =>
    Except.ok (⟨principal.tenantId, principal.apiKeyId, principal.tenantStatus, scopes.toFinset,
      principal.rateLimitPerMinute⟩ : AuthenticatedPrincipal)) = _
  rw [texts]
  change Except.ok (⟨_, _, _, (sortedScopes principal).toFinset, _⟩ : AuthenticatedPrincipal) = _
  rw [sortedScopes, Finset.sort_toFinset]

theorem read_dumps (inverse : deployment.Inverse) {principal : AuthenticatedPrincipal}
    (unlimited : principal.rateLimitPerMinute = none) :
    deployment.read (deployment.dumps (payload principal)) = some principal := by
  rw [Deployment.read, inverse principal unlimited]
  simp only [principalOf_payload, Except.toOption]

theorem cacheKey_injective : Function.Injective cacheKey := fun _ _ same => String.append_right_inj _ |>.mp same

/-- The cached entries, by the hash they are cached under. -/
def State.cache (state : State) (keyHash : String) : Option String := state.redis (cacheKey keyHash)

/-- The cache holds nothing but the principals of active rows. -/
def Sound (deployment : Deployment) (state : State) : Prop := Coherent deployment.read state.lookup state.cache

/-- What `authenticate` would answer if nothing were cached. -/
def State.uncached (deployment : Deployment) (state : State) (rawKey : String) :
    Option AuthenticatedPrincipal :=
  if isValidApiKeyFormat rawKey then state.lookup (deployment.hash rawKey) else none

theorem cache_delete (state : State) (keyHash : String) :
    (state.delete keyHash).cache = Function.update state.cache keyHash none :=
  Function.update_comp_eq_of_injective state.redis cacheKey_injective keyHash none

theorem Sound.delete (sound : Sound deployment state) (keyHash : String) :
    Sound deployment (state.delete keyHash) := by
  rw [Sound, cache_delete]
  exact sound.forget keyHash

/-- Rows give their principals no limit of their own. -/
theorem unlimited_of_lookup {principal : AuthenticatedPrincipal}
    (found : state.lookup keyHash = some principal) :
    principal.rateLimitPerMinute = none := by
  obtain ⟨record, -, made⟩ := Option.bind_eq_some_iff.mp found
  unfold ApiKeyRecord.principal? at made
  split at made
  · contradiction
  · obtain rfl := Option.some.inj made
    rfl

theorem Sound.setCached (sound : Sound deployment state) (inverse : deployment.Inverse)
    {principal : AuthenticatedPrincipal} (found : state.lookup keyHash = some principal) (replies : Replies) :
    Sound deployment (state.setCached deployment keyHash principal replies) := by
  unfold State.setCached
  split
  · have cached := Function.update_comp_eq_of_injective state.redis cacheKey_injective keyHash
      (some (deployment.dumps (payload principal)))
    have put := Coherent.put sound (read_dumps inverse (unlimited_of_lookup found)) found
    exact Eq.mpr (congrArg (Coherent deployment.read state.lookup) cached) put
  · exact sound

/-- An entry that is found is the principal of the row, and every entry can be read. -/
theorem Sound.getCached (sound : Sound deployment state) (keyHash : String) (replies : Replies) :
    state.getCached deployment keyHash replies = (some none, state) ∨
      ∃ principal, state.lookup keyHash = some principal ∧
        state.getCached deployment keyHash replies = (some (some principal), state) := by
  unfold State.getCached
  cases cached : (if replies.get then state.redis (cacheKey keyHash) else none) with
  | none => exact .inl rfl
  | some entry =>
    have stored : state.cache keyHash = some entry := by
      split at cached
      · exact cached
      · contradiction
    obtain ⟨principal, read, present⟩ := sound keyHash entry stored
    refine .inr ⟨principal, present, ?_⟩
    simp only [read]

theorem lookup_of_loaded {replies : Replies} {found : Option AuthenticatedPrincipal}
    (loaded : state.loadFromDatabase keyHash replies = some found) : found = state.lookup keyHash := by
  unfold State.loadFromDatabase at loaded
  split at loaded
  · exact (Option.some.inj loaded).symm
  · contradiction

/-- A call that completes answers like one without the cache, and the cache stays sound. -/
theorem Sound.authenticate (sound : Sound deployment state) (inverse : deployment.Inverse) (rawKey : String)
    (replies : Replies) :
    (∀ principal, (state.authenticate deployment rawKey replies).1 = .authenticated principal →
      principal = state.uncached deployment rawKey) ∧
      Sound deployment (state.authenticate deployment rawKey replies).2 := by
  unfold State.authenticate State.uncached
  split
  · dsimp only
    rcases sound.getCached (deployment.hash rawKey) replies with missed | ⟨cached, present, hit⟩
    · rw [missed]
      dsimp only
      rcases loaded : state.loadFromDatabase (deployment.hash rawKey) replies with _ | _ | principal
      · exact ⟨nofun, sound⟩
      · have absent := lookup_of_loaded loaded
        exact ⟨fun principal answered => (Outcome.authenticated.inj answered).symm.trans absent, sound⟩
      · have present := lookup_of_loaded loaded
        exact ⟨fun other answered => (Outcome.authenticated.inj answered).symm.trans present,
          sound.setCached inverse present.symm replies⟩
    · rw [hit]
      refine ⟨fun principal answered => ?_, sound⟩
      rw [present]
      exact (Outcome.authenticated.inj answered).symm
  · exact ⟨fun principal answered => (Outcome.authenticated.inj answered).symm, sound⟩

section rows

variable {tenants : Uuid → Option String} {table : ApiKeys} {row record : ApiKeyModel}

def isActive (keyHash : String) (row : ApiKeyModel) : Bool := row.keyHash = keyHash && row.revokedAt.isNone

/-- The lookup depends on the first active row with the hash. -/
theorem lookup_congr {other : State} (tenants : other.tenants = state.tenants)
    (rows : other.apiKeys.rows.find? (isActive keyHash) = state.apiKeys.rows.find? (isActive keyHash)) :
    other.lookup keyHash = state.lookup keyHash := by
  change ((other.apiKeys.rows.find? (isActive keyHash)).bind fun row =>
    (other.tenants row.tenantId).bind _).bind _ = _
  rw [rows, tenants]
  rfl

theorem exists_active_of_lookup {principal : AuthenticatedPrincipal}
    (found : state.lookup keyHash = some principal) :
    ∃ row, state.apiKeys.rows.find? (isActive keyHash) = some row := by
  obtain ⟨record, loaded, -⟩ := Option.bind_eq_some_iff.mp found
  obtain ⟨row, active, -⟩ := Option.bind_eq_some_iff.mp loaded
  exact ⟨row, active⟩

/-- A new row changes no lookup that found one. -/
theorem lookup_insert {apiKeys : ApiKeys} (inserted : state.apiKeys.insert row = some apiKeys)
    {principal : AuthenticatedPrincipal} (found : state.lookup keyHash = some principal) :
    ({ state with apiKeys } : State).lookup keyHash = some principal := by
  obtain ⟨active, first⟩ := exists_active_of_lookup found
  rw [← found]
  refine lookup_congr rfl ?_
  rw [(Table.insert_eq_some_iff.mp inserted).2, List.find?_append, first]
  rfl

theorem conflicts_comm (first second : ApiKeyModel) : first.conflicts second = second.conflicts first := by
  simp only [ApiKeyModel.conflicts, eq_comm]

theorem eq_of_getById (read : ApiKeyRepository.getById table record.id = some record)
    (member : row ∈ table.rows) (same : row.id = record.id) : row = record :=
  table.eq_of_conflicts conflicts_comm member (List.mem_of_find?_eq_some read)
    (by simp [ApiKeyModel.conflicts, same])

/-- A revocation changes the lookup of no other hash. -/
theorem find?_revoke (read : ApiKeyRepository.getById table record.id = some record)
    (other : record.keyHash ≠ keyHash) (now : ℕ) :
    (ApiKeyRepository.revoke table record.id now).rows.find? (isActive keyHash) =
      table.rows.find? (isActive keyHash) := by
  rw [← List.head?_filter, ← List.head?_filter, ApiKeyRepository.revoke, Table.filter_update]
  · intro row member
    unfold ApiKeyRepository.revoked
    split
    · rename_i same
      obtain rfl := eq_of_getById read member same
      simp [isActive, other]
    · rfl
  · intro row member active
    unfold ApiKeyRepository.revoked
    split
    · rename_i same
      obtain rfl := eq_of_getById read member same
      simp [isActive, other] at active
    · rfl

end rows

/-- The session's commit keeps one of two sound states, and the first one's rows if it raises. -/
theorem Sound.commit {after : State} (kept : Sound deployment state) (changed : Sound deployment after)
    (outcome : Outcome) (completes : outcome ≠ .raised) (replies : Replies) :
    Sound deployment (state.commit replies outcome after).2 ∧
      ((state.commit replies outcome after).1 = .raised →
        (state.commit replies outcome after).2.lookup = state.lookup) := by
  unfold State.commit
  split
  · exact ⟨changed, fun raised => absurd raised completes⟩
  · exact ⟨kept, fun _ => rfl⟩

theorem Sound.createApiKey (sound : Sound deployment state) (tenantId : Uuid) (keyHash name : String)
    (scopes : List String) (id : Uuid) (replies : Replies) :
    Sound deployment (state.createApiKey tenantId keyHash name scopes id replies).2 := by
  unfold State.createApiKey
  split
  · split
    · exact sound
    · rename_i apiKeys inserted
      have added : Sound deployment { state with apiKeys } :=
        sound.restate fun other principal _ found => lookup_insert inserted found
      exact (sound.commit added (.created id) nofun replies).1
  · exact sound

/-- The entry of the revoked key is gone before its row changes. -/
theorem Sound.revoke (sound : Sound deployment state) {record : ApiKeyModel}
    (read : ApiKeyRepository.getById state.apiKeys record.id = some record) (now : ℕ) :
    Sound deployment { state.delete record.keyHash with
      apiKeys := ApiKeyRepository.revoke state.apiKeys record.id now } := by
  refine (sound.delete record.keyHash).restate fun other principal cached found => ?_
  have different : record.keyHash ≠ other := by
    rintro rfl
    rw [cache_delete, Function.update_self] at cached
    contradiction
  rw [← found]
  exact lookup_congr rfl (find?_revoke read different now)

/-- A revocation that raises leaves every row as it was. -/
theorem Sound.revokeApiKey (sound : Sound deployment state) (apiKeyId : Uuid) (now : ℕ) (replies : Replies) :
    Sound deployment (state.revokeApiKey apiKeyId now replies).2 ∧
      ((state.revokeApiKey apiKeyId now replies).1 = .raised →
        (state.revokeApiKey apiKeyId now replies).2.lookup = state.lookup) := by
  unfold State.revokeApiKey
  split
  · split
    · exact sound.commit sound (.revoked false) nofun replies
    · rename_i record read
      have named := List.find?_some read
      obtain rfl := of_decide_eq_true named
      split
      · exact sound.commit sound (.revoked false) nofun replies
      · split
        · exact (sound.delete record.keyHash).commit (sound.revoke read now) (.revoked true) nofun replies
        · exact ⟨sound, fun _ => rfl⟩
  · exact ⟨sound, fun _ => rfl⟩

/-- A completed `authenticate` returns the principal of the active row with the hash of its key, or nothing
where there is none; and a key is found as before after a revocation that raised, with the cache and
without. -/
def Transparent (deployment : Deployment) (state : State) : Label → Prop
  | .call (.authenticate rawKey) replies => ∀ principal,
      (state.authenticate deployment rawKey replies).1 = .authenticated principal →
        principal = state.uncached deployment rawKey
  | .call (.revokeApiKey apiKeyId now) replies =>
      (state.revokeApiKey apiKeyId now replies).1 = .raised → ∀ rawKey,
        (state.revokeApiKey apiKeyId now replies).2.uncached deployment rawKey =
          state.uncached deployment rawKey ∧
        ∀ again principal,
          ((state.revokeApiKey apiKeyId now replies).2.authenticate deployment rawKey again).1 =
              .authenticated principal →
            principal = state.uncached deployment rawKey
  | _ => True

theorem Sound.step (sound : Sound deployment state) (inverse : deployment.Inverse) {label : Label}
    (stepped : step deployment state label = some next) : Sound deployment next := by
  rcases label with keyHash | ⟨operation, replies⟩
  · obtain rfl := Option.some.inj stepped
    exact sound.delete keyHash
  · obtain rfl := Option.some.inj stepped
    cases operation with
    | createApiKey tenantId keyHash name scopes id =>
      exact sound.createApiKey tenantId keyHash name scopes id replies
    | authenticate rawKey => exact (sound.authenticate inverse rawKey replies).2
    | revokeApiKey apiKeyId now => exact (sound.revokeApiKey apiKeyId now replies).1

theorem Sound.transparent (sound : Sound deployment state) (inverse : deployment.Inverse) (label : Label) :
    Transparent deployment state label := by
  rcases label with keyHash | ⟨operation, replies⟩
  · trivial
  · cases operation with
    | createApiKey => trivial
    | authenticate rawKey => exact (sound.authenticate inverse rawKey replies).1
    | revokeApiKey apiKeyId now =>
      intro raised rawKey
      obtain ⟨kept, unchanged⟩ := sound.revokeApiKey apiKeyId now replies
      have same : (state.revokeApiKey apiKeyId now replies).2.uncached deployment rawKey =
          state.uncached deployment rawKey := by
        rw [State.uncached, State.uncached, unchanged raised]
      refine ⟨same, fun again principal answered => ?_⟩
      exact ((kept.authenticate inverse rawKey again).1 principal answered).trans same

/-- From any keys and an empty cache: whatever operations run one after another, whichever of their commands
and transactions fail and whatever entries expire, nobody can tell that principals are cached. -/
theorem run_transparent (deployment : Deployment) (inverse : deployment.Inverse)
    (tenants : Uuid → Option String) (apiKeys : ApiKeys) (labels : List Label) :
    Along (step deployment) (Transparent deployment) { tenants, apiKeys } labels := by
  have start : Sound deployment { tenants, apiKeys } := Coherent.empty deployment.read _
  exact along_of_invariant (Sound deployment) (fun _ label sound => sound.transparent inverse label)
    (fun _ _ _ sound stepped => sound.step inverse stepped) start labels

section sample

open PyText

/-- The principal of a key with two scopes. -/
def samplePrincipal : AuthenticatedPrincipal where
  tenantId := "00000000-0000-0000-0000-000000000001"
  apiKeyId := "00000000-0000-0000-0000-000000000002"
  tenantStatus := "active"
  scopes := {"embeddings:write", "chat:write"}

def samplePrincipalText : String :=
  "\x7b\"tenant_id\":\"00000000-0000-0000-0000-000000000001\"," ++
    "\"api_key_id\":\"00000000-0000-0000-0000-000000000002\",\"tenant_status\":\"active\"," ++
    "\"scopes\":[\"chat:write\",\"embeddings:write\"],\"rate_limit_per_minute\":null\x7d"

def fieldsOf (principal : AuthenticatedPrincipal) : List String :=
  principal.tenantId :: principal.apiKeyId :: principal.tenantStatus :: sortedScopes principal

/-- The text of the sample as `orjson` writes it, and some other text of every other principal. -/
def textOf (principal : AuthenticatedPrincipal) : String :=
  if principal = samplePrincipal then samplePrincipalText
  else String.ofList (reprList (fun _ => true) ((fieldsOf principal).map String.toList))

theorem fieldsOf_inj {principal other : AuthenticatedPrincipal} (same : fieldsOf principal = fieldsOf other)
    (limit : principal.rateLimitPerMinute = other.rateLimitPerMinute) : principal = other := by
  obtain ⟨tenantId, apiKeyId, tenantStatus, scopes, rateLimit⟩ := principal
  obtain ⟨otherTenantId, otherApiKeyId, otherTenantStatus, otherScopes, otherRateLimit⟩ := other
  simp only [fieldsOf, sortedScopes, List.cons.injEq] at same limit
  obtain ⟨rfl, rfl, rfl, sorted⟩ := same
  have equal : scopes = otherScopes := by
    rw [← scopes.sort_toFinset (· ≤ ·), sorted, Finset.sort_toFinset]
  rw [equal, limit]

theorem textOf_inj {principal other : AuthenticatedPrincipal} (same : textOf principal = textOf other)
    (limit : principal.rateLimitPerMinute = other.rateLimitPerMinute) : principal = other := by
  have bracket (fields : List (List Char)) :
      samplePrincipalText ≠ String.ofList (reprList (fun _ => true) fields) := by
    intro same
    have first : samplePrincipalText.toList.head? = some '[' := by
      rw [same, String.toList_ofList]
      rfl
    exact absurd first (by decide +kernel)
  unfold textOf at same
  split at same
  · split at same
    · rename_i first second
      rw [first, second]
    · exact absurd same (bracket _)
  · split at same
    · exact absurd same.symm (bracket _)
    · have fields := reprList_injective (fun _ => true) (String.ofList_injective same)
      exact fieldsOf_inj (List.map_injective_iff.mpr (fun _ _ => String.toList_injective) fields) limit

/-- The dictionary of the principal with this text. -/
noncomputable def loadsOf (entry : String) : Option Json :=
  open Classical in
  if known : ∃ principal : AuthenticatedPrincipal,
    principal.rateLimitPerMinute = none ∧ textOf principal = entry then
    some (payload known.choose)
  else none

noncomputable def sampleService : Deployment where
  sha256 text :=
    if text = "dev-insecure-pepper-change-mellmops_key" then
      "244ce6d175c805e37afeb874b4fcad8697e729b3da8bf317dc592ba27144529d"
    else text
  dumps data := (principalOf data).toOption.elim "null" textOf
  loads := loadsOf

theorem sampleService_inverse : sampleService.Inverse := by
  intro principal unlimited
  have known : ∃ other : AuthenticatedPrincipal, other.rateLimitPerMinute = none ∧
      textOf other = textOf principal :=
    ⟨principal, unlimited, rfl⟩
  have chosen : known.choose = principal :=
    textOf_inj known.choose_spec.2 (known.choose_spec.1.trans unlimited.symm)
  have dumped : sampleService.dumps (payload principal) = textOf principal := by
    simp only [sampleService, principalOf_payload, Except.toOption, Option.elim]
  rw [dumped]
  have loaded : loadsOf (textOf principal) = some (payload known.choose) := dif_pos known
  exact loaded.trans (congrArg (some ∘ payload) chosen)

/-- A key is created and used, its revocation fails at the cache and then succeeds. -/
theorem sampleService_transparent :
    Along (step sampleService) (Transparent sampleService)
      { tenants := fun _ => some "active", apiKeys := Table.empty }
      [.call (.createApiKey (.ofNat 1) (sampleService.hash "llmops_key") "key"
          ["chat:write", "embeddings:write"] (.ofNat 2)) {},
        .call (.authenticate "llmops_key") {}, .call (.authenticate "llmops_key") { commit := false },
        .call (.revokeApiKey (.ofNat 2) 0) { delete := false },
          .call (.authenticate "llmops_key") { get := false },
        .call (.revokeApiKey (.ofNat 2) 1) {}, .call (.authenticate "llmops_key") {}] :=
  run_transparent sampleService sampleService_inverse _ _ _

end sample

end LlmopsGateway.AuthService
