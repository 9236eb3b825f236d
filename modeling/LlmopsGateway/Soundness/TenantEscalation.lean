import LlmopsGateway.Machine.Run
import LlmopsGateway.Model.Admin
import LlmopsGateway.Soundness.UuidText

/-! # What a tenant's keys can write

A key without the wildcard can only write its own tenant's adapter routes, and a key minted with it
belongs to the same tenant. So as long as no key is minted with the wildcard, every key of the family
stays confined to the tenant. Minting asks for nothing of the kind: the wildcard is even the default.
-/

namespace LlmopsGateway.Admin

open Auth Machine

variable {sha256 : String → String} {settings : Settings} {decimal : Char → Option (Fin 10)}
  {tenant : Uuid} {state next : State} {before : AdapterRoutes}

/-- No adapter route of another tenant has been inserted or changed since `before`. -/
structure OwnRoutesOnly (tenant : Uuid) (before : AdapterRoutes) (state : State) : Prop where
  writes : ∀ written ∈ state.routeWrites, written = tenant
  others : state.adapterRoutes.rows.filter (·.tenantId ≠ tenant) =
    before.rows.filter (·.tenantId ≠ tenant)

/-- The scopes an admitted mint asks for. -/
def Phase.mintScopes? : Phase → Option (List String)
  | admitted _ (.createApiKey payload) => some payload.scopes
  | _ => none

/-- A mint that reaches its handler does not ask for the wildcard. -/
def MintsPlain (state : State) : Label → Prop
  | .handle id _ => ∀ scopes ∈ (state.calls id).mintScopes?, "*" ∉ scopes
  | _ => True

instance (state : State) (label : Label) : Decidable (MintsPlain state label) :=
  match label with
  | .handle id _ => inferInstanceAs (Decidable (∀ scopes ∈ (state.calls id).mintScopes?, "*" ∉ scopes))
  | .expire _ => isTrue trivial
  | .arrive .. => isTrue trivial

def ApiKeyModel.Plain (tenant : Uuid) (row : ApiKeyModel) : Prop := row.tenantId = tenant ∧ "*" ∉ row.scopes

/-- The principal of this row, as far as handlers look at it. -/
structure ApiKeyModel.Describes (row : ApiKeyModel) (principal : AuthenticatedPrincipal) : Prop where
  tenantId : principal.tenantId = row.tenantId.str
  scopes : principal.scopes = row.scopes.toFinset

/-- Cached principals are those of rows. -/
def CacheSound (apiKeys : ApiKeys) (redis : String → Option AuthenticatedPrincipal) : Prop :=
  ∀ keyHash principal, redis keyHash = some principal →
    ∃ row ∈ apiKeys.rows, row.keyHash = keyHash ∧ row.Describes principal

/-- The rows of a raw key are plain rows of the tenant. -/
def PlainKey (sha256 : String → String) (settings : Settings) (tenant : Uuid) (apiKeys : ApiKeys)
    (rawKey : String) : Prop :=
  ∀ row ∈ apiKeys.rows, row.keyHash = hashApiKey sha256 settings rawKey → row.Plain tenant

def PlainPrincipal (tenant : Uuid) (principal : AuthenticatedPrincipal) : Prop :=
  principal.tenantId = tenant.str ∧ "*" ∉ principal.scopes

structure Confined (sha256 : String → String) (settings : Settings) (tenant : Uuid) (before : AdapterRoutes)
    (state : State) : Prop where
  held : ∀ rawKey ∈ state.held, PlainKey sha256 settings tenant state.apiKeys rawKey
  cache : CacheSound state.apiKeys state.redis
  admitted : ∀ id principal endpoint, state.calls id = .admitted principal endpoint →
    PlainPrincipal tenant principal
  routes : OwnRoutesOnly tenant before state

theorem ApiKeyModel.Describes.plain {row : ApiKeyModel} {principal : AuthenticatedPrincipal}
    (describes : row.Describes principal) (plain : row.Plain tenant) : PlainPrincipal tenant principal := by
  constructor
  · rw [describes.tenantId, plain.1]
  · rw [describes.scopes, List.mem_toFinset]
    exact plain.2

theorem parse_str (uuid : Uuid) : Uuid.parse decimal uuid.str.toList = some uuid := by
  rw [Uuid.str, String.toList_ofList]
  exact uuid.parse_text

theorem str_injective {left right : Uuid} (same : left.str = right.str) : left = right := by
  have texts := congrArg String.toList same
  rw [Uuid.str, Uuid.str, String.toList_ofList, String.toList_ofList] at texts
  exact Uuid.text_injective texts

/-- What the database returns for a digest is one of its rows. -/
theorem exists_row_of_load {apiKeys : ApiKeys} {tenants : Uuid → Option String} {keyHash : String}
    {principal : AuthenticatedPrincipal}
    (loaded : (ApiKeyRepository.getActiveByKeyHash apiKeys tenants keyHash).bind ApiKeyRecord.principal? =
      some principal) :
    ∃ row ∈ apiKeys.rows, row.keyHash = keyHash ∧ row.Describes principal := by
  obtain ⟨record, found, read⟩ := Option.bind_eq_some_iff.mp loaded
  simp only [ApiKeyRepository.getActiveByKeyHash, Option.bind_eq_bind, Option.bind_eq_some_iff,
    Option.some.injEq] at found
  obtain ⟨row, hit, status, -, rfl⟩ := found
  have matched := List.find?_some hit
  simp only [Bool.and_eq_true, decide_eq_true_eq, Option.isNone_iff_eq_none] at matched
  refine ⟨row, List.mem_of_find?_eq_some hit, matched.1, ?_⟩
  simp only [ApiKeyRecord.principal?, matched.2, Option.some.injEq] at read
  subst read
  exact ⟨rfl, rfl⟩

/-- `authenticate` returns the principal of a row of the key, and keeps the cache sound. -/
theorem authenticate_sound (cache : CacheSound state.apiKeys state.redis) {rawKey : String} {draw : Draw}
    {found : Option AuthenticatedPrincipal} {redis : String → Option AuthenticatedPrincipal}
    (authenticated : authenticate sha256 settings state draw rawKey = some (found, redis)) :
    CacheSound state.apiKeys redis ∧ ∀ principal ∈ found,
      ∃ row ∈ state.apiKeys.rows, row.keyHash = hashApiKey sha256 settings rawKey ∧
        row.Describes principal := by
  unfold Admin.authenticate at authenticated
  split at authenticated
  · dsimp only at authenticated
    split at authenticated
    · rename_i cached hit
      obtain ⟨rfl, rfl⟩ := Prod.mk.inj (Option.some.inj authenticated)
      refine ⟨cache, fun principal member => ?_⟩
      obtain rfl := Option.mem_some.mp member
      split at hit
      · exact cache _ _ hit
      · contradiction
    · split at authenticated
      · split at authenticated
        · obtain ⟨rfl, rfl⟩ := Prod.mk.inj (Option.some.inj authenticated)
          exact ⟨cache, nofun⟩
        · rename_i principal loaded
          obtain ⟨rfl, rfl⟩ := Prod.mk.inj (Option.some.inj authenticated)
          have described := exists_row_of_load loaded
          refine ⟨?_, fun other member => Option.mem_some.mp member ▸ described⟩
          split
          · intro keyHash other present
            by_cases same : keyHash = hashApiKey sha256 settings rawKey
            · subst same
              rw [Function.update_self] at present
              exact Option.some.inj present ▸ described
            · rw [Function.update_of_ne same] at present
              exact cache keyHash other present
          · exact cache
      · contradiction
  · obtain ⟨rfl, rfl⟩ := Prod.mk.inj (Option.some.inj authenticated)
    exact ⟨cache, nofun⟩

theorem authorize_eq_ok {path method : String} {principal passed : AuthenticatedPrincipal}
    (authorized : authorize path method principal = .ok passed) : passed = principal := by
  unfold authorize at authorized
  split at authorized
  · contradiction
  · split at authorized
    · exact (Except.ok.inj authorized).symm
    · split at authorized
      · exact (Except.ok.inj authorized).symm
      · contradiction

/-- With keys required, the principal attached to a request is the authenticated one. -/
theorem authMiddleware_eq_some {path method rawKey : String} {found : Option AuthenticatedPrincipal}
    {principal : AuthenticatedPrincipal}
    (attached : authMiddleware {} path method (some rawKey) (fun _ => found) = .ok (some principal)) :
    found = some principal := by
  unfold authMiddleware at attached
  rw [if_neg (by simp : ¬ ({} : MiddlewareSettings).authRequireApiKey = false)] at attached
  split at attached
  · simp at attached
  · split at attached
    · contradiction
    · split at attached
      · contradiction
      · rename_i other hit
        cases authorized : authorize path method other with
        | error error => simp [authorized, Except.map] at attached
        | ok passed =>
          obtain rfl : passed = principal := by simpa [authorized, Except.map] using attached
          rw [authorize_eq_ok authorized]
          exact hit

/-- A call may go anywhere where a plain principal takes it. -/
theorem Confined.goto (confined : Confined sha256 settings tenant before state) (id : ℕ) {phase : Phase}
    (plain : ∀ principal endpoint, phase = .admitted principal endpoint → PlainPrincipal tenant principal) :
    Confined sha256 settings tenant before (state.goto id phase) := by
  refine ⟨confined.held, confined.cache, ?_, confined.routes.writes, confined.routes.others⟩
  exact (Function.forall_update_iff state.calls fun _ call => ∀ principal endpoint,
    call = .admitted principal endpoint → PlainPrincipal tenant principal).mpr
      ⟨plain, fun other _ => confined.admitted other⟩

theorem Confined.answer (confined : Confined sha256 settings tenant before state) (id : ℕ) (answer : Answer) :
    Confined sha256 settings tenant before (state.answer id answer) :=
  confined.goto id nofun

theorem Confined.withRedis (confined : Confined sha256 settings tenant before state)
    {redis : String → Option AuthenticatedPrincipal} (sound : CacheSound state.apiKeys redis) :
    Confined sha256 settings tenant before { state with redis } :=
  ⟨confined.held, sound, confined.admitted, confined.routes.writes, confined.routes.others⟩

theorem cacheSound_empty {apiKeys : ApiKeys} : CacheSound apiKeys fun _ => none :=
  fun _ _ present => nomatch present

theorem CacheSound.remove {apiKeys : ApiKeys} {redis : String → Option AuthenticatedPrincipal}
    (cache : CacheSound apiKeys redis) (keyHash : String) :
    CacheSound apiKeys (Function.update redis keyHash none) := by
  intro other principal present
  by_cases same : other = keyHash
  · subst same
    rw [Function.update_self] at present
    contradiction
  · rw [Function.update_of_ne same] at present
    exact cache other principal present

theorem Confined.arrive (confined : Confined sha256 settings tenant before state) {id : ℕ} {call : Call}
    {draw : Draw} (holds : call.rawKey ∈ state.held) :
    Confined sha256 settings tenant before (arrive sha256 settings state id call draw) := by
  unfold Admin.arrive
  split
  · exact confined.answer id internalError
  · rename_i found redis authenticated
    obtain ⟨sound, described⟩ := authenticate_sound confined.cache authenticated
    have cached := confined.withRedis sound
    dsimp only
    split
    · exact cached.answer id _
    · exact cached.answer id _
    · rename_i principal admitted
      split
      · obtain ⟨row, member, hash, describes⟩ := described principal (authMiddleware_eq_some admitted)
        have plain := describes.plain (confined.held call.rawKey holds row member hash)
        refine cached.goto id fun other endpoint same => ?_
        obtain ⟨rfl, -⟩ := Phase.admitted.inj same
        exact plain
      · exact cached.answer id _

/-- A plain key minted by a plain principal belongs to the tenant. -/
theorem Confined.createApiKey (confined : Confined sha256 settings tenant before state) {id : ℕ}
    {principal : AuthenticatedPrincipal} (own : PlainPrincipal tenant principal)
    {payload : CreateApiKeyRequest} (plain : "*" ∉ payload.scopes) (draw : Draw) :
    Confined sha256 settings tenant before
      (createApiKey sha256 settings decimal state id principal payload draw) := by
  simp only [Admin.createApiKey, own.1, parse_str]
  split
  · exact confined.answer id internalError
  · split
    · exact confined.answer id internalError
    · rename_i apiKeys inserted
      obtain ⟨fresh, rows⟩ := Table.insert_eq_some_iff.mp inserted
      apply Confined.answer
      refine ⟨fun rawKey holds row member hash => ?_, ?_, confined.admitted, confined.routes.writes,
        confined.routes.others⟩
      · rw [rows, List.mem_append, List.mem_singleton] at member
        rcases member with old | rfl
        · rcases List.mem_cons.mp holds with rfl | holds
          · have apart := fresh row old
            simp [ApiKeyModel.conflicts, hash] at apart
          · exact confined.held rawKey holds row old hash
        · exact ⟨rfl, plain⟩
      · intro keyHash cached present
        obtain ⟨row, member, described⟩ := confined.cache keyHash cached present
        exact ⟨row, by rw [rows]; exact List.mem_append_left _ member, described⟩

/-- A revocation leaves the columns that decide who a key is. -/
theorem revoked_columns (apiKeyId : Uuid) (now : ℕ) (row : ApiKeyModel) :
    (ApiKeyRepository.revoked apiKeyId now row).keyHash = row.keyHash ∧
      (ApiKeyRepository.revoked apiKeyId now row).tenantId = row.tenantId ∧
      (ApiKeyRepository.revoked apiKeyId now row).scopes = row.scopes := by
  unfold ApiKeyRepository.revoked
  split <;> exact ⟨rfl, rfl, rfl⟩

theorem Confined.revokeApiKey (confined : Confined sha256 settings tenant before state) (id : ℕ)
    (principal : AuthenticatedPrincipal) (apiKeyId : Uuid) (draw : Draw) :
    Confined sha256 settings tenant before (revokeApiKey state id principal apiKeyId draw) := by
  unfold Admin.revokeApiKey
  split
  · exact confined.answer id _
  · rename_i record _
    split
    · exact confined.answer id _
    · split
      · exact confined.answer id _
      · split
        · apply Confined.answer
          refine ⟨fun rawKey holds row member hash => ?_, ?_, confined.admitted, confined.routes.writes,
            confined.routes.others⟩
          · obtain ⟨old, there, rfl⟩ := List.mem_map.mp member
            obtain ⟨hash', owner, scopes⟩ := revoked_columns apiKeyId draw.now old
            have plain := confined.held rawKey holds old there (hash'.symm.trans hash)
            exact ⟨owner.trans plain.1, scopes ▸ plain.2⟩
          · have sound : CacheSound (ApiKeyRepository.revoke state.apiKeys apiKeyId draw.now) state.redis := by
              intro keyHash cached present
              obtain ⟨row, member, hash, describes⟩ := confined.cache keyHash cached present
              obtain ⟨hash', owner, scopes⟩ := revoked_columns apiKeyId draw.now row
              exact ⟨_, List.mem_map_of_mem member, hash'.trans hash,
                describes.tenantId.trans (congrArg Uuid.str owner.symm), by rw [describes.scopes, scopes]⟩
            exact sound.remove record.keyHash
        · exact confined.answer id _

/-- An update of one row of a tenant is no change to the rows of the others. -/
theorem filter_flush {table : AdapterRoutes} {existing : AdapterRouteModel} (there : existing ∈ table.rows)
    (assignment : AdapterRouteRepository.Assignment) :
    (AdapterRouteRepository.flush table existing assignment).rows.filter (·.tenantId ≠ existing.tenantId) =
      table.rows.filter (·.tenantId ≠ existing.tenantId) := by
  apply Table.filter_update
  · intro row _
    unfold AdapterRouteRepository.assignTo
    split <;> rfl
  · intro row member other
    refine if_neg fun sameId => of_decide_eq_true other ?_
    have one := table.eq_of_conflicts AdapterRouteModel.conflicts_comm member there
      (by simp [AdapterRouteModel.conflicts, sameId])
    rw [one]

theorem mem_of_getByUnique {table : AdapterRoutes} {tenant : Uuid} {modelAlias stage : String}
    {row : AdapterRouteModel}
    (found : AdapterRouteRepository.getByUnique table tenant modelAlias stage = some row) :
    row ∈ table.rows ∧ row.tenantId = tenant := by
  unfold AdapterRouteRepository.getByUnique at found
  have key : row.key = (tenant, modelAlias, stage) := by simpa using List.find?_some found
  exact ⟨List.mem_of_find?_eq_some found, congrArg Prod.fst key⟩

theorem filter_upsert {table next : AdapterRoutes} {id tenant : Uuid}
    {modelAlias baseModel adapterId stage : String}
    {enabled : Bool} {canaryPercent : ℤ} {row : AdapterRouteModel}
    (upserted : AdapterRouteRepository.upsert table id tenant modelAlias baseModel adapterId stage enabled
      canaryPercent = some (row, next)) :
    next.rows.filter (·.tenantId ≠ tenant) = table.rows.filter (·.tenantId ≠ tenant) := by
  unfold AdapterRouteRepository.upsert at upserted
  split at upserted
  · rename_i existing found
    obtain ⟨there, rfl⟩ := mem_of_getByUnique found
    obtain ⟨-, rfl⟩ := Prod.mk.inj (Option.some.inj upserted)
    exact filter_flush there _
  · obtain ⟨inserted, insertion, same⟩ := Option.map_eq_some_iff.mp upserted
    obtain ⟨-, rfl⟩ := Prod.mk.inj same
    rw [(Table.insert_eq_some_iff.mp insertion).2, List.filter_append]
    simp

theorem filter_disable {table next : AdapterRoutes} {tenant : Uuid} {modelAlias stage : String}
    {row : AdapterRouteModel}
    (disabled : AdapterRouteRepository.disable table tenant modelAlias stage = some (row, next)) :
    next.rows.filter (·.tenantId ≠ tenant) = table.rows.filter (·.tenantId ≠ tenant) := by
  obtain ⟨existing, found, same⟩ := Option.map_eq_some_iff.mp disabled
  obtain ⟨there, rfl⟩ := mem_of_getByUnique found
  obtain ⟨-, rfl⟩ := Prod.mk.inj same
  exact filter_flush there _

/-- A write to the tenant's own routes. -/
theorem Confined.write (confined : Confined sha256 settings tenant before state) {adapterRoutes : AdapterRoutes}
    (others : adapterRoutes.rows.filter (·.tenantId ≠ tenant) =
      state.adapterRoutes.rows.filter (·.tenantId ≠ tenant)) :
    Confined sha256 settings tenant before
      { state with adapterRoutes, routeWrites := tenant :: state.routeWrites } where
  held := confined.held
  cache := confined.cache
  admitted := confined.admitted
  routes.writes := List.forall_mem_cons.mpr ⟨rfl, confined.routes.writes⟩
  routes.others := others.trans confined.routes.others

/-- Without the wildcard only the principal's own tenant passes the check. -/
theorem Confined.upsertAdapterRoute (confined : Confined sha256 settings tenant before state) (id : ℕ)
    {principal : AuthenticatedPrincipal} (own : PlainPrincipal tenant principal)
    (payload : UpsertAdapterRouteRequest) (draw : Draw) :
    Confined sha256 settings tenant before
      (upsertAdapterRoute decimal state id principal payload draw) := by
  unfold Admin.upsertAdapterRoute
  split
  · exact confined.answer id _
  · rename_i target _
    split
    · exact confined.answer id _
    · rename_i passes
      obtain rfl : target = tenant := by
        by_contra other
        exact passes ⟨own.2, fun same => other (str_injective (same.trans own.1))⟩
      split
      · exact confined.answer id _
      · split
        · exact confined.answer id _
        · rename_i row adapterRoutes upserted
          exact (confined.write (filter_upsert upserted)).answer id _

theorem Confined.disableAdapterRoute (confined : Confined sha256 settings tenant before state) (id : ℕ)
    {principal : AuthenticatedPrincipal} (own : PlainPrincipal tenant principal) (modelAlias stage : String) :
    Confined sha256 settings tenant before
      (disableAdapterRoute decimal state id principal modelAlias stage) := by
  simp only [Admin.disableAdapterRoute, own.1, parse_str]
  split
  · exact confined.answer id _
  · rename_i row adapterRoutes disabled
    exact (confined.write (filter_disable disabled)).answer id _

theorem Confined.step (confined : Confined sha256 settings tenant before state) {label : Label}
    (plain : MintsPlain state label) (stepped : step sha256 settings decimal state label = some next) :
    Confined sha256 settings tenant before next := by
  cases label with
  | expire keyHash =>
    obtain rfl := Option.some.inj stepped
    exact confined.withRedis (confined.cache.remove keyHash)
  | arrive id call draw =>
    simp only [Admin.step] at stepped
    split at stepped
    · split at stepped
      · rename_i holds
        obtain rfl := Option.some.inj stepped
        exact confined.arrive holds
      · contradiction
    · contradiction
  | handle id draw =>
    simp only [Admin.step] at stepped
    split at stepped
    · rename_i principal endpoint phase
      obtain rfl := Option.some.inj stepped
      have own := confined.admitted id principal endpoint phase
      unfold handle
      split
      · cases endpoint with
        | createApiKey payload => exact confined.createApiKey own (plain payload.scopes (by rw [phase]; rfl)) draw
        | revokeApiKey apiKeyId => exact confined.revokeApiKey id principal apiKeyId draw
        | upsertAdapterRoute payload => exact confined.upsertAdapterRoute id own payload draw
        | disableAdapterRoute modelAlias stage => exact confined.disableAdapterRoute id own modelAlias stage
      · exact confined.answer id _
    · contradiction

/-- The start of a run: one raw key, sound stores and nothing called yet. -/
def State.initial (tenants : Uuid → Option String) (apiKeys : ApiKeys) (adapterRoutes : AdapterRoutes)
    (redis : String → Option AuthenticatedPrincipal) (rawKey : String) : State :=
  { tenants, apiKeys, adapterRoutes, redis, held := [rawKey] }

/-- For every plain key of a tenant and every run of calls with it and the keys minted from it: as long as
no mint asks for the wildcard, no adapter route of another tenant is ever inserted or changed. -/
theorem run_ownRoutesOnly (tenants : Uuid → Option String) {apiKeys : ApiKeys} (adapterRoutes : AdapterRoutes)
    {redis : String → Option AuthenticatedPrincipal} {rawKey : String} {labels : List Label} {final : State}
    (plain : PlainKey sha256 settings tenant apiKeys rawKey) (cache : CacheSound apiKeys redis)
    (mints : Along (step sha256 settings decimal) MintsPlain
      (.initial tenants apiKeys adapterRoutes redis rawKey) labels)
    (ran : run? (step sha256 settings decimal) (.initial tenants apiKeys adapterRoutes redis rawKey) labels =
      some final) : OwnRoutesOnly tenant adapterRoutes final := by
  have start : Confined sha256 settings tenant adapterRoutes
      (.initial tenants apiKeys adapterRoutes redis rawKey) :=
    ⟨fun held member => List.mem_singleton.mp member ▸ plain, cache, nofun, nofun, rfl⟩
  exact (run_invariant MintsPlain _ (fun _ _ _ confined plain stepped => confined.step plain stepped)
    start mints ran).routes

/-- Two tenants, and a key of the first that may write admin data but holds no wildcard. Digests are taken
to be the payloads themselves. -/
def acme : Uuid := .ofNat 1
def globex : Uuid := .ofNat 2

def sampleTenants : Uuid → Option String := fun tenant =>
  if tenant = acme ∨ tenant = globex then some "active" else none

def adminKey : String := "llmops_admin"

def adminRow : ApiKeyModel := ⟨acme, acme, hashApiKey id {} adminKey, "admin", ["admin:write"], none⟩

def sampleInitial : State :=
  .initial sampleTenants ⟨[adminRow], List.pairwise_singleton ..⟩ Table.empty (fun _ => none) adminKey

theorem adminKey_plain : PlainKey id {} acme sampleInitial.apiKeys adminKey := by
  intro row member _
  obtain rfl := List.mem_singleton.mp member
  exact ⟨rfl, by decide⟩

def routeOf (tenant : Uuid) : UpsertAdapterRouteRequest :=
  { modelAlias := "support", baseModel := "llama", adapterId := "support-v2", tenantId := some tenant.str }

/-- The key mints another for chats, and writes a route of its own tenant. -/
def mintAndUpsert : List Label :=
  [.arrive 0 ⟨adminKey, "/v1/admin/api-keys", .createApiKey ⟨"chat", ["chat:write"]⟩⟩ {},
    .handle 0 { id := globex, token := "chat" },
    .arrive 1 ⟨adminKey, "/v1/admin/adapter-routes", .upsertAdapterRoute (routeOf acme)⟩ {},
    .handle 1 { id := acme }]

theorem run_mintAndUpsert : ∃ final, run? (step id {} fun _ => none) sampleInitial mintAndUpsert = some final ∧
    OwnRoutesOnly acme Table.empty final := by
  have isSome : (run? (step id {} fun _ => none) sampleInitial mintAndUpsert).isSome = true := by decide
  obtain ⟨final, ran⟩ := Option.isSome_iff_exists.mp isSome
  have mints : Along (step id {} fun _ => none) MintsPlain sampleInitial mintAndUpsert := by decide
  exact ⟨final, ran, run_ownRoutesOnly sampleTenants Table.empty adminKey_plain cacheSound_empty mints ran⟩

/-- The key mints another with the default scopes, which writes a route of the other tenant. -/
def mintAndEscalate : List Label :=
  [.arrive 0 ⟨adminKey, "/v1/admin/api-keys", .createApiKey { name := "any" }⟩ {},
    .handle 0 { id := globex, token := "any" },
    .arrive 1 ⟨"llmops_any", "/v1/admin/adapter-routes", .upsertAdapterRoute (routeOf globex)⟩ {},
    .handle 1 { id := acme }]

theorem run_mintAndEscalate : PlainKey id {} acme sampleInitial.apiKeys adminKey ∧
    CacheSound sampleInitial.apiKeys sampleInitial.redis ∧
    ∃ final, run? (step id {} fun _ => none) sampleInitial mintAndEscalate = some final ∧
      ¬ OwnRoutesOnly acme Table.empty final := by
  have writes : (run? (step id {} fun _ => none) sampleInitial mintAndEscalate).map State.routeWrites =
      some [globex] := by decide
  obtain ⟨final, ran, written⟩ := Option.map_eq_some_iff.mp writes
  refine ⟨adminKey_plain, cacheSound_empty, final, ran, fun own => ?_⟩
  have same := own.writes globex (by rw [written]; exact List.mem_singleton_self globex)
  exact absurd same (by decide)

end LlmopsGateway.Admin
