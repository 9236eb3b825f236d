import LlmopsGateway.Model.Middleware
import LlmopsGateway.Soundness.PrincipalCaching
import LlmopsGateway.Soundness.SequentialBucket

/-! # Who reaches the endpoints

The chain of middleware decides like a list of checks: is the path exempt, whose key is in the header, is
its tenant active, does it have a scope of the route, has the tenant a token left. The first check that
fails gives the status of the answer, and only a request that passes them all is charged.
-/

namespace LlmopsGateway.AuthService

open Auth Admin

variable {deployment : Deployment} {state : State}

/-- Whom a key authenticates: the principal that can be read in the cache, or else that of the active row. -/
def State.principalFor (deployment : Deployment) (state : State) (rawKey : String) :
    Option AuthenticatedPrincipal :=
  if isValidApiKeyFormat rawKey then
    let keyHash := deployment.hash rawKey
    ((state.cache keyHash).bind deployment.read).or (state.lookup keyHash)
  else none

theorem getCached_answered (deployment : Deployment) (state : State) (keyHash : String) :
    ∃ kept, state.getCached deployment keyHash {} = (some ((state.cache keyHash).bind deployment.read), kept) ∧
      kept.lookup = state.lookup := by
  unfold State.getCached State.cache
  cases state.redis (cacheKey keyHash) with
  | none => exact ⟨state, rfl, rfl⟩
  | some entry =>
    simp only [if_true, Option.bind_some]
    cases deployment.read entry with
    | none => exact ⟨state.delete keyHash, rfl, rfl⟩
    | some principal => exact ⟨state, rfl, rfl⟩

/-- With both stores answering, whatever they hold. -/
theorem authenticate_answered (deployment : Deployment) (state : State) (rawKey : String) :
    ∃ keys, state.authenticate deployment rawKey {} =
      (.authenticated (state.principalFor deployment rawKey), keys) := by
  unfold State.authenticate State.principalFor
  split
  · obtain ⟨kept, cached, same⟩ := getCached_answered deployment state (deployment.hash rawKey)
    dsimp only
    rw [cached]
    cases (state.cache (deployment.hash rawKey)).bind deployment.read with
    | some principal => exact ⟨kept, rfl⟩
    | none =>
      have loaded : kept.loadFromDatabase (deployment.hash rawKey) {} =
          some (state.lookup (deployment.hash rawKey)) := by
        rw [← same]
        rfl
      dsimp only
      rw [loaded]
      cases state.lookup (deployment.hash rawKey) with
      | none => exact ⟨kept, rfl⟩
      | some principal => exact ⟨_, rfl⟩
  · exact ⟨state, rfl⟩

/-- A principal of a row names its tenant. -/
theorem tenantId_ne_of_lookup {keyHash : String} {principal : AuthenticatedPrincipal}
    (found : state.lookup keyHash = some principal) : principal.tenantId ≠ "" := by
  obtain ⟨record, loaded, made⟩ := Option.bind_eq_some_iff.mp found
  obtain ⟨row, -, joined⟩ := Option.bind_eq_some_iff.mp loaded
  obtain ⟨status, -, built⟩ := Option.bind_eq_some_iff.mp joined
  obtain rfl := Option.some.inj built
  unfold ApiKeyRecord.principal? at made
  split at made
  · contradiction
  · obtain rfl := Option.some.inj made
    intro nameless
    have letters : row.tenantId.text = [] := String.ofList_injective nameless
    simp [Uuid.text] at letters

/-- Where the cache is that of the rows, a key authenticates as its row says. -/
theorem Sound.principalFor_eq (sound : Sound deployment state) (rawKey : String) :
    state.principalFor deployment rawKey = state.uncached deployment rawKey := by
  unfold State.principalFor State.uncached
  split_ifs
  · dsimp only
    cases hit : (state.cache (deployment.hash rawKey)).bind deployment.read with
    | none => rfl
    | some principal =>
      obtain ⟨entry, cached, read⟩ := Option.bind_eq_some_iff.mp hit
      exact (sound.hit cached read).symm
  · rfl

theorem Sound.exists_lookup (sound : Sound deployment state) {rawKey : String}
    {principal : AuthenticatedPrincipal}
    (known : state.principalFor deployment rawKey = some principal) :
    ∃ keyHash, state.lookup keyHash = some principal := by
  rw [sound.principalFor_eq, State.uncached] at known
  split_ifs at known
  exact ⟨_, known⟩

end LlmopsGateway.AuthService

namespace LlmopsGateway.Scopes

variable {path method : String} {scopes : Finset String}

/-- A principal with these scopes may make a request: it has every scope, or one of those of the entry of
the route. -/
def Scoped (path method : String) (scopes : Finset String) : Prop := ∀ route ∈ routeScopes,
  route.covers path method = true → "*" ∈ scopes ∨ ∃ scope ∈ route.scopes, scope ∈ scopes

instance : Decidable (Scoped path method scopes) :=
  inferInstanceAs (Decidable (∀ route ∈ routeScopes, _ → _))

theorem prefix_of_covers {route : Route} (covered : route.covers path method = true) :
    upper method = route.method ∧ route.base.toList <+: path.toList := by
  unfold Route.covers at covered
  rw [Bool.and_eq_true, decide_eq_true_eq, Bool.or_eq_true, decide_eq_true_eq] at covered
  refine ⟨covered.1, covered.2.elim ?_ fun below => ?_⟩
  · rintro rfl
    exact List.prefix_rfl
  · have longer := List.isPrefixOf_iff_prefix.mp below
    rw [String.toList_append] at longer
    exact (List.prefix_append _ _).trans longer

/-- No path is below two entries of a method, so their order does not matter. -/
theorem eq_of_covers {first second : Route} (here : first ∈ routeScopes) (there : second ∈ routeScopes)
    (covered : first.covers path method = true) (again : second.covers path method = true) :
    first.scopes = second.scopes := by
  obtain ⟨method, before⟩ := prefix_of_covers covered
  obtain ⟨same, other⟩ := prefix_of_covers again
  have apart : ∀ first ∈ routeScopes, ∀ second ∈ routeScopes, first.method = second.method →
      first.base.toList <+: second.base.toList → first.scopes = second.scopes := by decide +kernel
  rcases List.prefix_or_prefix_of_prefix before other with shorter | longer
  · exact apart first here second there (method.symm.trans same) shorter
  · exact (apart second there first here (same.symm.trans method) longer).symm

theorem principalHasAnyScope_iff {required : List String} :
    principalHasAnyScope scopes required = true ↔ "*" ∈ scopes ∨ ∃ scope ∈ required, scope ∈ scopes := by
  simp [principalHasAnyScope]

/-- The loop over the table stops at the entry of the route. -/
theorem scoped_iff : Scoped path method scopes ↔
    ∀ required, requiredScopesForRequest path method = some required →
      principalHasAnyScope scopes required = true := by
  unfold requiredScopesForRequest
  constructor
  · intro allowed required found
    obtain ⟨route, matched, rfl⟩ := Option.map_eq_some_iff.mp found
    have covered := List.find?_some matched
    exact principalHasAnyScope_iff.mpr (allowed route (List.mem_of_find?_eq_some matched) covered)
  · intro checked route member covered
    cases matched : routeScopes.find? (·.covers path method) with
    | none => exact absurd covered (List.find?_eq_none.mp matched route member)
    | some first =>
      have also := List.find?_some matched
      rw [eq_of_covers member (List.mem_of_find?_eq_some matched) covered also]
      exact principalHasAnyScope_iff.mp (checked first.scopes (by rw [matched]; rfl))

end LlmopsGateway.Scopes

namespace LlmopsGateway.RateLimit

variable {round : ℚ → ℚ} {service : RateLimitService} {limit nowMs : ℕ} {stored : Option StoredBucket}
  {limitPerMinute : Option ℤ}

/-- The tokens a tenant's key is worth by now. -/
def tokensLeft (round : ℚ → ℚ) (limit nowMs : ℕ) (stored : Option StoredBucket) : ℚ :=
  refilledFloat round limit nowMs ((live nowMs stored).map (·.toBucket))

/-- The key after a token has been taken. -/
def charged (round : ℚ → ℚ) (limit nowMs : ℕ) (stored : Option StoredBucket) : StoredBucket where
  tokens := round (tokensLeft round limit nowMs stored - 1)
  lastRefillMs := nowMs
  expiresAt := nowMs + ttlMsFloat round limit

/-- A limit of its own counts unless it is zero. -/
theorem limit?_of_enabled (enabled : service.enabled = true) (positive : 0 < service.defaultLimitPerMinute)
    (nonneg : ∀ limit ∈ limitPerMinute, 0 ≤ limit) :
    ∃ limit, service.limit? limitPerMinute = some limit := by
  have metered {limit : ℤ} (positive : 0 < limit) : ¬ (!service.enabled || decide (limit ≤ 0)) = true := by
    rw [enabled, Bool.not_true, Bool.false_or, decide_eq_true_eq]
    exact not_le.mpr positive
  cases limitPerMinute with
  | none => exact ⟨_, if_neg (metered positive)⟩
  | some requested =>
    have given : 0 < if requested = 0 then service.defaultLimitPerMinute else requested := by
      split_ifs with zero
      · exact positive
      · exact lt_of_le_of_ne (nonneg requested rfl) (Ne.symm zero)
    exact ⟨_, if_neg (metered given)⟩

theorem checkAndIncrement_admitted (metered : service.limit? limitPerMinute = some limit)
    (token : 1 ≤ tokensLeft round limit nowMs stored) :
    checkAndIncrementFloat round service limitPerMinute 1 nowMs stored =
      (.ok (), some (charged round limit nowMs stored)) := by
  have consumed : consumeTokenFloat round limit 1 nowMs stored = (charged round limit nowMs stored, none) :=
    if_neg (not_lt.mpr token)
  simp only [checkAndIncrementFloat, metered, consumed]

theorem checkAndIncrement_denied (metered : service.limit? limitPerMinute = some limit)
    (short : ¬ 1 ≤ tokensLeft round limit nowMs stored) :
    ∃ wait written, checkAndIncrementFloat round service limitPerMinute 1 nowMs stored =
      (.error wait, some written) := by
  obtain ⟨written, retryAfter, consumed⟩ : ∃ written retryAfter,
      consumeTokenFloat round limit 1 nowMs stored = (written, some retryAfter) :=
    ⟨_, _, if_pos (not_le.mp short)⟩
  refine ⟨max retryAfter (round (1 / 1000)), written, ?_⟩
  simp only [checkAndIncrementFloat, metered, consumed]

end LlmopsGateway.RateLimit

namespace LlmopsGateway

open Auth

/-- `authorize` lets a principal of an active tenant with a scope of the route pass; all else is forbidden. -/
theorem authorize_spec (path method : String) (principal : AuthenticatedPrincipal) :
    (authorize path method principal = .ok principal ∧ principal.tenantStatus = "active" ∧
        Scopes.Scoped path method principal.scopes) ∨
      ∃ error, authorize path method principal = .error error ∧ error.status = 403 ∧
        ¬ (principal.tenantStatus = "active" ∧ Scopes.Scoped path method principal.scopes) := by
  rw [Scopes.scoped_iff]
  unfold authorize
  split
  · rename_i inactive
    exact .inr ⟨_, rfl, rfl, fun permitted => inactive permitted.1⟩
  · rename_i active
    cases found : Scopes.requiredScopesForRequest path method with
    | none => exact .inl ⟨rfl, not_not.mp active, nofun⟩
    | some required =>
      by_cases has : Scopes.principalHasAnyScope principal.scopes required = true
      · refine .inl ⟨if_pos has, not_not.mp active, ?_⟩
        rintro other same
        obtain rfl := Option.some.inj same
        exact has
      · exact .inr ⟨_, if_neg has, rfl, fun permitted => has (permitted.2 required rfl)⟩

end LlmopsGateway

namespace LlmopsGateway.Middleware

open Auth AuthService RateLimit Scopes

variable {deployment : Deployment} {request : Request} {stores : Stores} {path : String}

section policy

variable (deployment request stores)

/-- The principal that the key in the header authenticates. -/
def credential : Option AuthenticatedPrincipal :=
  (request.header deployment.settings.apiKeyHeaderName).bind (stores.keys.principalFor deployment.auth)

variable (principal : AuthenticatedPrincipal)

/-- The key of the principal's tenant. A principal of a row names its tenant. -/
def bucketKey (principal : AuthenticatedPrincipal) : String :=
  rateLimitKey (((some principal.tenantId).filter (· ≠ "")).getD defaultTenantId)

def Deployment.limitFor : ℕ := (deployment.rateLimit.limit? principal.rateLimitPerMinute).getD 0

/-- The call of the rate limiter for a principal. -/
def checked : Except ℚ Unit × Option StoredBucket :=
  checkAndIncrementFloat deployment.round deployment.rateLimit principal.rateLimitPerMinute 1 request.nowMs
    (stores.buckets (bucketKey principal))

/-- The principal's tenant has a token left. -/
def Admits : Prop :=
  1 ≤ tokensLeft deployment.round (deployment.limitFor principal) request.nowMs
    (stores.buckets (bucketKey principal))

instance : Decidable (Admits deployment request stores principal) := inferInstanceAs (Decidable (_ ≤ _))

/-- The buckets after a token of the principal's tenant has been taken. -/
def charge : String → Option StoredBucket :=
  Function.update stores.buckets (bucketKey principal)
    (some (charged deployment.round (deployment.limitFor principal) request.nowMs
      (stores.buckets (bucketKey principal))))

variable (path : String)

/-- A key of an active tenant with a scope of the route and with a token left. -/
def Passes : Prop := ∃ principal, credential deployment request stores = some principal ∧
  principal.tenantStatus = "active" ∧ Scoped path request.method principal.scopes ∧
  Admits deployment request stores principal

/-- The status for the first check that fails. -/
def firstFailure : Option ℕ :=
  if isExemptPath path then none
  else
    match credential deployment request stores with
    | none => some 401
    | some principal =>
      if principal.tenantStatus ≠ "active" then some 403
      else if ¬ Scoped path request.method principal.scopes then some 403
      else if ¬ Admits deployment request stores principal then some 429
      else none

theorem firstFailure_eq_none_iff : firstFailure deployment request stores path = none ↔
    isExemptPath path = true ∨ Passes deployment request stores path := by
  unfold firstFailure Passes
  cases isExemptPath path with
  | true => simp
  | false =>
    cases credential deployment request stores with
    | none => simp
    | some principal =>
      by_cases active : principal.tenantStatus = "active" <;>
        by_cases allowed : Scoped path request.method principal.scopes <;>
          by_cases token : Admits deployment request stores principal <;> simp [active, allowed, token]

theorem firstFailure_ne_internal : firstFailure deployment request stores path ≠ some 500 := by
  unfold firstFailure
  split
  · exact nofun
  · split
    · decide
    · split_ifs <;> decide

/-- A path leads the checks where the path of the request does: it is exempt, or asks for what the key has, if
that one is exempt; and else it is not exempt, and asks the key for a scope it has exactly if that one does. -/
def Leads : Prop :=
  if isExemptPath request.path then isExemptPath path = true ∨ Passes deployment request stores path
  else isExemptPath path = false ∧ ∀ principal, credential deployment request stores = some principal →
    principal.tenantStatus = "active" →
      (Scoped path request.method principal.scopes ↔ Scoped request.path request.method principal.scopes)

/-- The URL of the request does. -/
def Agrees : Prop := ∃ path, deployment.urlPath request = some path ∧ Leads deployment request stores path

end policy

/-- As where the `Host` header is an ordinary one. -/
theorem agrees_of_urlPath (same : deployment.urlPath request = some request.path) :
    Agrees deployment request stores := by
  refine ⟨request.path, same, ?_⟩
  unfold Leads
  split_ifs with free
  · exact .inl free
  · exact ⟨Bool.eq_false_iff.mpr free, fun _ _ _ => Iff.rfl⟩

/-- The status of an error; `none` where the endpoint has run. -/
def Answer.status? : Answer → Option ℕ
  | .ran _ => none
  | .error response => some response.statusCode

/-- All the ways in which a request with this path in its URL can be handled. -/
inductive Handling (deployment : Deployment) (request : Request) (stores : Stores) (path : String) :
    Answer × Stores → Prop
  | exempt (state : RequestState) (free : isExemptPath path = true) (anonymous : state.auth = none) :
    Handling deployment request stores path (.ran state, stores)
  | unauthenticated (response : ErrorResponse) (keys : AuthService.State)
    (guarded : isExemptPath path = false) (unknown : credential deployment request stores = none)
    (status : response.statusCode = 401) :
    Handling deployment request stores path (.error response, { stores with keys })
  | forbidden (principal : AuthenticatedPrincipal) (response : ErrorResponse) (keys : AuthService.State)
    (guarded : isExemptPath path = false)
    (known : credential deployment request stores = some principal)
    (refused : ¬ (principal.tenantStatus = "active" ∧ Scoped path request.method principal.scopes))
    (status : response.statusCode = 403) :
    Handling deployment request stores path (.error response, { stores with keys })
  | exceeded (principal : AuthenticatedPrincipal) (response : ErrorResponse) (keys : AuthService.State)
    (written : Option StoredBucket) (wait : ℚ) (guarded : isExemptPath path = false)
    (known : credential deployment request stores = some principal)
    (active : principal.tenantStatus = "active") (allowed : Scoped path request.method principal.scopes)
    (called : checked deployment request stores principal = (.error wait, written))
    (status : response.statusCode = 429) :
    Handling deployment request stores path
      (.error response, ⟨keys, Function.update stores.buckets (bucketKey principal) written⟩)
  | admitted (principal : AuthenticatedPrincipal) (state : RequestState) (keys : AuthService.State)
    (written : Option StoredBucket) (guarded : isExemptPath path = false)
    (known : credential deployment request stores = some principal)
    (active : principal.tenantStatus = "active") (allowed : Scoped path request.method principal.scopes)
    (called : checked deployment request stores principal = (.ok (), written)) :
    Handling deployment request stores path
      (.ran (state.attachPrincipal principal),
        ⟨keys, Function.update stores.buckets (bucketKey principal) written⟩)

/-- A missing header and an empty one have no principal either. -/
theorem credential_of_missing
    (missing : (request.header deployment.settings.apiKeyHeaderName).filter (· ≠ "") = none) :
    credential deployment request stores = none := by
  unfold credential
  cases given : request.header deployment.settings.apiKeyHeaderName with
  | none => rfl
  | some rawKey =>
    rw [given] at missing
    have empty : rawKey = "" := by simpa [Option.filter] using missing
    subst empty
    have malformed : ¬ isValidApiKeyFormat "" = true := by decide
    rw [Option.bind_some, State.principalFor, if_neg malformed]

theorem credential_of_presented {rawKey : String}
    (presented : (request.header deployment.settings.apiKeyHeaderName).filter (· ≠ "") = some rawKey) :
    credential deployment request stores = stores.keys.principalFor deployment.auth rawKey := by
  have given := (Option.filter_eq_some_iff.mp presented).1
  rw [credential, given, Option.bind_some]

/-- Behind authentication the tenant's key decides. -/
theorem rateLimit_handling (located : deployment.urlPath request = some path)
    (guarded : isExemptPath path = false) {principal : AuthenticatedPrincipal}
    (known : credential deployment request stores = some principal)
    (active : principal.tenantStatus = "active") (allowed : Scoped path request.method principal.scopes)
    (state : RequestState) (keys : AuthService.State) :
    Handling deployment request stores path
      (rateLimit deployment request endpoint (state.attachPrincipal principal) { stores with keys }) := by
  simp only [rateLimit, withUrlPath, located, guarded, Bool.false_eq_true, if_false,
    RequestState.attachPrincipal, Option.bind_some]
  rcases called : checked deployment request stores principal with ⟨⟨wait⟩ | ⟨⟨⟩⟩, written⟩
  · have answered := called
    unfold checked bucketKey at answered
    rw [answered]
    exact .exceeded principal _ keys written wait guarded known active allowed called rfl
  · have answered := called
    unfold checked bucketKey at answered
    rw [answered]
    exact .admitted principal state keys written guarded known active allowed called

/-- The whole chain. -/
theorem handle_handling (required : deployment.settings.authRequireApiKey = true)
    (located : deployment.urlPath request = some path) :
    Handling deployment request stores path (handle deployment request stores) := by
  unfold handle createApp
  simp only [List.foldl_cons, List.foldl_nil, requestContext, auth, withUrlPath, located]
  cases guarded : isExemptPath path with
  | true =>
    simp only [if_true, rateLimit, withUrlPath, located, guarded]
    exact .exempt _ guarded rfl
  | false =>
    simp only [Bool.false_eq_true, if_false, required, Bool.true_eq_false]
    cases presented : (request.header deployment.settings.apiKeyHeaderName).filter (· ≠ "") with
    | none => exact .unauthenticated _ stores.keys guarded (credential_of_missing presented) rfl
    | some rawKey =>
      have known : credential deployment request stores = stores.keys.principalFor deployment.auth rawKey :=
        credential_of_presented presented
      obtain ⟨keys, authenticated⟩ := authenticate_answered deployment.auth stores.keys rawKey
      dsimp only
      rw [authenticated]
      cases found : stores.keys.principalFor deployment.auth rawKey with
      | none => exact .unauthenticated _ keys guarded (known.trans found) rfl
      | some principal =>
        rw [found] at known
        dsimp only
        rcases authorize_spec path request.method principal with
          ⟨passed, active, allowed⟩ | ⟨error, stopped, status, refused⟩
        · rw [passed]
          exact rateLimit_handling located guarded known active allowed _ keys
        · rw [stopped]
          refine .forbidden principal _ keys guarded known refused ?_
          cases error <;> exact status

/-- Without a URL nothing is done. -/
theorem handle_unlocated (lost : deployment.urlPath request = none) :
    ∃ response, handle deployment request stores = (.error response, stores) ∧ response.statusCode = 500 := by
  simp only [handle, createApp, List.foldl_cons, List.foldl_nil, requestContext, withUrlPath, lost]
  exact ⟨_, rfl, rfl⟩

theorem Answer.ran_iff {answer : Answer} : (∃ state, answer = .ran state) ↔ answer.status? = none := by
  cases answer with
  | ran state => exact iff_of_true ⟨state, rfl⟩ rfl
  | error response => exact iff_of_false nofun nofun

/-- What the middleware makes of a request, going by its path: who reaches the endpoint, the status of the first
check that fails, and whose bucket is charged. -/
structure Controlled (deployment : Deployment) (request : Request) (stores : Stores)
    (handled : Answer × Stores) :
    Prop where
  ran_iff : (∃ state, handled.1 = .ran state) ↔
    isExemptPath request.path = true ∨ Passes deployment request stores request.path
  status : handled.1.status? = firstFailure deployment request stores request.path
  stopped : handled.1.status? = some 401 ∨ handled.1.status? = some 403 → handled.2.buckets = stores.buckets
  charges : ∀ state, handled.1 = .ran state → isExemptPath request.path = false →
    ∃ principal, credential deployment request stores = some principal ∧ state.auth = some principal ∧
      handled.2.buckets = charge deployment request stores principal

section metered

variable (enabled : deployment.rateLimit.enabled = true)
  (positive : 0 < deployment.rateLimit.defaultLimitPerMinute)
  (limits : ∀ principal, credential deployment request stores = some principal →
    ∀ limit ∈ principal.rateLimitPerMinute, 0 ≤ limit)

include enabled positive limits

theorem checked_spec {principal : AuthenticatedPrincipal}
    (known : credential deployment request stores = some principal) :
    (Admits deployment request stores principal ∧ checked deployment request stores principal =
        (.ok (), charge deployment request stores principal (bucketKey principal))) ∨
      ¬ Admits deployment request stores principal ∧
        ∃ wait written, checked deployment request stores principal = (.error wait, written) := by
  obtain ⟨limit, metered⟩ := limit?_of_enabled enabled positive (limits principal known)
  have same : deployment.limitFor principal = limit := by rw [Deployment.limitFor, metered, Option.getD_some]
  by_cases token : Admits deployment request stores principal
  · refine .inl ⟨token, ?_⟩
    unfold Admits at token
    rw [same] at token
    rw [checked, checkAndIncrement_admitted metered token, charge, Function.update_self, same]
  · refine .inr ⟨token, ?_⟩
    unfold Admits at token
    rw [same] at token
    obtain ⟨wait, written, denied⟩ := checkAndIncrement_denied metered token
    exact ⟨wait, some written, denied⟩

/-- The first check that fails, going by the path in the URL. -/
theorem Handling.status {handled : Answer × Stores}
    (handling : Handling deployment request stores path handled) :
    handled.1.status? = firstFailure deployment request stores path := by
  cases handling with
  | exempt state free anonymous => simp [Answer.status?, firstFailure, free]
  | unauthenticated response keys guarded unknown status =>
    simp [Answer.status?, firstFailure, guarded, unknown, status]
  | forbidden principal response keys guarded known refused status =>
    by_cases active : principal.tenantStatus = "active"
    · have barred : ¬ Scoped path request.method principal.scopes := fun allowed => refused ⟨active, allowed⟩
      simp [Answer.status?, firstFailure, guarded, known, status, active, barred]
    · simp [Answer.status?, firstFailure, guarded, known, status, active]
  | exceeded principal response keys written wait guarded known active allowed called status =>
    rcases checked_spec enabled positive limits known with ⟨-, paid⟩ | ⟨short, -⟩
    · rw [called] at paid
      cases paid
    · simp [Answer.status?, firstFailure, guarded, known, status, active, allowed, short]
  | admitted principal state keys written guarded known active allowed called =>
    rcases checked_spec enabled positive limits known with ⟨token, -⟩ | ⟨-, wait, written', denied⟩
    · simp [Answer.status?, firstFailure, guarded, known, active, allowed, token]
    · rw [called] at denied
      cases denied

/-- Whoever is let in with a key has paid for it. -/
theorem Handling.charges {handled : Answer × Stores}
    (handling : Handling deployment request stores path handled) (guarded : isExemptPath path = false)
    {state : RequestState} (ran : handled.1 = .ran state) :
    ∃ principal, credential deployment request stores = some principal ∧ state.auth = some principal ∧
      handled.2.buckets = charge deployment request stores principal := by
  cases handling with
  | exempt state free anonymous => exact absurd (free.symm.trans guarded) (by decide)
  | unauthenticated | forbidden | exceeded => cases ran
  | admitted principal before keys written guarded known active allowed called =>
    obtain rfl := Answer.ran.inj ran
    refine ⟨principal, known, rfl, ?_⟩
    rcases checked_spec enabled positive limits known with ⟨-, paid⟩ | ⟨-, wait, written', denied⟩
    · obtain rfl := (Prod.mk.inj (called.symm.trans paid)).2
      rw [charge, Function.update_self]
    · rw [called] at denied
      cases denied

end metered

theorem Handling.stopped {handled : Answer × Stores}
    (handling : Handling deployment request stores path handled)
    (barred : handled.1.status? = some 401 ∨ handled.1.status? = some 403) :
    handled.2.buckets = stores.buckets := by
  cases handling with
  | exempt | unauthenticated | forbidden => rfl
  | exceeded principal response keys written wait guarded known active allowed called status =>
    simp [Answer.status?, status] at barred
  | admitted principal state keys written guarded known active allowed called => simp [Answer.status?] at barred

theorem Leads.firstFailure_eq (leads : Leads deployment request stores path) :
    firstFailure deployment request stores path = firstFailure deployment request stores request.path := by
  unfold Leads at leads
  split_ifs at leads with free
  · rw [(firstFailure_eq_none_iff ..).mpr leads, (firstFailure_eq_none_iff ..).mpr (.inl free)]
  · obtain ⟨guarded, sameScopes⟩ := leads
    unfold firstFailure
    rw [guarded, if_neg Bool.false_ne_true, if_neg free]
    cases known : credential deployment request stores with
    | none => rfl
    | some principal =>
      dsimp only
      by_cases active : principal.tenantStatus = "active"
      · simp only [active, sameScopes principal known active]
      · rw [if_pos active, if_pos active]

theorem Leads.guarded (leads : Leads deployment request stores path)
    (guarded : isExemptPath request.path = false) : isExemptPath path = false := by
  rw [Leads, guarded, if_neg Bool.false_ne_true] at leads
  exact leads.1

/-- Where the middleware decides as the path calls for, the URL leads it there. -/
theorem Controlled.agrees (controlled : Controlled deployment request stores (handle deployment request stores))
    (required : deployment.settings.authRequireApiKey = true) (enabled : deployment.rateLimit.enabled = true)
    (positive : 0 < deployment.rateLimit.defaultLimitPerMinute)
    (limits : ∀ principal, credential deployment request stores = some principal →
      ∀ limit ∈ principal.rateLimitPerMinute, 0 ≤ limit) :
    Agrees deployment request stores := by
  cases located : deployment.urlPath request with
  | none =>
    obtain ⟨response, answered, internal⟩ :
        ∃ response, handle deployment request stores = (.error response, stores) ∧
      response.statusCode = 500 := handle_unlocated located
    have failed := controlled.status
    rw [answered] at failed
    exact absurd (failed.symm.trans (congrArg some internal))
      (firstFailure_ne_internal deployment request stores _)
  | some path =>
    have handling : Handling deployment request stores path _ := handle_handling required located
    have same : firstFailure deployment request stores path =
        firstFailure deployment request stores request.path :=
      (handling.status enabled positive limits).symm.trans controlled.status
    refine ⟨path, located, ?_⟩
    unfold Leads
    split_ifs with free
    · rw [(firstFailure_eq_none_iff ..).mpr (.inl free)] at same
      exact (firstFailure_eq_none_iff ..).mp same
    · rw [Bool.not_eq_true] at free
      have guarded : isExemptPath path = false := by
        by_contra exempt
        rw [Bool.not_eq_false] at exempt
        generalize handle deployment request stores = handled at controlled handling
        cases handling with
        | exempt state _ anonymous =>
          obtain ⟨principal, -, attached, -⟩ := controlled.charges state rfl free
          rw [anonymous] at attached
          cases attached
        | unauthenticated _ _ guarded | forbidden _ _ _ guarded | exceeded _ _ _ _ _ guarded
        | admitted _ _ _ _ guarded => exact absurd (exempt.symm.trans guarded) (by decide)
      refine ⟨guarded, fun principal known active => ?_⟩
      simp only [firstFailure, guarded, free, known, active, Bool.false_eq_true, if_false, ne_eq,
        not_true_eq_false] at same
      by_cases here : Scoped path request.method principal.scopes <;>
        by_cases there : Scoped request.path request.method principal.scopes <;>
          by_cases token : Admits deployment request stores principal <;>
            simp [here, there, token] at same ⊢

/-- With API keys required and positive limits, whatever is requested and whatever the stores hold: the
middleware controls the access to the paths exactly if the URL it goes by leads it to the checks of the path. -/
theorem handle_controlled_iff (deployment : Deployment) (request : Request) (stores : Stores)
    (required : deployment.settings.authRequireApiKey = true) (enabled : deployment.rateLimit.enabled = true)
    (positive : 0 < deployment.rateLimit.defaultLimitPerMinute)
    (limits : ∀ principal, credential deployment request stores = some principal →
      ∀ limit ∈ principal.rateLimitPerMinute, 0 ≤ limit) :
    Controlled deployment request stores (handle deployment request stores) ↔
      Agrees deployment request stores := by
  refine ⟨fun controlled => controlled.agrees required enabled positive limits, ?_⟩
  rintro ⟨path, located, leads⟩
  have handling : Handling deployment request stores path _ := handle_handling required located
  have status : (handle deployment request stores).1.status? =
      firstFailure deployment request stores request.path :=
    (handling.status enabled positive limits).trans leads.firstFailure_eq
  refine ⟨?_, status, handling.stopped, fun state ran guarded => ?_⟩
  · rw [Answer.ran_iff, status, firstFailure_eq_none_iff]
  · exact handling.charges enabled positive limits (leads.guarded guarded) ran

theorem rateLimit_keys (state : RequestState) :
    (rateLimit deployment request endpoint state stores).2.keys = stores.keys := by
  unfold rateLimit withUrlPath
  split
  · rfl
  · dsimp only
    split
    · rfl
    · split <;> rfl

/-- A request touches the keys only by authenticating. -/
theorem handle_keys (deployment : Deployment) (request : Request) (stores : Stores) :
    (handle deployment request stores).2.keys = stores.keys ∨ ∃ rawKey,
      (handle deployment request stores).2.keys = (stores.keys.authenticate deployment.auth rawKey {}).2 := by
  cases located : deployment.urlPath request with
  | none =>
    obtain ⟨response, answered, -⟩ : ∃ response, handle deployment request stores = (.error response, stores) ∧
      response.statusCode = 500 := handle_unlocated located
    exact .inl (by rw [answered])
  | some path =>
    simp only [handle, createApp, List.foldl_cons, List.foldl_nil, requestContext, auth, withUrlPath, located]
    split
    · exact .inl (rateLimit_keys _)
    · split
      · exact .inl (rateLimit_keys _)
      · split
        · exact .inl rfl
        · rename_i rawKey _
          refine .inr ⟨rawKey, ?_⟩
          rcases stores.keys.authenticate deployment.auth rawKey {} with ⟨outcome, keys⟩
          cases outcome with
          | authenticated found =>
            cases found with
            | none => rfl
            | some principal =>
              dsimp only
              cases authorize path request.method principal with
              | error error => rfl
              | ok passed => exact rateLimit_keys _
          | created | revoked | raised => rfl

section sample

/-- The path of the URL, for a `Host` header in ASCII: the host ends where a path, a query or a fragment begins,
and its brackets have to match. -/
def hostUrlPath (request : Request) : Option String :=
  let url := ((request.header "host").getD "gateway" ++ request.path).toList
  let host := url.takeWhile (· ∉ ['/', '?', '#'])
  if '[' ∈ host ↔ ']' ∈ host then
    some (String.ofList ((url.dropWhile (· ∉ ['/', '?', '#'])).takeWhile (· ∉ ['?', '#'])))
  else none

/-- Limits of 60 a minute need no rounding. -/
noncomputable def sampleDeployment : Deployment where
  auth := sampleService
  rateLimit := { defaultLimitPerMinute := 60 }
  urlPath := hostUrlPath
  round := id
  pick := (·.headD "")

/-- One key, nothing cached, and one token left for its tenant. -/
noncomputable def sampleStores : Stores where
  keys :=
    { tenants := fun _ => some "active"
      apiKeys :=
        { rows :=
            [⟨.ofNat 2, .ofNat 1, sampleService.hash "llmops_key", "key",
              ["embeddings:write", "chat:write"], none⟩]
          consistent := List.pairwise_singleton .. } }
  buckets := fun _ => some { tokens := 1, lastRefillMs := 0, expiresAt := 120000 }

/-- The tenant has been suspended, which its cached principal does not show yet. -/
noncomputable def staleStores : Stores :=
  { sampleStores with
    keys :=
      { sampleStores.keys with
        tenants := fun _ => some "suspended"
        redis := fun _ => some samplePrincipalText } }

def sampleRequest (method path : String) : Request where
  path
  method
  headers := [("host", "gateway:8000"), ("x-api-key", "llmops_key")]
  nowMs := 0
  uuid := "trace"

theorem credential_stale (method path : String) :
    credential sampleDeployment (sampleRequest method path) staleStores = some samplePrincipal := by
  have dumped : sampleService.dumps (payload samplePrincipal) = samplePrincipalText := by
    simp only [sampleService, principalOf_payload, Except.toOption, Option.elim, textOf, if_true]
  have read : sampleService.read samplePrincipalText = some samplePrincipal :=
    dumped ▸ read_dumps sampleService_inverse rfl
  have hit : ((staleStores.keys.cache (sampleService.hash "llmops_key")).bind sampleService.read) =
      some samplePrincipal := read
  have wellFormed : isValidApiKeyFormat "llmops_key" = true := by decide
  change staleStores.keys.principalFor sampleService "llmops_key" = some samplePrincipal
  rw [State.principalFor, if_pos wellFormed]
  dsimp only
  rw [hit]
  rfl

/-- With an ordinary host the key reaches the chat endpoint, as long as its principal is cached, and no admin
endpoint. -/
theorem handle_controlled_stale :
    (∃ state, (handle sampleDeployment (sampleRequest "POST" "/v1/chat/completions") staleStores).1 =
      .ran state) ∧
      (handle sampleDeployment (sampleRequest "GET" "/v1/admin/keys") staleStores).1.status? = some 403 := by
  have limits (method path : String) (principal : AuthenticatedPrincipal)
      (known : credential sampleDeployment (sampleRequest method path) staleStores = some principal) :
      ∀ limit ∈ principal.rateLimitPerMinute, 0 ≤ limit := by
    obtain rfl := Option.some.inj ((credential_stale method path).symm.trans known)
    exact nofun
  have admitted : Controlled sampleDeployment (sampleRequest "POST" "/v1/chat/completions") staleStores _ :=
    (handle_controlled_iff sampleDeployment _ staleStores rfl rfl (by decide) (limits _ _)).mpr
      (agrees_of_urlPath (by decide))
  have refused : Controlled sampleDeployment (sampleRequest "GET" "/v1/admin/keys") staleStores _ :=
    (handle_controlled_iff sampleDeployment _ staleStores rfl rfl (by decide) (limits _ _)).mpr
      (agrees_of_urlPath (by decide))
  constructor
  · exact admitted.ran_iff.mpr (.inr ⟨samplePrincipal, credential_stale _ _, rfl, by decide +kernel,
      by decide +kernel⟩)
  · rw [refused.status, firstFailure, credential_stale]
    decide +kernel

/-- Without a key, and with a host that makes another URL of the path. -/
def smuggledRequest : Request where
  path := "/v1/chat/completions"
  method := "POST"
  headers := [("host", "x/health?")]
  nowMs := 0
  uuid := "trace"

/-- The chat endpoint runs. -/
theorem handle_smuggled :
    (∃ state, (handle sampleDeployment smuggledRequest sampleStores).1 = .ran state) ∧
      ¬ Controlled sampleDeployment smuggledRequest sampleStores
        (handle sampleDeployment smuggledRequest sampleStores) := by
  have located : sampleDeployment.urlPath smuggledRequest = some "/health" := by decide
  have unknown : credential sampleDeployment smuggledRequest sampleStores = none := rfl
  have handling : Handling sampleDeployment smuggledRequest sampleStores "/health" _ :=
    handle_handling rfl located
  have ran : ∃ state, (handle sampleDeployment smuggledRequest sampleStores).1 = .ran state := by
    refine Answer.ran_iff.mpr ((handling.status rfl (by decide) fun principal known => ?_).trans (by decide))
    rw [unknown] at known
    cases known
  refine ⟨ran, fun controlled => ?_⟩
  rcases controlled.ran_iff.mp ran with exempt | ⟨principal, known, -⟩
  · exact absurd exempt (by decide)
  · rw [unknown] at known
    cases known

end sample

end LlmopsGateway.Middleware
