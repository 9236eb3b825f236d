import LlmopsGateway.Soundness.AccessControl

/-! # How much of a tenant gets through

Behind the checks of its key a request meets the bucket of its tenant, which is the ideal bucket of the requests
of this tenant that got through. Whoever is turned away before pays nothing, and no other tenant takes part.
So a tenant gets through as often as its limit and the refill allow, whatever keys it uses and whatever
happens to them. -/

namespace LlmopsGateway.Middleware

open Auth AuthService RateLimit Scopes

variable {deployment : Deployment} {request : Request} {stores : Stores}

def Deployment.limit (deployment : Deployment) : ℕ := deployment.rateLimit.defaultLimitPerMinute.toNat

theorem limit?_none (enabled : deployment.rateLimit.enabled = true)
    (positive : 0 < deployment.rateLimit.defaultLimitPerMinute) :
    deployment.rateLimit.limit? none = some deployment.limit := by
  simp [RateLimitService.limit?, enabled, positive, Deployment.limit]

/-- The principal of a row has the key of its tenant, and no limit of its own. -/
theorem checked_of_sound (sound : Sound deployment.auth stores.keys) (exact : deployment.round = id)
    {principal : AuthenticatedPrincipal} (known : credential deployment request stores = some principal) :
    bucketKey principal = rateLimitKey principal.tenantId ∧
      checked deployment request stores principal =
        checkAndIncrement deployment.rateLimit none 1 request.nowMs
          (stores.buckets (rateLimitKey principal.tenantId)) := by
  obtain ⟨rawKey, -, authenticated⟩ := Option.bind_eq_some_iff.mp known
  obtain ⟨keyHash, row⟩ := sound.exists_lookup authenticated
  have named : bucketKey principal = rateLimitKey principal.tenantId := by
    simp [bucketKey, Option.filter, tenantId_ne_of_lookup row]
  refine ⟨named, ?_⟩
  rw [checked, named, unlimited_of_lookup row, exact, checkAndIncrementFloat_id]

end LlmopsGateway.Middleware

namespace LlmopsGateway.FrontDoor

open Machine TokenBucket Auth AuthService RateLimit Scopes Middleware

variable {deployment : Middleware.Deployment} {state next : State} {request : Middleware.Request}
  {tenantId : String}

/-- When requests of a tenant got through, newest first. -/
def instantsOf (tenantId : String) (reached : List (String × ℕ)) : List ℚ :=
  RateLimit.instants ((reached.filter (·.1 = tenantId)).map Prod.snd)

def State.instants (state : State) (tenantId : String) : List ℚ := instantsOf tenantId state.reached

theorem instantsOf_own (tenantId : String) (nowMs : ℕ) (reached : List (String × ℕ)) :
    instantsOf tenantId ((tenantId, nowMs) :: reached) = (nowMs : ℚ) :: instantsOf tenantId reached := by
  rw [instantsOf, List.filter_cons_of_pos (by simp)]
  rfl

theorem instantsOf_other {other : String} (apart : other ≠ tenantId) (nowMs : ℕ) (reached : List (String × ℕ)) :
    instantsOf tenantId ((other, nowMs) :: reached) = instantsOf tenantId reached := by
  rw [instantsOf, List.filter_cons_of_neg (by simpa using apart)]
  rfl

/-- The cached principals are those of the rows, and each tenant's key in Redis is the ideal bucket of what got
through. -/
structure Metered (deployment : Middleware.Deployment) (state : State) : Prop where
  sound : Sound deployment.auth state.stores.keys
  tracks : ∀ tenantId,
    Tracks deployment.limit (state.instants tenantId) state.nowMs (state.stores.buckets (rateLimitKey tenantId))

theorem rateLimitKey_injective : Function.Injective rateLimitKey := fun _ _ same =>
    String.append_right_inj _ |>.mp same

/-- The tenant's key after a call, and whether the call got through. -/
theorem checked_tracks (exact : deployment.round = id) (enabled : deployment.rateLimit.enabled = true)
    (positive : 0 < deployment.rateLimit.defaultLimitPerMinute) {stores : Stores}
    (sound : Sound deployment.auth stores.keys) {principal : AuthenticatedPrincipal}
    (known : credential deployment request stores = some principal) {admissions : List ℚ}
    (tracks : Tracks deployment.limit admissions request.nowMs
      (stores.buckets (rateLimitKey principal.tenantId))) :
    (checked deployment request stores principal).1.isOk =
        decide (1 ≤ idealLevel deployment.limit admissions request.nowMs) ∧
      Tracks deployment.limit
        (if 1 ≤ idealLevel deployment.limit admissions request.nowMs then request.nowMs :: admissions
          else admissions)
        request.nowMs (checked deployment request stores principal).2 := by
  have metered := limit?_none enabled positive
  obtain ⟨written, left, admitted, holds⟩ :=
    checkAndIncrement_tracks metered (positive_of_limit? metered) tracks
  rw [(checked_of_sound sound exact known).2, left]
  exact ⟨admitted, holds⟩

/-- What a call for a principal leaves of the keys of all tenants. -/
theorem Metered.tracks_checked (metered : Metered deployment state) (exact : deployment.round = id)
    (enabled : deployment.rateLimit.enabled = true) (positive : 0 < deployment.rateLimit.defaultLimitPerMinute)
    (ordered : state.nowMs ≤ request.nowMs) {principal : AuthenticatedPrincipal}
    (known : credential deployment request state.stores = some principal) (tenantId : String) :
    Tracks deployment.limit
      (instantsOf tenantId
        ((if (checked deployment request state.stores principal).1.isOk then
          [(principal.tenantId, request.nowMs)] else []) ++ state.reached)) request.nowMs
      (Function.update state.stores.buckets (bucketKey principal)
        (checked deployment request state.stores principal).2 (rateLimitKey tenantId)) := by
  have kept (tenantId : String) := (metered.tracks tenantId).later ordered
  have named := (checked_of_sound metered.sound exact known).1
  rw [named]
  by_cases own : principal.tenantId = tenantId
  · subst own
    obtain ⟨through, tracked⟩ := checked_tracks exact enabled positive metered.sound known (kept _)
    rw [Function.update_self]
    simp only [through, decide_eq_true_eq]
    split_ifs at tracked ⊢ with token
    · rw [List.singleton_append, instantsOf_own]
      exact tracked
    · exact tracked
  · have apart : rateLimitKey tenantId ≠ rateLimitKey principal.tenantId :=
      fun same => own (rateLimitKey_injective same).symm
    rw [Function.update_of_ne apart]
    split_ifs
    · rw [List.singleton_append, instantsOf_other own]
      exact kept tenantId
    · exact kept tenantId

/-- What a request leaves of the buckets and of the history. -/
theorem Metered.tracks_request (metered : Metered deployment state)
    (required : deployment.settings.authRequireApiKey = true) (exact : deployment.round = id)
    (enabled : deployment.rateLimit.enabled = true) (positive : 0 < deployment.rateLimit.defaultLimitPerMinute)
    (ordered : state.nowMs ≤ request.nowMs) (tenantId : String) :
    Tracks deployment.limit
      (instantsOf tenantId (entryOf deployment request (handle deployment request state.stores).1 ++
        state.reached)) request.nowMs
      ((handle deployment request state.stores).2.buckets (rateLimitKey tenantId)) := by
  have kept := (metered.tracks tenantId).later ordered
  cases located : deployment.urlPath request with
  | none =>
    obtain ⟨response, answered, -⟩ : ∃ response, handle deployment request state.stores =
      (.error response, state.stores) ∧ response.statusCode = 500 := handle_unlocated located
    rw [answered]
    exact kept
  | some path =>
    have handling : Handling deployment request state.stores path (handle deployment request state.stores) :=
      handle_handling required located
    generalize handle deployment request state.stores = handled at handling ⊢
    cases handling with
    | exempt after free =>
      rw [entryOf, located, Option.any_some, if_pos free]
      exact kept
    | unauthenticated | forbidden => exact kept
    | admitted principal after keys written guarded known active allowed called =>
      have tracked := metered.tracks_checked exact enabled positive ordered known tenantId
      rw [called] at tracked
      rw [entryOf, located, Option.any_some, if_neg (by rw [guarded]; exact Bool.false_ne_true)]
      exact tracked
    | exceeded principal response keys written wait guarded known active allowed called status =>
      have tracked := metered.tracks_checked exact enabled positive ordered known tenantId
      rw [called] at tracked
      exact tracked

theorem Metered.step (metered : Metered deployment state)
    (required : deployment.settings.authRequireApiKey = true) (exact : deployment.round = id)
    (enabled : deployment.rateLimit.enabled = true) (positive : 0 < deployment.rateLimit.defaultLimitPerMinute)
    (inverse : deployment.auth.Inverse) {label : Label} (stepped : step deployment state label = some next) :
    Metered deployment next := by
  cases label with
  | keys label =>
    obtain ⟨keys, done, rfl⟩ := Option.map_eq_some_iff.mp stepped
    exact ⟨metered.sound.step inverse done, metered.tracks⟩
  | request request =>
    rw [FrontDoor.step] at stepped
    split_ifs at stepped with ordered
    obtain rfl := Option.some.inj stepped
    have sound : Sound deployment.auth (handle deployment request state.stores).2.keys := by
      rcases handle_keys deployment request state.stores with unchanged | ⟨rawKey, authenticated⟩
      · rw [unchanged]
        exact metered.sound
      · rw [authenticated]
        exact (metered.sound.authenticate inverse rawKey {}).2
    exact ⟨sound, metered.tracks_request required exact enabled positive ordered⟩

/-- What a tenant may count on: no more requests get through in a window than the limit and the refill of the
window, and one that its key does not stop gets through exactly if its tenant's ideal bucket has a token. -/
structure Throttled (deployment : Middleware.Deployment) (state : State) : Prop where
  bounded : ∀ tenantId, ∀ start finish : ℚ, start ≤ finish →
    (admittedIn start finish (state.instants tenantId) : ℚ) ≤
      deployment.limit + (finish - start) * refillPerMs deployment.limit
  decided : ∀ request path principal, state.nowMs ≤ request.nowMs → deployment.urlPath request = some path →
    isExemptPath path = false → credential deployment request state.stores = some principal →
    principal.tenantStatus = "active" → Scoped path request.method principal.scopes →
      (handle deployment request state.stores).1.status? =
        if 1 ≤ idealLevel deployment.limit (state.instants principal.tenantId) request.nowMs then none
          else some 429

theorem Metered.throttled (metered : Metered deployment state)
    (required : deployment.settings.authRequireApiKey = true) (exact : deployment.round = id)
    (enabled : deployment.rateLimit.enabled = true)
    (positive : 0 < deployment.rateLimit.defaultLimitPerMinute) :
    Throttled deployment state where
  bounded tenantId start finish ordered :=
    admittedIn_le (Nat.cast_nonneg _) (refillPerMs_nonneg _) (metered.tracks tenantId).fair.1 ordered
  decided request path principal ordered located guarded known active allowed := by
    obtain ⟨through, -⟩ := checked_tracks exact enabled positive metered.sound known
      ((metered.tracks principal.tenantId).later ordered)
    have handling : Handling deployment request state.stores path (handle deployment request state.stores) :=
      handle_handling required located
    generalize handle deployment request state.stores = handled at handling ⊢
    cases handling with
    | exempt after free => exact absurd (free.symm.trans guarded) (by decide)
    | unauthenticated response keys guarded unknown =>
      rw [unknown] at known
      cases known
    | forbidden other response keys guarded known' refused =>
      obtain rfl := Option.some.inj (known.symm.trans known')
      exact absurd ⟨active, allowed⟩ refused
    | admitted other after keys written guarded known' active allowed called =>
      obtain rfl := Option.some.inj (known.symm.trans known')
      rw [called] at through
      rw [if_pos (of_decide_eq_true through.symm)]
      rfl
    | exceeded other response keys written wait guarded known' active allowed called status =>
      obtain rfl := Option.some.inj (known.symm.trans known')
      rw [called] at through
      rw [if_neg (of_decide_eq_false through.symm)]
      exact congrArg some status

section run

variable (required : deployment.settings.authRequireApiKey = true) (exact : deployment.round = id)
  (enabled : deployment.rateLimit.enabled = true) (positive : 0 < deployment.rateLimit.defaultLimitPerMinute)
  (inverse : deployment.auth.Inverse) (tenants : Uuid → Option String) (apiKeys : Admin.ApiKeys)

include required exact enabled positive inverse

theorem run_metered {labels : List Label}
    (ran : run? (step deployment) ⟨⟨{ tenants, apiKeys }, fun _ => none⟩, 0, []⟩ labels = some state) :
    Metered deployment state := by
  refine reachable_invariant (Metered deployment) ?_ ?_ ran
  · intro state label next metered stepped
    exact metered.step required exact enabled positive inverse stepped
  · exact ⟨Coherent.empty deployment.auth.read _, fun _ => rfl⟩

/-- From any keys and tenants, in every run of requests and key operations, without rounding. -/
theorem run_throttled {labels : List Label}
    (ran : run? (step deployment) ⟨⟨{ tenants, apiKeys }, fun _ => none⟩, 0, []⟩ labels = some state) :
    Throttled deployment state :=
  (run_metered required exact enabled positive inverse tenants apiKeys ran).throttled required exact enabled
    positive

end run

section sample

/-- One request a minute. -/
noncomputable def slowDeployment : Middleware.Deployment :=
  { sampleDeployment with rateLimit := { defaultLimitPerMinute := 1 } }

def chat : Middleware.Request := sampleRequest "POST" "/v1/chat/completions"

noncomputable def opened : State := ⟨⟨{ sampleStores.keys with redis := fun _ => none }, fun _ => none⟩, 0, []⟩

noncomputable def visited : State where
  stores := (handle slowDeployment chat opened.stores).2
  reached := entryOf slowDeployment chat (handle slowDeployment chat opened.stores).1

/-- The second request of a minute is turned away. -/
theorem throttled_visited :
    Throttled slowDeployment visited ∧ (handle slowDeployment chat visited.stores).1.status? = some 429 := by
  have ran : run? (step slowDeployment) opened [.request chat] = some visited := by
    simp [run?, step, opened, visited, chat, sampleRequest]
  have throttled : Throttled slowDeployment visited :=
    run_throttled rfl rfl rfl (by decide) sampleService_inverse _ _ ran
  have metered : Metered slowDeployment visited :=
    run_metered rfl rfl rfl (by decide) sampleService_inverse _ _ ran
  have known : credential slowDeployment chat visited.stores = some samplePrincipal :=
    (metered.sound.principalFor_eq "llmops_key").trans (by decide +kernel)
  have reached : visited.reached = [(samplePrincipal.tenantId, 0)] := by decide +kernel
  refine ⟨throttled, ?_⟩
  rw [throttled.decided chat chat.path samplePrincipal le_rfl (by decide) rfl known rfl (by decide +kernel),
    State.instants, reached, instantsOf_own]
  have empty :
      idealLevel slowDeployment.limit (((0 : ℕ) : ℚ) :: instantsOf samplePrincipal.tenantId [])
        (0 : ℕ) = 0 := by
    rw [idealLevel_admitted]
    exact sub_self 1
  exact if_neg (by rw [chat, sampleRequest, empty]; decide)

end sample

end LlmopsGateway.FrontDoor
