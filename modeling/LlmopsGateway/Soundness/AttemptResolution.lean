import LlmopsGateway.Model.Upstream

/-! # Which attempts a request is resolved to

A provider is sent the requested model itself exactly when it is pinned, supports that model, or
the model is its own mapped equivalent. The resolution raises a `ValueError` for a pinned name
that is not registered, and for a consulted entry of the map that is no `provider:model`.
-/

namespace LlmopsGateway.RoutingService

variable {registry : ProviderRegistry} {settings : RoutingSettings} {request : ChatRequest}

/-- The provider is sent the requested model under its own name. -/
def ServesOwnModel (registry : ProviderRegistry) (settings : RoutingSettings) (request : ChatRequest)
    (provider : Provider) : Prop :=
  (pinned request).isSome ∨ provider.supportsModel request.model ∨
    registry.resolveEquivalentModel settings request.model provider.name = .ok (some request.model)

theorem name_of_tryGet {name : String} {provider : Provider}
    (found : registry.tryGet name = some provider) : provider.name = name := by
  simpa using List.find?_some found

/-- An attempt of one round sends the requested model, or the equivalent the map gives for it. -/
theorem attemptFor_model {name : String} {provider : Provider} {model : String}
    (attempted : attemptFor registry settings request name = .ok (some (provider, model))) :
    provider.supportsModel request.model ∧ model = request.model ∨
      provider.supportsModel request.model = false ∧
        registry.resolveEquivalentModel settings request.model provider.name = .ok (some model) := by
  unfold attemptFor at attempted
  rcases found : registry.tryGet name with _ | other
  · simp [found] at attempted
  simp only [found] at attempted
  split at attempted
  · rename_i supported
    cases attempted
    exact .inl ⟨supported, rfl⟩
  · rename_i unsupported
    rcases mapped : registry.resolveEquivalentModel settings request.model name with error | equivalent
    · simp [mapped] at attempted
    · rw [mapped] at attempted
      obtain ⟨equivalent, rfl, same⟩ := Option.map_eq_some_iff.mp (Except.ok.inj attempted)
      cases same
      rw [name_of_tryGet found]
      exact .inr ⟨by simpa using unsupported, mapped⟩

theorem exists_attemptFor {names : List String} {attempts : List Attempt} {attempt : Attempt}
    (resolved : attemptsFor registry settings request names = .ok attempts)
    (member : attempt ∈ attempts) :
    ∃ name ∈ names, attemptFor registry settings request name = .ok (some attempt) := by
  induction names generalizing attempts with
  | nil =>
    cases resolved
    exact nomatch member
  | cons name rest ih =>
    unfold attemptsFor at resolved
    rcases first : attemptFor registry settings request name with error | found
    · simp [first] at resolved
    rcases later : attemptsFor registry settings request rest with error | others
    · simp [first, later] at resolved
    simp only [first, later] at resolved
    cases resolved
    rcases List.mem_append.mp member with here | there
    · obtain rfl : found = some attempt := Option.mem_toList.mp here
      exact ⟨name, List.mem_cons_self .., first⟩
    · obtain ⟨other, among, attempted⟩ := ih later there
      exact ⟨other, List.mem_cons_of_mem _ among, attempted⟩

/-- When an attempt sends the requested model. -/
theorem model_eq_iff {attempts : List Attempt} {provider : Provider} {model : String}
    (resolved : resolveAttempts registry settings request = .ok attempts)
    (member : (provider, model) ∈ attempts) :
    model = request.model ↔ ServesOwnModel registry settings request provider := by
  unfold resolveAttempts at resolved
  rcases override : pinned request with _ | name
  · simp only [override] at resolved
    obtain ⟨name, -, attempted⟩ := exists_attemptFor resolved member
    unfold ServesOwnModel
    rcases attemptFor_model attempted with ⟨supported, rfl⟩ | ⟨unsupported, mapped⟩
    · exact iff_of_true rfl (.inr (.inl supported))
    · simp [override, unsupported, mapped]
  · simp only [override] at resolved
    rcases found : registry.get name with error | other
    · simp [found] at resolved
    · rw [found] at resolved
      cases resolved
      obtain ⟨rfl, rfl⟩ := Prod.mk.inj (List.mem_singleton.mp member)
      exact iff_of_true rfl (.inl (by rw [override]; rfl))

/-- What the resolution needs of the pinned name and of the map's entry for the requested model; the
entry is consulted once an ordered, registered provider does not support the model. -/
structure Resolvable (registry : ProviderRegistry) (settings : RoutingSettings)
    (request : ChatRequest) : Prop where
  registered : ∀ name, pinned request = some name → ∃ provider, registry.tryGet name = some provider
  parsable : pinned request = none → ∀ name ∈ orderedNames registry settings request,
    ∀ provider, registry.tryGet name = some provider → provider.supportsModel request.model = false →
      ∀ source, registry.findSupporting request.model = some source → ∀ mapped,
        settings.providerModelFallbackMap (ModelIdentifier.mk source.name request.model).str = some mapped →
          ∃ identifier, ModelIdentifier.parse? mapped = some identifier

theorem resolveEquivalentModel_ok_iff {target : String} :
    (∃ equivalent, registry.resolveEquivalentModel settings request.model target = .ok equivalent) ↔
      ∀ source, registry.findSupporting request.model = some source → ∀ mapped,
        settings.providerModelFallbackMap (ModelIdentifier.mk source.name request.model).str = some mapped →
          ∃ identifier, ModelIdentifier.parse? mapped = some identifier := by
  unfold ProviderRegistry.resolveEquivalentModel
  rcases registry.findSupporting request.model with _ | source
  · simp
  · rcases mapping :
      settings.providerModelFallbackMap (ModelIdentifier.mk source.name request.model).str with _ | mapped
    · simp [mapping]
    · rcases parsed : ModelIdentifier.parse? mapped with _ | identifier
      · simp [mapping, parsed]
      · simp [mapping, parsed]

theorem attemptFor_ok_iff {name : String} :
    (∃ attempt, attemptFor registry settings request name = .ok attempt) ↔
      ∀ provider, registry.tryGet name = some provider → provider.supportsModel request.model = false →
        ∃ equivalent, registry.resolveEquivalentModel settings request.model name = .ok equivalent := by
  unfold attemptFor
  rcases registry.tryGet name with _ | provider
  · simp
  · rcases supported : provider.supportsModel request.model
    · rcases registry.resolveEquivalentModel settings request.model name with error | equivalent <;>
        simp [supported]
    · simp [supported]

theorem attemptsFor_ok_iff {names : List String} :
    (∃ attempts, attemptsFor registry settings request names = .ok attempts) ↔
      ∀ name ∈ names, ∃ attempt, attemptFor registry settings request name = .ok attempt := by
  induction names with
  | nil => exact iff_of_true ⟨[], rfl⟩ nofun
  | cons name rest ih =>
    rw [List.forall_mem_cons, ← ih, attemptsFor]
    rcases attemptFor registry settings request name with error | attempt
    · simp
    · cases attemptsFor registry settings request rest <;> simp

/-- When the attempts of a request can be resolved. -/
theorem resolveAttempts_ok_iff :
    (∃ attempts, resolveAttempts registry settings request = .ok attempts) ↔
      Resolvable registry settings request := by
  unfold resolveAttempts
  rcases override : pinned request with _ | name
  · dsimp only
    rw [attemptsFor_ok_iff]
    constructor
    · intro attempted
      refine ⟨fun name pin => absurd (override.symm.trans pin) nofun, ?_⟩
      intro _ name among provider found unsupported
      exact resolveEquivalentModel_ok_iff.mp (attemptFor_ok_iff.mp
        (attempted name among) provider found unsupported)
    · intro resolvable name among
      refine attemptFor_ok_iff.mpr fun provider found unsupported => ?_
      exact resolveEquivalentModel_ok_iff.mpr
        (resolvable.parsable override name among provider found unsupported)
  · dsimp only
    unfold ProviderRegistry.get
    constructor
    · intro resolved
      refine ⟨fun other pin => ?_, fun unpinned => absurd (override.symm.trans unpinned) nofun⟩
      obtain rfl := Option.some.inj (override.symm.trans pin)
      revert resolved
      rcases registry.tryGet name with _ | provider
      · simp
      · exact fun _ => ⟨provider, rfl⟩
    · intro resolvable
      obtain ⟨provider, found⟩ := resolvable.registered name override
      exact ⟨_, by rw [found]⟩

def gptRequest : ChatRequest := { model := "gpt-4o", messages := [⟨.user, "hi"⟩] }

/-- With the default settings `gpt-4o` goes to `openai`, and its equivalent to `anthropic`. -/
theorem resolveAttempts_gptRequest : resolveAttempts (.ofKeys true true) {} gptRequest =
    .ok [(Adapter.openai.provider, "gpt-4o"),
      (Adapter.anthropic.provider, "claude-3-5-sonnet-20241022")] := rfl

end LlmopsGateway.RoutingService
