import LlmopsGateway.Soundness.Attribution
import LlmopsGateway.Soundness.CanarySplit

/-! # Where the adapter of a request comes from

A client can fill in every field of a request, those included that are set by the gateway. A request that
names an adapter and an alias is passed on as it is, and so is one that no route is found for.
-/

namespace LlmopsGateway

open PyText

/-- The request names the alias, the base model, the adapter and the stage of a row. -/
structure ChatRequest.Follows (request : ChatRequest) (row : AdapterRouteModel) : Prop where
  modelAlias : request.modelAlias = some row.modelAlias
  model : request.model = row.baseModel
  adapterId : request.adapterId = some row.adapterId
  adapterStage : request.adapterStage = some row.stage

namespace RouteStore

variable (decimal : Char → Option (Fin 10)) (sha256 : List Char → List Char) (store : RouteStore)

/-- An enabled row of the tenant. -/
def Grants (tenantId : String) (row : AdapterRouteModel) : Prop :=
  row ∈ store.table.rows ∧ row.enabled = true ∧ Uuid.parse decimal tenantId.toList = some row.tenantId

/-- An adapter is there for a row of the tenant, and where none is, no field of the gateway is set. -/
structure Selected (tenantId : String) (request routed : ChatRequest) : Prop where
  adapter : routed.adapterId ≠ none → ∃ row, store.Grants decimal tenantId row ∧ routed.Follows row
  none : routed.adapterId = none → routed.model = request.model ∧ routed.modelAlias = none

/-- The stages a request can be routed to. -/
def Stage (preferredStage : Option String) (stage : String) : Prop :=
  if GatewayService.truthy preferredStage then preferredStage = some stage
  else stage = "Production" ∨ stage = "Staging"

/-- The table can be asked about the request and has an enabled row of the tenant for it. -/
structure Routes (query : AdapterQuery) (row : AdapterRouteModel) : Prop where
  hasDatabase : store.hasDatabase = true
  answers : store.raises query = false
  granted : store.Grants decimal query.tenantId row
  modelAlias : row.modelAlias = query.modelAlias
  stage : Stage query.preferredStage row.stage

variable {decimal sha256 store}

theorem resolveWithCanary_active {table : AdapterRoutes} {tenantId : Uuid} {modelAlias : String}
    {preferredStage : Option String} {routingKey : List Char} {row : AdapterRouteModel}
    (found : AdapterRouteRepository.resolveWithCanary sha256 table tenantId modelAlias routingKey preferredStage =
      some row) : ∃ stage, Stage preferredStage stage ∧
        AdapterRouteRepository.getActive table tenantId modelAlias stage = some row := by
  cases preference : GatewayService.truthy preferredStage with
  | true =>
    obtain ⟨stage, rfl⟩ : ∃ stage, preferredStage = some stage :=
      Option.ne_none_iff_exists'.mp (by rintro rfl; cases preference)
    simp only [AdapterRouteRepository.resolveWithCanary, preference, if_true, Option.getD_some] at found
    exact ⟨stage, by rw [Stage, if_pos preference], found⟩
  | false =>
    have stages (stage : String) (known : stage = "Production" ∨ stage = "Staging") :
        Stage preferredStage stage := by
      rw [Stage, if_neg (by rw [preference]; exact Bool.false_ne_true)]
      exact known
    rcases AdapterRouteRepository.active_of_resolveWithCanary sha256 preference found with active | active
    · exact ⟨_, stages _ (.inl rfl), active⟩
    · exact ⟨_, stages _ (.inr rfl), active⟩

theorem resolveWithCanary_inactive {table : AdapterRoutes} {tenantId : Uuid} {modelAlias stage : String}
    {preferredStage : Option String} {routingKey : List Char} (open' : Stage preferredStage stage)
    (nothing : AdapterRouteRepository.resolveWithCanary sha256 table tenantId modelAlias routingKey preferredStage =
      none) : AdapterRouteRepository.getActive table tenantId modelAlias stage = none := by
  cases preference : GatewayService.truthy preferredStage with
  | true =>
    rw [Stage, if_pos preference] at open'
    subst open'
    simpa only [AdapterRouteRepository.resolveWithCanary, preference, if_true, Option.getD_some] using nothing
  | false =>
    rw [Stage, if_neg (by rw [preference]; exact Bool.false_ne_true)] at open'
    obtain ⟨main, canary⟩ :=
      (AdapterRouteRepository.resolveWithCanary_eq_none_iff sha256 preference _).mp nothing
    rcases open' with rfl | rfl
    · exact main
    · exact canary

theorem routes_of_resolve {query : AdapterQuery} {route : AdapterRoute}
    (found : store.resolve decimal sha256 query = some route) :
    ∃ row, store.Routes decimal query row ∧ row.route = route := by
  cases hasDatabase : store.hasDatabase with
  | false => simp [resolve, hasDatabase] at found
  | true =>
    cases parsed : Uuid.parse decimal query.tenantId.toList with
    | none => simp [resolve, parsed] at found
    | some tenantUuid =>
      cases raises : store.raises query with
      | true => simp [resolve, parsed, raises] at found
      | false =>
        simp only [resolve, hasDatabase, parsed, raises, if_true, Bool.false_eq_true, if_false] at found
        obtain ⟨row, chosen, rfl⟩ := Option.map_eq_some_iff.mp found
        obtain ⟨stage, open', active⟩ := resolveWithCanary_active chosen
        obtain ⟨member, key, enabled⟩ := AdapterRouteRepository.getActive_eq_some_iff.mp active
        obtain ⟨rfl, aliased, rfl⟩ : row.tenantId = tenantUuid ∧ row.modelAlias = query.modelAlias ∧
          row.stage = stage := by
          simpa [AdapterRouteModel.key] using key
        exact ⟨row, ⟨hasDatabase, raises, ⟨member, enabled, parsed⟩, aliased, open'⟩, rfl⟩

theorem no_routes_of_resolve {query : AdapterQuery} (nothing : store.resolve decimal sha256 query = none)
    (row : AdapterRouteModel) : ¬ store.Routes decimal query row := by
  intro routes
  obtain ⟨member, enabled, parsed⟩ := routes.granted
  simp only [resolve, routes.hasDatabase, if_true, parsed, routes.answers, Bool.false_eq_true, if_false,
    Option.map_eq_none_iff] at nothing
  have inactive := resolveWithCanary_inactive routes.stage nothing
  have active := AdapterRouteRepository.getActive_eq_some_iff.mpr
    ⟨member, show row.key = (row.tenantId, query.modelAlias, row.stage) by rw [← routes.modelAlias]; rfl, enabled⟩
  cases inactive.symm.trans active

variable (decimal sha256 store)

/-- The lookup that `_apply_adapter_route` makes for a request. -/
def query (env : Environment) (request : ChatRequest) : AdapterQuery :=
  ⟨env.tenantId, request.model, GatewayService.routingKey env request, request.adapterStage⟩

/-- The table decides: it is asked and has a route, or the request leaves the fields of the gateway alone, or
what it claims for itself is a row. -/
def Decides (env : Environment) (request : ChatRequest) : Prop :=
  (¬ (GatewayService.truthy request.adapterId = true ∧ GatewayService.truthy request.modelAlias = true) ∧
      ∃ row, store.Routes decimal (query env request) row) ∨
    (request.adapterId = none ∧ request.modelAlias = none) ∨
    ∃ row, store.Grants decimal env.tenantId row ∧ request.Follows row

/-- The adapter of a routed request is one of the tenant's enabled rows if and only if the table decides. -/
theorem applyAdapterRoute_selected_iff (env : Environment) (request : ChatRequest) :
    store.Selected decimal env.tenantId request
        (GatewayService.applyAdapterRoute (store.attach decimal sha256 env) request) ↔
      store.Decides decimal env request := by
  have kept : store.Selected decimal env.tenantId request request ↔
      (request.adapterId = none ∧ request.modelAlias = none) ∨
        ∃ row, store.Grants decimal env.tenantId row ∧ request.Follows row := by
    constructor
    · intro selected
      by_cases unset : request.adapterId = none
      · exact .inl ⟨unset, (selected.none unset).2⟩
      · exact .inr (selected.adapter unset)
    · rintro (⟨unset, plain⟩ | ⟨row, granted, follows⟩)
      · exact ⟨fun set => absurd unset set, fun _ => ⟨rfl, plain⟩⟩
      · exact ⟨fun _ => ⟨row, granted, follows⟩, fun unset =>
          absurd (follows.adapterId.symm.trans unset) (Option.some_ne_none _)⟩
  rw [Decides]
  by_cases full : GatewayService.truthy request.adapterId = true ∧
    GatewayService.truthy request.modelAlias = true
  · rw [GatewayService.applyAdapterRoute_of_full full]
    exact kept.trans (or_iff_right fun asked => asked.1 full).symm
  · cases found : store.resolve decimal sha256 (query env request) with
    | none =>
      rw [GatewayService.applyAdapterRoute_of_none full found]
      exact kept.trans (or_iff_right fun asked => asked.2.elim (no_routes_of_resolve found)).symm
    | some route =>
      obtain ⟨row, routes, rfl⟩ := routes_of_resolve found
      rw [GatewayService.applyAdapterRoute_of_some full found]
      refine iff_of_true ⟨fun _ => ⟨row, routes.granted, ?_⟩, fun unset => ?_⟩ (.inl ⟨full, row, routes⟩)
      · exact ⟨congrArg some routes.modelAlias.symm, rfl, rfl, rfl⟩
      · cases unset

/-- A client that names an adapter and an alias itself. -/
def spoofingRequest : ChatRequest where
  model := "gpt-4o"
  messages := [⟨.user, "hi"⟩]
  adapterId := some "lora-of-another-tenant"
  modelAlias := some "chat"

def spoofedEnv : Environment :=
  { GatewayService.outageEnv false with tenantId := "00000000-0000-0000-0000-000000000007" }

def emptyStore : RouteStore := { table := .empty }

/-- The request goes on with an adapter although there is no route at all. -/
theorem applyAdapterRoute_spoofed :
    ¬ emptyStore.Selected (fun _ => none) spoofedEnv.tenantId spoofingRequest
      (GatewayService.applyAdapterRoute (emptyStore.attach (fun _ => none) (fun _ => []) spoofedEnv)
        spoofingRequest) := by
  intro selected
  obtain ⟨row, ⟨member, -⟩, -⟩ := selected.adapter (by decide)
  cases member

end RouteStore

end LlmopsGateway
