import LlmopsGateway.Machine.Run
import LlmopsGateway.Model.AdapterRoutes
import LlmopsGateway.Model.Gateway

/-! # Choosing an adapter route

The lookups of `AdapterRouteRepository`, with the split of an alias between Production and Staging by a hash
of the routing key, and what `_apply_adapter_route` is answered through them. SHA-256, with its hexadecimal
digest, is a parameter.
-/

namespace LlmopsGateway

open PyText

namespace AdapterRouteRepository

def getActive (table : AdapterRoutes) (tenantId : Uuid) (modelAlias stage : String) :
    Option AdapterRouteModel :=
  table.rows.find? fun row => row.key = (tenantId, modelAlias, stage) && row.enabled

section canary

variable (sha256 : List Char → List Char)

/-- `int(digits, 16)` of hexadecimal digits. -/
def hexNumber (digits : List Char) : ℕ :=
  digits.foldl (fun value c => 16 * value + (Uuid.hexValue? c).getD 0) 0

def bucket (routingKey : List Char) : ℕ := hexNumber ((sha256 routingKey).take 8) % 100

/-- `resolve_with_canary`. -/
def resolveWithCanary (table : AdapterRoutes) (tenantId : Uuid) (modelAlias : String) (routingKey : List Char)
    (preferredStage : Option String) : Option AdapterRouteModel :=
  if GatewayService.truthy preferredStage then getActive table tenantId modelAlias (preferredStage.getD "")
  else
    let production := getActive table tenantId modelAlias "Production"
    match getActive table tenantId modelAlias "Staging" with
    | none => production
    | some staging =>
      if 0 < staging.canaryPercent then
        if bucket sha256 routingKey < staging.canaryPercent then some staging
        else production.or (some staging)
      else production.or (some staging)

end canary

/-- A call that writes the table. -/
inductive Call
  | upsert (id tenantId : Uuid) (modelAlias baseModel adapterId stage : String) (enabled : Bool)
    (canaryPercent : ℤ)
  | disable (tenantId : Uuid) (modelAlias stage : String)

/-- What a call leaves of the table; one that raises leaves nothing to go on with. -/
def step (table : AdapterRoutes) : Call → Option AdapterRoutes
  | .upsert id tenantId modelAlias baseModel adapterId stage enabled canaryPercent =>
    (upsert table id tenantId modelAlias baseModel adapterId stage enabled canaryPercent).map Prod.snd
  | .disable tenantId modelAlias stage =>
    some (((disable table tenantId modelAlias stage).map Prod.snd).getD table)

/-- The table after calls on an empty one. A call that raises is rolled back and is none of them. -/
def after (calls : List Call) : Option AdapterRoutes := Machine.run? step .empty calls

end AdapterRouteRepository

/-- What `_apply_adapter_route` looks a route up in: the table, whether there is a database to reach it
through, and which lookups raise. -/
structure RouteStore where
  table : AdapterRoutes
  hasDatabase : Bool := true
  raises : AdapterQuery → Bool := fun _ => false

def AdapterRouteModel.route (row : AdapterRouteModel) : AdapterRoute :=
  ⟨row.baseModel, row.adapterId, row.stage⟩

namespace RouteStore

variable (decimal : Char → Option (Fin 10)) (sha256 : List Char → List Char) (store : RouteStore)

/-- From the check for a database to the caught exceptions of the lookup. -/
def resolve (query : AdapterQuery) : Option AdapterRoute :=
  if store.hasDatabase then
    match Uuid.parse decimal query.tenantId.toList with
    | none => none
    | some tenantUuid =>
      if store.raises query then none
      else (AdapterRouteRepository.resolveWithCanary sha256 store.table tenantUuid query.modelAlias query.routingKey
        query.preferredStage).map AdapterRouteModel.route
  else none

/-- The environment of a request, with its routes from here. -/
def attach (env : Environment) : Environment := { env with resolveWithCanary := store.resolve decimal sha256 }

end RouteStore

end LlmopsGateway
