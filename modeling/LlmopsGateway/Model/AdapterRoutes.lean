import LlmopsGateway.Machine.Table
import LlmopsGateway.Model.PyUuid

/-! # The adapter_routes table

`AdapterRouteModel` with the constraints of its table, and the statements of `AdapterRouteRepository`
that write it.
-/

namespace LlmopsGateway

structure AdapterRouteModel where
  id : Uuid
  tenantId : Uuid
  modelAlias : String
  baseModel : String
  adapterId : String
  stage : String := "Production"
  enabled : Bool := true
  canaryPercent : ℤ := 0
deriving DecidableEq

namespace AdapterRouteModel

/-- The columns of `uq_adapter_routes_tenant_alias_stage`. -/
def key (row : AdapterRouteModel) : Uuid × String × String := (row.tenantId, row.modelAlias, row.stage)

def conflicts (first second : AdapterRouteModel) : Bool := first.id = second.id || first.key = second.key

theorem conflicts_comm (first second : AdapterRouteModel) :
    first.conflicts second = second.conflicts first := by
  simp only [conflicts, eq_comm]

end AdapterRouteModel

abbrev AdapterRoutes := Machine.Table AdapterRouteModel AdapterRouteModel.conflicts

namespace AdapterRouteRepository

def getByUnique (table : AdapterRoutes) (tenantId : Uuid) (modelAlias stage : String) :
    Option AdapterRouteModel :=
  table.rows.find? (·.key = (tenantId, modelAlias, stage))

/-- The columns the repository assigns to an existing row. -/
structure Assignment where
  baseModel : Option String := none
  adapterId : Option String := none
  enabled : Bool
  canaryPercent : Option ℤ := none

def Assignment.apply (assignment : Assignment) (row : AdapterRouteModel) : AdapterRouteModel :=
  { row with
    baseModel := assignment.baseModel.getD row.baseModel
    adapterId := assignment.adapterId.getD row.adapterId
    enabled := assignment.enabled
    canaryPercent := assignment.canaryPercent.getD row.canaryPercent }

/-- The assignment to one row. -/
def assignTo (existing : AdapterRouteModel) (assignment : Assignment) (row : AdapterRouteModel) :
    AdapterRouteModel :=
  if row.id = existing.id then assignment.apply row else row

theorem conflicts_assignTo (existing : AdapterRouteModel) (assignment : Assignment)
    (first second : AdapterRouteModel) :
    (assignTo existing assignment first).conflicts (assignTo existing assignment second) =
      first.conflicts second := by
  unfold assignTo
  split <;> split <;> rfl

/-- The flush of the changes of one row. -/
def flush (table : AdapterRoutes) (existing : AdapterRouteModel) (assignment : Assignment) : AdapterRoutes :=
  table.update (assignTo existing assignment) (conflicts_assignTo existing assignment)

/-- `max(0, min(100, int(canary_percent)))`. -/
def clampPercent (canaryPercent : ℤ) : ℤ := max 0 (min 100 canaryPercent)

/-- `upsert`, with the id a new row gets. -/
def upsert (table : AdapterRoutes) (id tenantId : Uuid)
    (modelAlias baseModel adapterId stage : String) (enabled : Bool) (canaryPercent : ℤ) :
    Option (AdapterRouteModel × AdapterRoutes) :=
  match getByUnique table tenantId modelAlias stage with
  | some existing =>
    let assignment : Assignment :=
      { baseModel := some baseModel
        adapterId := some adapterId
        enabled
        canaryPercent := some (clampPercent canaryPercent) }
    some (assignment.apply existing, flush table existing assignment)
  | none =>
    let row : AdapterRouteModel :=
      { id, tenantId, modelAlias, baseModel, adapterId, stage, enabled
        canaryPercent := clampPercent canaryPercent }
    (table.insert row).map fun inserted => (row, inserted)

/-- `disable`; `none` when there is no such row. -/
def disable (table : AdapterRoutes) (tenantId : Uuid) (modelAlias stage : String) :
    Option (AdapterRouteModel × AdapterRoutes) :=
  (getByUnique table tenantId modelAlias stage).map fun existing =>
    ({ existing with enabled := false }, flush table existing { enabled := false })

end AdapterRouteRepository

end LlmopsGateway
