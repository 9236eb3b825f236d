import LlmopsGateway.Model.AdapterRouting

/-! # The canary split over a history of calls

What a key of the table stands for is decided by the last call under it: an `upsert` that enables it, or
anything else. The lookups and the split by hash are compared with that reading of the history.
-/

namespace LlmopsGateway

open Machine PyText

abbrev RouteKey := Uuid × String × String

/-- The columns of a row besides its id. -/
structure RouteColumns where
  key : RouteKey
  baseModel : String
  adapterId : String
  enabled : Bool
  canaryPercent : ℤ
deriving DecidableEq

def AdapterRouteModel.columns (row : AdapterRouteModel) : RouteColumns :=
  ⟨row.key, row.baseModel, row.adapterId, row.enabled, row.canaryPercent⟩

namespace AdapterRouteRepository

def Call.key : Call → RouteKey
  | .upsert _ tenantId modelAlias _ _ stage _ _ => (tenantId, modelAlias, stage)
  | .disable tenantId modelAlias stage => (tenantId, modelAlias, stage)

/-- The columns an enabling `upsert` asks for, the percentage clamped. -/
def Call.enables : Call → Option RouteColumns
  | .upsert _ tenantId modelAlias baseModel adapterId stage true canaryPercent =>
    some ⟨(tenantId, modelAlias, stage), baseModel, adapterId, true, clampPercent canaryPercent⟩
  | _ => none

/-- What a history leaves enabled under a key: the last call under it, if that call enables. -/
def live (calls : List Call) (key : RouteKey) : Option RouteColumns :=
  (calls.reverse.find? fun call => call.key = key).bind Call.enables

theorem live_concat (calls : List Call) (call : Call) (key : RouteKey) :
    live (calls ++ [call]) key = if call.key = key then call.enables else live calls key := by
  simp only [live, List.reverse_append, List.reverse_cons, List.reverse_nil, List.nil_append,
    List.singleton_append, List.find?_cons]
  by_cases same : call.key = key <;> simp [same]

section writes

variable {table next : AdapterRoutes} {existing row : AdapterRouteModel}

theorem eq_of_key {first second : AdapterRouteModel} (here : first ∈ table.rows) (there : second ∈ table.rows)
    (same : first.key = second.key) : first = second :=
  table.eq_of_conflicts AdapterRouteModel.conflicts_comm here there
    (by simp [AdapterRouteModel.conflicts, same])

theorem assignTo_of_key_ne (there : existing ∈ table.rows) (here : row ∈ table.rows)
    (other : row.key ≠ existing.key)
    (assignment : Assignment) : assignTo existing assignment row = row := by
  refine if_neg fun sameId => other ?_
  have one := table.eq_of_conflicts AdapterRouteModel.conflicts_comm here there
    (by simp [AdapterRouteModel.conflicts, sameId])
  rw [one]

theorem mem_flush (there : existing ∈ table.rows) (assignment : Assignment) :
    row ∈ (flush table existing assignment).rows ↔
      row = assignment.apply existing ∨ (row ∈ table.rows ∧ row.key ≠ existing.key) := by
  have itself : assignTo existing assignment existing = assignment.apply existing := if_pos rfl
  rw [flush, Table.rows_update, List.mem_map]
  constructor
  · rintro ⟨old, member, rfl⟩
    by_cases same : old.key = existing.key
    · rw [eq_of_key member there same, itself]
      exact .inl rfl
    · rw [assignTo_of_key_ne there member same]
      exact .inr ⟨member, same⟩
  · rintro (rfl | ⟨member, other⟩)
    · exact ⟨existing, there, itself⟩
    · exact ⟨row, member, assignTo_of_key_ne there member other assignment⟩

theorem mem_of_getByUnique {tenantId : Uuid} {modelAlias stage : String}
    (found : getByUnique table tenantId modelAlias stage = some row) :
    row ∈ table.rows ∧ row.key = (tenantId, modelAlias, stage) :=
  ⟨List.mem_of_find?_eq_some found, by simpa using List.find?_some found⟩

theorem key_ne_of_getByUnique {tenantId : Uuid} {modelAlias stage : String}
    (absent : getByUnique table tenantId modelAlias stage = none) (member : row ∈ table.rows) :
    row.key ≠ (tenantId, modelAlias, stage) := by
  simpa using List.find?_eq_none.mp absent row member

def Percent (canaryPercent : ℤ) : Prop := 0 ≤ canaryPercent ∧ canaryPercent ≤ 100

theorem percent_clampPercent (canaryPercent : ℤ) : Percent (clampPercent canaryPercent) := by
  unfold Percent clampPercent
  omega

/-- The row that stands under the key of a call behind it. -/
structure Leaves (table : AdapterRoutes) (call : Call) (next : AdapterRoutes)
    (target : Option AdapterRouteModel) : Prop where
  rows : ∀ row, row ∈ next.rows ↔ target = some row ∨ (row ∈ table.rows ∧ row.key ≠ call.key)
  key : ∀ row, target = some row → row.key = call.key
  percent : ∀ row, target = some row → Percent row.canaryPercent
  enabled : (target.filter (·.enabled)).map AdapterRouteModel.columns = call.enables

theorem step_leaves {call : Call} (percents : ∀ row ∈ table.rows, Percent row.canaryPercent)
    (stepped : step table call = some next) : ∃ target, Leaves table call next target := by
  cases call with
  | upsert id tenantId modelAlias baseModel adapterId stage enabled canaryPercent =>
    obtain ⟨⟨target, written⟩, upserted, rfl⟩ := Option.map_eq_some_iff.mp stepped
    have columns (row : AdapterRouteModel) (key : row.key = (tenantId, modelAlias, stage))
        (base : row.baseModel = baseModel) (adapter : row.adapterId = adapterId) (flag : row.enabled = enabled)
        (percent : row.canaryPercent = clampPercent canaryPercent) :
        ((some row).filter (·.enabled)).map AdapterRouteModel.columns =
          (Call.upsert id tenantId modelAlias baseModel adapterId stage enabled canaryPercent).enables := by
      cases enabled <;> simp [flag, Call.enables, AdapterRouteModel.columns, key, base, adapter, percent]
    rw [upsert] at upserted
    cases found : getByUnique table tenantId modelAlias stage with
    | some existing =>
      simp only [found, Option.some.injEq, Prod.mk.injEq] at upserted
      obtain ⟨rfl, rfl⟩ := upserted
      obtain ⟨there, key⟩ := mem_of_getByUnique found
      refine ⟨some { existing with baseModel, adapterId, enabled, canaryPercent := clampPercent canaryPercent },
        ⟨fun row => ?_, ?_, ?_, columns _ key rfl rfl rfl rfl⟩⟩
      · rw [mem_flush there, Option.some.injEq, eq_comm, key]
        rfl
      · rintro row ⟨⟩
        exact key
      · rintro row ⟨⟩
        exact percent_clampPercent canaryPercent
    | none =>
      simp only [found] at upserted
      obtain ⟨inserted, insertion, same⟩ := Option.map_eq_some_iff.mp upserted
      obtain ⟨rfl, rfl⟩ := Prod.mk.inj same
      refine ⟨some ⟨id, tenantId, modelAlias, baseModel, adapterId, stage, enabled,
        clampPercent canaryPercent⟩, ⟨fun row => ?_, ?_, ?_, columns _ rfl rfl rfl rfl rfl⟩⟩
      · rw [(Table.insert_eq_some_iff.mp insertion).2, List.mem_append, List.mem_singleton,
          Option.some.injEq, or_comm, eq_comm]
        exact or_congr_right ⟨fun member => ⟨member, key_ne_of_getByUnique found member⟩, And.left⟩
      · rintro row ⟨⟩
        rfl
      · rintro row ⟨⟩
        exact percent_clampPercent canaryPercent
  | disable tenantId modelAlias stage =>
    rw [step, disable] at stepped
    cases found : getByUnique table tenantId modelAlias stage with
    | some existing =>
      simp only [found, Option.map_some, Option.getD_some, Option.some.injEq] at stepped
      obtain rfl := stepped
      obtain ⟨there, key⟩ := mem_of_getByUnique found
      refine ⟨some { existing with enabled := false }, ⟨fun row => ?_, ?_, ?_, rfl⟩⟩
      · rw [mem_flush there, Option.some.injEq, eq_comm, key]
        rfl
      · rintro row ⟨⟩
        exact key
      · rintro row ⟨⟩
        exact percents existing there
    | none =>
      simp only [found, Option.map_none, Option.getD_none, Option.some.injEq] at stepped
      obtain rfl := stepped
      refine ⟨none, ⟨fun row => ?_, nofun, nofun, rfl⟩⟩
      simp only [reduceCtorEq, false_or]
      exact ⟨fun member => ⟨member, key_ne_of_getByUnique found member⟩, And.left⟩

end writes

section history

variable {table next : AdapterRoutes} {calls : List Call}

/-- The enabled rows of a table are what a history leaves enabled. -/
structure Reflects (calls : List Call) (table : AdapterRoutes) : Prop where
  percents : ∀ row ∈ table.rows, Percent row.canaryPercent
  enabled : ∀ columns, live calls columns.key = some columns ↔
    ∃ row ∈ table.rows, row.enabled = true ∧ row.columns = columns

theorem Reflects.step {call : Call} (reflects : Reflects calls table) (stepped : step table call = some next) :
    Reflects (calls ++ [call]) next := by
  obtain ⟨target, leaves⟩ := step_leaves reflects.percents stepped
  refine ⟨fun row member => ?_, fun columns => ?_⟩
  · rcases (leaves.rows row).mp member with here | ⟨member, -⟩
    · exact leaves.percent row here
    · exact reflects.percents row member
  · rw [live_concat]
    split_ifs with same
    · rw [← leaves.enabled, Option.map_eq_some_iff]
      constructor
      · rintro ⟨row, kept, rfl⟩
        obtain ⟨here, flag⟩ := Option.filter_eq_some_iff.mp kept
        exact ⟨row, (leaves.rows row).mpr (.inl here), flag, rfl⟩
      · rintro ⟨row, member, flag, rfl⟩
        rcases (leaves.rows row).mp member with here | ⟨-, other⟩
        · exact ⟨row, Option.filter_eq_some_iff.mpr ⟨here, flag⟩, rfl⟩
        · exact absurd same.symm other
    · rw [reflects.enabled]
      refine exists_congr fun row => ?_
      rw [leaves.rows]
      constructor
      · rintro ⟨member, flag, rfl⟩
        exact ⟨.inr ⟨member, fun key => same key.symm⟩, flag, rfl⟩
      · rintro ⟨here | ⟨member, -⟩, flag, rfl⟩
        · exact absurd (leaves.key row here).symm same
        · exact ⟨member, flag, rfl⟩

theorem live_columns {key : RouteKey} {columns : RouteColumns} (present : live calls key = some columns) :
    columns.key = key ∧ columns.enabled = true := by
  obtain ⟨call, found, enables⟩ := Option.bind_eq_some_iff.mp present
  have same : call.key = key := by simpa using List.find?_some found
  cases call with
  | upsert id tenantId modelAlias baseModel adapterId stage enabled canaryPercent =>
    cases enabled with
    | true =>
      obtain rfl := Option.some.inj enables
      exact ⟨same, rfl⟩
    | false => cases enables
  | disable tenantId modelAlias stage => cases enables

theorem getActive_eq_some_iff {tenantId : Uuid} {modelAlias stage : String} {row : AdapterRouteModel} :
    getActive table tenantId modelAlias stage = some row ↔
      row ∈ table.rows ∧ row.key = (tenantId, modelAlias, stage) ∧ row.enabled = true := by
  constructor
  · intro found
    have matched := List.find?_some found
    rw [Bool.and_eq_true, decide_eq_true_iff] at matched
    exact ⟨List.mem_of_find?_eq_some found, matched⟩
  · rintro ⟨member, key, enabled⟩
    cases found : getActive table tenantId modelAlias stage with
    | none =>
      have differs := List.find?_eq_none.mp found row member
      simp [key, enabled] at differs
    | some other =>
      have matched := List.find?_some found
      rw [Bool.and_eq_true, decide_eq_true_iff] at matched
      rw [eq_of_key member (List.mem_of_find?_eq_some found) (key.trans matched.1.symm)]

/-- The lookup of an active row finds what the history leaves. -/
theorem Reflects.active (reflects : Reflects calls table) (tenantId : Uuid) (modelAlias stage : String) :
    (getActive table tenantId modelAlias stage).map AdapterRouteModel.columns =
      live calls (tenantId, modelAlias, stage) := by
  cases found : getActive table tenantId modelAlias stage with
  | some row =>
    obtain ⟨member, key, enabled⟩ := getActive_eq_some_iff.mp found
    have present := (reflects.enabled row.columns).mpr ⟨row, member, enabled, rfl⟩
    rw [show row.columns.key = (tenantId, modelAlias, stage) from key] at present
    exact present.symm
  | none =>
    cases present : live calls (tenantId, modelAlias, stage) with
    | none => rfl
    | some columns =>
      obtain ⟨key, -⟩ := live_columns present
      rw [← key] at present
      obtain ⟨row, member, enabled, rfl⟩ := (reflects.enabled columns).mp present
      cases found.symm.trans (getActive_eq_some_iff.mpr ⟨member, key, enabled⟩)

end history

section resolve

variable (sha256 : List Char → List Char) {table : AdapterRoutes} {tenantId : Uuid} {modelAlias : String}
  {preferredStage : Option String}

/-- The check that the percentage is positive decides nothing. -/
theorem resolveWithCanary_eq (noPreference : GatewayService.truthy preferredStage = false)
    (routingKey : List Char) :
    resolveWithCanary sha256 table tenantId modelAlias routingKey preferredStage =
      match getActive table tenantId modelAlias "Staging" with
      | none => getActive table tenantId modelAlias "Production"
      | some staging =>
        if bucket sha256 routingKey < staging.canaryPercent then some staging
        else (getActive table tenantId modelAlias "Production").or (some staging) := by
  simp only [resolveWithCanary, noPreference, Bool.false_eq_true, if_false]
  cases getActive table tenantId modelAlias "Staging" with
  | none => rfl
  | some staging =>
    have bucketed : (0 : ℤ) ≤ bucket sha256 routingKey := Int.natCast_nonneg _
    by_cases positive : 0 < staging.canaryPercent
    · simp only [if_pos positive]
    · have outside : ¬ (bucket sha256 routingKey : ℤ) < staging.canaryPercent := by omega
      simp only [if_neg positive, if_neg outside]

theorem active_of_resolveWithCanary (noPreference : GatewayService.truthy preferredStage = false)
    {routingKey : List Char} {row : AdapterRouteModel}
    (found : resolveWithCanary sha256 table tenantId modelAlias routingKey preferredStage = some row) :
    getActive table tenantId modelAlias "Production" = some row ∨
      getActive table tenantId modelAlias "Staging" = some row := by
  rw [resolveWithCanary_eq sha256 noPreference] at found
  cases staging : getActive table tenantId modelAlias "Staging" with
  | none =>
    rw [staging] at found
    exact .inl found
  | some row' =>
    simp only [staging] at found
    split_ifs at found with within
    · exact .inr found
    · exact (Option.or_eq_some_iff.mp found).imp_right And.right

theorem resolveWithCanary_eq_none_iff (noPreference : GatewayService.truthy preferredStage = false)
    (routingKey : List Char) :
    resolveWithCanary sha256 table tenantId modelAlias routingKey preferredStage = none ↔
      getActive table tenantId modelAlias "Production" = none ∧
        getActive table tenantId modelAlias "Staging" = none := by
  rw [resolveWithCanary_eq sha256 noPreference]
  cases getActive table tenantId modelAlias "Staging" with
  | none => simp
  | some staging =>
    simp only [reduceCtorEq, and_false, iff_false]
    split_ifs with within <;> simp

end resolve

end AdapterRouteRepository

end LlmopsGateway
