import LlmopsGateway.Machine.Run
import LlmopsGateway.Machine.Selection
import LlmopsGateway.Machine.Table
import LlmopsGateway.Model.Pricing
import LlmopsGateway.Model.PyUuid

/-! # The model_pricing table

`PricingRepository` over whole rows. The database orders strings by a collation, which is a parameter, and
picks itself among rows that tie under an `ORDER BY`.
-/

namespace LlmopsGateway

open Machine

/-- A row of `model_pricing`, with the columns that no price depends on. -/
structure PricingRow extends ModelPricingModel where
  id : Uuid
  currency : String
deriving DecidableEq

namespace PricingRow

def conflicts (first second : PricingRow) : Bool := first.id = second.id

def isOf (provider model : String) (row : PricingRow) : Bool := row.provider = provider && row.modelName = model

end PricingRow

abbrev PricingTable := Table PricingRow PricingRow.conflicts

namespace PricingRepository

/-- The conditions and the order of `get_active_price`. -/
def activePrice (provider model : String) (time : ℕ) : Selection PricingRow where
  keep row := row.isOf provider model && row.covers time
  orderBy := (SortKey.nat.on fun row => row.effectiveFrom).desc

/-- Those of `list_active`. -/
def active (collation : SortKey String) (time : ℕ) : Selection PricingRow where
  keep row := row.covers time
  orderBy := (collation.on fun row => row.provider).andThen
    ((collation.on fun row => row.modelName).andThen (SortKey.nat.on fun row => row.effectiveFrom).desc)

/-- `scalar_one_or_none`, with `none` for its `MultipleResultsFound`. -/
def scalarOneOrNone : List PricingRow → Option (Option PricingRow)
  | [] => some none
  | [row] => some (some row)
  | _ => none

/-- `get_active_price` may return this record. -/
def GetActivePrice (table : PricingTable) (provider model : String) (time : ℕ)
    (record : Option PricingRow) : Prop :=
  ∃ rows, (activePrice provider model time).Delivers table.rows rows ∧
    scalarOneOrNone (rows.take 1) = some record

/-- `list_active` may return these rows. -/
def ListActive (collation : SortKey String) (table : PricingTable) (time : Option ℕ) (now : ℕ)
    (rows : List PricingRow) : Prop :=
  (active collation (time.getD now)).Delivers table.rows rows

/-- A call of `create`, with the id that its row gets. -/
structure Creation where
  id : Uuid
  provider : String
  modelName : String
  inputPricePer1k : ℚ
  outputPricePer1k : ℚ
  currency : String := "USD"
  effectiveFrom : ℕ
  effectiveTo : Option ℕ := none

def Creation.row (creation : Creation) : PricingRow where
  id := creation.id
  provider := creation.provider
  modelName := creation.modelName
  inputPricePer1k := creation.inputPricePer1k
  outputPricePer1k := creation.outputPricePer1k
  currency := creation.currency
  effectiveFrom := creation.effectiveFrom
  effectiveTo := creation.effectiveTo

def create (table : PricingTable) (creation : Creation) : Option (PricingRow × PricingTable) :=
  (table.insert creation.row).map fun inserted => (creation.row, inserted)

/-- The table after calls of `create` on an empty one. A call that raises is rolled back and is none of them. -/
def after (creations : List Creation) : Option PricingTable :=
  run? (fun table creation => (create table creation).map Prod.snd) Table.empty creations

end PricingRepository

end LlmopsGateway
