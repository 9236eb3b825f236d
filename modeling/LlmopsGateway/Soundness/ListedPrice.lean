import LlmopsGateway.Model.PriceTable

/-! # The listed price is the billed price

What a listing has of one model is a delivery of the query for its price, so the first row listed may always
be the one billed. Where no two windows start together the query leaves no choice.
-/

namespace LlmopsGateway.PricingRepository

open Machine

variable {collation : SortKey String} {table : PricingTable} {provider model : String} {time now : ℕ}
  {requested : Option ℕ} {rows : List PricingRow} {row other : PricingRow} {record : Option PricingRow}

theorem scalarOneOrNone_take (rows : List PricingRow) : scalarOneOrNone (rows.take 1) = some rows.head? := by
  cases rows <;> rfl

/-- The rows that price a model at a time. -/
def pricing (table : PricingTable) (provider model : String) (time : ℕ) : List PricingRow :=
  table.rows.filter (activePrice provider model time).keep

theorem getActivePrice_none_iff : GetActivePrice table provider model time none ↔
    pricing table provider model time = [] := by
  constructor
  · rintro ⟨rows, delivers, scalar⟩
    rw [scalarOneOrNone_take, Option.some.injEq, List.head?_eq_none_iff] at scalar
    subst scalar
    exact delivers.perm.nil_eq.symm
  · intro none
    obtain ⟨rows, delivers⟩ := (activePrice provider model time).exists_delivers table.rows
    refine ⟨rows, delivers, ?_⟩
    have perm := delivers.perm
    rw [show table.rows.filter (activePrice provider model time).keep = [] from none] at perm
    rw [perm.eq_nil]
    rfl

theorem getActivePrice_some_iff : GetActivePrice table provider model time (some row) ↔
    (activePrice provider model time).Leads table.rows row := by
  constructor
  · rintro ⟨rows, delivers, scalar⟩
    rw [scalarOneOrNone_take, Option.some.injEq] at scalar
    obtain ⟨rest, rfl⟩ := List.head?_eq_some_iff.mp scalar
    exact delivers.leads
  · intro leads
    obtain ⟨rest, delivers⟩ := leads.exists_delivers
    exact ⟨row :: rest, delivers, rfl⟩

theorem exists_getActivePrice (table : PricingTable) (provider model : String) (time : ℕ) :
    ∃ record, GetActivePrice table provider model time record := by
  obtain ⟨rows, delivers⟩ := (activePrice provider model time).exists_delivers table.rows
  exact ⟨rows.head?, rows, delivers, scalarOneOrNone_take rows⟩

theorem mem_of_getActivePrice (returned : GetActivePrice table provider model time (some row)) :
    row ∈ pricing table provider model time :=
  (getActivePrice_some_iff.mp returned).mem

/-- A row that may be returned starts no earlier than the others. -/
theorem start_le_of_getActivePrice (returned : GetActivePrice table provider model time (some row))
    (member : other ∈ pricing table provider model time) : other.effectiveFrom ≤ row.effectiveFrom :=
  SortKey.before_nat_on_desc.mp ((getActivePrice_some_iff.mp returned).least other member)

/-- The first row listed for a model may be returned as its price. -/
theorem getActivePrice_of_listActive (provider model : String)
    (listed : ListActive collation table requested now rows) :
    GetActivePrice table provider model (requested.getD now) (rows.find? (PricingRow.isOf provider model)) := by
  have narrowed : (activePrice provider model (requested.getD now)).Delivers table.rows
      (rows.filter (PricingRow.isOf provider model)) := by
    refine listed.narrow (fun row => rfl) fun first second here there before => ?_
    simp only [PricingRow.isOf, Bool.and_eq_true, decide_eq_true_eq] at here there
    have models := (SortKey.before_on_andThen (fun row : PricingRow => row.provider)
      (here.1.trans there.1.symm)).mp before
    exact (SortKey.before_on_andThen (fun row : PricingRow => row.modelName)
      (here.2.trans there.2.symm)).mp models
  exact ⟨_, narrowed, by rw [scalarOneOrNone_take, List.head?_filter]⟩

/-- No two of the rows that price a model start together. -/
def DistinctStarts (table : PricingTable) (provider model : String) (time : ℕ) : Prop :=
  ((pricing table provider model time).map fun row => row.effectiveFrom).Nodup

instance (table : PricingTable) (provider model : String) (time : ℕ) :
    Decidable (DistinctStarts table provider model time) :=
  inferInstanceAs (Decidable (List.Nodup _))

/-- What may be returned as a price is determined. -/
theorem eq_of_getActivePrice {first second : Option PricingRow}
    (distinct : DistinctStarts table provider model time)
    (left : GetActivePrice table provider model time first)
    (right : GetActivePrice table provider model time second) : first = second := by
  cases first with
  | none =>
    cases second with
    | none => rfl
    | some row =>
      have nothing := getActivePrice_none_iff.mp left
      cases nothing ▸ mem_of_getActivePrice right
  | some row =>
    have here := mem_of_getActivePrice left
    cases second with
    | none =>
      have nothing := getActivePrice_none_iff.mp right
      cases nothing ▸ here
    | some other =>
      have there := mem_of_getActivePrice right
      have together :=
        Nat.le_antisymm (start_le_of_getActivePrice right here) (start_le_of_getActivePrice left there)
      rw [List.inj_on_of_nodup_map distinct here there together]

section creations

variable {creations : List Creation} {creation : Creation} {next : PricingTable}

theorem rows_of_create (created : create table creation = some (row, next)) :
    row = creation.row ∧ next.rows = table.rows ++ [creation.row] := by
  obtain ⟨inserted, insertion, made⟩ := Option.map_eq_some_iff.mp created
  obtain ⟨rfl, rfl⟩ := Prod.mk.inj made
  exact ⟨rfl, (Table.insert_eq_some_iff.mp insertion).2⟩

theorem rows_of_after (reached : after creations = some table)
    (extended : after (creations ++ [creation]) = some next) :
    next.rows = table.rows ++ [creation.row] := by
  obtain ⟨before, ran, stepped⟩ := run?_concat_iff.mp extended
  obtain rfl := Option.some.inj (ran.symm.trans reached)
  obtain ⟨⟨row, made⟩, created, rfl⟩ := Option.map_eq_some_iff.mp stepped
  exact (rows_of_create created).2

theorem not_covers_iff {row : ModelPricingModel} : row.covers time = false ↔
    time < row.effectiveFrom ∨ ∃ ended ∈ row.effectiveTo, ended ≤ time := by
  rw [ModelPricingModel.covers, Bool.and_eq_false_iff, decide_eq_false_iff_not, Nat.not_le]
  cases row.effectiveTo <;> simp

/-- A row outside of the time leaves what may be returned as it is. -/
theorem getActivePrice_of_dropped (rows : next.rows = table.rows ++ [row]) (outside : row.covers time = false) :
    GetActivePrice next provider model time record ↔ GetActivePrice table provider model time record := by
  have dropped : (activePrice provider model time).keep row = false := by simp [activePrice, outside]
  simp only [GetActivePrice, rows, Selection.delivers_append_of_dropped dropped]

/-- There is one price: it may be returned and no other, every listing shows it first, it starts last among
the rows that cover the time, and a row outside of that time does not change it. -/
structure Billed (collation : SortKey String) (creations : List Creation) (table : PricingTable)
    (provider model : String) (time : ℕ) (record : Option PricingRow) : Prop where
  returned : ∀ other, GetActivePrice table provider model time other ↔ other = record
  listed : ∀ requested now rows, requested.getD now = time → ListActive collation table requested now rows →
    rows.find? (PricingRow.isOf provider model) = record
  absent : ∀ requested now rows, requested.getD now = time → ListActive collation table requested now rows →
    (record = none ↔ ∀ row ∈ rows, row.isOf provider model = false)
  latest : ∀ row, record = some row → row ∈ pricing table provider model time ∧
    ∀ other ∈ pricing table provider model time, other ≠ row → other.effectiveFrom < row.effectiveFrom
  stable : ∀ creation next, after (creations ++ [creation]) = some next →
    (time < creation.effectiveFrom ∨ ∃ ended ∈ creation.effectiveTo, ended ≤ time) →
      ∀ other, GetActivePrice next provider model time other ↔ other = record

theorem billed (collation : SortKey String) (reached : after creations = some table)
    (distinct : DistinctStarts table provider model time) :
    ∃ record, Billed collation creations table provider model time record := by
  obtain ⟨record, returned⟩ := exists_getActivePrice table provider model time
  have determined (other : Option PricingRow) :
      GetActivePrice table provider model time other ↔ other = record :=
    ⟨fun other => eq_of_getActivePrice distinct other returned, fun same => same ▸ returned⟩
  have listed (requested : Option ℕ) (now : ℕ) (rows : List PricingRow) (asked : requested.getD now = time)
      (listing : ListActive collation table requested now rows) :
      rows.find? (PricingRow.isOf provider model) = record := by
    have first := getActivePrice_of_listActive provider model listing
    rw [asked] at first
    exact (determined _).mp first
  refine ⟨record, determined, listed, fun requested now rows asked listing => ?_, fun row found => ?_,
    fun creation next extended outside other => ?_⟩
  · rw [← listed requested now rows asked listing]
    simp
  · subst found
    refine ⟨mem_of_getActivePrice returned, fun other member apart => ?_⟩
    refine lt_of_le_of_ne (start_le_of_getActivePrice returned member) fun together => apart ?_
    exact List.inj_on_of_nodup_map distinct member (mem_of_getActivePrice returned) together
  · rw [getActivePrice_of_dropped (rows_of_after reached extended) (not_covers_iff.mpr outside)]
    exact determined other

/-- The price of a model is lowered while the first row stays open. -/
def lowered : List Creation :=
  [⟨.ofNat 0, "openai", "gpt-4o", 5 / 1000, 15 / 1000, "USD", 0, none⟩,
    ⟨.ofNat 1, "openai", "gpt-4o", 25 / 10000, 1 / 100, "USD", 100, none⟩]

def loweredTable : PricingTable := ⟨lowered.map Creation.row, by decide⟩

def codePoints : SortKey String where
  compare first second := Ord.compare first second
  trans := inferInstance

theorem billed_lowered : ∃ record, Billed codePoints lowered loweredTable "openai" "gpt-4o" 200 record :=
  billed codePoints rfl (by decide)

end creations

end LlmopsGateway.PricingRepository
