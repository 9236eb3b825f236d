import Mathlib.Data.List.Perm.Basic
import Mathlib.Data.List.Sort

/-! # Ordered selections

A query keeps some rows of a table and orders them by keys. A database may deliver them in any order that
the keys leave open, so a delivery is a relation. Its first row is one of the least rows under the keys, and
each of these is the first of some delivery.
-/

namespace LlmopsGateway.Machine

variable {ρ α : Type}

/-- An order to sort by: rows may tie, and then either may come first. -/
structure SortKey (ρ : Type) where
  compare : ρ → ρ → Ordering
  trans : Std.TransCmp compare

namespace SortKey

variable (key : SortKey ρ)

instance : Std.TransCmp key.compare := key.trans

/-- The first row may stand before the second. -/
def Before (first second : ρ) : Prop := (key.compare first second).isLE

instance (first second : ρ) : Decidable (key.Before first second) := inferInstanceAs (Decidable (_ = true))

/-- The order of a column. -/
def on (key : SortKey α) (column : ρ → α) : SortKey ρ where
  compare first second := key.compare (column first) (column second)
  trans :=
    { eq_swap := Std.OrientedCmp.eq_swap
      isLE_trans := Std.TransCmp.isLE_trans }

def desc : SortKey ρ where
  compare first second := key.compare second first
  trans := inferInstance

/-- The second key orders the rows that tie under the first. -/
def andThen (key later : SortKey ρ) : SortKey ρ where
  compare := compareLex key.compare later.compare
  trans := inferInstance

def nat : SortKey ℕ where
  compare first second := Ord.compare first second
  trans := inferInstance

variable {key}

theorem Before.trans {first second third : ρ} (left : key.Before first second)
    (right : key.Before second third) :
    key.Before first third :=
  Std.TransCmp.isLE_trans left right

theorem before_total (first second : ρ) : key.Before first second ∨ key.Before second first := by
  have swapped : key.compare second first = (key.compare first second).swap := Std.OrientedCmp.eq_swap
  rw [Before, Before, swapped]
  cases key.compare first second <;> simp

theorem before_nat_on_desc {column : ρ → ℕ} {first second : ρ} :
    (nat.on column).desc.Before first second ↔ column second ≤ column first := Nat.isLE_compare

/-- Rows that agree on a column are ordered by the keys behind it. -/
theorem before_on_andThen {key : SortKey α} {later : SortKey ρ} (column : ρ → α) {first second : ρ}
    (same : column first = column second) :
    ((key.on column).andThen later).Before first second ↔ later.Before first second := by
  have tied : key.compare (column first) (column second) = .eq := by
    rw [same]
    exact Std.ReflCmp.compare_self
  simp only [Before, andThen, on, compareLex, tied, Ordering.eq_then]

end SortKey

/-- `SELECT` with its conditions and its `ORDER BY`. -/
structure Selection (ρ : Type) where
  keep : ρ → Bool
  orderBy : SortKey ρ

namespace Selection

variable (query : Selection ρ) (table : List ρ)

/-- The database may deliver these rows. -/
structure Delivers (rows : List ρ) : Prop where
  perm : rows.Perm (table.filter query.keep)
  ordered : rows.Pairwise query.orderBy.Before

/-- A row that may be delivered first. -/
structure Leads (row : ρ) : Prop where
  mem : row ∈ table.filter query.keep
  least : ∀ other ∈ table.filter query.keep, query.orderBy.Before row other

variable {query table} {rows : List ρ} {row : ρ}

theorem pairwise_mergeSort (key : SortKey ρ) (rows : List ρ) :
    (rows.mergeSort fun first second => key.Before first second).Pairwise key.Before := by
  have sorted := @List.pairwise_mergeSort ρ (fun first second => decide (key.Before first second))
    (by simpa using fun first second third => SortKey.Before.trans)
    (by simpa using SortKey.before_total) rows
  simpa using sorted

theorem exists_delivers (query : Selection ρ) (table : List ρ) : ∃ rows, query.Delivers table rows :=
  ⟨_, List.mergeSort_perm _ _, pairwise_mergeSort query.orderBy _⟩

theorem Delivers.mem_iff (delivers : query.Delivers table rows) :
    row ∈ rows ↔ row ∈ table.filter query.keep :=
  delivers.perm.mem_iff

theorem Delivers.leads (delivers : query.Delivers table (row :: rows)) : query.Leads table row where
  mem := delivers.mem_iff.mp (List.mem_cons_self ..)
  least other member := by
    rcases List.mem_cons.mp (delivers.mem_iff.mpr member) with rfl | later
    · exact (SortKey.before_total other other).elim id id
    · exact List.rel_of_pairwise_cons delivers.ordered later

/-- A row that may be delivered first is the first of some delivery. -/
theorem Leads.exists_delivers [DecidableEq ρ] (leads : query.Leads table row) :
    ∃ rows, query.Delivers table (row :: rows) := by
  refine ⟨((table.filter query.keep).erase row).mergeSort fun first second =>
    query.orderBy.Before first second, ?_, ?_⟩
  · exact ((List.mergeSort_perm _ _).cons row).trans (List.perm_cons_erase leads.mem).symm
  · refine List.pairwise_cons.mpr ⟨fun other member => ?_, pairwise_mergeSort query.orderBy _⟩
    exact leads.least other (List.mem_of_mem_erase (List.mem_mergeSort.mp member))

/-- What a delivery has of a narrower query is a delivery of that query, if it orders its rows alike. -/
theorem Delivers.narrow {narrower : Selection ρ} {also : ρ → Bool} (delivers : query.Delivers table rows)
    (keeps : ∀ row, narrower.keep row = (also row && query.keep row))
    (alike : ∀ first second, also first = true → also second = true → query.orderBy.Before first second →
      narrower.orderBy.Before first second) :
    narrower.Delivers table (rows.filter also) where
  perm := by
    have kept : table.filter narrower.keep = (table.filter query.keep).filter also := by
      rw [List.filter_filter]
      exact List.filter_congr fun row _ => keeps row
    rw [kept]
    exact delivers.perm.filter also
  ordered := by
    have filtered := delivers.ordered.filter also
    refine filtered.imp_of_mem fun {first second} here there before => ?_
    exact alike first second (List.mem_filter.mp here).2 (List.mem_filter.mp there).2 before

/-- A row that the query does not keep is not seen by it. -/
theorem delivers_append_of_dropped {added : ρ} (dropped : query.keep added = false) :
    query.Delivers (table ++ [added]) rows ↔ query.Delivers table rows := by
  have same : (table ++ [added]).filter query.keep = table.filter query.keep := by
    simp [List.filter_append, dropped]
  constructor
  · exact fun delivers => ⟨same ▸ delivers.perm, delivers.ordered⟩
  · exact fun delivers => ⟨same ▸ delivers.perm, delivers.ordered⟩

end Selection

end LlmopsGateway.Machine
