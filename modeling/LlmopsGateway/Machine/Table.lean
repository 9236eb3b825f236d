import Mathlib.Data.List.Pairwise
import Mathlib.Tactic.Common

/-! # Tables with unique columns

The unique constraints of a table say which two rows may not stand in it together. An insertion that
would break one fails; an update that leaves the constrained columns alone cannot.
-/

namespace LlmopsGateway.Machine

variable {ρ : Type} {conflicts : ρ → ρ → Bool}

/-- The rows in the order of their insertion. -/
structure Table (ρ : Type) (conflicts : ρ → ρ → Bool) where
  rows : List ρ
  consistent : rows.Pairwise fun first second => conflicts first second = false

namespace Table

def empty : Table ρ conflicts := ⟨[], List.Pairwise.nil⟩

/-- `INSERT`; `none` is the error of a broken constraint. -/
def insert (table : Table ρ conflicts) (row : ρ) : Option (Table ρ conflicts) :=
  if fresh : ∀ other ∈ table.rows, conflicts other row = false then
    some ⟨table.rows ++ [row], List.pairwise_append.mpr ⟨table.consistent, List.pairwise_singleton ..,
      fun other member _ here => List.mem_singleton.mp here ▸ fresh other member⟩⟩
  else none

/-- `UPDATE` of columns without constraints. -/
def update (table : Table ρ conflicts) (assign : ρ → ρ)
    (keeps : ∀ first second, conflicts (assign first) (assign second) = conflicts first second) :
    Table ρ conflicts :=
  ⟨table.rows.map assign, List.pairwise_map.mpr (table.consistent.imp fun apart => (keeps ..).trans apart)⟩

theorem insert_eq_some_iff {table next : Table ρ conflicts} {row : ρ} :
    table.insert row = some next ↔
      (∀ other ∈ table.rows, conflicts other row = false) ∧ next.rows = table.rows ++ [row] := by
  unfold insert
  split
  · rename_i fresh
    constructor
    · rintro inserted
      obtain rfl := Option.some.inj inserted
      exact ⟨fresh, rfl⟩
    · rintro ⟨-, rows⟩
      cases next
      cases rows
      rfl
  · rename_i taken
    exact iff_of_false nofun fun fresh => taken fresh.1

theorem insert_eq_none_iff {table : Table ρ conflicts} {row : ρ} :
    table.insert row = none ↔ ∃ other ∈ table.rows, conflicts other row = true := by
  unfold insert
  split
  · rename_i fresh
    refine iff_of_false nofun ?_
    rintro ⟨other, member, conflict⟩
    exact Bool.false_ne_true ((fresh other member).symm.trans conflict)
  · rename_i taken
    exact iff_of_true rfl (by simpa using taken)

/-- Two rows that conflict are one. -/
theorem eq_of_conflicts (symmetric : ∀ first second, conflicts first second = conflicts second first)
    (table : Table ρ conflicts) {first second : ρ} (here : first ∈ table.rows) (there : second ∈ table.rows)
    (conflict : conflicts first second = true) : first = second := by
  have : Std.Symm fun first second => conflicts first second = false :=
    ⟨fun _ _ apart => (symmetric ..).trans apart⟩
  by_contra other
  have apart := table.consistent.forall here there other
  exact Bool.false_ne_true (apart.symm.trans conflict)

@[simp] theorem rows_update (table : Table ρ conflicts) (assign : ρ → ρ)
    (keeps : ∀ first second, conflicts (assign first) (assign second) = conflicts first second) :
    (table.update assign keeps).rows = table.rows.map assign := rfl

/-- An update is invisible to a filter it changes no kept row under. -/
theorem filter_update {kept : ρ → Bool} {table : Table ρ conflicts} {assign : ρ → ρ}
    {keeps : ∀ first second, conflicts (assign first) (assign second) = conflicts first second}
    (same : ∀ row ∈ table.rows, kept (assign row) = kept row)
    (unchanged : ∀ row ∈ table.rows, kept row = true → assign row = row) :
    (table.update assign keeps).rows.filter kept = table.rows.filter kept := by
  have kept_eq : table.rows.filter (kept ∘ assign) = table.rows.filter kept := List.filter_congr same
  rw [rows_update, List.filter_map, kept_eq]
  conv_rhs => rw [← List.map_id (table.rows.filter kept)]
  refine List.map_congr_left fun row member => ?_
  obtain ⟨member, kept⟩ := List.mem_filter.mp member
  exact unchanged row member kept

end Table

end LlmopsGateway.Machine
