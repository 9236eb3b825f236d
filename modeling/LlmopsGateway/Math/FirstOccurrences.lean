import Mathlib.Data.List.Induction
import Mathlib.Data.List.Nodup

/-! # Appending what is new

A loop that appends every item it has not seen yet keeps what it started with and adds the other items in
the order of their first occurrences.
-/

namespace LlmopsGateway.Math

variable {α : Type*} [DecidableEq α]

def appendNew (seen items : List α) : List α :=
  items.foldl (fun seen item => if item ∈ seen then seen else seen ++ [item]) seen

/-- The items that are not among the seen ones, each once, in the order of their first occurrences. -/
structure FirstOccurrences (seen items fresh : List α) : Prop where
  mem_iff : ∀ item, item ∈ fresh ↔ item ∈ items ∧ item ∉ seen
  ordered : fresh.Pairwise fun first second => items.idxOf first < items.idxOf second

variable {seen items fresh : List α}

theorem FirstOccurrences.nil (seen : List α) : FirstOccurrences seen [] [] where
  mem_iff _ := iff_of_false nofun nofun
  ordered := .nil

theorem FirstOccurrences.ordered_append (occurrences : FirstOccurrences seen items fresh) (more : List α) :
    fresh.Pairwise fun first second => (items ++ more).idxOf first < (items ++ more).idxOf second := by
  refine List.Pairwise.imp_of_mem ?_ occurrences.ordered
  intro first second here there before
  rw [List.idxOf_append_of_mem ((occurrences.mem_iff first).mp here).1,
    List.idxOf_append_of_mem ((occurrences.mem_iff second).mp there).1]
  exact before

/-- An item that is already there adds nothing. -/
theorem FirstOccurrences.concat_of_mem {item : α} (occurrences : FirstOccurrences seen items fresh)
    (known : item ∈ seen ++ fresh) : FirstOccurrences seen (items ++ [item]) fresh where
  mem_iff other := by
    rw [occurrences.mem_iff, List.mem_append, List.mem_singleton]
    constructor
    · rintro ⟨among, unseen⟩
      exact ⟨.inl among, unseen⟩
    · rintro ⟨among | rfl, unseen⟩
      · exact ⟨among, unseen⟩
      · rcases List.mem_append.mp known with before | before
        · exact absurd before unseen
        · exact (occurrences.mem_iff other).mp before
  ordered := occurrences.ordered_append [item]

/-- A new item comes last. -/
theorem FirstOccurrences.concat_of_notMem {item : α} (occurrences : FirstOccurrences seen items fresh)
    (new : item ∉ seen ++ fresh) : FirstOccurrences seen (items ++ [item]) (fresh ++ [item]) where
  mem_iff other := by
    rw [List.mem_append, List.mem_singleton, occurrences.mem_iff, List.mem_append, List.mem_singleton]
    constructor
    · rintro (⟨among, unseen⟩ | rfl)
      · exact ⟨.inl among, unseen⟩
      · exact ⟨.inr rfl, fun before => new (List.mem_append_left _ before)⟩
    · rintro ⟨among | rfl, unseen⟩
      · exact .inl ⟨among, unseen⟩
      · exact .inr rfl
  ordered := by
    have absent : item ∉ items := fun among =>
      new (List.mem_append.mpr (or_iff_not_imp_left.mpr fun unseen =>
        (occurrences.mem_iff item).mpr ⟨among, unseen⟩))
    refine List.pairwise_append.mpr ⟨occurrences.ordered_append [item], List.pairwise_singleton .., ?_⟩
    intro first here second there
    obtain rfl := List.mem_singleton.mp there
    have among := ((occurrences.mem_iff first).mp here).1
    rw [List.idxOf_append_of_mem among, List.idxOf_append_of_notMem absent]
    exact Nat.lt_add_right _ (List.idxOf_lt_length_of_mem among)

theorem appendNew_eq (seen items : List α) :
    ∃ fresh, appendNew seen items = seen ++ fresh ∧ FirstOccurrences seen items fresh := by
  induction items using List.reverseRecOn with
  | nil => exact ⟨[], (List.append_nil seen).symm, .nil seen⟩
  | append_singleton items item ih =>
    obtain ⟨fresh, appended, occurrences⟩ := ih
    have step : appendNew seen (items ++ [item]) =
        if item ∈ appendNew seen items then appendNew seen items else appendNew seen items ++ [item] := by
      rw [appendNew, List.foldl_append]
      rfl
    rw [step, appended]
    by_cases known : item ∈ seen ++ fresh
    · rw [if_pos known]
      exact ⟨fresh, rfl, occurrences.concat_of_mem known⟩
    · rw [if_neg known, List.append_assoc]
      exact ⟨fresh ++ [item], rfl, occurrences.concat_of_notMem known⟩

theorem FirstOccurrences.nodup (occurrences : FirstOccurrences seen items fresh) (apart : seen.Nodup) :
    (seen ++ fresh).Nodup := by
  refine List.nodup_append.mpr ⟨apart, ?_, ?_⟩
  · refine List.Pairwise.imp ?_ occurrences.ordered
    rintro first second before rfl
    exact Nat.lt_irrefl _ before
  · rintro first here second there rfl
    exact ((occurrences.mem_iff first).mp there).2 here

end LlmopsGateway.Math
