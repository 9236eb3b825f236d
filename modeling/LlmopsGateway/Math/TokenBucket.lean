import Mathlib.Algebra.Order.Field.Basic
import Mathlib.Algebra.Order.BigOperators.Group.List
import Mathlib.Tactic.Linarith
import Mathlib.Tactic.Ring

/-! # The ideal token bucket

A bucket of some capacity starts full, refills continuously and loses one token per admission.
Its level is computed from the admission instants alone, newest first, so any implementation that
never admits above this level inherits the window bound: between two instants at most the
capacity plus what was refilled in between can be admitted.
-/

namespace LlmopsGateway.TokenBucket

variable {K : Type*} [Field K] [LinearOrder K] [IsStrictOrderedRing K]

/-- The level at `now` of a bucket that started full, given its admissions, newest first. -/
def level (capacity rate : K) : List K → K → K
  | [], _ => capacity
  | last :: earlier, now => min capacity (level capacity rate earlier last - 1 + (now - last) * rate)

/-- Every admission found a whole token, and admissions are recorded in time order. -/
def Fair (capacity rate : K) : List K → Prop
  | [] => True
  | last :: earlier =>
      1 ≤ level capacity rate earlier last ∧ (∀ instant ∈ earlier, instant ≤ last) ∧
        Fair capacity rate earlier

/-- The admissions of a closed time window. -/
def admittedIn (start finish : K) (admissions : List K) : ℕ :=
  admissions.countP fun instant => start ≤ instant ∧ instant ≤ finish

/-- Which calls at the given times the bucket admits, after the admissions so far. -/
def admits (capacity rate : K) : List K → List K → List Bool
  | _, [] => []
  | admissions, now :: later =>
    decide (1 ≤ level capacity rate admissions now) ::
      admits capacity rate (if 1 ≤ level capacity rate admissions now then now :: admissions
        else admissions) later

variable {capacity rate : K} {admissions : List K}

omit [IsStrictOrderedRing K] in
theorem level_le_capacity (now : K) : level capacity rate admissions now ≤ capacity := by
  cases admissions with
  | nil => exact le_rfl
  | cons last earlier => exact min_le_left _ _

theorem level_nonneg (full : 0 ≤ capacity) (refills : 0 ≤ rate)
    (fair : Fair capacity rate admissions) {now : K} (past : ∀ instant ∈ admissions, instant ≤ now) :
    0 ≤ level capacity rate admissions now := by
  cases admissions with
  | nil => exact full
  | cons last earlier =>
    have elapsed : 0 ≤ now - last := sub_nonneg.mpr (past last (List.mem_cons_self ..))
    have refill := mul_nonneg elapsed refills
    have found := fair.1
    exact le_min full (by linarith)

/-- Between admissions the level only refills, up to the capacity. -/
theorem level_advance (refills : 0 ≤ rate) {before now : K} (later : before ≤ now) :
    level capacity rate admissions now =
      min capacity (level capacity rate admissions before + (now - before) * rate) := by
  have refill : 0 ≤ (now - before) * rate := mul_nonneg (sub_nonneg.mpr later) refills
  cases admissions with
  | nil => exact (min_eq_left (by simp only [level]; linarith)).symm
  | cons last earlier =>
    simp only [level]
    rw [min_add, ← min_assoc, min_eq_left (by linarith : capacity ≤ capacity + (now - before) * rate)]
    congr 1
    ring

theorem level_mono (refills : 0 ≤ rate) {before now : K} (later : before ≤ now) :
    level capacity rate admissions before ≤ level capacity rate admissions now := by
  rw [level_advance refills later]
  have refill : 0 ≤ (now - before) * rate := mul_nonneg (sub_nonneg.mpr later) refills
  exact le_min (level_le_capacity before) (by linarith)

/-- A bucket left alone for long enough is full again. -/
theorem level_of_idle (refills : 0 ≤ rate)
    (fair : Fair capacity rate admissions) {span now : K} (long : capacity ≤ span * rate)
    (idle : ∀ instant ∈ admissions, instant + span ≤ now) :
    level capacity rate admissions now = capacity := by
  cases admissions with
  | nil => rfl
  | cons last earlier =>
    have elapsed : span ≤ now - last := by linarith [idle last (List.mem_cons_self ..)]
    have refill := mul_le_mul_of_nonneg_right elapsed refills
    have found := fair.1
    exact min_eq_left (by linarith)

/-- What is left plus what was admitted since `start` never exceeds the capacity and the refill. -/
theorem level_add_admitted_le (refills : 0 ≤ rate)
    (fair : Fair capacity rate admissions) {start now : K} (ordered : start ≤ now)
    (past : ∀ instant ∈ admissions, instant ≤ now) :
    level capacity rate admissions now + admissions.countP (fun instant => start ≤ instant) ≤
      capacity + (now - start) * rate := by
  have refill : 0 ≤ (now - start) * rate := mul_nonneg (sub_nonneg.mpr ordered) refills
  induction admissions generalizing now with
  | nil => simpa [level] using refill
  | cons last earlier ih =>
    by_cases inside : start ≤ last
    · have sinceStart : 0 ≤ (last - start) * rate := mul_nonneg (sub_nonneg.mpr inside) refills
      have earlierBound := ih fair.2.2 inside fair.2.1 sinceStart
      have spent : level capacity rate (last :: earlier) now ≤
          level capacity rate earlier last - 1 + (now - last) * rate := min_le_right _ _
      rw [List.countP_cons_of_pos (by simpa using inside)]
      push_cast
      linarith
    · have none : (last :: earlier).countP (fun instant => start ≤ instant) = 0 := by
        apply List.countP_eq_zero.mpr
        intro instant member
        have : instant ≤ last := by
          rcases List.mem_cons.mp member with rfl | member
          · exact le_rfl
          · exact fair.2.1 instant member
        simpa using lt_of_le_of_lt this (not_le.mp inside)
      rw [none]
      have top : level capacity rate (last :: earlier) now ≤ capacity := level_le_capacity now
      push_cast
      linarith

/-- The window bound: a fair history admits at most the capacity plus the refill of the window. -/
theorem admittedIn_le (full : 0 ≤ capacity) (refills : 0 ≤ rate)
    (fair : Fair capacity rate admissions) {start finish : K} (ordered : start ≤ finish) :
    (admittedIn start finish admissions : K) ≤ capacity + (finish - start) * rate := by
  induction admissions with
  | nil =>
    have refill : 0 ≤ (finish - start) * rate := mul_nonneg (sub_nonneg.mpr ordered) refills
    simp only [admittedIn, List.countP_nil, Nat.cast_zero]
    linarith
  | cons last earlier ih =>
    by_cases beyond : finish < last
    · have skipped : admittedIn start finish (last :: earlier) = admittedIn start finish earlier := by
        apply List.countP_cons_of_neg
        simp [not_le.mpr beyond]
      rw [skipped]
      exact ih fair.2.2
    · have past : ∀ instant ∈ last :: earlier, instant ≤ finish := by
        intro instant member
        rcases List.mem_cons.mp member with rfl | member
        · exact not_lt.mp beyond
        · exact (fair.2.1 instant member).trans (not_lt.mp beyond)
      have same : admittedIn start finish (last :: earlier) =
          (last :: earlier).countP (fun instant => start ≤ instant) := by
        apply List.countP_congr
        intro instant member
        simp [past instant member]
      have remaining := level_nonneg full refills fair past
      have bound := level_add_admitted_le refills fair ordered past
      rw [same]
      linarith

end LlmopsGateway.TokenBucket
