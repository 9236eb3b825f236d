import Mathlib.Data.List.Range
import Mathlib.Tactic.Common

/-! # The beginning of a list, up to and including a hit

A scan that stops with the first element of a kind has looked at exactly these elements.
-/

namespace LlmopsGateway

variable {α β : Type*} {hit : α → Bool}

/-- The elements up to and including the first hit, or all of them. -/
def takeThrough (hit : α → Bool) : List α → List α
  | [] => []
  | x :: rest => if hit x then [x] else x :: takeThrough hit rest

@[simp] theorem takeThrough_nil : takeThrough hit [] = [] := rfl

theorem takeThrough_cons_of_hit {x : α} {rest : List α} (here : hit x = true) :
    takeThrough hit (x :: rest) = [x] := by
  rw [takeThrough, if_pos here]

theorem takeThrough_cons_of_miss {x : α} {rest : List α} (missed : hit x = false) :
    takeThrough hit (x :: rest) = x :: takeThrough hit rest := by
  rw [takeThrough, if_neg (by rw [missed]; exact Bool.false_ne_true)]

/-- A scan goes through a part without a hit. -/
theorem takeThrough_append {missed rest : List α} (misses : ∀ x ∈ missed, hit x = false) :
    takeThrough hit (missed ++ rest) = missed ++ takeThrough hit rest := by
  induction missed with
  | nil => rfl
  | cons x missed ih =>
    obtain ⟨here, later⟩ := List.forall_mem_cons.mp misses
    rw [List.cons_append, takeThrough_cons_of_miss here, ih later, List.cons_append]

/-- A scan over consecutive numbers that stops with the `n`-th of them. -/
theorem takeThrough_range' {hit : ℕ → Bool} {start length n : ℕ} (within : n ≤ length)
    (before : ∀ k < n, hit (start + k) = false) (last : n = length ∨ hit (start + n) = true) :
    takeThrough hit (List.range' start (length + 1)) = List.range' start (n + 1) := by
  induction n generalizing start length with
  | zero =>
    rw [List.range'_succ]
    rcases last with rfl | here
    · cases hit start <;> simp [takeThrough]
    · exact takeThrough_cons_of_hit here
  | succ n ih =>
    obtain ⟨m, rfl⟩ : ∃ m, length = m + 1 := ⟨length - 1, by omega⟩
    have shift (k : ℕ) : start + 1 + k = start + (k + 1) := by omega
    have rest : takeThrough hit (List.range' (start + 1) (m + 1)) = List.range' (start + 1) (n + 1) := by
      apply ih (by omega)
      · intro k below
        rw [shift]
        exact before (k + 1) (by omega)
      · rw [shift]
        exact last.imp_left fun full => by omega
    have missed : hit start = false := before 0 (by omega)
    rw [List.range'_succ, takeThrough_cons_of_miss missed, rest, ← List.range'_succ]

end LlmopsGateway
