import Mathlib.Data.List.Basic
import Mathlib.Tactic.Common

/-! # Scanners

A scanner reads items one after the other and keeps a register between them. It stops with the first item
that finishes it or raises; what lies behind that item stays unread. Items that are passed may each give an
output.
-/

namespace LlmopsGateway.Machine

/-- What a scanner makes of an item. -/
inductive Verdict (ρ ω ε : Type)
  | pass (next : ρ) (output : Option ω)
  | finish
  | fail (error : ε)

variable {ι ρ ω ε : Type}

/-- How a scan ends: the items run out, or one of them stops it. -/
inductive Ending (ρ ε : Type)
  | exhausted (register : ρ)
  | finished
  | failed (error : ε)
deriving DecidableEq

/-- How a scan ends whose first stop, if there is one, is read so. -/
def Ending.ofStop (register : ρ) : Option (Verdict ρ ω ε) → Ending ρ ε
  | some .finish => .finished
  | some (.fail error) => .failed error
  | _ => .exhausted register

structure Scan (ι ρ ω ε : Type) where
  outputs : List ω
  ending : Ending ρ ε
  unread : List ι

def Scan.prepend (earlier : List ω) (later : Scan ι ρ ω ε) : Scan ι ρ ω ε :=
  { later with outputs := earlier ++ later.outputs }

def scan (read : ρ → ι → Verdict ρ ω ε) : ρ → List ι → Scan ι ρ ω ε
  | register, [] => ⟨[], .exhausted register, []⟩
  | register, item :: rest =>
    match read register item with
    | .pass next output => (scan read next rest).prepend output.toList
    | .finish => ⟨[], .finished, rest⟩
    | .fail error => ⟨[], .failed error, rest⟩

variable {read : ρ → ι → Verdict ρ ω ε} {register after : ρ} {item : ι} {items rest : List ι}

@[simp] theorem scan_nil : scan read register [] = ⟨[], .exhausted register, []⟩ := rfl

theorem scan_cons_pass {output : Option ω} (passed : read register item = .pass after output) :
    scan read register (item :: rest) = (scan read after rest).prepend output.toList := by
  rw [scan, passed]

theorem scan_cons_finish (finished : read register item = .finish) :
    scan read register (item :: rest) = ⟨[], .finished, rest⟩ := by
  rw [scan, finished]

theorem scan_cons_fail {error : ε} (failed : read register item = .fail error) :
    scan read register (item :: rest) = ⟨[], .failed error, rest⟩ := by
  rw [scan, failed]

/-- A scan that comes to the end of a part goes on behind it. -/
theorem scan_append_of_exhausted {outputs : List ω} {unread : List ι}
    (first : scan read register items = ⟨outputs, .exhausted after, unread⟩) :
    scan read register (items ++ rest) = (scan read after rest).prepend outputs := by
  induction items generalizing register outputs with
  | nil =>
    cases first
    rfl
  | cons item items ih =>
    rw [List.cons_append]
    cases verdict : read register item with
    | pass next output =>
      rw [scan_cons_pass verdict] at first ⊢
      obtain ⟨later, ended⟩ : ∃ later, scan read next items = ⟨later, .exhausted after, unread⟩ ∧
          outputs = output.toList ++ later := by
        cases scanned : scan read next items
        rw [scanned] at first
        cases first
        exact ⟨_, rfl, rfl⟩
      rw [ih ended.1, ended.2, Scan.prepend, Scan.prepend, Scan.prepend, List.append_assoc]
    | finish =>
      rw [scan_cons_finish verdict] at first
      cases first
    | fail error =>
      rw [scan_cons_fail verdict] at first
      cases first

/-- A scan that stops within a part does not look behind it. -/
theorem scan_append_of_stopped (stopped : ∀ after, (scan read register items).ending ≠ .exhausted after) :
    scan read register (items ++ rest) =
      { scan read register items with unread := (scan read register items).unread ++ rest } := by
  induction items generalizing register with
  | nil => exact absurd rfl (stopped register)
  | cons item items ih =>
    rw [List.cons_append]
    cases verdict : read register item with
    | pass next output =>
      rw [scan_cons_pass verdict] at stopped ⊢
      rw [scan_cons_pass verdict, ih stopped]
      rfl
    | finish => rw [scan_cons_finish verdict, scan_cons_finish verdict]
    | fail error => rw [scan_cons_fail verdict, scan_cons_fail verdict]

section stops

/-- A scan without a register, whose items stop it or pass with an output, ends at the first that stops. -/
theorem scan_of_stops {read : Unit → ι → Verdict Unit ω ε} {stops : ι → Bool} {output : ι → Option ω}
    (passes : ∀ item ∈ items, stops item = false → read () item = .pass () (output item))
    (halts : ∀ item ∈ items, stops item = true → ∀ next output, read () item ≠ .pass next output) :
    scan read () items =
      { outputs := (items.takeWhile fun item => !stops item).filterMap output
        ending := .ofStop () ((items.find? stops).map (read ()))
        unread := (items.dropWhile fun item => !stops item).tail } := by
  induction items with
  | nil => rfl
  | cons item items ih =>
    obtain ⟨passes, later⟩ := List.forall_mem_cons.mp passes
    obtain ⟨halts, laterHalts⟩ := List.forall_mem_cons.mp halts
    cases stop : stops item with
    | false =>
      rw [scan_cons_pass (passes stop), ih later laterHalts]
      cases given : output item <;> simp [stop, given, Scan.prepend]
    | true =>
      cases verdict : read () item with
      | pass next output => exact absurd verdict (halts stop next output)
      | finish => simp [scan_cons_finish verdict, stop, verdict, Ending.ofStop]
      | fail error => simp [scan_cons_fail verdict, stop, verdict, Ending.ofStop]

end stops

section registers

/-- The items with the register in which each is read, as long as the scan goes on. -/
def decorated (advance : ρ → ι → ρ) : ρ → List ι → List (ρ × ι)
  | _, [] => []
  | register, item :: rest => (register, item) :: decorated advance (advance register item) rest

/-- How a scan ends of which every passed item moves the register the same way. -/
inductive StopsAt (read : ρ → ι → Verdict ρ ω ε) (pairs : List (ρ × ι)) (scanned : Scan ι ρ ω ε) : Prop
  | exhausted (passed : ∀ pair ∈ pairs, ∃ next output, read pair.1 pair.2 = .pass next output)
    (ended : ∃ register, scanned.ending = .exhausted register)
  | finished (before : List (ρ × ι)) (stop : ρ × ι) (after : List (ρ × ι))
    (parts : pairs = before ++ stop :: after)
    (passed : ∀ pair ∈ before, ∃ next output, read pair.1 pair.2 = .pass next output)
    (finishes : read stop.1 stop.2 = .finish) (ended : scanned.ending = .finished)
    (unread : scanned.unread = after.map Prod.snd)
  | failed (before : List (ρ × ι)) (stop : ρ × ι) (after : List (ρ × ι))
    (parts : pairs = before ++ stop :: after)
    (passed : ∀ pair ∈ before, ∃ next output, read pair.1 pair.2 = .pass next output) (error : ε)
    (fails : read stop.1 stop.2 = .fail error) (ended : scanned.ending = .failed error)

theorem map_snd_decorated (advance : ρ → ι → ρ) (register : ρ) (items : List ι) :
    (decorated advance register items).map Prod.snd = items := by
  induction items generalizing register with
  | nil => rfl
  | cons item rest ih => rw [decorated, List.map_cons, ih]

theorem scan_decorated {advance : ρ → ι → ρ}
    (moves : ∀ register item next output, read register item = .pass next output → next = advance register item)
    (register : ρ) (items : List ι) :
    StopsAt read (decorated advance register items) (scan read register items) := by
  induction items generalizing register with
  | nil => exact .exhausted nofun ⟨register, rfl⟩
  | cons item rest ih =>
    rw [decorated]
    cases verdict : read register item with
    | finish =>
      rw [scan_cons_finish verdict]
      exact .finished [] (register, item) _ rfl nofun verdict rfl (map_snd_decorated ..).symm
    | fail error =>
      rw [scan_cons_fail verdict]
      exact .failed [] (register, item) _ rfl nofun error verdict rfl
    | pass next output =>
      have here : ∃ next output, read (register, item).1 (register, item).2 = .pass next output :=
        ⟨next, output, verdict⟩
      obtain rfl := moves register item next output verdict
      rw [scan_cons_pass verdict]
      cases ih (advance register item) with
      | exhausted passed ended => exact .exhausted (List.forall_mem_cons.mpr ⟨here, passed⟩) ended
      | finished before stop after parts passed finishes ended unread =>
        exact .finished ((register, item) :: before) stop after (by rw [parts]; rfl)
          (List.forall_mem_cons.mpr ⟨here, passed⟩) finishes ended unread
      | failed before stop after parts passed error fails ended =>
        exact .failed ((register, item) :: before) stop after (by rw [parts]; rfl)
          (List.forall_mem_cons.mpr ⟨here, passed⟩) error fails ended

end registers

end LlmopsGateway.Machine
