import Mathlib.Data.Set.Insert
import Mathlib.Logic.Function.Basic

/-! # Shared assemblies

Several parties look after one thing that is made of planned parts. Whoever begins it is to add the parts
one by one. A party may abandon its work, and nobody takes it up again: from then on some part is missing for
good. Without that, every planned part is there or still to be added.
-/

namespace LlmopsGateway.Machine

/-- The parts that are there, once the thing has been begun, and what each party is still to add. -/
@[ext]
structure Assembly (ι π : Type) where
  built : Option (Set π)
  todo : ι → List π

namespace Assembly

variable {ι π : Type} {plan : List π} {before after : Assembly ι π} {kept : Bool}

section steps

variable [DecidableEq ι]

/-- The assembly with what is built now and what one party is to add now. -/
def assign (assembly : Assembly ι π) (built : Option (Set π)) (party : ι) (parts : List π) : Assembly ι π :=
  ⟨built, Function.update assembly.todo party parts⟩

@[simp] theorem built_assign (built : Option (Set π)) (party : ι) (parts : List π) :
    (before.assign built party parts).built = built := rfl

@[simp] theorem todo_assign_self (built : Option (Set π)) (party : ι) (parts : List π) :
    (before.assign built party parts).todo party = parts := Function.update_self ..

theorem todo_assign_of_ne (built : Option (Set π)) {party other : ι} (parts : List π) (apart : other ≠ party) :
    (before.assign built party parts).todo other = before.todo other := Function.update_of_ne apart ..

theorem assign_todo_self {built : Option (Set π)} {party : ι} {parts : List π}
    (same : before.todo party = parts) :
    before.assign built party parts = ⟨built, before.todo⟩ := by
  subst same
  rw [assign, Function.update_eq_self]

theorem assign_eq_self {party : ι} {parts : List π} (same : before.todo party = parts) :
    before.assign before.built party parts = before :=
  assign_todo_self same

/-- A change of an assembly, and whether it keeps to the plan. -/
inductive Step (plan : List π) (before : Assembly ι π) : Bool → Assembly ι π → Prop
  | stay : Step plan before true before
  | begin (party : ι) (absent : before.built = none) :
    Step plan before true (before.assign (some ∅) party plan)
  | add (party : ι) (part : π) (rest : List π) (present : Set π) (built : before.built = some present)
    (next : before.todo party = part :: rest) :
    Step plan before true (before.assign (some (insert part present)) party rest)
  | abandonBegun (absent : before.built = none) : Step plan before false ⟨some ∅, before.todo⟩
  | abandon (party : ι) (next : before.todo party ≠ []) :
    Step plan before false (before.assign before.built party [])
  | abandonAdded (party : ι) (part : π) (rest : List π) (present : Set π) (built : before.built = some present)
    (next : before.todo party = part :: rest) (more : rest ≠ []) :
    Step plan before false (before.assign (some (insert part present)) party [])

end steps

/-- Only one party has parts to add, each of them once, and none of them is there. -/
structure Sound (assembly : Assembly ι π) : Prop where
  begun : ∀ party, assembly.todo party ≠ [] → assembly.built ≠ none
  single : ∀ party other, assembly.todo party ≠ [] → assembly.todo other ≠ [] → party = other
  fresh : ∀ present, assembly.built = some present → ∀ party, ∀ part ∈ assembly.todo party, part ∉ present
  nodup : ∀ party, (assembly.todo party).Nodup

theorem Sound.todo_of_absent (sound : Sound before) (absent : before.built = none) (party : ι) :
    before.todo party = [] :=
  not_not.mp fun busy => sound.begun party busy absent

/-- Nobody but the party at work has anything to add. -/
theorem Sound.todo_of_ne (sound : Sound before) {party other : ι} (busy : before.todo party ≠ [])
    (apart : other ≠ party) : before.todo other = [] :=
  not_not.mp fun also => apart (sound.single other party also busy)

section runs

variable [DecidableEq ι]

/-- With at most one party at work the rest of an assembly is sound or not by itself. -/
theorem sound_update (party : ι) (parts : List π) (present : Set π)
    (others : ∀ other, other ≠ party → before.todo other = []) (fresh : ∀ part ∈ parts, part ∉ present)
    (nodup : parts.Nodup) :
    Sound (before.assign (some present) party parts) := by
  have idle {other : ι} (apart : other ≠ party) :
      (before.assign (some present) party parts).todo other = [] := by
    rw [todo_assign_of_ne _ _ apart, others other apart]
  have only {other : ι} (busy : (before.assign (some present) party parts).todo other ≠ []) : other = party :=
    not_not.mp fun apart => busy (idle apart)
  refine ⟨fun other busy => Option.some_ne_none present, fun first second here there => ?_,
    fun present' same other part member => ?_, fun other => ?_⟩
  · exact (only here).trans (only there).symm
  · obtain rfl := Option.some.inj same
    obtain rfl := only (List.ne_nil_of_mem member)
    rw [todo_assign_self] at member
    exact fresh part member
  · by_cases same : other = party
    · subst same
      rwa [todo_assign_self]
    · rw [idle same]
      exact List.nodup_nil

theorem Sound.step (planned : plan.Nodup) (sound : Sound before) (stepped : Step plan before kept after) :
    Sound after := by
  have rest {party : ι} {part : π} {rest : List π} (next : before.todo party = part :: rest) :
      ∀ other, other ≠ party → before.todo other = [] := fun other apart =>
    sound.todo_of_ne (by simp [next]) apart
  cases stepped with
  | stay => exact sound
  | begin party absent =>
    exact sound_update party plan ∅ (fun other _ => sound.todo_of_absent absent other) (fun _ _ => id) planned
  | add party part rest' present built next =>
    have nodup := next ▸ sound.nodup party
    refine sound_update party rest' _ (rest next) (fun other member => ?_) (List.nodup_cons.mp nodup).2
    rintro (rfl | there)
    · exact (List.nodup_cons.mp nodup).1 member
    · exact sound.fresh present built party other (next ▸ List.mem_cons_of_mem part member) there
  | abandonBegun absent =>
    have idle := sound.todo_of_absent absent
    exact ⟨fun party busy => absurd (idle party) busy, fun party other busy => absurd (idle party) busy,
      fun _ _ party part member => by simp [idle] at member, sound.nodup⟩
  | abandon party next =>
    obtain ⟨present, built⟩ := Option.ne_none_iff_exists'.mp (sound.begun party next)
    rw [built]
    exact sound_update party [] present (fun other apart => sound.todo_of_ne next apart) nofun List.nodup_nil
  | abandonAdded party part rest' present built next more =>
    exact sound_update party [] _ (rest next) nofun List.nodup_nil

/-- Every planned part is there or still to be added. -/
def Covered (plan : List π) (assembly : Assembly ι π) : Prop :=
  ∀ present, assembly.built = some present → ∀ part ∈ plan, part ∈ present ∨ ∃ party, part ∈ assembly.todo party

/-- A planned part is missing, and nobody is to add anything. -/
def Lost (plan : List π) (assembly : Assembly ι π) : Prop :=
  ∃ present, assembly.built = some present ∧ (∃ part ∈ plan, part ∉ present) ∧ ∀ party, assembly.todo party = []

theorem Covered.step (covered : Covered plan before) (stepped : Step plan before true after) :
    Covered plan after := by
  cases stepped with
  | stay => exact covered
  | begin party absent =>
    intro present built part planned
    exact .inr ⟨party, by rwa [todo_assign_self]⟩
  | add party part rest present built next =>
    intro present' built' other planned
    obtain rfl := Option.some.inj built'
    rcases covered present built other planned with there | ⟨builder, pending⟩
    · exact .inl (.inr there)
    · by_cases same : builder = party
      · subst same
        rcases List.mem_cons.mp (next ▸ pending) with rfl | later
        · exact .inl (.inl rfl)
        · exact .inr ⟨builder, by rwa [todo_assign_self]⟩
      · exact .inr ⟨builder, by rwa [todo_assign_of_ne _ _ same]⟩

/-- What is lost stays lost. -/
theorem Lost.step (lost : Lost plan before) (stepped : Step plan before kept after) : Lost plan after := by
  obtain ⟨present, built, missing, idle⟩ := lost
  cases stepped with
  | stay => exact ⟨present, built, missing, idle⟩
  | begin party absent => cases built.symm.trans absent
  | add party part rest _ _ next => cases (idle party).symm.trans next
  | abandonBegun absent => cases built.symm.trans absent
  | abandon party next => exact absurd (idle party) next
  | abandonAdded party part rest _ _ next => cases (idle party).symm.trans next

/-- Nobody takes up what one party has abandoned. -/
theorem Sound.lost_of_abandoned (begins : plan ≠ []) (within : ∀ party, before.todo party ⊆ plan)
    (sound : Sound before) (stepped : Step plan before false after) : Lost plan after := by
  have idle {party : ι} (built : Option (Set π)) (busy : before.todo party ≠ []) (other : ι) :
      (before.assign built party []).todo other = [] := by
    by_cases same : other = party
    · rw [same, todo_assign_self]
    · rw [todo_assign_of_ne _ _ same, sound.todo_of_ne busy same]
  cases stepped with
  | abandonBegun absent =>
    obtain ⟨part, planned⟩ := List.exists_mem_of_ne_nil plan begins
    exact ⟨∅, rfl, ⟨part, planned, id⟩, sound.todo_of_absent absent⟩
  | abandon party next =>
    obtain ⟨present, built⟩ := Option.ne_none_iff_exists'.mp (sound.begun party next)
    obtain ⟨part, pending⟩ := List.exists_mem_of_ne_nil _ next
    exact ⟨present, built, ⟨part, within party pending, sound.fresh present built party part pending⟩,
      idle _ next⟩
  | abandonAdded party part rest present built next more =>
    have busy : before.todo party ≠ [] := by simp [next]
    have nodup := next ▸ sound.nodup party
    obtain ⟨other, later⟩ := List.exists_mem_of_ne_nil rest more
    have pending : other ∈ before.todo party := next ▸ List.mem_cons_of_mem part later
    refine ⟨insert part present, rfl, ⟨other, within party pending, ?_⟩, idle _ busy⟩
    rintro (rfl | there)
    · exact (List.nodup_cons.mp nodup).1 later
    · exact sound.fresh present built party other pending there

end runs

/-- What is covered is complete when nobody is at work. -/
theorem Covered.complete {present : Set π} (covered : Covered plan before) (built : before.built = some present)
    (idle : ∀ party, before.todo party = []) : ∀ part ∈ plan, part ∈ present := by
  intro part planned
  rcases covered present built part planned with there | ⟨party, pending⟩
  · exact there
  · rw [idle party] at pending
    cases pending

end Assembly

end LlmopsGateway.Machine
