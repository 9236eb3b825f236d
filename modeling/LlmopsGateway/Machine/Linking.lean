import Mathlib.Data.List.Induction
import Mathlib.Data.List.Nodup
import Mathlib.Logic.Function.Basic

/-! # Linking by keys in one pass

Items have a key and may refer to the key of another item. Where no key is used twice and every reference is
to an item further up, one pass that remembers what it has made of each key resolves all references.
-/

namespace LlmopsGateway.Machine

variable {α κ β γ : Type*} {key : α → κ} {reference reference' : α → Option κ} {items others : List α}
  {item : α} {place : ℕ} {k : κ}

/-- Every item has a key of its own and refers to nothing or to an earlier item. -/
inductive Forest (key : α → κ) (reference : α → Option κ) : List α → Prop
  | nil : Forest key reference []
  | concat {items : List α} {item : α} (forest : Forest key reference items) (fresh : key item ∉ items.map key)
    (backward : ∀ k ∈ reference item, k ∈ items.map key) : Forest key reference (items ++ [item])

namespace Forest

theorem nodup (forest : Forest key reference items) : (items.map key).Nodup := by
  induction forest with
  | nil => exact List.nodup_nil
  | concat forest fresh backward ih =>
    rw [List.map_append, List.map_singleton, List.nodup_append]
    refine ⟨ih, List.nodup_singleton _, fun k member other last => ?_⟩
    rw [List.mem_singleton.mp last]
    exact fun same => fresh (same ▸ member)

theorem exists_of_mem_map (member : k ∈ items.map key) :
    ∃ place item, place < items.length ∧ items[place]? = some item ∧ key item = k := by
  obtain ⟨item, member, same⟩ := List.mem_map.mp member
  obtain ⟨place, there⟩ := List.mem_iff_getElem?.mp member
  exact ⟨place, item, (List.getElem?_eq_some_iff.mp there).1, there, same⟩

/-- An item of a list with one more item. -/
theorem getElem?_concat_iff {last : α} :
    (items ++ [last])[place]? = some item ↔
      (place < items.length ∧ items[place]? = some item) ∨ (place = items.length ∧ item = last) := by
  rcases Nat.lt_trichotomy place items.length with before | same | behind
  · rw [List.getElem?_append_left before]
    simp only [before, true_and, Nat.ne_of_lt before, false_and, or_false]
  · subst same
    rw [List.getElem?_concat_length]
    simp [eq_comm]
  · have absent : (items ++ [last])[place]? = none := List.getElem?_eq_none (by simp; omega)
    rw [absent]
    constructor
    · intro nothing
      cases nothing
    · rintro (⟨before, -⟩ | ⟨same, -⟩) <;> omega

/-- What an item refers to is further up. -/
theorem referred (forest : Forest key reference items) (there : items[place]? = some item)
    (refers : reference item = some k) :
    ∃ earlier other, earlier < place ∧ items[earlier]? = some other ∧ key other = k := by
  induction forest with
  | nil => cases there
  | concat forest fresh backward ih =>
    rcases getElem?_concat_iff.mp there with ⟨-, before⟩ | ⟨rfl, rfl⟩
    · obtain ⟨earlier, other, above, found, same⟩ := ih before
      refine ⟨earlier, other, above, ?_, same⟩
      rw [List.getElem?_append_left (List.getElem?_eq_some_iff.mp found).1, found]
    · obtain ⟨earlier, other, above, found, same⟩ := exists_of_mem_map (backward k refers)
      exact ⟨earlier, other, above, (List.getElem?_append_left above).trans found, same⟩

/-- Whether a list is a forest shows in its keys and references. -/
theorem congr (forest : Forest key reference items)
    (same : others.map (fun item => (key item, reference' item)) =
      items.map fun item => (key item, reference item)) :
    Forest key reference' others := by
  induction forest generalizing others with
  | nil =>
    obtain rfl := List.map_eq_nil_iff.mp same
    exact .nil
  | @concat items item forest fresh backward ih =>
    rw [List.map_append, List.map_singleton] at same
    obtain ⟨front, back, rfl, fronts, backs⟩ := List.map_eq_append_iff.mp same
    obtain ⟨last, rfl, lasts⟩ := List.map_eq_singleton_iff.mp backs
    have keys : front.map key = items.map key := by
      simpa [List.map_map, Function.comp_def] using congrArg (List.map Prod.fst) fronts
    obtain ⟨sameKey, sameReference⟩ := Prod.mk.inj lasts
    refine .concat (ih fronts) ?_ ?_
    · rwa [keys, sameKey]
    · rwa [keys, sameReference]

end Forest

/-- What a pass remembers: the links of the keys it has seen, and what it has made. -/
structure Pass (κ β γ : Type*) where
  links : κ → Option γ := fun _ => none
  made : List β := []

section pass

variable [DecidableEq κ] (key reference) (link : β → γ) (make : ℕ → α → Option γ → β)

/-- An item is made with the link of the key it refers to, and becomes the link of its own key. -/
def Pass.take (pass : Pass κ β γ) (item : α) : Pass κ β γ :=
  let value := make pass.made.length item ((reference item).bind pass.links)
  { links := Function.update pass.links (key item) (some (link value)), made := pass.made ++ [value] }

def pass (items : List α) : Pass κ β γ := items.foldl (Pass.take key reference link make) {}

/-- The link that an item is to be made with. -/
inductive Linked (items : List α) (made : List β) (place : ℕ) (item : α) : Option γ → Prop
  | root (top : reference item = none) : Linked items made place item none
  | child {k : κ} {earlier : ℕ} {other : α} {value : β} (refers : reference item = some k)
    (above : earlier < place) (found : items[earlier]? = some other) (same : key other = k)
    (valued : made[earlier]? = some value) :
    Linked items made place item (some (link value))

variable {key reference link make}

theorem pass_concat (items : List α) (item : α) : pass key reference link make (items ++ [item]) =
    (pass key reference link make items).take key reference link make item := by
  rw [pass, List.foldl_append]
  rfl

@[simp] theorem length_made (items : List α) :
    (pass key reference link make items).made.length = items.length := by
  induction items using List.reverseRecOn with
  | nil => rfl
  | append_singleton items item ih =>
    rw [pass_concat, Pass.take, List.length_append, ih, List.length_append]
    rfl

theorem made_concat (items : List α) (item : α) : (pass key reference link make (items ++ [item])).made =
    (pass key reference link make items).made ++
      [make items.length item ((reference item).bind (pass key reference link make items).links)] := by
  rw [pass_concat, Pass.take, length_made]

/-- The pass has a link for each key it has seen. -/
theorem exists_link (member : k ∈ items.map key) :
    ∃ earlier other value, earlier < items.length ∧ items[earlier]? = some other ∧ key other = k ∧
      (pass key reference link make items).made[earlier]? = some value ∧
      (pass key reference link make items).links k = some (link value) := by
  induction items using List.reverseRecOn with
  | nil => cases member
  | append_singleton items item ih =>
    rw [made_concat, pass_concat, Pass.take, length_made, List.length_append]
    by_cases last : key item = k
    · subst last
      refine ⟨items.length, item, _, by simp, List.getElem?_concat_length, rfl, ?_, Function.update_self ..⟩
      simp
    · rw [List.map_append, List.mem_append] at member
      have before : k ∈ items.map key := member.resolve_right fun here => last (List.mem_singleton.mp here).symm
      obtain ⟨earlier, other, value, above, found, same, valued, linked⟩ := ih before
      refine ⟨earlier, other, value, by omega, ?_, same, ?_, ?_⟩
      · rwa [List.getElem?_append_left above]
      · rwa [List.getElem?_append_left (by rwa [length_made])]
      · exact (Function.update_of_ne (Ne.symm last) ..).trans linked

omit [DecidableEq κ] in
theorem Linked.concat {made : List β} {last : α} {value : β} {handle : Option γ}
    (linked : Linked key reference link items made place item handle) :
    Linked key reference link (items ++ [last]) (made ++ [value]) place item handle := by
  cases linked with
  | root top => exact .root top
  | child refers above found same valued =>
    refine .child refers above ?_ same ?_
    · exact (List.getElem?_append_left (List.getElem?_eq_some_iff.mp found).1).trans found
    · exact (List.getElem?_append_left (List.getElem?_eq_some_iff.mp valued).1).trans valued

/-- What the pass finds for one more item. -/
theorem linked_last (backward : ∀ k ∈ reference item, k ∈ items.map key) :
    Linked key reference link items (pass key reference link make items).made items.length item
      ((reference item).bind (pass key reference link make items).links) := by
  cases refers : reference item with
  | none => exact .root refers
  | some k =>
    obtain ⟨earlier, other, value, above, found, same, valued, linked⟩ := exists_link (backward k refers)
    rw [Option.bind_some, linked]
    exact .child refers above found same valued

/-- In a forest, one pass makes every item with its link. -/
theorem Forest.made (forest : Forest key reference items) (there : items[place]? = some item) :
    ∃ handle, Linked key reference link items (pass key reference link make items).made place item handle ∧
      (pass key reference link make items).made[place]? = some (make place item handle) := by
  induction forest with
  | nil => cases there
  | @concat items last forest fresh backward ih =>
    rw [made_concat]
    rcases Forest.getElem?_concat_iff.mp there with ⟨inside, before⟩ | ⟨rfl, rfl⟩
    · obtain ⟨handle, linked, valued⟩ := ih before
      refine ⟨handle, linked.concat, ?_⟩
      rwa [List.getElem?_append_left (by rwa [length_made])]
    · refine ⟨_, (linked_last backward).concat, ?_⟩
      rw [List.getElem?_append_right (Nat.le_of_eq (length_made items)), length_made, Nat.sub_self]
      rfl

end pass

end LlmopsGateway.Machine
