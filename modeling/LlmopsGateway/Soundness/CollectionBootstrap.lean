import LlmopsGateway.Machine.Assembly
import LlmopsGateway.Model.SemanticCollections

/-! # Bootstrapping a collection

The indexes of a collection are created by the call that has created the collection, and by no other: any
later call finds it there and is done. So a bootstrapped collection is complete exactly as long as no call
raises between the creation and the last index.
-/

namespace LlmopsGateway.QdrantSemanticCache

open Machine

variable {ι : Type} [DecidableEq ι] {deployment : Deployment} {embedding : EmbeddingProvider}
  {state next final : State ι} {label : Label ι} {labels : List (Label ι)}

/-- The caches of one embedding model. -/
def shared (embedding : EmbeddingProvider) : ι → EmbeddingProvider := fun _ => embedding

/-- Gateway and worker wait for `warm_up` before they build a cache. -/
def warmed : State ι := { loaded := fun _ => true }

namespace Ensuring

/-- The fields that are still to be indexed. -/
def todo : Ensuring → List String
  | indexing fieldName rest => fieldName :: rest
  | _ => []

@[simp] theorem todo_indexFrom (fields : List String) : (indexFrom fields).todo = fields := by
  cases fields <;> rfl

end Ensuring

/-- What a call of the server comes to. -/
inductive Sends (size : ℕ) : Ensuring → Option Collection → Option Collection → Ensuring → Prop
  | checks (store : Option Collection) (after : Ensuring) (idle : after.todo = [])
    (found : after = .finishing → store ≠ none) : Sends size .checking store store after
  | refused (collection : Collection) : Sends size .creating (some collection) (some collection) .idle
  | creates : Sends size .creating none (some { vectors := ⟨size, .cosine⟩ }) (.indexFrom filteredPayloadFields)
  | absent (fieldName : String) (rest : List String) : Sends size (.indexing fieldName rest) none none .idle
  | indexes (fieldName : String) (rest : List String) (collection : Collection) :
    Sends size (.indexing fieldName rest) (some collection)
      (some (collection.createPayloadIndex fieldName .keyword)) (.indexFrom rest)

theorem Ensuring.sends {size : ℕ} {ensuring after : Ensuring} {store created : Option Collection}
    (sent : ensuring.send size store = some (created, after)) : Sends size ensuring store created after := by
  cases ensuring with
  | idle => cases sent
  | finishing => cases sent
  | checking =>
    cases store <;> cases sent
    · exact .checks none .creating rfl nofun
    · exact .checks _ .finishing rfl fun _ => Option.some_ne_none _
  | creating =>
    cases store <;> cases sent
    · exact .creates
    · exact .refused _
  | indexing fieldName rest =>
    cases store <;> cases sent
    · exact .absent fieldName rest
    · exact .indexes fieldName rest _

def Collection.indexed (collection : Collection) : Set String :=
  {fieldName | collection.payloadSchema fieldName = some .keyword}

@[simp] theorem Collection.indexed_new (vectors : VectorParams) : Collection.indexed { vectors } = ∅ := by
  ext fieldName
  simp [indexed]

theorem Collection.indexed_createPayloadIndex (collection : Collection) (fieldName : String) :
    (collection.createPayloadIndex fieldName .keyword).indexed = insert fieldName collection.indexed := by
  ext other
  by_cases same : other = fieldName
  · subst same
    simp [indexed, createPayloadIndex]
  · simp [indexed, createPayloadIndex, same]

namespace State

variable (embedding) (state)

/-- The collection that the caches share. -/
def store : Option Collection := state.collections (collectionName embedding.modelId)

/-- What is indexed, and what each cache is still to index. -/
def assembly : Assembly ι String where
  built := (state.store embedding).map Collection.indexed
  todo cache := (state.ensuring cache).todo

variable {embedding state}

theorem assembly_goto (cache : ι) (ensuring : Ensuring) : (state.goto cache ensuring).assembly embedding =
    (state.assembly embedding).assign (state.assembly embedding).built cache ensuring.todo := by
  ext1
  · rfl
  · funext other
    by_cases same : other = cache
    · subst same
      simp [assembly, goto]
    · rw [Assembly.todo_assign_of_ne _ _ same]
      simp [assembly, goto, same]

theorem assembly_bootstrap (cache : ι) : (state.bootstrap cache).assembly embedding =
    (state.assembly embedding).assign (state.assembly embedding).built cache [] :=
  assembly_goto cache .idle

omit [DecidableEq ι] in
@[simp] theorem store_put (created : Option Collection) :
    (state.put (collectionName embedding.modelId) created).store embedding = created := Function.update_self ..

theorem assembly_put_goto (created : Option Collection) (cache : ι) (ensuring : Ensuring) :
    ((state.put (collectionName embedding.modelId) created).goto cache ensuring).assembly embedding =
      (state.assembly embedding).assign (created.map Collection.indexed) cache ensuring.todo := by
  have built : ((state.put (collectionName embedding.modelId) created).assembly embedding).built =
      created.map Collection.indexed := congrArg (Option.map Collection.indexed) (store_put created)
  rw [assembly_goto, built]
  rfl

end State

/-- How a step moves the caches that share a collection. -/
inductive Moves (deployment : Deployment) (embedding : EmbeddingProvider) (state : State ι) :
    Label ι → State ι → Prop
  | still {label : Label ι} {next : State ι} (calm : ∀ cache applied, label ≠ .fail cache applied)
    (ensuring : next.ensuring = state.ensuring)
    (bootstrapped : next.bootstrapped = state.bootstrapped)
    (vectors : (next.store embedding).map Collection.vectors = (state.store embedding).map Collection.vectors)
    (indexed : (next.store embedding).map Collection.indexed = (state.store embedding).map Collection.indexed) :
    Moves deployment embedding state label next
  | ensure (cache : ι) (unset : state.bootstrapped cache = false) (idle : state.ensuring cache = .idle) :
    Moves deployment embedding state (.ensure cache) (state.goto cache .checking)
  | answer (cache : ι) (created : Option Collection) (after : Ensuring)
    (sent : (state.ensuring cache).send (embedding.dimension deployment.transformer (state.loaded cache))
      (state.store embedding) = some (created, after)) :
    Moves deployment embedding state (.answer cache)
      ((state.put (collectionName embedding.modelId) created).goto cache after)
  | fail (cache : ι) (applied : Bool) (created : Option Collection) (after : Ensuring)
    (sent : (state.ensuring cache).send (embedding.dimension deployment.transformer (state.loaded cache))
      (state.store embedding) = some (created, after)) :
    Moves deployment embedding state (.fail cache applied)
      ((if applied then state.put (collectionName embedding.modelId) created else state).goto cache .idle)
  | finish (cache : ι) (finishing : state.ensuring cache = .finishing) :
    Moves deployment embedding state (.finish cache) (state.bootstrap cache)

omit [DecidableEq ι] in
theorem store_of_reached {cache : ι} {vector : List ℚ} {stored : Collection}
    (found : reached (shared embedding) state cache vector = some stored) :
    state.store embedding = some stored := by
  rw [reached] at found
  split_ifs at found
  exact (Option.filter_eq_some_iff.mp found).1

theorem moves_of_step (stepped : step deployment (shared embedding) state label = some next) :
    Moves deployment embedding state label next ∧ ∀ cache, state.loaded cache = true →
      next.loaded cache = true := by
  have kept {cache other : ι} (was : state.loaded other = true) :
      Function.update state.loaded cache true other = true := by
    by_cases same : other = cache
    · rw [same, Function.update_self]
    · rw [Function.update_of_ne same, was]
  cases label with
  | load cache =>
    obtain rfl := Option.some.inj stepped
    exact ⟨.still nofun rfl rfl rfl rfl, fun _ => kept⟩
  | ensure cache =>
    rw [step] at stepped
    split_ifs at stepped with free
    obtain rfl := Option.some.inj stepped
    exact ⟨.ensure cache free.1 free.2, fun _ => id⟩
  | answer cache =>
    obtain ⟨⟨created, after⟩, sent, rfl⟩ := Option.map_eq_some_iff.mp stepped
    exact ⟨.answer cache created after sent, fun _ => id⟩
  | fail cache applied =>
    obtain ⟨⟨created, after⟩, sent, rfl⟩ := Option.map_eq_some_iff.mp stepped
    refine ⟨.fail cache applied created after sent, fun _ was => ?_⟩
    cases applied <;> exact was
  | finish cache =>
    rw [step] at stepped
    split_ifs at stepped with finishing
    obtain rfl := Option.some.inj stepped
    exact ⟨.finish cache finishing, fun _ => id⟩
  | upsert cache request response tenantId =>
    obtain ⟨vector, -, stepped⟩ := Option.bind_eq_some_iff.mp stepped
    obtain ⟨stored, found, rfl⟩ := Option.map_eq_some_iff.mp stepped
    have held := store_of_reached found
    refine ⟨.still nofun rfl rfl ?_ ?_, fun _ => kept⟩
    · refine (congrArg (Option.map Collection.vectors) (State.store_put (some (stored.upsert _)))).trans ?_
      rw [held]
      rfl
    · refine (congrArg (Option.map Collection.indexed) (State.store_put (some (stored.upsert _)))).trans ?_
      rw [held]
      rfl
  | query cache request tenantId best =>
    obtain ⟨vector, -, stepped⟩ := Option.bind_eq_some_iff.mp stepped
    obtain ⟨searched, -, stepped⟩ := Option.bind_eq_some_iff.mp stepped
    dsimp only at stepped
    split_ifs at stepped
    obtain rfl := Option.some.inj stepped
    exact ⟨.still nofun rfl rfl rfl rfl, fun _ => kept⟩

/-- A call raises only where it leaves nothing half done: `create_collection` without having created the
collection, and `create_payload_index` for the last field, which is indexed nevertheless. -/
def LeavesWhole (embedding : EmbeddingProvider) (state : State ι) : Label ι → Prop
  | .fail cache applied =>
    match state.ensuring cache with
    | .creating => applied = true → state.store embedding ≠ none
    | .indexing _ rest => applied = true ∧ rest = []
    | _ => True
  | _ => True

abbrev Builds (embedding : EmbeddingProvider) (state : State ι) (kept : Bool) (next : State ι) : Prop :=
  Assembly.Step filteredPayloadFields (state.assembly embedding) kept (next.assembly embedding)

section simulation

variable {cache : ι} {size : ℕ} {store created : Option Collection} {ensuring after : Ensuring}

/-- A cache with nothing to index, and that gets nothing to index, leaves the assembly as it is. -/
theorem assembly_of_idle (held : state.store embedding = store) (idle : (state.ensuring cache).todo = [])
    (also : after.todo = []) :
    ((state.put (collectionName embedding.modelId) store).goto cache after).assembly embedding =
      state.assembly embedding := by
  have same : (state.assembly embedding).assign (state.assembly embedding).built cache [] =
      state.assembly embedding :=
    Assembly.assign_eq_self idle
  subst held
  rw [State.assembly_put_goto, also]
  exact same

theorem assembly_of_raised (cache : ι) : (state.goto cache .idle).assembly embedding =
    (state.assembly embedding).assign (state.assembly embedding).built cache [] :=
  State.assembly_goto cache .idle

variable (phase : state.ensuring cache = ensuring) (held : state.store embedding = store)
  (sound : (state.assembly embedding).Sound)
include phase held sound

omit [DecidableEq ι] in
theorem store_ne_none {fieldName : String} {rest : List String}
    (pending : ensuring = .indexing fieldName rest) :
    store ≠ none := by
  rintro rfl
  have todo : (state.assembly embedding).todo cache = fieldName :: rest :=
    congrArg Ensuring.todo (phase.trans pending)
  exact sound.begun cache (by simp [todo]) (congrArg (Option.map Collection.indexed) held)

theorem builds_of_answer (sends : Sends size ensuring store created after) :
    Builds embedding state true ((state.put (collectionName embedding.modelId) created).goto cache after) := by
  have built : (state.assembly embedding).built = store.map Collection.indexed :=
    congrArg (Option.map Collection.indexed) held
  have todo : (state.assembly embedding).todo cache = ensuring.todo := congrArg Ensuring.todo phase
  cases sends with
  | checks _ _ also _ =>
    rw [Builds, assembly_of_idle held todo also]
    exact .stay
  | refused collection =>
    rw [Builds, assembly_of_idle held todo rfl]
    exact .stay
  | creates =>
    rw [Builds, State.assembly_put_goto, Ensuring.todo_indexFrom, Option.map_some, Collection.indexed_new]
    exact .begin cache built
  | absent fieldName rest => exact absurd rfl (store_ne_none phase held sound rfl)
  | indexes fieldName rest collection =>
    rw [Builds, State.assembly_put_goto, Ensuring.todo_indexFrom, Option.map_some,
      Collection.indexed_createPayloadIndex]
    exact .add cache fieldName rest collection.indexed built todo

/-- A call that raises keeps to the plan exactly if it leaves nothing half done. -/
theorem builds_of_fail (applied : Bool) (sends : Sends size ensuring store created after) :
    let failed :=
      (if applied then state.put (collectionName embedding.modelId) created else state).goto cache .idle
    LeavesWhole embedding state (.fail cache applied) ∧ Builds embedding state true failed ∨
      ¬ LeavesWhole embedding state (.fail cache applied) ∧ Builds embedding state false failed := by
  have built : (state.assembly embedding).built = store.map Collection.indexed :=
    congrArg (Option.map Collection.indexed) held
  have todo : (state.assembly embedding).todo cache = ensuring.todo := congrArg Ensuring.todo phase
  have stays (idle : ensuring.todo = []) :
      Builds embedding state true (state.goto cache .idle) := by
    rw [Builds, assembly_of_raised, Assembly.assign_eq_self (todo.trans idle)]
    exact .stay
  have drops (next : ensuring.todo ≠ []) : Builds embedding state false (state.goto cache .idle) := by
    rw [Builds, assembly_of_raised]
    exact .abandon cache (todo ▸ next)
  cases sends with
  | checks _ _ also _ =>
    refine .inl ⟨by simp [LeavesWhole, phase], ?_⟩
    cases applied with
    | false => exact stays rfl
    | true =>
      rw [Builds, if_pos rfl, assembly_of_idle held todo rfl]
      exact .stay
  | refused collection =>
    refine .inl ⟨by simp [LeavesWhole, phase, held], ?_⟩
    cases applied with
    | false => exact stays rfl
    | true =>
      rw [Builds, if_pos rfl, assembly_of_idle held todo rfl]
      exact .stay
  | creates =>
    cases applied with
    | false => exact .inl ⟨by simp [LeavesWhole, phase], stays rfl⟩
    | true =>
      refine .inr ⟨by simp [LeavesWhole, phase, held], ?_⟩
      have idle : (state.assembly embedding).assign (some ∅) cache [] =
          ⟨some ∅, (state.assembly embedding).todo⟩ :=
        Assembly.assign_todo_self todo
      rw [Builds, if_pos rfl, State.assembly_put_goto, Option.map_some, Collection.indexed_new,
        show Ensuring.idle.todo = [] from rfl, idle]
      exact .abandonBegun built
  | absent fieldName rest => exact absurd rfl (store_ne_none phase held sound rfl)
  | indexes fieldName rest collection =>
    cases applied with
    | false => exact .inr ⟨by simp [LeavesWhole, phase], drops (List.cons_ne_nil _ _)⟩
    | true =>
      by_cases last : rest = []
      · refine .inl ⟨by simp [LeavesWhole, phase, last], ?_⟩
        rw [Builds, if_pos rfl, State.assembly_put_goto, Option.map_some, Collection.indexed_createPayloadIndex]
        subst last
        exact .add cache fieldName [] collection.indexed built todo
      · refine .inr ⟨by simp [LeavesWhole, phase, last], ?_⟩
        rw [Builds, if_pos rfl, State.assembly_put_goto, Option.map_some, Collection.indexed_createPayloadIndex]
        exact .abandonAdded cache fieldName rest collection.indexed built todo last

end simulation

/-- A step that moves the caches is a step of their assembly. -/
theorem Moves.builds (moves : Moves deployment embedding state label next)
    (sound : (state.assembly embedding).Sound) :
    LeavesWhole embedding state label ∧ Builds embedding state true next ∨
      ¬ LeavesWhole embedding state label ∧ Builds embedding state false next := by
  cases moves with
  | still calm ensuring bootstrapped vectors indexed =>
    have same : next.assembly embedding = state.assembly embedding := by
      ext1
      · exact indexed
      · simp [State.assembly, ensuring]
    have whole : LeavesWhole embedding state label := by
      cases label with
      | fail cache applied => exact absurd rfl (calm cache applied)
      | _ => trivial
    rw [Builds, same]
    exact .inl ⟨whole, .stay⟩
  | ensure cache unset idle =>
    refine .inl ⟨trivial, ?_⟩
    have same : (state.assembly embedding).todo cache = [] := congrArg Ensuring.todo idle
    rw [Builds, State.assembly_goto]
    exact (Assembly.assign_eq_self same).symm ▸ .stay
  | answer cache created after sent =>
    exact .inl ⟨trivial, builds_of_answer rfl rfl sound (Ensuring.sends sent)⟩
  | fail cache applied created after sent => exact builds_of_fail rfl rfl sound applied (Ensuring.sends sent)
  | finish cache finishing =>
    refine .inl ⟨trivial, ?_⟩
    have same : (state.assembly embedding).todo cache = [] := congrArg Ensuring.todo finishing
    rw [Builds, State.assembly_bootstrap]
    exact (Assembly.assign_eq_self same).symm ▸ .stay

namespace Sends

variable {size : ℕ} {store created : Option Collection} {ensuring after : Ensuring}

theorem ne_none (sends : Sends size ensuring store created after) (there : store ≠ none ∨ after = .finishing) :
    created ≠ none := by
  cases sends with
  | checks _ _ _ found => exact there.elim id found
  | refused => exact Option.some_ne_none _
  | creates => exact Option.some_ne_none _
  | absent => exact absurd rfl (there.resolve_right nofun)
  | indexes => exact Option.some_ne_none _

theorem vectors_eq (sends : Sends size ensuring store created after)
    (sized : ∀ collection, store = some collection → collection.vectors = ⟨size, .cosine⟩) :
    ∀ collection, created = some collection → collection.vectors = ⟨size, .cosine⟩ := by
  intro collection made
  cases sends with
  | checks => exact sized collection made
  | refused => exact sized collection made
  | creates =>
    obtain rfl := Option.some.inj made
    rfl
  | absent => cases made
  | indexes fieldName rest earlier =>
    obtain rfl := Option.some.inj made
    exact sized earlier rfl

theorem todo_subset (sends : Sends size ensuring store created after)
    (within : ensuring.todo ⊆ filteredPayloadFields) :
    after.todo ⊆ filteredPayloadFields := by
  cases sends with
  | checks _ _ idle => simp [idle]
  | refused => exact List.nil_subset _
  | creates => simp
  | absent => exact List.nil_subset _
  | indexes fieldName rest =>
    rw [Ensuring.todo_indexFrom]
    exact List.Subset.trans (List.subset_cons_self fieldName rest) within

end Sends

/-- What holds however the calls fail. -/
structure Regular (deployment : Deployment) (embedding : EmbeddingProvider) (state : State ι) : Prop where
  loaded : ∀ cache, state.loaded cache = true
  sized : ∀ collection, state.store embedding = some collection →
    collection.vectors = ⟨embedding.dimension deployment.transformer true, .cosine⟩
  sound : (state.assembly embedding).Sound
  within : ∀ cache, (state.ensuring cache).todo ⊆ filteredPayloadFields
  ready : ∀ cache, state.bootstrapped cache = true ∨ state.ensuring cache = .finishing →
    state.store embedding ≠ none
  rests : ∀ cache, state.bootstrapped cache = true → state.ensuring cache = .idle
  finite : ∃ busy : List ι, ∀ cache, cache ∉ busy → state.ensuring cache = .idle

omit [DecidableEq ι] in
theorem regular_warmed : Regular deployment embedding (warmed : State ι) where
  loaded _ := rfl
  sized := nofun
  sound := ⟨fun _ busy => absurd rfl busy, fun _ _ busy => absurd rfl busy, nofun, fun _ => List.nodup_nil⟩
  within _ := List.nil_subset _
  ready cache := by simp [warmed]
  rests _ _ := rfl
  finite := ⟨[], fun _ _ => rfl⟩

section regular

variable {cache : ι} {after : Ensuring}

/-- What the caches wait for when one of them goes on. -/
theorem finite_goto (regular : Regular deployment embedding state) (cache : ι) (after : Ensuring) :
    ∃ busy : List ι, ∀ other, other ∉ busy → Function.update state.ensuring cache after other = .idle := by
  obtain ⟨busy, idle⟩ := regular.finite
  refine ⟨cache :: busy, fun other absent => ?_⟩
  obtain ⟨apart, absent⟩ := not_or.mp (mt List.mem_cons.mpr absent)
  rw [Function.update_of_ne apart, idle other absent]

/-- A property of what every cache waits for, when one of them goes on. -/
theorem forall_update (property : ι → Ensuring → Prop) (holds : ∀ other, property other (state.ensuring other))
    (here : property cache after) (other : ι) :
    property other (Function.update state.ensuring cache after other) := by
  by_cases same : other = cache
  · subst same
    rwa [Function.update_self]
  · rw [Function.update_of_ne same]
    exact holds other

/-- One cache goes on, with what it makes of the collection. -/
theorem Regular.goto {created : Option Collection} (regular : Regular deployment embedding state)
    (sound : (((state.put (collectionName embedding.modelId) created).goto cache after).assembly
      embedding).Sound)
    (sized : ∀ collection, created = some collection →
      collection.vectors = ⟨embedding.dimension deployment.transformer true, .cosine⟩)
    (there : state.store embedding ≠ none ∨ after = .finishing → created ≠ none)
    (within : after.todo ⊆ filteredPayloadFields) (unset : state.bootstrapped cache = false) :
    Regular deployment embedding ((state.put (collectionName embedding.modelId) created).goto cache after) := by
  have stored :
      ((state.put (collectionName embedding.modelId) created).goto cache after).store embedding = created :=
    State.store_put created
  refine ⟨regular.loaded, stored.symm ▸ sized, sound, ?_, ?_, ?_, finite_goto regular cache after⟩
  · exact forall_update (fun _ ensuring => ensuring.todo ⊆ filteredPayloadFields) regular.within within
  · rw [stored]
    refine forall_update
      (fun other ensuring => state.bootstrapped other = true ∨ ensuring = .finishing → created ≠ none)
      (fun other ready => there (.inl (regular.ready other ready))) fun ready => there (.inr ?_)
    exact ready.resolve_left (by simp [unset])
  · exact forall_update (fun other ensuring => state.bootstrapped other = true → ensuring = .idle) regular.rests
      (by simp [unset])

/-- One cache goes on, and the collection stays as it is. -/
theorem Regular.goto_kept (regular : Regular deployment embedding state)
    (sound : ((state.goto cache after).assembly embedding).Sound) (apart : after ≠ .finishing)
    (within : after.todo ⊆ filteredPayloadFields) (unset : state.bootstrapped cache = false) :
    Regular deployment embedding (state.goto cache after) := by
  have same : state.put (collectionName embedding.modelId) (state.store embedding) = state := by
    rw [State.put, State.store, Function.update_eq_self]
  have moved : Regular deployment embedding
      ((state.put (collectionName embedding.modelId) (state.store embedding)).goto cache after) :=
    regular.goto (same.symm ▸ sound) regular.sized (fun there => there.resolve_right apart) within unset
  rwa [same] at moved

omit [DecidableEq ι] in
theorem Regular.unset (regular : Regular deployment embedding state) (busy : state.ensuring cache ≠ .idle) :
    state.bootstrapped cache = false :=
  Bool.eq_false_iff.mpr fun set => busy (regular.rests cache set)

theorem Regular.step (regular : Regular deployment embedding state)
    (stepped : step deployment (shared embedding) state label = some next) :
    Regular deployment embedding next := by
  obtain ⟨moves, keeps⟩ := moves_of_step stepped
  have loaded (cache : ι) : next.loaded cache = true := keeps cache (regular.loaded cache)
  have sound : (next.assembly embedding).Sound := by
    rcases moves.builds regular.sound with ⟨-, built⟩ | ⟨-, built⟩
    · exact regular.sound.step (by decide) built
    · exact regular.sound.step (by decide) built
  have waits {cache : ι} {size : ℕ} {created : Option Collection} {after : Ensuring}
      (sends : Sends size (state.ensuring cache) (state.store embedding) created after) :
      state.bootstrapped cache = false :=
    regular.unset fun idle => by
      rw [idle] at sends
      cases sends
  cases moves with
  | still _ ensuring bootstrapped vectors indexed =>
    refine ⟨loaded, fun collection held => ?_, sound, ?_, fun cache ready => ?_, ?_, ?_⟩
    · rw [held, Option.map_some, eq_comm, Option.map_eq_some_iff] at vectors
      obtain ⟨earlier, there, same⟩ := vectors
      exact same ▸ regular.sized earlier there
    · rw [ensuring]
      exact regular.within
    · rw [ensuring, bootstrapped] at ready
      intro absent
      rw [absent, Option.map_none, eq_comm, Option.map_eq_none_iff] at vectors
      exact regular.ready cache ready vectors
    · rw [ensuring, bootstrapped]
      exact regular.rests
    · rw [ensuring]
      exact regular.finite
  | ensure cache unset idle => exact regular.goto_kept sound nofun (List.nil_subset _) unset
  | answer cache created after sent =>
    rw [regular.loaded cache] at sent
    have sends := Ensuring.sends sent
    exact regular.goto sound (sends.vectors_eq regular.sized) sends.ne_none
      (sends.todo_subset (regular.within cache)) (waits sends)
  | fail cache applied created after sent =>
    rw [regular.loaded cache] at sent
    have sends := Ensuring.sends sent
    cases applied with
    | false => exact regular.goto_kept sound nofun (List.nil_subset _) (waits sends)
    | true =>
      exact regular.goto sound (sends.vectors_eq regular.sized)
        (fun there => sends.ne_none (.inl (there.resolve_right nofun)))
        (List.nil_subset _) (waits sends)
  | finish cache finishing =>
    have there := regular.ready cache (.inr finishing)
    refine ⟨regular.loaded, regular.sized, sound, ?_, fun _ _ => there, ?_, finite_goto regular cache .idle⟩
    · exact forall_update (fun _ ensuring => ensuring.todo ⊆ filteredPayloadFields) regular.within
        (List.nil_subset _)
    · intro other set
      by_cases same : other = cache
      · subst same
        exact Function.update_self ..
      · have earlier : state.bootstrapped other = true := (Function.update_of_ne same ..).symm.trans set
        exact (Function.update_of_ne same ..).trans (regular.rests other earlier)

end regular

/-- Whenever a cache is bootstrapped and no other call is in progress, the collection is there with its vectors
and its indexes. -/
def Complete (deployment : Deployment) (embedding : EmbeddingProvider) (state : State ι) : Prop :=
  ∀ cache, state.bootstrapped cache = true → (∀ other, other ≠ cache → state.ensuring other = .idle) →
    ∃ collection, state.store embedding = some collection ∧
      collection.vectors = ⟨embedding.dimension deployment.transformer true, .cosine⟩ ∧
        ∀ fieldName ∈ filteredPayloadFields, collection.payloadSchema fieldName = some .keyword

def Covered (embedding : EmbeddingProvider) (state : State ι) : Prop :=
  (state.assembly embedding).Covered filteredPayloadFields

def Lost (embedding : EmbeddingProvider) (state : State ι) : Prop :=
  (state.assembly embedding).Lost filteredPayloadFields

omit [DecidableEq ι] in
/-- Where one cache is bootstrapped and the others are idle, all are. -/
theorem Regular.idle (regular : Regular deployment embedding state) {cache : ι}
    (set : state.bootstrapped cache = true) (alone : ∀ other, other ≠ cache → state.ensuring other = .idle)
    (other : ι) :
    state.ensuring other = .idle := by
  by_cases same : other = cache
  · exact same ▸ regular.rests cache set
  · exact alone other same

omit [DecidableEq ι] in
theorem complete_of_covered (regular : Regular deployment embedding state) (covered : Covered embedding state) :
    Complete deployment embedding state := by
  intro cache set alone
  obtain ⟨collection, held⟩ := Option.ne_none_iff_exists'.mp (regular.ready cache (.inl set))
  refine ⟨collection, held, regular.sized collection held, ?_⟩
  have built : (state.assembly embedding).built = some collection.indexed :=
    congrArg (Option.map Collection.indexed) held
  exact Assembly.Covered.complete covered built fun other =>
    congrArg Ensuring.todo (regular.idle set alone other)

omit [DecidableEq ι] in
theorem not_complete_of_lost {cache : ι} (lost : Lost embedding state) (set : state.bootstrapped cache = true)
    (idle : ∀ other, state.ensuring other = .idle) : ¬ Complete deployment embedding state := by
  intro complete
  obtain ⟨present, built, ⟨fieldName, planned, missing⟩, -⟩ := lost
  obtain ⟨collection, held, -, indexed⟩ := complete cache set fun other _ => idle other
  have same : (state.assembly embedding).built = some collection.indexed :=
    congrArg (Option.map Collection.indexed) held
  obtain rfl := Option.some.inj (same.symm.trans built)
  exact missing (indexed fieldName planned)

theorem covered_of_run {start : State ι} (regular : Regular deployment embedding start)
    (covered : Covered embedding start)
    (whole : Along (step deployment (shared embedding)) (LeavesWhole embedding) start labels)
    (ran : run? (step deployment (shared embedding)) start labels = some final) :
    Regular deployment embedding final ∧ Covered embedding final := by
  refine run_invariant (LeavesWhole embedding)
    (fun state => Regular deployment embedding state ∧ Covered embedding state)
    (fun state label next held kept stepped => ⟨held.1.step stepped, ?_⟩) ⟨regular, covered⟩ whole ran
  rcases (moves_of_step stepped).1.builds held.1.sound with ⟨-, built⟩ | ⟨broken, -⟩
  · exact Assembly.Covered.step held.2 built
  · exact absurd kept broken

theorem lost_of_run {start : State ι} (regular : Regular deployment embedding start)
    (lost : Lost embedding start)
    (ran : run? (step deployment (shared embedding)) start labels = some final) :
    Regular deployment embedding final ∧ Lost embedding final := by
  refine reachable_invariant (fun state => Regular deployment embedding state ∧ Lost embedding state)
    (fun state label next held stepped => ⟨held.1.step stepped, ?_⟩) ⟨regular, lost⟩ ran
  rcases (moves_of_step stepped).1.builds held.1.sound with ⟨-, built⟩ | ⟨-, built⟩
  · exact Assembly.Lost.step held.2 built
  · exact Assembly.Lost.step held.2 built

/-- A call that raises with its work half done loses the collection for good. -/
theorem lost_of_not_along {start : State ι} (regular : Regular deployment embedding start)
    (ran : run? (step deployment (shared embedding)) start labels = some final)
    (broken : ¬ Along (step deployment (shared embedding)) (LeavesWhole embedding) start labels) :
    Nonempty ι ∧ Regular deployment embedding final ∧ Lost embedding final := by
  induction labels generalizing start with
  | nil => exact absurd trivial broken
  | cons label rest ih =>
    obtain ⟨next, stepped, ran⟩ := run?_cons_iff.mp ran
    rcases (moves_of_step stepped).1.builds regular.sound with ⟨whole, -⟩ | ⟨half, built⟩
    · exact ih (regular.step stepped) ran fun along => broken ((along_cons_of_step stepped).mpr ⟨whole, along⟩)
    · have lost : Lost embedding next :=
        regular.sound.lost_of_abandoned (by decide) regular.within built
      have failing : Nonempty ι := by
        cases label with
        | fail cache applied => exact ⟨cache⟩
        | _ => exact absurd trivial half
      exact ⟨failing, lost_of_run (regular.step stepped) lost ran⟩

def Label.Fails : Label ι → Prop
  | .fail .. => True
  | _ => False

/-- A run without failures leads from one state to the other. -/
def Continues (deployment : Deployment) (embedding : EmbeddingProvider) (state final : State ι) : Prop :=
  ∃ labels, (∀ label ∈ labels, ¬ label.Fails) ∧
    run? (step deployment (shared embedding)) state labels = some final

section continuing

variable {cache : ι}

omit [DecidableEq ι] in
theorem exists_store_of_lost (lost : Lost embedding state) :
    ∃ collection, state.store embedding = some collection := by
  obtain ⟨present, built, -⟩ := lost
  obtain ⟨collection, held, -⟩ := Option.map_eq_some_iff.mp built
  exact ⟨collection, held⟩

theorem Continues.refl (state : State ι) : Continues deployment embedding state state :=
  ⟨[], List.forall_mem_nil _, rfl⟩

theorem Continues.trans (first : Continues deployment embedding state next)
    (second : Continues deployment embedding next final) : Continues deployment embedding state final := by
  obtain ⟨front, calm, ran⟩ := first
  obtain ⟨back, calm', ran'⟩ := second
  exact ⟨front ++ back, List.forall_mem_append.mpr ⟨calm, calm'⟩, run?_append_iff.mpr ⟨next, ran, ran'⟩⟩

theorem Continues.lost (continues : Continues deployment embedding state next)
    (regular : Regular deployment embedding state) (lost : Lost embedding state) :
    Regular deployment embedding next ∧ Lost embedding next := by
  obtain ⟨labels, -, ran⟩ := continues
  exact lost_of_run regular lost ran

theorem continues_of_step (calm : ¬ label.Fails)
    (stepped : step deployment (shared embedding) state label = some next) :
    Continues deployment embedding state next :=
  ⟨[label], by simpa using calm, run?_cons_iff.mpr ⟨next, stepped, rfl⟩⟩

variable (deployment embedding) in
/-- A call that has nothing to wait for any more. -/
theorem continues_of_finishing (finishing : state.ensuring cache = .finishing) :
    ∃ next, Continues deployment embedding state next ∧ next.bootstrapped cache = true ∧
      next.ensuring = Function.update state.ensuring cache .idle := by
  have stepped : step deployment (shared embedding) state (.finish cache) = some _ := if_pos finishing
  exact ⟨_, continues_of_step id stepped, Function.update_self .., rfl⟩

variable (deployment) in
/-- A call that has just acquired the lock, with the collection there. -/
theorem continues_of_checking {found : Collection} (checking : state.ensuring cache = .checking)
    (held : state.store embedding = some found) :
    ∃ next, Continues deployment embedding state next ∧ next.bootstrapped cache = true ∧
      next.ensuring = Function.update state.ensuring cache .idle := by
  have waits : sent deployment (shared embedding) state cache = some (some found, .finishing) := by
    rw [sent, checking, show state.collections (collection (shared embedding) cache) = some found from held]
    rfl
  have stepped : step deployment (shared embedding) state (.answer cache) = some _ :=
    congrArg (Option.map _) waits
  have finishing :
      ((state.put (collectionName embedding.modelId) (some found)).goto cache .finishing).ensuring cache =
      .finishing := Function.update_self ..
  obtain ⟨next, continues, set, ensuring⟩ := continues_of_finishing deployment embedding finishing
  refine ⟨next, (continues_of_step id stepped).trans continues, set, ?_⟩
  rw [ensuring]
  exact Function.update_idem ..

/-- Once something is lost, every call comes to its end. -/
theorem continues_of_lost (lost : Lost embedding state) (cache : ι) :
    ∃ next, Continues deployment embedding state next ∧
      next.ensuring = Function.update state.ensuring cache .idle := by
  obtain ⟨found, held⟩ := exists_store_of_lost lost
  cases phase : state.ensuring cache with
  | idle =>
    refine ⟨state, .refl state, ?_⟩
    rw [← phase, Function.update_eq_self]
  | checking =>
    obtain ⟨next, continues, -, ensuring⟩ := continues_of_checking deployment phase held
    exact ⟨next, continues, ensuring⟩
  | creating =>
    have waits : sent deployment (shared embedding) state cache = some (some found, .idle) := by
      rw [sent, phase, show state.collections (collection (shared embedding) cache) = some found from held]
      rfl
    have stepped : step deployment (shared embedding) state (.answer cache) = some _ :=
      congrArg (Option.map _) waits
    exact ⟨_, continues_of_step id stepped, rfl⟩
  | indexing fieldName rest =>
    obtain ⟨-, -, -, idle⟩ := lost
    have todo : (state.ensuring cache).todo = [] := idle cache
    rw [phase] at todo
    cases todo
  | finishing =>
    obtain ⟨next, continues, -, ensuring⟩ := continues_of_finishing deployment embedding phase
    exact ⟨next, continues, ensuring⟩

/-- All calls come to their ends. -/
theorem continues_to_idle (busy : List ι) (regular : Regular deployment embedding state)
    (lost : Lost embedding state) (idle : ∀ cache, cache ∉ busy → state.ensuring cache = .idle) :
    ∃ next, Continues deployment embedding state next ∧ ∀ cache, next.ensuring cache = .idle := by
  induction busy generalizing state with
  | nil => exact ⟨state, .refl state, fun cache => idle cache List.not_mem_nil⟩
  | cons cache busy ih =>
    obtain ⟨next, continues, ensuring⟩ := continues_of_lost lost cache
    obtain ⟨regular, lost⟩ := continues.lost regular lost
    obtain ⟨final, later, done⟩ := ih regular lost fun other absent => by
      rw [ensuring]
      by_cases same : other = cache
      · rw [same, Function.update_self]
      · rw [Function.update_of_ne same]
        exact idle other (by simp [same, absent])
    exact ⟨final, continues.trans later, done⟩

/-- Once something is lost, a run without failures leads to a bootstrapped cache of an incomplete collection. -/
theorem continues_to_incomplete [Nonempty ι] (regular : Regular deployment embedding state)
    (lost : Lost embedding state) :
    ∃ next, Continues deployment embedding state next ∧ ¬ Complete deployment embedding next := by
  obtain ⟨busy, waiting⟩ := regular.finite
  obtain ⟨middle, continues, idle⟩ := continues_to_idle busy regular lost waiting
  obtain ⟨regular, lost⟩ := continues.lost regular lost
  obtain ⟨cache⟩ := ‹Nonempty ι›
  cases set : middle.bootstrapped cache with
  | true => exact ⟨middle, continues, not_complete_of_lost lost set idle⟩
  | false =>
    have stepped : step deployment (shared embedding) middle (.ensure cache) = some _ :=
      if_pos ⟨set, idle cache⟩
    obtain ⟨found, held⟩ := exists_store_of_lost lost
    have checking : (middle.goto cache .checking).ensuring cache = .checking := Function.update_self ..
    obtain ⟨next, later, set, ensuring⟩ := continues_of_checking deployment checking
      (show (middle.goto cache .checking).store embedding = some found from held)
    have whole := (continues_of_step id stepped).trans later
    refine ⟨next, continues.trans whole, not_complete_of_lost (whole.lost regular lost).2 set fun other => ?_⟩
    rw [ensuring,
      show (middle.goto cache .checking).ensuring = Function.update middle.ensuring cache .checking from rfl,
      Function.update_idem]
    exact forall_update (fun _ ensuring => ensuring = .idle) idle rfl other

end continuing

theorem along_of_calm (calm : ∀ label ∈ labels, ¬ label.Fails) (state : State ι) :
    Along (step deployment (shared embedding)) (LeavesWhole embedding) state labels := by
  induction labels generalizing state with
  | nil => trivial
  | cons label rest ih =>
    obtain ⟨here, later⟩ := List.forall_mem_cons.mp calm
    refine ⟨?_, fun next _ => ih later next⟩
    cases label with
    | fail cache applied => exact absurd trivial here
    | _ => trivial

/-- A run, and every run without failures behind one of its parts, leaves bootstrapped collections complete
exactly if no call of it raises with its work half done. -/
theorem bootstrapped_complete_iff (ran : run? (step deployment (shared embedding)) warmed labels = some final) :
    (∀ front back, labels = front ++ back → ∀ more state, (∀ label ∈ more, ¬ label.Fails) →
      run? (step deployment (shared embedding)) warmed (front ++ more) = some state →
        Complete deployment embedding state) ↔
    Along (step deployment (shared embedding)) (LeavesWhole embedding) warmed labels := by
  constructor
  · intro complete
    by_contra broken
    obtain ⟨nonempty, regular, lost⟩ := lost_of_not_along regular_warmed ran broken
    obtain ⟨next, ⟨more, calm, later⟩, incomplete⟩ := continues_to_incomplete regular lost
    refine incomplete (complete labels [] (List.append_nil labels).symm more next calm ?_)
    exact run?_append_iff.mpr ⟨final, ran, later⟩
  · rintro whole front back rfl more state calm ran'
    obtain ⟨middle, ran, later⟩ := run?_append_iff.mp ran'
    have covered : Covered embedding (warmed : State ι) := nofun
    obtain ⟨regular, covered⟩ := covered_of_run regular_warmed covered whole.append_left ran
    obtain ⟨regular, covered⟩ := covered_of_run regular covered (along_of_calm calm middle) later
    exact complete_of_covered regular covered

section runs

variable {provider : ι → EmbeddingProvider} {cache : ι}

/-- A collection as one call of `ensure_collection` creates it. -/
def Collection.created (size : ℕ) : Collection :=
  filteredPayloadFields.foldl (fun collection fieldName => collection.createPayloadIndex fieldName .keyword)
    { vectors := ⟨size, .cosine⟩ }

/-- A call that creates the collection. -/
def creation (cache : ι) : List (Label ι) :=
  [.ensure cache, .answer cache, .answer cache, .answer cache, .answer cache, .answer cache, .finish cache]

theorem run?_creation (absent : state.collections (collection provider cache) = none)
    (unset : state.bootstrapped cache = false) (idle : state.ensuring cache = .idle) :
    run? (step deployment provider) state (creation cache) =
      some ((state.put (collection provider cache) (some (.created
        ((provider cache).dimension deployment.transformer (state.loaded cache))))).bootstrap cache) := by
  simp [creation, run?, step, sent, Ensuring.send, Ensuring.indexFrom, filteredPayloadFields, absent,
    unset, idle]
  rfl

/-- The first index is not created, and the next call finds the collection there. -/
def halfCreation (cache : ι) : List (Label ι) :=
  [.ensure cache, .answer cache, .answer cache, .fail cache false, .ensure cache, .answer cache, .finish cache]

theorem run?_halfCreation (absent : state.collections (collection provider cache) = none)
    (unset : state.bootstrapped cache = false) (idle : state.ensuring cache = .idle) :
    run? (step deployment provider) state (halfCreation cache) =
      some ((state.put (collection provider cache) (some { vectors :=
        ⟨(provider cache).dimension deployment.transformer (state.loaded cache),
          .cosine⟩ })).bootstrap cache) := by
  simp [halfCreation, run?, step, sent, Ensuring.send, Ensuring.indexFrom, filteredPayloadFields, absent,
    unset, idle]

end runs

section sample

/-- A model that takes every text for the same. -/
def constantTransformer (dimension : ℕ) : SentenceTransformer where
  dimension := dimension
  encode _ := List.replicate dimension 1
  length_encode _ := List.length_replicate ..

def sampleDeployment : Deployment where
  transformer _ := constantTransformer 384
  sha256 := id
  isPrintable _ := true
  score _ _ := 1

def miniLm : EmbeddingProvider := .localProvider "all-MiniLM-L6-v2"

theorem creation_complete : ∃ final : State ℕ,
    run? (step sampleDeployment (shared miniLm)) warmed (creation 0) = some final ∧
      final.bootstrapped 0 = true ∧ Complete sampleDeployment miniLm final := by
  have ran : run? (step sampleDeployment (shared miniLm)) (warmed : State ℕ) (creation 0) = some _ :=
    run?_creation rfl rfl rfl
  have calm : ∀ label ∈ creation (0 : ℕ), ¬ label.Fails := by simp [creation, Label.Fails]
  refine ⟨_, ran, State.bootstrapped_bootstrap_self, ?_⟩
  refine (bootstrapped_complete_iff ran).mpr (along_of_calm calm _) (creation 0) [] rfl [] _
    (List.forall_mem_nil _) ?_
  rw [List.append_nil, ran]

theorem halfCreation_not_complete : ∃ final : State ℕ,
    run? (step sampleDeployment (shared miniLm)) warmed (halfCreation 0) = some final ∧
      final.bootstrapped 0 = true ∧ (∀ cache, final.ensuring cache = .idle) ∧
      ¬ Complete sampleDeployment miniLm final := by
  have ran : run? (step sampleDeployment (shared miniLm)) (warmed : State ℕ) (halfCreation 0) = some _ :=
    run?_halfCreation rfl rfl rfl
  have idle (created : Option Collection) (cache : ℕ) :
      (((warmed : State ℕ).put (collection (shared miniLm) 0) created).bootstrap 0).ensuring cache = .idle := by
    by_cases same : cache = 0
    · rw [same, State.ensuring_bootstrap_self]
    · rw [State.ensuring_bootstrap_of_ne same]
      rfl
  refine ⟨_, ran, State.bootstrapped_bootstrap_self, idle _, fun complete => ?_⟩
  obtain ⟨found, held, -, indexed⟩ := complete 0 State.bootstrapped_bootstrap_self fun other _ => idle _ other
  rw [State.store, State.collections_bootstrap,
    show collectionName miniLm.modelId = collection (shared miniLm) (0 : ℕ) from rfl,
    State.collections_put_self] at held
  obtain rfl := Option.some.inj held
  cases indexed "tenant_id" (List.mem_cons_self ..)

end sample

end LlmopsGateway.QdrantSemanticCache
