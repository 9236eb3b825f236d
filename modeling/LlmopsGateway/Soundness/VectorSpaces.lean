import LlmopsGateway.Soundness.CollectionBootstrap

/-! # Which caches share a vector space

A collection is named after the embedding model, with three characters of its id replaced, so two model names
may share one. What keeps their vectors apart then is only their length.
-/

namespace LlmopsGateway

open Machine

theorem safeName_append (first second : List Char) :
    safeName (first ++ second) = safeName first ++ safeName second := by
  simp [safeName, replaceChar]

theorem collectionName_localProvider (modelName : String) :
    collectionName (EmbeddingProvider.localProvider modelName).modelId =
      "semantic_cache__".toList ++ (safeName "local-".toList ++ safeName modelName.toList) :=
  congrArg ("semantic_cache__".toList ++ ·) (safeName_append "local-".toList modelName.toList)

/-- Two local models have one collection if their names differ in replaced characters only. -/
theorem collectionName_localProvider_iff {modelName other : String} :
    collectionName (EmbeddingProvider.localProvider modelName).modelId =
      collectionName (EmbeddingProvider.localProvider other).modelId ↔
    safeName modelName.toList = safeName other.toList := by
  rw [collectionName_localProvider, collectionName_localProvider, List.append_right_inj, List.append_right_inj]

namespace QdrantSemanticCache

variable {ι : Type} {deployment : Deployment} {provider : ι → EmbeddingProvider}
  {state next final : State ι} {label : Label ι} {labels : List (Label ι)} {cache : ι}

/-- Local models under names that collections do not tell apart, with vectors of one length. -/
def SharesSpace (deployment : Deployment) (first second : EmbeddingProvider) : Prop :=
  ∃ modelName other, first = .localProvider modelName ∧ second = .localProvider other ∧
    safeName modelName.toList = safeName other.toList ∧
      (deployment.transformer modelName).dimension = (deployment.transformer other).dimension

/-- A point of a collection was stored by a cache of that collection, with a local model of its dimension. -/
def Belongs (deployment : Deployment) (provider : ι → EmbeddingProvider) (name : List Char) (size : ℕ)
    (point : Point) : Prop :=
  ∃ cache modelName, provider cache = point.storedThrough ∧ point.storedThrough = .localProvider modelName ∧
    collectionName point.storedThrough.modelId = name ∧ (deployment.transformer modelName).dimension = size

/-- Everything in the collections and in the searches is where it belongs. -/
structure Sorted (deployment : Deployment) (provider : ι → EmbeddingProvider) (state : State ι) : Prop where
  points : ∀ name collection, state.collections name = some collection →
    ∀ point ∈ collection.points, Belongs deployment provider name collection.vectors.size point
  searches : ∀ search ∈ state.searches, ∃ cache, provider cache = search.searchedThrough ∧
    ∀ point, point ∈ search.compared ∨ search.best = some point →
      ∃ other, provider other = point.storedThrough ∧ SharesSpace deployment (provider cache) (provider other)

theorem length_of_vector {request : ChatRequest} {embedded : List ℚ}
    (embeds : vector deployment provider cache request = some embedded) :
    ∃ modelName, provider cache = .localProvider modelName ∧
      embedded.length = (deployment.transformer modelName).dimension := by
  rw [vector] at embeds
  cases kind : provider cache with
  | localProvider modelName =>
    rw [kind] at embeds
    obtain rfl := Option.some.inj embeds
    exact ⟨modelName, rfl, (deployment.transformer modelName).length_encode _⟩
  | apiProvider modelName =>
    rw [kind] at embeds
    cases embeds

theorem of_reached {embedded : List ℚ} {stored : Collection}
    (found : reached provider state cache embedded = some stored) :
    state.collections (collection provider cache) = some stored ∧ stored.vectors.size = embedded.length := by
  rw [reached] at found
  split_ifs at found
  obtain ⟨held, fits⟩ := Option.filter_eq_some_iff.mp found
  exact ⟨held, of_decide_eq_true fits⟩

/-- What a call of `ensure_collection` leaves has the points of before, or none. -/
theorem Sends.points {size : ℕ} {store created : Option Collection} {ensuring after : Ensuring}
    (sends : Sends size ensuring store created after) {made : Collection} (same : created = some made) :
    made.points = [] ∨
      ∃ earlier, store = some earlier ∧ made.points = earlier.points ∧ made.vectors = earlier.vectors := by
  cases sends with
  | checks => exact .inr ⟨made, same, rfl, rfl⟩
  | refused collection => exact .inr ⟨made, same, rfl, rfl⟩
  | creates =>
    obtain rfl := Option.some.inj same
    exact .inl rfl
  | absent => cases same
  | indexes fieldName rest earlier =>
    obtain rfl := Option.some.inj same
    exact .inr ⟨earlier, rfl, rfl, rfl⟩

/-- A collection is replaced by one whose points belong there. -/
theorem Sorted.put (sorted : Sorted deployment provider state) {name : List Char} {created : Option Collection}
    (belongs : ∀ made, created = some made → ∀ point ∈ made.points,
      Belongs deployment provider name made.vectors.size point) :
    Sorted deployment provider (state.put name created) where
  points other collection held := by
    by_cases same : other = name
    · subst same
      rw [State.collections_put_self] at held
      exact belongs collection held
    · exact sorted.points other collection ((Function.update_of_ne same ..).symm.trans held)
  searches := sorted.searches

theorem Sorted.sent (sorted : Sorted deployment provider state) {created : Option Collection} {after : Ensuring}
    (sending : sent deployment provider state cache = some (created, after)) :
    Sorted deployment provider (state.put (collection provider cache) created) := by
  refine sorted.put fun made same point member => ?_
  rcases (Ensuring.sends sending).points same with none | ⟨earlier, held, points, vectors⟩
  · rw [none] at member
    cases member
  · rw [points] at member
    rw [vectors]
    exact sorted.points _ earlier held point member

theorem Sorted.upsert (sorted : Sorted deployment provider state) {name : List Char} {stored : Collection}
    {point : Point}
    (held : state.collections name = some stored)
    (belongs : Belongs deployment provider name stored.vectors.size point) :
    Sorted deployment provider (state.put name (some (stored.upsert point))) := by
  refine sorted.put fun made same other member => ?_
  obtain rfl := Option.some.inj same
  rcases List.mem_append.mp member with earlier | last
  · exact sorted.points name stored held other earlier
  · obtain rfl := List.mem_singleton.mp last
    exact belongs

variable [DecidableEq ι]

theorem Sorted.step (sorted : Sorted deployment provider state)
    (stepped : step deployment provider state label = some next) : Sorted deployment provider next := by
  cases label with
  | load cache =>
    obtain rfl := Option.some.inj stepped
    exact ⟨sorted.points, sorted.searches⟩
  | ensure cache =>
    rw [QdrantSemanticCache.step] at stepped
    split_ifs at stepped
    obtain rfl := Option.some.inj stepped
    exact ⟨sorted.points, sorted.searches⟩
  | answer cache =>
    obtain ⟨⟨created, after⟩, sending, rfl⟩ := Option.map_eq_some_iff.mp stepped
    have placed := sorted.sent sending
    exact ⟨placed.points, placed.searches⟩
  | fail cache applied =>
    obtain ⟨⟨created, after⟩, sending, rfl⟩ := Option.map_eq_some_iff.mp stepped
    have placed := sorted.sent sending
    cases applied with
    | false => exact ⟨sorted.points, sorted.searches⟩
    | true => exact ⟨placed.points, placed.searches⟩
  | finish cache =>
    rw [QdrantSemanticCache.step] at stepped
    split_ifs at stepped
    obtain rfl := Option.some.inj stepped
    exact ⟨sorted.points, sorted.searches⟩
  | upsert cache request response tenantId =>
    obtain ⟨embedded, embeds, stepped⟩ := Option.bind_eq_some_iff.mp stepped
    obtain ⟨stored, found, rfl⟩ := Option.map_eq_some_iff.mp stepped
    obtain ⟨modelName, kind, length⟩ := length_of_vector embeds
    obtain ⟨held, fits⟩ := of_reached found
    have belongs : Belongs deployment provider (collection provider cache) stored.vectors.size
        ⟨buildFilter deployment.sha256 deployment.isPrintable request tenantId, embedded, response,
          provider cache⟩ :=
      ⟨cache, modelName, rfl, kind, rfl, (fits.trans length).symm⟩
    have placed := sorted.upsert held belongs
    exact ⟨placed.points, placed.searches⟩
  | query cache request tenantId best =>
    obtain ⟨embedded, embeds, stepped⟩ := Option.bind_eq_some_iff.mp stepped
    obtain ⟨searched, found, stepped⟩ := Option.bind_eq_some_iff.mp stepped
    dsimp only at stepped
    split_ifs at stepped
    obtain rfl := Option.some.inj stepped
    obtain ⟨modelName, kind, length⟩ := length_of_vector embeds
    obtain ⟨held, fits⟩ := of_reached found
    refine ⟨sorted.points, List.forall_mem_cons.mpr ⟨⟨cache, rfl, fun point among => ?_⟩, sorted.searches⟩⟩
    have among : point ∈ compared deployment searched request tenantId := by
      rcases among with compares | hit
      · exact compares
      · obtain ⟨place, -, there⟩ := Option.bind_eq_some_iff.mp hit
        exact List.mem_of_getElem? there
    have member : point ∈ searched.points := (List.mem_filter.mp among).1
    obtain ⟨other, otherName, stores, otherKind, name, dimension⟩ := sorted.points _ searched held point member
    refine ⟨other, stores, modelName, otherName, kind, stores.trans otherKind, ?_, ?_⟩
    · rw [← collectionName_localProvider_iff, ← kind, ← otherKind, name]
      rfl
    · rw [dimension, fits, length]

/-- No model is loaded and nothing is stored. -/
def fresh : State ι := { loaded := fun _ => false }

/-- Some query compared its vector with an entry of another embedding model, or returned one. -/
def Mixes (state : State ι) : Prop :=
  ∃ search ∈ state.searches, ∃ point, (point ∈ search.compared ∨ search.best = some point) ∧
    point.storedThrough.modelId ≠ search.searchedThrough.modelId

theorem sorted_of_run (ran : run? (step deployment provider) fresh labels = some final) :
    Sorted deployment provider final := by
  refine reachable_invariant (Sorted deployment provider)
    (fun _ _ _ sorted stepped => sorted.step stepped) ?_ ran
  refine ⟨fun name collection held => ?_, List.forall_mem_nil _⟩
  cases held

section mixing

variable {first second : ι} {found : Collection} {modelName other : String}

/-- A call of `ensure_collection` that finds the collection there. -/
def joining (cache : ι) : List (Label ι) := [.ensure cache, .answer cache, .finish cache]

theorem run?_joining (held : state.collections (collection provider cache) = some found)
    (unset : state.bootstrapped cache = false) (idle : state.ensuring cache = .idle) :
    run? (step deployment provider) state (joining cache) =
      some ((state.put (collection provider cache) (some found)).bootstrap cache) := by
  simp [joining, run?, step, sent, Ensuring.send, held, unset, idle]

section serving

variable (serves : provider cache = .localProvider modelName)
  (held : state.collections (collection provider cache) = some found) (set : state.bootstrapped cache = true)
  (size : found.vectors.size = (deployment.transformer modelName).dimension)

include serves held set size

omit [DecidableEq ι] in
/-- A bootstrapped cache reaches a collection of its dimension. -/
theorem exists_reached (request : ChatRequest) :
    ∃ embedded, vector deployment provider cache request = some embedded ∧
      reached provider state cache embedded = some found := by
  have embeds : vector deployment provider cache request =
      some ((deployment.transformer modelName).encode (normalizePrompt request.canonicalPrompt)) := by
    rw [vector, serves]
    rfl
  refine ⟨_, embeds, ?_⟩
  rw [reached, if_pos set, held]
  exact Option.filter_some_pos (decide_eq_true
    (size.trans ((deployment.transformer modelName).length_encode _).symm))

theorem exists_upsert (request : ChatRequest) (response : Json) (tenantId : String) :
    ∃ next point, step deployment provider state (.upsert cache request response tenantId) = some next ∧
      next.collections (collection provider cache) = some (found.upsert point) ∧
      next.bootstrapped = state.bootstrapped ∧ point.storedThrough = provider cache ∧
      point.filter = buildFilter deployment.sha256 deployment.isPrintable request tenantId := by
  obtain ⟨embedded, embeds, there⟩ := exists_reached serves held set size request
  let point : Point :=
    ⟨buildFilter deployment.sha256 deployment.isPrintable request tenantId, embedded, response, provider cache⟩
  have stepped : step deployment provider state (.upsert cache request response tenantId) =
      some { state.put (collection provider cache) (some (found.upsert point)) with
        loaded := Function.update state.loaded cache true } := by
    rw [step, embeds, Option.bind_some, there]
    rfl
  exact ⟨_, point, stepped, State.collections_put_self, rfl, rfl, rfl⟩

/-- Where all vectors are similar enough, any place may be the best. -/
theorem exists_query (request : ChatRequest) (tenantId : String) (best : Option ℕ)
    (similar : ∀ place ∈ best, ∀ left right, deployment.similarityThreshold ≤ deployment.score left right) :
    ∃ next, step deployment provider state (.query cache request tenantId best) = some next ∧
      ⟨provider cache, compared deployment found request tenantId,
        best.bind ((compared deployment found request tenantId)[·]?)⟩ ∈ next.searches := by
  obtain ⟨embedded, embeds, there⟩ := exists_reached serves held set size request
  have clears : ∀ point ∈ best.bind ((compared deployment found request tenantId)[·]?),
      deployment.similarityThreshold ≤ deployment.score embedded point.vector := by
    intro point hit
    obtain ⟨place, chosen, -⟩ := Option.bind_eq_some_iff.mp hit
    exact similar place chosen _ _
  let search : Search := ⟨provider cache, compared deployment found request tenantId,
    best.bind ((compared deployment found request tenantId)[·]?)⟩
  have stepped : step deployment provider state (.query cache request tenantId best) =
      some { state with
        loaded := Function.update state.loaded cache true
        searches := search :: state.searches } := by
    rw [step, embeds, Option.bind_some, there]
    exact if_pos clears
  exact ⟨_, stepped, List.mem_cons_self ..⟩

end serving

/-- One cache creates the collection, and another one joins it and stores an entry. -/
def mixing (first second : ι) (request : ChatRequest) (response : Json) (tenantId : String) (best : Option ℕ) :
    List (Label ι) :=
  .load first :: (creation first ++
    (joining second ++ [.upsert second request response tenantId, .query first request tenantId best]))

/-- Of caches that share a space one compares, and may return, what the other one stores. -/
theorem run?_mixing (distinct : second ≠ first)
    (shares : SharesSpace deployment (provider first) (provider second))
    (request : ChatRequest) (response : Json) (tenantId : String) (best : Option ℕ)
    (similar : ∀ place ∈ best, ∀ left right, deployment.similarityThreshold ≤ deployment.score left right) :
    ∃ final point,
      run? (step deployment provider) fresh (mixing first second request response tenantId best) = some final ∧
      point.storedThrough = provider second ∧
        ⟨provider first, [point], best.bind ([point][·]?)⟩ ∈ final.searches := by
  obtain ⟨modelName, other, searches, stores, safe, dimension⟩ := shares
  have same : collection provider second = collection provider first := by
    rw [collection, collection, searches, stores]
    exact (collectionName_localProvider_iff.mpr safe).symm
  let loaded : State ι := { (fresh : State ι) with loaded := Function.update (fun _ => false) first true }
  have dimensions : (provider first).dimension deployment.transformer (loaded.loaded first) =
      (deployment.transformer modelName).dimension := by
    have set : loaded.loaded first = true := by simp [loaded]
    rw [searches, set]
    rfl
  let found := Collection.created (deployment.transformer modelName).dimension
  let created := (loaded.put (collection provider first) (some found)).bootstrap first
  have creates : run? (step deployment provider) loaded (creation first) = some created := by
    have ran : run? (step deployment provider) loaded (creation first) = some _ := run?_creation rfl rfl rfl
    rwa [dimensions] at ran
  have held : created.collections (collection provider second) = some found := by
    rw [same]
    exact State.collections_put_self
  let joined := (created.put (collection provider second) (some found)).bootstrap second
  have joins : run? (step deployment provider) created (joining second) = some joined :=
    run?_joining held (State.bootstrapped_bootstrap_of_ne distinct) (State.ensuring_bootstrap_of_ne distinct)
  have set (cache : ι) (either : cache = first ∨ cache = second) : joined.bootstrapped cache = true := by
    by_cases last : cache = second
    · rw [last]
      exact State.bootstrapped_bootstrap_self
    · rw [either.resolve_right last]
      exact (State.bootstrapped_bootstrap_of_ne (Ne.symm distinct)).trans State.bootstrapped_bootstrap_self
  have held : joined.collections (collection provider second) = some found := State.collections_put_self
  obtain ⟨stored, point, upserts, there, kept, through, filter⟩ :=
    exists_upsert stores held (set second (.inr rfl)) dimension request response tenantId
  have alone : compared deployment (found.upsert point) request tenantId = [point] :=
    List.filter_cons_of_pos (decide_eq_true filter)
  obtain ⟨final, queries, searched⟩ :=
    exists_query searches (same ▸ there) (kept ▸ set first (.inl rfl)) rfl request tenantId best similar
  rw [alone] at searched
  refine ⟨final, point, ?_, through, searched⟩
  refine run?_cons_iff.mpr ⟨loaded, rfl, run?_append_iff.mpr ⟨created, creates, ?_⟩⟩
  refine run?_append_iff.mpr ⟨joined, joins, ?_⟩
  exact run?_cons_iff.mpr ⟨stored, upserts, run?_cons_iff.mpr ⟨final, queries, rfl⟩⟩

end mixing

/-- Entries of another embedding model are never compared or returned exactly if no two local models share a
space under different names. -/
theorem not_mixes_iff (deployment : Deployment) (provider : ι → EmbeddingProvider) :
    (∀ labels final, run? (step deployment provider) fresh labels = some final → ¬ Mixes final) ↔
      ∀ first second, (provider first).modelId ≠ (provider second).modelId →
        ¬ SharesSpace deployment (provider first) (provider second) := by
  constructor
  · intro separate first second names shares
    have distinct : second ≠ first := fun same => names (by rw [same])
    obtain ⟨final, point, ran, through, searched⟩ :=
      run?_mixing distinct shares { model := "m", messages := [] } .null "t" none nofun
    refine separate _ final ran ⟨_, searched, point, .inl (List.mem_singleton_self point), ?_⟩
    rw [through]
    exact Ne.symm names
  · rintro apart labels final ran ⟨search, searched, point, met, names⟩
    obtain ⟨cache, searches, belongs⟩ := (sorted_of_run ran).searches search searched
    obtain ⟨other, stores, shares⟩ := belongs point met
    rw [← searches, ← stores] at names
    exact apart cache other (Ne.symm names) shares

/-- Two spellings of one model name, and two models to Qdrant's clients. -/
theorem mixes_of_spellings :
    ∃ (provider : Bool → EmbeddingProvider) (labels : List (Label Bool)) (final : State Bool),
    provider false = .localProvider "all-MiniLM-L6-v2" ∧ provider true = .localProvider "all_MiniLM_L6_v2" ∧
    run? (step sampleDeployment provider) fresh labels = some final ∧
      ∃ search ∈ final.searches, ∃ point, search.best = some point ∧
        point.storedThrough.modelId ≠ search.searchedThrough.modelId := by
  let provider (renamed : Bool) : EmbeddingProvider :=
    .localProvider (if renamed then "all_MiniLM_L6_v2" else "all-MiniLM-L6-v2")
  have shares : SharesSpace sampleDeployment (provider false) (provider true) :=
    ⟨_, _, rfl, rfl, by decide, rfl⟩
  have names : (provider true).modelId ≠ (provider false).modelId := by decide
  have similar : sampleDeployment.similarityThreshold ≤ 1 := by decide +kernel
  obtain ⟨final, point, ran, through, searched⟩ :=
    run?_mixing (by decide) shares { model := "m", messages := [] } .null "t" (some 0) (fun _ _ _ _ => similar)
  refine ⟨provider, _, final, rfl, rfl, ran, _, searched, point, rfl, ?_⟩
  rw [through]
  exact names

end QdrantSemanticCache

end LlmopsGateway
