import LlmopsGateway.Soundness.CacheCommands

/-! # Where a cached answer comes from

Both stores and all pending writes hold answers that were generated for some request of the same tenant.
An entry of the exact cache was generated for its own key, or a request with its key was matched to the
vector of the request it was generated for. A point always holds what was generated for the request of its
vector. So an answer that is written back after a match is not matched again. What counts as generated is
a parameter, and grows while the cache layer runs.
-/

namespace LlmopsGateway.CacheLayer

open Machine
open Coalescing (Reply)

variable {κ ν : Type}

namespace Deployment

variable (deployment : Deployment ν)

def cacheKey (request : ChatRequest) : List Char :=
  exactCacheKey deployment.sha256 deployment.isPrintable request

/-- Qdrant returns one of the filtered points, at or above the threshold. -/
def AboveThreshold : Prop := ∀ vector points best, deployment.queryPoints vector points = some best →
  best ∈ points ∧ deployment.similarityThreshold ≤ deployment.score vector best.vector

/-- What pydantic reads from a response it wrote is that response. -/
structure RoundTrips : Prop where
  json : ∀ response read, deployment.modelValidateJson (deployment.modelDumpJson response) = some read →
    read = response
  payload : ∀ response read, deployment.modelValidate (deployment.modelDump response) = some read →
    read = response

/-- A request that the semantic cache may answer with what was generated for the other. -/
structure Similar (tenantId : String) (request source : ChatRequest) : Prop where
  filter : deployment.buildFilter request tenantId = deployment.buildFilter source tenantId
  score : deployment.similarityThreshold ≤ deployment.score (deployment.vector request)
    (deployment.vector source)

variable {deployment} in
theorem exactKey_inj (fixed : deployment.FixedLength) {request other : ChatRequest} {tenantId otherId : String}
    (same : deployment.exactKey request tenantId = deployment.exactKey other otherId) :
    tenantId = otherId ∧ deployment.cacheKey request = deployment.cacheKey other := by
  obtain rfl := tenant_of_exactKey fixed same
  exact ⟨rfl, List.append_cancel_right same⟩

end Deployment

/-- The answers generated so far: the tenant, the request and the response. -/
abbrev Generated := String → ChatRequest → ChatResponse → Prop

/-- The request and the answer of a result that has one. -/
def Result.answer : Result → Option (ChatRequest × ChatResponse)
  | .looked request hit _ => hit.map fun hit => (request, hit)
  | .waited request hit => hit.map fun hit => (request, hit)
  | .acquired .. => none

variable (deployment : Deployment ν) (generated : Generated) (results : Caller κ → Option Result)

/-- A request of the tenant, with this key, was matched to the vector of the source. -/
def Matched (tenantId : String) (key : List Char) (source : ChatRequest) (original : ChatResponse) : Prop :=
  ∃ id request,
    results ⟨tenantId, id⟩ = some
      (.looked request (some { original with cacheStatus := .semanticHit }) .semanticHit) ∧
      deployment.cacheKey request = key ∧ deployment.Similar tenantId request source

/-- An answer generated for a request with this key, or for one that such a request was matched to. -/
def Descends (tenantId : String) (key : List Char) (response : ChatResponse) : Prop :=
  ∃ source original, generated tenantId source original ∧
    (∃ status, response = { original with cacheStatus := status }) ∧
    (deployment.cacheKey source = key ∨ Matched deployment results tenantId key source original)

/-- The text of an entry with such an answer. -/
def EntryDescends (key : List Char) (value : String) : Prop :=
  ∀ request tenantId, key = deployment.exactKey request tenantId → ∃ response,
    value = deployment.modelDumpJson response ∧
      Descends deployment generated results tenantId (deployment.cacheKey request) response

/-- A point of a generated answer, under the vector of its own request. -/
def PointGenerated (point : Point ν) : Prop :=
  ∃ tenantId source original, generated tenantId source original ∧
    point = deployment.point source tenantId original

/-- The writes of a phase are still to come. -/
structure Phase.Pending (tenantId : String) (phase : Phase) : Prop where
  exact : ∀ request response semantic, phase = .storing request response true semantic →
    Descends deployment generated results tenantId (deployment.cacheKey request) response
  semantic : ∀ request response exact, phase = .storing request response exact true →
    generated tenantId request response

/-- Writes are still to do. -/
def Phase.stores : Phase → Bool
  | .storing .. => true
  | _ => false

/-- The call has returned. -/
def Phase.returned : Phase → Bool
  | .storing .. | .done => true
  | _ => false

/-- Every answer in the cache layer is a generated one, at most one match away. -/
structure Traced (state : State κ ν) : Prop where
  entries : state.redis.All (EntryDescends deployment generated state.results)
  points : ∀ point ∈ state.points, PointGenerated deployment generated point
  pending : ∀ caller, (state.calls caller).Pending deployment generated state.results caller.tenantId
  answers : ∀ caller result request hit, state.results caller = some result →
    result.answer = some (request, hit) →
    Descends deployment generated state.results caller.tenantId (deployment.cacheKey request) hit
  returned : ∀ caller, state.results caller ≠ none → (state.calls caller).returned = true

variable {deployment generated results}

theorem Traced.initial : Traced deployment generated ({} : State κ ν) where
  entries := .empty
  points _ member := absurd member List.not_mem_nil
  pending _ := ⟨fun _ _ _ storing => Phase.noConfusion storing, fun _ _ _ storing => Phase.noConfusion storing⟩
  answers _ _ _ _ recorded _ := by cases recorded
  returned _ recorded := absurd rfl recorded

section growth

variable {later : Generated} {after : Caller κ → Option Result} {tenantId : String} {key : List Char}

theorem Matched.mono {source : ChatRequest} {original : ChatResponse}
    (kept : ∀ caller result, results caller = some result → after caller = some result)
    (same : Matched deployment results tenantId key source original) :
    Matched deployment after tenantId key source original := by
  obtain ⟨id, request, recorded, keys, similar⟩ := same
  exact ⟨id, request, kept _ _ recorded, keys, similar⟩

variable (grows : ∀ tenantId request response, generated tenantId request response →
    later tenantId request response)
  (kept : ∀ caller result, results caller = some result → after caller = some result)

include grows kept

theorem Descends.mono {response : ChatResponse}
    (descends : Descends deployment generated results tenantId key response) :
    Descends deployment later after tenantId key response := by
  obtain ⟨source, original, known, same, hop⟩ := descends
  exact ⟨source, original, grows _ _ _ known, same, hop.imp_right (Matched.mono kept)⟩

theorem EntryDescends.mono {value : String} (entry : EntryDescends deployment generated results key value) :
    EntryDescends deployment later after key value := by
  intro request tenantId same
  obtain ⟨response, written, descends⟩ := entry request tenantId same
  exact ⟨response, written, descends.mono grows kept⟩

omit kept in
theorem PointGenerated.mono {point : Point ν} (known : PointGenerated deployment generated point) :
    PointGenerated deployment later point := by
  obtain ⟨tenantId, source, original, known, same⟩ := known
  exact ⟨tenantId, source, original, grows _ _ _ known, same⟩

theorem Phase.Pending.mono {phase : Phase} (pending : phase.Pending deployment generated results tenantId) :
    phase.Pending deployment later after tenantId where
  exact request response semantic here := (pending.exact request response semantic here).mono grows kept
  semantic request response exact here := grows _ _ _ (pending.semantic request response exact here)

end growth

/-- Generating more answers leaves every answer where it is. -/
theorem Traced.generate {later : Generated} {state : State κ ν}
    (grows : ∀ tenantId request response, generated tenantId request response → later tenantId request response)
    (traced : Traced deployment generated state) : Traced deployment later state where
  entries := traced.entries.imp fun _ _ entry => entry.mono grows fun _ _ recorded => recorded
  points point member := (traced.points point member).mono grows
  pending caller := (traced.pending caller).mono grows fun _ _ recorded => recorded
  answers caller result request hit recorded answer :=
    (traced.answers caller result request hit recorded answer).mono grows fun _ _ recorded => recorded
  returned := traced.returned

section reads

variable {state : State κ ν} {tenantId : String} {request : ChatRequest} {hit : ChatResponse} {reply : Reply}

theorem Descends.withStatus {key : List Char} {response : ChatResponse} (status : CacheStatus)
    (descends : Descends deployment generated results tenantId key response) :
    Descends deployment generated results tenantId key { response with cacheStatus := status } := by
  obtain ⟨source, original, known, ⟨-, rfl⟩, hop⟩ := descends
  exact ⟨source, original, known, ⟨status, rfl⟩, hop⟩

/-- What the exact cache returns descends from what its entry was written with. -/
theorem Traced.descends_of_exactCacheGet (traced : Traced deployment generated state)
    (roundTrips : deployment.RoundTrips)
    (found : exactCacheGet deployment state request tenantId reply = some hit) :
    Descends deployment generated state.results tenantId (deployment.cacheKey request) hit := by
  cases reply with
  | lost | unanswered => cases found
  | ok =>
    rw [exactCacheGet] at found
    split at found
    · cases found
    · rename_i raw read
      split at found
      · cases found
      · rename_i response validated
        obtain ⟨written, rfl, descends⟩ := traced.entries.get read request tenantId rfl
        obtain rfl := roundTrips.json _ _ validated
        obtain rfl := Option.some.inj found
        exact descends.withStatus .exactHit

/-- What the semantic cache returns was generated for a similar request. -/
theorem Traced.similar_of_semanticCacheGet (traced : Traced deployment generated state)
    (above : deployment.AboveThreshold) (roundTrips : deployment.RoundTrips)
    (found : semanticCacheGet deployment state request tenantId reply = some hit) :
    ∃ source original, generated tenantId source original ∧
      hit = { original with cacheStatus := .semanticHit } ∧
      deployment.Similar tenantId request source := by
  cases reply with
  | lost | unanswered => cases found
  | ok =>
    rw [semanticCacheGet] at found
    split at found
    · cases found
    · rename_i best queried
      obtain ⟨member, score⟩ := above _ _ _ queried
      obtain ⟨member, passes⟩ := List.mem_filter.mp member
      have passes : best.filter = deployment.buildFilter request tenantId := of_decide_eq_true passes
      obtain ⟨owner, source, original, known, rfl⟩ := traced.points best member
      obtain rfl : owner = tenantId := congrArg SemanticFilter.tenantId passes
      rw [readPoint] at found
      split at found
      · cases found
      · obtain ⟨read, validated, rfl⟩ := Option.map_eq_some_iff.mp found
        obtain rfl := roundTrips.payload _ _ validated
        exact ⟨source, _, known, rfl, passes.symm, score⟩

end reads

/-- What a write must bring along. -/
def Write.Traced (deployment : Deployment ν) (generated : Generated)
    (results : Caller κ → Option Result) : Write ν → Prop
  | .set key value _ => EntryDescends deployment generated results key value
  | .delete _ => True
  | .upsert point => PointGenerated deployment generated point

section steps

variable [DecidableEq κ] {state next : State κ ν} {caller : Caller κ} {effect : Effect ν}

theorem proceed_results_kept (unchanged : state.results caller = none ∨ effect.result = none)
    (other : Caller κ) (result : Result) (recorded : state.results other = some result) :
    (state.proceed caller effect).results other = some result := by
  obtain ⟨phase, returns, write⟩ := effect
  cases returns with
  | none => exact recorded
  | some returns =>
    have different : other ≠ caller := by
      rintro rfl
      rcases unchanged with unset | silent
      · exact nomatch unset.symm.trans recorded
      · cases silent
    exact (Function.update_of_ne different ..).trans recorded

theorem proceed_results_cases {other : Caller κ} {result : Result}
    (recorded : (state.proceed caller effect).results other = some result) :
    state.results other = some result ∨ other = caller ∧ effect.result = some result := by
  obtain ⟨phase, returns, write⟩ := effect
  cases returns with
  | none => exact .inl recorded
  | some returns =>
    by_cases here : other = caller
    · subst here
      have set : (state.proceed other ⟨phase, some returns, write⟩).results other = some returns :=
        Function.update_self ..
      exact .inr ⟨rfl, set.symm.trans recorded⟩
    · exact .inl ((Function.update_of_ne here ..).symm.trans recorded)

/-- A step of a call keeps every answer traced if what it returns, does next and writes is traced. -/
theorem Traced.proceed (traced : Traced deployment generated state)
    (unchanged : state.results caller = none ∨ effect.result = none)
    (returned : effect.result ≠ none ∨ state.results caller ≠ none → effect.phase.returned = true)
    (answers : ∀ result request hit, effect.result = some result → result.answer = some (request, hit) →
      Descends deployment generated (state.proceed caller effect).results caller.tenantId
        (deployment.cacheKey request) hit)
    (pending : effect.phase.Pending deployment generated (state.proceed caller effect).results caller.tenantId)
    (writes : ∀ write, effect.write = some write →
      write.Traced deployment generated (state.proceed caller effect).results) :
    Traced deployment generated (state.proceed caller effect) := by
  have kept := proceed_results_kept unchanged
  have same (tenantId : String) (request : ChatRequest) (response : ChatResponse)
    (known : generated tenantId request response) : generated tenantId request response := known
  have entries := traced.entries.imp fun key value entry => EntryDescends.mono same kept entry
  have points := traced.points
  refine ⟨?_, ?_, fun other => ?_, fun other result request hit recorded answer => ?_, fun other recorded => ?_⟩
  · obtain ⟨phase, returns, write⟩ := effect
    cases write with
    | none => exact entries
    | some write =>
      cases write with
      | set key value deadline => exact entries.set (writes _ rfl)
      | delete key => exact entries.delete
      | upsert point => exact entries
  · obtain ⟨phase, returns, write⟩ := effect
    cases write with
    | none => exact points
    | some write =>
      cases write with
      | set | delete => exact points
      | upsert added =>
        intro point member
        rcases List.mem_append.mp member with member | member
        · exact points point member
        · obtain rfl := List.mem_singleton.mp member
          exact writes _ rfl
  · by_cases here : other = caller
    · subst here
      have phases : (state.proceed other effect).calls other = effect.phase := Function.update_self ..
      rw [phases]
      exact pending
    · have phases : (state.proceed caller effect).calls other = state.calls other :=
        Function.update_of_ne here ..
      rw [phases]
      exact (traced.pending other).mono same kept
  · rcases proceed_results_cases recorded with before | ⟨rfl, returns⟩
    · exact (traced.answers other result request hit before answer).mono same kept
    · exact answers result request hit returns answer
  · by_cases here : other = caller
    · subst here
      have phases : (state.proceed other effect).calls other = effect.phase := Function.update_self ..
      obtain ⟨result, recorded⟩ := Option.ne_none_iff_exists'.mp recorded
      rw [phases]
      rcases proceed_results_cases recorded with before | ⟨-, returns⟩
      · exact returned (.inr (Option.ne_none_iff_exists'.mpr ⟨result, before⟩))
      · exact returned (.inl (Option.ne_none_iff_exists'.mpr ⟨result, returns⟩))
    · have phases : (state.proceed caller effect).calls other = state.calls other :=
        Function.update_of_ne here ..
      obtain ⟨result, recorded⟩ := Option.ne_none_iff_exists'.mp recorded
      rcases proceed_results_cases recorded with before | ⟨same, -⟩
      · rw [phases]
        exact traced.returned other (Option.ne_none_iff_exists'.mpr ⟨result, before⟩)
      · exact absurd same here

/-- A step that returns no answer, writes nothing and leaves no write to do. -/
structure Effect.Quiet (effect : Effect ν) : Prop where
  write : effect.write = none
  phase : effect.phase.stores = false
  returned : effect.result = none ∨ effect.phase.returned = true
  answer : effect.result.bind Result.answer = none

theorem Effect.Quiet.silent {effect : Effect ν} (quiet : effect.Quiet) {result : Result}
    (returns : effect.result = some result) : result.answer = none := by
  have silent := quiet.answer
  rwa [returns] at silent

omit [DecidableEq κ] in
theorem Phase.Pending.of_stores {phase : Phase} (idle : phase.stores = false) (tenantId : String) :
    phase.Pending deployment generated results tenantId where
  exact request response semantic here := by
    subst here
    cases idle
  semantic request response exact here := by
    subst here
    cases idle

omit [DecidableEq κ] in
theorem sleep_quiet (deployment : Deployment ν) (state : State κ ν) (request : ChatRequest) (deadline : ℕ) :
    (sleep deployment state request deadline).Quiet := by
  rw [sleep]
  split
  · exact ⟨rfl, rfl, .inl rfl, rfl⟩
  · exact ⟨rfl, rfl, .inr rfl, rfl⟩

omit [DecidableEq κ] in
theorem begin_quiet (deployment : Deployment ν) (state : State κ ν) (operation : Operation) :
    (begin deployment state operation).Quiet ∨ ∃ request response, operation = .backfill request response := by
  cases operation with
  | lookup request =>
    rw [begin]
    split
    · exact .inl ⟨rfl, rfl, .inr rfl, rfl⟩
    · exact .inl ⟨rfl, rfl, .inl rfl, rfl⟩
  | backfill request response => exact .inr ⟨request, response, rfl⟩
  | acquire request => exact .inl ⟨rfl, rfl, .inl rfl, rfl⟩
  | release request => exact .inl ⟨rfl, rfl, .inl rfl, rfl⟩
  | wait request => exact .inl (sleep_quiet ..)

theorem Traced.proceed_of_quiet (traced : Traced deployment generated state)
    (unset : state.results caller = none)
    (quiet : effect.Quiet) : Traced deployment generated (state.proceed caller effect) := by
  refine traced.proceed (.inl unset) ?_ ?_ (.of_stores quiet.phase _) ?_
  · rintro (returns | recorded)
    · exact quiet.returned.resolve_left returns
    · exact absurd unset recorded
  · intro result request hit returns answer
    exact nomatch (quiet.silent returns).symm.trans answer
  · intro write writes
    rw [quiet.write] at writes
    cases writes

omit [DecidableEq κ] in
/-- A call that has not returned has no result. -/
theorem Traced.unset (traced : Traced deployment generated state) {phase : Phase}
    (here : state.calls caller = phase)
    (running : phase.returned = false) : state.results caller = none := by
  by_contra recorded
  have returned := traced.returned caller recorded
  rw [here, running] at returned
  cases returned

/-- An operation that begins keeps every answer traced, if what it may write back was generated. -/
theorem Traced.begin (traced : Traced deployment generated state) (idle : state.calls caller = .idle)
    {operation : Operation} (known : ∀ request response, operation = .backfill request response →
      generated caller.tenantId request response) :
    Traced deployment generated (state.proceed caller (begin deployment state operation)) := by
  have unset := traced.unset idle rfl
  rcases begin_quiet deployment state operation with quiet | ⟨request, response, rfl⟩
  · exact traced.proceed_of_quiet unset quiet
  · have known := known request response rfl
    refine traced.proceed (.inl unset) (fun _ => rfl) (fun _ _ _ returns => ?_) ⟨?_, ?_⟩ (fun _ writes => ?_)
    · cases returns
    · rintro _ _ _ ⟨⟩
      exact ⟨request, response, known, ⟨response.cacheStatus, rfl⟩, .inl rfl⟩
    · rintro _ _ _ ⟨⟩
      exact known
    · cases writes

omit [DecidableEq κ] in
/-- No entry has the key of a lock. -/
theorem entryDescends_lockKey (request : ChatRequest) (tenantId value : String) :
    EntryDescends deployment generated results (deployment.lockKey request tenantId) value :=
  fun _ _ same => absurd same.symm Deployment.exactKey_ne_lockKey

omit [DecidableEq κ] in
theorem entryDescends_exactKey (fixed : deployment.FixedLength) {request : ChatRequest} {tenantId : String}
    {response : ChatResponse}
    (descends : Descends deployment generated results tenantId (deployment.cacheKey request) response) :
    EntryDescends deployment generated results (deployment.exactKey request tenantId)
      (deployment.modelDumpJson response) := by
  intro other otherId same
  obtain ⟨rfl, keys⟩ := Deployment.exactKey_inj fixed same
  exact ⟨response, rfl, keys ▸ descends⟩

/-- Every command keeps every answer traced. -/
theorem Traced.perform (fixed : deployment.FixedLength) (above : deployment.AboveThreshold)
    (roundTrips : deployment.RoundTrips) (traced : Traced deployment generated state)
    (performs : Performs deployment state caller.tenantId (state.calls caller) effect) :
    Traced deployment generated (state.proceed caller effect) := by
  generalize here : state.calls caller = phase at performs
  cases performs with
  | exactHit found | waitHit found =>
    have descends := traced.descends_of_exactCacheGet roundTrips found
    have unset := traced.unset here rfl
    refine traced.proceed (.inl unset) (fun _ => rfl) (fun result asked hit returns answer => ?_)
      (.of_stores rfl _)
      (fun _ writes => ?_)
    · cases returns
      cases answer
      exact descends.mono (fun _ _ _ known => known) (proceed_results_kept (.inl unset))
    · cases writes
  | exactMiss | semanticMiss =>
    exact traced.proceed_of_quiet (traced.unset here rfl) ⟨rfl, rfl, by simp [Phase.returned], rfl⟩
  | semanticHit found =>
    rename_i request hit reply
    obtain ⟨source, original, known, rfl, similar⟩ := traced.similar_of_semanticCacheGet above roundTrips found
    have unset := traced.unset here rfl
    -- the match is recorded in this step, before the answer is written back
    have descends : Descends deployment generated (state.proceed caller
        ⟨.storing request { original with cacheStatus := .semanticHit } true false,
          some (.looked request (some { original with cacheStatus := .semanticHit }) .semanticHit),
            none⟩).results
        caller.tenantId (deployment.cacheKey request) { original with cacheStatus := .semanticHit } :=
      ⟨source, original, known, ⟨.semanticHit, rfl⟩,
        .inr ⟨caller.id, request, Function.update_self .., rfl, similar⟩⟩
    refine traced.proceed (.inl unset) (fun _ => rfl) (fun result asked hit returns answer => ?_) ⟨?_, ?_⟩
      (fun _ writes => ?_)
    · cases returns
      cases answer
      exact descends
    · rintro _ _ _ ⟨⟩
      exact descends
    · rintro _ _ _ ⟨⟩
    · cases writes
  | storeExact reply =>
    have pending := traced.pending caller
    rw [here] at pending
    refine traced.proceed (.inr rfl) (fun _ => rfl) (fun _ _ _ returns => ?_) ⟨?_, ?_⟩ (fun write writes => ?_)
    · cases returns
    · rintro _ _ _ ⟨⟩
    · rintro _ _ _ ⟨⟩
      exact pending.semantic _ _ _ rfl
    · rw [eq_of_landed writes]
      exact entryDescends_exactKey fixed (pending.exact _ _ _ rfl)
  | storePoint reply =>
    have pending := traced.pending caller
    rw [here] at pending
    refine traced.proceed (.inr rfl) (fun _ => rfl) (fun _ _ _ returns => ?_) ⟨?_, ?_⟩ (fun write writes => ?_)
    · cases returns
    · rintro _ _ _ ⟨⟩
      exact pending.exact _ _ _ rfl
    · rintro _ _ _ ⟨⟩
    · rw [eq_of_landed writes]
      exact ⟨_, _, _, pending.semantic _ _ _ rfl, rfl⟩
  | acquire won reply =>
    refine traced.proceed (.inl (traced.unset here rfl)) (fun _ => rfl) (fun _ _ _ returns answer => ?_)
      (.of_stores rfl _) (fun write writes => ?_)
    · cases returns
      cases answer
    · rw [eq_of_setNx writes]
      exact entryDescends_lockKey _ _ _
  | release reply =>
    refine traced.proceed (.inr rfl) (fun _ => rfl) (fun _ _ _ returns => ?_) (.of_stores rfl _)
      (fun write writes => ?_)
    · cases returns
    · rw [eq_of_landed writes]
      trivial
  | waitMiss => exact traced.proceed_of_quiet (traced.unset here rfl) (sleep_quiet ..)

/-- Every step keeps every answer traced, if it begins no backfill but of a generated answer. -/
theorem Traced.step (fixed : deployment.FixedLength) (above : deployment.AboveThreshold)
    (roundTrips : deployment.RoundTrips) (traced : Traced deployment generated state) {label : Label κ}
    (known : ∀ caller request response, label = .start caller (.backfill request response) →
      generated caller.tenantId request response)
    (stepped : step deployment state label = some next) : Traced deployment generated next := by
  rcases step_cases stepped with ⟨ms, rfl, rfl⟩ | ⟨caller, operation, rfl, idle, rfl⟩ |
      ⟨caller, store, reply, effect, rfl, performs, rfl⟩
  · exact ⟨traced.entries, traced.points, traced.pending, traced.answers, traced.returned⟩
  · exact traced.begin idle fun request response same => known caller request response (by rw [same])
  · exact traced.perform fixed above roundTrips performs

end steps

section sample

theorem sampleDeployment_aboveThreshold : sampleDeployment.AboveThreshold := by
  intro vector points best found
  obtain ⟨greatest, near⟩ := Option.filter_eq_some_iff.mp found
  exact ⟨List.argmax_mem greatest, of_decide_eq_true near⟩

theorem find?_answerText (status : CacheStatus) :
    (statuses.find? fun other => answerText other = answerText status) = some status := by
  cases status <;> decide +kernel

theorem find?_statusText (status : CacheStatus) :
    (statuses.find? fun other => statusText other = statusText status) = some status := by
  cases status <;> decide +kernel

theorem sampleDeployment_roundTrips : sampleDeployment.RoundTrips where
  json response read validated := by
    change (statuses.find? fun other => answerText other =
      if response = answer response.cacheStatus then answerText response.cacheStatus else "null").map answer =
        some read at validated
    split_ifs at validated with known
    · rw [find?_answerText] at validated
      exact (Option.some.inj validated).symm.trans known.symm
    · have unknown : (statuses.find? fun other => answerText other = "null") = none := by decide +kernel
      rw [unknown] at validated
      cases validated
  payload response read validated := by
    change sampleDeployment.modelValidate
      (if response = answer response.cacheStatus then answerJson response.cacheStatus else .null) =
        some read at validated
    split_ifs at validated with known
    · change (statuses.find? fun other => statusText other = statusText response.cacheStatus).map answer =
        some read at validated
      rw [find?_statusText] at validated
      exact (Option.some.inj validated).symm.trans known.symm
    · cases validated

end sample

end LlmopsGateway.CacheLayer
