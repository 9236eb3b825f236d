import LlmopsGateway.Machine.Run
import LlmopsGateway.Model.Pricing
import Mathlib.Tactic.Positivity

/-! # When "no price" is remembered

An entry of the price cache was written by a lookup for its model. If every such lookup had an answer
from the table, and wrote it down soon after, then each entry repeats an answer that is no older than
its lifetime and that delay. So a model that has had prices for longer than that is never taken to be
free. A lookup whose query failed writes the same sentinel, and that is all it takes to break this.
-/

namespace LlmopsGateway.CostService

open Machine PyText

variable {floats : Floats} {ttlSeconds delay : ℕ} {state next : State}

/-- How long an entry may be older than its query. -/
def maxAge (ttlSeconds delay : ℕ) : ℕ := 10 ^ 6 * ttlSeconds + delay

/-- A live sentinel repeats a query of the table that found no row, not longer than this ago. -/
def SentinelJustified (age : ℕ) (state : State) : Prop :=
  ∀ model : ModelIdentifier, ':' ∉ model.provider.toList →
    state.read (cacheKey model) = some noPriceSentinel →
      ∃ query ∈ state.queries, query.model = model ∧ query.found = none ∧
        query.time ≤ state.now ∧ state.now ≤ query.time + age

def Phase.cached? : Phase → Option (ℕ × Loaded)
  | caching _ _ queriedAt loaded => some (queriedAt, loaded)
  | _ => none

/-- What is written to the cache is the answer of a query that did not fail, at most `delay` before.
Provider names have no colon, so keys tell models apart. -/
def CachesAnswers (delay : ℕ) (state : State) : Label → Prop
  | .get _ model _ => ':' ∉ model.provider.toList
  | .set id stored => stored = true → ∀ cached ∈ (state.lookups id).cached?,
      cached.2 ≠ .failed ∧ state.now ≤ cached.1 + delay
  | _ => True

instance (delay : ℕ) (state : State) (label : Label) : Decidable (CachesAnswers delay state label) :=
  match label with
  | .get _ model _ => inferInstanceAs (Decidable (':' ∉ model.provider.toList))
  | .set id stored => inferInstanceAs (Decidable (stored = true → ∀ cached ∈ (state.lookups id).cached?,
      cached.2 ≠ .failed ∧ state.now ≤ cached.1 + delay))
  | .query .. | .queryFails _ | .tick _ | .evict _ | .changeTable _ => isTrue trivial

/-- Prices that make every token cost something. -/
def Positive (floats : Floats) (pricing : Option Prices) : Prop :=
  ∃ prices, pricing = some prices ∧ 0 < floats.value prices.1 ∧ 0 < floats.value prices.2

/-- Whatever the table would return for the model now, it is a row with positive prices. -/
def Priced (floats : Floats) (model : ModelIdentifier) (state : State) : Prop :=
  ∀ record, PricingRepository.ActivePrice state.table model.provider model.model state.now record →
    Positive floats (record.map (pricesOf floats))

/-- The model is priced and the database is reachable. -/
def PricedStep (floats : Floats) (model : ModelIdentifier) (state : State) (label : Label) : Prop :=
  Priced floats model state ∧ ∀ id, label ≠ .queryFails id

/-- Python reads the text of a float back as that float. -/
def ReadsBack (floats : Floats) : Prop := ∀ float : PyFloat, floats.parse float.text = some float

section keys

theorem cacheKey_injective {left right : ModelIdentifier} (leftPlain : ':' ∉ left.provider.toList)
    (rightPlain : ':' ∉ right.provider.toList) (same : cacheKey left = cacheKey right) : left = right := by
  obtain ⟨provider, model⟩ := left
  obtain ⟨other, sibling⟩ := right
  have texts := congrArg String.toList same
  simp only [cacheKey, ModelIdentifier.str, String.toList_append, List.append_assoc,
    List.append_cancel_left_eq] at texts
  obtain ⟨providers, models⟩ := Words.first_field_inj leftPlain rightPlain texts
  obtain rfl := String.toList_inj.mp providers
  obtain rfl := String.toList_inj.mp models
  rfl

theorem comma_notMem (float : PyFloat) : ',' ∉ float.text.toList :=
  fun member => absurd (float.digits ',' member) (by decide)

theorem toList_encodePricing (pricing : Prices) :
    (encodePricing pricing).toList = pricing.1.text.toList ++ ',' :: pricing.2.text.toList := by
  simp [encodePricing]

theorem encodePricing_ne_sentinel (pricing : Prices) : encodePricing pricing ≠ noPriceSentinel := by
  intro same
  have comma : ',' ∈ (encodePricing pricing).toList := by
    rw [toList_encodePricing]
    exact List.mem_append_right _ (List.mem_cons_self ..)
  rw [same] at comma
  exact absurd comma (by decide)

theorem cacheValue_eq_sentinel_iff {pricing : Option Prices} :
    cacheValue pricing = noPriceSentinel ↔ pricing = none := by
  cases pricing with
  | none => exact iff_of_true rfl rfl
  | some pricing => exact iff_of_false (encodePricing_ne_sentinel pricing) nofun

/-- Reading what was written gives the prices back. -/
theorem readEntry_cacheValue (reads : ReadsBack floats) (pricing : Option Prices) :
    readEntry floats (cacheValue pricing) = pricing := by
  cases pricing with
  | none => rfl
  | some pricing =>
    have free : ∀ c ∈ pricing.1.text.toList, decide (c ≠ ',') = true := by
      intro c member
      exact decide_eq_true fun comma => comma_notMem pricing.1 (comma ▸ member)
    rw [cacheValue, readEntry, if_neg (encodePricing_ne_sentinel pricing), decodePricing, toList_encodePricing,
      List.takeWhile_append_of_pos free, List.dropWhile_append_of_pos free]
    simp [reads pricing.1, reads pricing.2]

end keys

/-- A lookup that has an answer from the table has it from a query. -/
def PhaseSound (queries : List Query) (now : ℕ) : Phase → Prop
  | .idle => True
  | .loading model startedAt => ':' ∉ model.provider.toList ∧ startedAt ≤ now
  | .caching model startedAt queriedAt loaded => startedAt ≤ queriedAt ∧ queriedAt ≤ now ∧
      ∀ found, loaded = .found found → ⟨model, queriedAt, found⟩ ∈ queries
  | .returned _ startedAt _ => startedAt ≤ now

/-- An entry repeats a query. -/
def EntrySound (age : ℕ) (queries : List Query) (key : String) (entry : Entry) : Prop :=
  ∃ query ∈ queries, cacheKey query.model = key ∧ entry.value = cacheValue query.found ∧
    entry.deadline ≤ query.time + age

structure Sound (age : ℕ) (state : State) : Prop where
  plain : ∀ query ∈ state.queries, ':' ∉ query.model.provider.toList
  past : ∀ query ∈ state.queries, query.time ≤ state.now
  entries : ∀ key entry, state.redis key = some entry → EntrySound age state.queries key entry
  phases : ∀ id, PhaseSound state.queries state.now (state.lookups id)

theorem sound_initial (age : ℕ) (table : List ModelPricingModel) : Sound age { table } where
  plain := List.forall_mem_nil _
  past := List.forall_mem_nil _
  entries := nofun
  phases _ := trivial

theorem PhaseSound.mono {queries later : List Query} {now then' : ℕ} {phase : Phase}
    (sound : PhaseSound queries now phase) (more : queries ⊆ later) (le : now ≤ then') :
    PhaseSound later then' phase := by
  cases phase with
  | idle => trivial
  | loading model startedAt => exact ⟨sound.1, sound.2.trans le⟩
  | caching model startedAt queriedAt loaded =>
    exact ⟨sound.1, sound.2.1.trans le, fun found same => more (sound.2.2 found same)⟩
  | returned model startedAt pricing => exact Nat.le_trans sound le

theorem Sound.goto {age : ℕ} (sound : Sound age state) (id : ℕ) {phase : Phase}
    (fits : PhaseSound state.queries state.now phase) : Sound age (state.goto id phase) := by
  refine ⟨sound.plain, sound.past, sound.entries, ?_⟩
  exact (Function.forall_update_iff state.lookups fun _ phase => PhaseSound state.queries state.now phase).mpr
    ⟨fits, fun other _ => sound.phases other⟩

/-- A query of the table goes on record. -/
theorem Sound.remember {age : ℕ} (sound : Sound age state) {model : ModelIdentifier}
    (plain : ':' ∉ model.provider.toList) (found : Option Prices) :
    Sound age { state with queries := ⟨model, state.now, found⟩ :: state.queries } where
  plain := List.forall_mem_cons.mpr ⟨plain, sound.plain⟩
  past := List.forall_mem_cons.mpr ⟨Nat.le_refl _, sound.past⟩
  entries key entry present := by
    obtain ⟨query, member, known⟩ := sound.entries key entry present
    exact ⟨query, List.mem_cons_of_mem _ member, known⟩
  phases id := (sound.phases id).mono (List.subset_cons_self ..) (Nat.le_refl _)

@[simp] theorem now_write (ttlSeconds : ℕ) (state : State) (key value : String) :
    (state.write ttlSeconds key value).now = state.now := by
  unfold State.write
  split <;> rfl

/-- An answer of the table is written down, not too late. -/
theorem Sound.write (sound : Sound (maxAge ttlSeconds delay) state) {model : ModelIdentifier} {queriedAt : ℕ}
    {found : Option Prices} (known : ⟨model, queriedAt, found⟩ ∈ state.queries)
    (soon : state.now ≤ queriedAt + delay) :
    Sound (maxAge ttlSeconds delay) (state.write ttlSeconds (cacheKey model) (cacheValue found)) := by
  unfold State.write
  split
  · exact sound
  · refine ⟨sound.plain, sound.past, fun key entry present => ?_, sound.phases⟩
    by_cases same : key = cacheKey model
    · subst same
      have written : some ⟨cacheValue found, state.now + 10 ^ 6 * ttlSeconds⟩ = some entry := by
        simpa using present
      obtain rfl := Option.some.inj written
      refine ⟨⟨model, queriedAt, found⟩, known, rfl, rfl, ?_⟩
      simp only [maxAge]
      omega
    · exact sound.entries key entry (by simpa [same] using present)

/-- All that a step can do. -/
inductive Moves (floats : Floats) (ttlSeconds : ℕ) (state : State) : Label → State → Prop
  | hit (id : ℕ) (model : ModelIdentifier) (cached : String)
    (read : state.read (cacheKey model) = some cached) :
    Moves floats ttlSeconds state (.get id model true)
      (state.goto id (.returned model state.now (readEntry floats cached)))
  | missed (id : ℕ) (model : ModelIdentifier) (answered : Bool) :
    Moves floats ttlSeconds state (.get id model answered) (state.goto id (.loading model state.now))
  | queried (id : ℕ) (record : Option ModelPricingModel) (model : ModelIdentifier) (startedAt : ℕ)
    (phase : state.lookups id = .loading model startedAt)
    (active : PricingRepository.ActivePrice state.table model.provider model.model state.now record) :
    Moves floats ttlSeconds state (.query id record)
      ({ state with queries := ⟨model, state.now, record.map (pricesOf floats)⟩ :: state.queries }.goto id
        (.caching model startedAt state.now (.found (record.map (pricesOf floats)))))
  | failed (id : ℕ) (model : ModelIdentifier) (startedAt : ℕ)
    (phase : state.lookups id = .loading model startedAt) :
    Moves floats ttlSeconds state (.queryFails id) (state.goto id (.caching model startedAt state.now .failed))
  | unstored (id : ℕ) (model : ModelIdentifier) (startedAt queriedAt : ℕ) (loaded : Loaded)
    (phase : state.lookups id = .caching model startedAt queriedAt loaded) :
    Moves floats ttlSeconds state (.set id false) (state.goto id (.returned model startedAt loaded.pricing))
  | stored (id : ℕ) (model : ModelIdentifier) (startedAt queriedAt : ℕ) (loaded : Loaded)
    (phase : state.lookups id = .caching model startedAt queriedAt loaded) :
    Moves floats ttlSeconds state (.set id true)
      ((state.write ttlSeconds (cacheKey model) (cacheValue loaded.pricing)).goto id
        (.returned model startedAt loaded.pricing))
  | tick (elapsed : ℕ) : Moves floats ttlSeconds state (.tick elapsed) { state with now := state.now + elapsed }
  | evicted (key : String) :
    Moves floats ttlSeconds state (.evict key) { state with redis := Function.update state.redis key none }
  | changed (table : List ModelPricingModel) :
    Moves floats ttlSeconds state (.changeTable table) { state with table }

theorem moves_of_step {label : Label} (stepped : CostService.step floats ttlSeconds state label = some next) :
    Moves floats ttlSeconds state label next := by
  cases label with
  | get id model answered =>
    simp only [CostService.step] at stepped
    split at stepped
    · split at stepped
      · rename_i cached found
        obtain rfl := Option.some.inj stepped
        cases answered with
        | false => contradiction
        | true => exact .hit id model cached found
      · obtain rfl := Option.some.inj stepped
        exact .missed id model answered
    · contradiction
  | query id record =>
    simp only [CostService.step] at stepped
    split at stepped
    · rename_i model startedAt phase
      split at stepped
      · rename_i active
        obtain rfl := Option.some.inj stepped
        exact .queried id record model startedAt phase active
      · contradiction
    · contradiction
  | queryFails id =>
    simp only [CostService.step] at stepped
    split at stepped
    · rename_i model startedAt phase
      obtain rfl := Option.some.inj stepped
      exact .failed id model startedAt phase
    · contradiction
  | set id stored =>
    simp only [CostService.step] at stepped
    split at stepped
    · rename_i model startedAt queriedAt loaded phase
      obtain rfl := Option.some.inj stepped
      cases stored with
      | false => exact .unstored id model startedAt queriedAt loaded phase
      | true => exact .stored id model startedAt queriedAt loaded phase
    · contradiction
  | tick elapsed =>
    obtain rfl := Option.some.inj stepped
    exact .tick elapsed
  | evict key =>
    obtain rfl := Option.some.inj stepped
    exact .evicted key
  | changeTable table =>
    obtain rfl := Option.some.inj stepped
    exact .changed table

theorem Sound.step (sound : Sound (maxAge ttlSeconds delay) state) {label : Label}
    (answers : CachesAnswers delay state label)
    (stepped : CostService.step floats ttlSeconds state label = some next) :
    Sound (maxAge ttlSeconds delay) next := by
  cases moves_of_step stepped with
  | hit id model => exact sound.goto id (Nat.le_refl _)
  | missed id model => exact sound.goto id ⟨answers, Nat.le_refl _⟩
  | queried id record model startedAt phase active =>
    have known := sound.phases id
    rw [phase] at known
    refine (sound.remember known.1 _).goto id ⟨known.2, Nat.le_refl _, fun found same => ?_⟩
    obtain rfl := Loaded.found.inj same
    exact List.mem_cons_self ..
  | failed id model startedAt phase =>
    have known := sound.phases id
    rw [phase] at known
    exact sound.goto id ⟨known.2, Nat.le_refl _, nofun⟩
  | unstored id model startedAt queriedAt loaded phase =>
    have known := sound.phases id
    rw [phase] at known
    have started : startedAt ≤ state.now := known.1.trans known.2.1
    exact sound.goto id started
  | stored id model startedAt queriedAt loaded phase =>
    have known := sound.phases id
    rw [phase] at known
    have started : startedAt ≤ state.now := known.1.trans known.2.1
    obtain ⟨answered, soon⟩ := answers rfl (queriedAt, loaded) (by rw [phase]; rfl)
    cases loaded with
    | failed => contradiction
    | found found =>
      refine (sound.write (known.2.2 found rfl) soon).goto id ?_
      exact (now_write ..).symm ▸ started
  | tick elapsed =>
    have later : state.now ≤ state.now + elapsed := Nat.le_add_right ..
    exact ⟨sound.plain, fun query member => (sound.past query member).trans later, sound.entries,
      fun id => (sound.phases id).mono (List.Subset.refl _) later⟩
  | evicted key =>
    refine ⟨sound.plain, sound.past, fun other entry present => ?_, sound.phases⟩
    by_cases same : other = key
    · subst same
      simp at present
    · exact sound.entries other entry (by simpa [same] using present)
  | changed table => exact ⟨sound.plain, sound.past, sound.entries, sound.phases⟩

/-- What is read from the cache repeats a query, not longer than the allowed age ago. -/
theorem Sound.of_read {age : ℕ} (sound : Sound age state) {model : ModelIdentifier}
    (plain : ':' ∉ model.provider.toList) {cached : String} (read : state.read (cacheKey model) = some cached) :
    ∃ query ∈ state.queries, query.model = model ∧ cached = cacheValue query.found ∧
      query.time ≤ state.now ∧ state.now < query.time + age := by
  obtain ⟨entry, present, live⟩ := Option.bind_eq_some_iff.mp read
  split at live
  · rename_i alive
    obtain rfl := Option.some.inj live
    obtain ⟨query, member, key, value, deadline⟩ := sound.entries _ entry present
    exact ⟨query, member, cacheKey_injective (sound.plain query member) plain key, value,
      sound.past query member, alive.trans_le deadline⟩
  · contradiction

theorem Sound.sentinelJustified {age : ℕ} (sound : Sound age state) : SentinelJustified age state := by
  intro model plain read
  obtain ⟨query, member, same, value, past, live⟩ := sound.of_read plain read
  exact ⟨query, member, same, cacheValue_eq_sentinel_iff.mp value.symm, past, live.le⟩

/-- A lookup of the model that began longer than `age` after `since` has positive prices. -/
def PhaseFresh (floats : Floats) (model : ModelIdentifier) (since age : ℕ) : Phase → Prop
  | .caching other startedAt _ loaded =>
    other = model → since + age < startedAt → Positive floats loaded.pricing
  | .returned other startedAt pricing => other = model → since + age < startedAt → Positive floats pricing
  | _ => True

structure Fresh (floats : Floats) (model : ModelIdentifier) (since age : ℕ) (state : State) : Prop where
  queries : ∀ query ∈ state.queries, query.model = model → since < query.time → Positive floats query.found
  phases : ∀ id, PhaseFresh floats model since age (state.lookups id)

/-- Nothing has begun after now. -/
theorem Sound.fresh {age : ℕ} (sound : Sound age state) (floats : Floats) (model : ModelIdentifier) :
    Fresh floats model state.now age state := by
  constructor
  · intro query member _ later
    exact absurd (sound.past query member) (not_le.mpr later)
  · intro id
    have known := sound.phases id
    cases phase : state.lookups id with
    | idle => trivial
    | loading => trivial
    | caching other startedAt queriedAt loaded =>
      rw [phase] at known
      intro _ later
      have started : startedAt ≤ state.now := known.1.trans known.2.1
      omega
    | returned other startedAt pricing =>
      rw [phase] at known
      intro _ later
      have started : startedAt ≤ state.now := known
      omega

theorem Fresh.goto {model : ModelIdentifier} {since age : ℕ}
    (fresh : Fresh floats model since age state) (id : ℕ)
    {phase : Phase} (fits : PhaseFresh floats model since age phase) :
    Fresh floats model since age (state.goto id phase) := by
  refine ⟨fresh.queries, ?_⟩
  exact (Function.forall_update_iff state.lookups fun _ phase => PhaseFresh floats model since age phase).mpr
    ⟨fits, fun other _ => fresh.phases other⟩

theorem Fresh.write {model : ModelIdentifier} {since age : ℕ} (fresh : Fresh floats model since age state)
    (key value : String) : Fresh floats model since age (state.write ttlSeconds key value) := by
  unfold State.write
  split
  · exact fresh
  · exact ⟨fresh.queries, fresh.phases⟩

/-- While the table has prices for the model, new answers have them too. -/
theorem Fresh.step (reads : ReadsBack floats) {model : ModelIdentifier} {since : ℕ}
    (fresh : Fresh floats model since (maxAge ttlSeconds delay) state)
    (sound : Sound (maxAge ttlSeconds delay) state) {label : Label} (answers : CachesAnswers delay state label)
    (priced : PricedStep floats model state label)
    (stepped : CostService.step floats ttlSeconds state label = some next) :
    Fresh floats model since (maxAge ttlSeconds delay) next := by
  cases moves_of_step stepped with
  | hit id other cached read =>
    refine fresh.goto id fun same started => ?_
    subst same
    obtain ⟨query, member, same, rfl, -, live⟩ := sound.of_read answers read
    rw [readEntry_cacheValue reads]
    exact fresh.queries query member same (by omega)
  | missed id => exact fresh.goto id trivial
  | queried id record other startedAt phase active =>
    have positive (same : other = model) : Positive floats (record.map (pricesOf floats)) := by
      subst same
      exact priced.1 record active
    have remembered : Fresh floats model since (maxAge ttlSeconds delay)
        { state with queries := ⟨other, state.now, record.map (pricesOf floats)⟩ :: state.queries } :=
      ⟨List.forall_mem_cons.mpr ⟨fun same _ => positive same, fresh.queries⟩, fresh.phases⟩
    exact remembered.goto id fun same _ => positive same
  | failed id => exact absurd rfl (priced.2 id)
  | unstored id other startedAt queriedAt loaded phase =>
    have known := fresh.phases id
    rw [phase] at known
    exact fresh.goto id known
  | stored id other startedAt queriedAt loaded phase =>
    have known := fresh.phases id
    rw [phase] at known
    exact (fresh.write _ _).goto id known
  | tick | evicted | changed => exact ⟨fresh.queries, fresh.phases⟩

/-- A model that has had prices for longer than `age` is not free to whoever asks from then on, as long as
the database answers. -/
def NeverFree (floats : Floats) (ttlSeconds age : ℕ) (initial : State) (labels : List Label)
    (final : State) : Prop :=
  ∀ first second middle model, labels = first ++ second →
    run? (CostService.step floats ttlSeconds) initial first = some middle →
    Along (CostService.step floats ttlSeconds) (PricedStep floats model) middle second →
    ∀ id startedAt pricing, final.lookups id = .returned model startedAt pricing →
      middle.now + age < startedAt →
      ∀ usage : TokenUsage, 0 ≤ usage.inputTokens → 0 ≤ usage.outputTokens →
        0 < usage.inputTokens + usage.outputTokens → 0 < costUsd floats model pricing usage

theorem Positive.costUsd_pos {pricing : Option Prices} (positive : Positive floats pricing)
    (model : ModelIdentifier) {usage : TokenUsage} (input : 0 ≤ usage.inputTokens)
    (output : 0 ≤ usage.outputTokens)
    (used : 0 < usage.inputTokens + usage.outputTokens) : 0 < costUsd floats model pricing usage := by
  obtain ⟨prices, rfl, inputPrice, outputPrice⟩ := positive
  have inputCost : (0 : ℚ) ≤ usage.inputTokens / 1000 * floats.value prices.1 := by positivity
  have outputCost : (0 : ℚ) ≤ usage.outputTokens / 1000 * floats.value prices.2 := by positivity
  rcases input.lt_or_eq with some | none
  · have inputCost : (0 : ℚ) < usage.inputTokens / 1000 * floats.value prices.1 := by positivity
    exact add_pos_of_pos_of_nonneg inputCost outputCost
  · have some : 0 < usage.outputTokens := by omega
    have outputCost : (0 : ℚ) < usage.outputTokens / 1000 * floats.value prices.2 := by positivity
    exact add_pos_of_nonneg_of_pos inputCost outputCost

/-- If what is cached are answers of the table, a sentinel stands for one, and prices are noticed in time. -/
theorem run_sentinelJustified (reads : ReadsBack floats) (table : List ModelPricingModel) {labels : List Label}
    {final : State} (ran : run? (CostService.step floats ttlSeconds) { table } labels = some final)
    (answers : Along (CostService.step floats ttlSeconds) (CachesAnswers delay) { table } labels) :
    SentinelJustified (maxAge ttlSeconds delay) final ∧
      NeverFree floats ttlSeconds (maxAge ttlSeconds delay) { table } labels final := by
  have kept (state label next) (sound : Sound (maxAge ttlSeconds delay) state)
      (answers : CachesAnswers delay state label)
      (stepped : CostService.step floats ttlSeconds state label = some next) :
      Sound (maxAge ttlSeconds delay) next := sound.step answers stepped
  constructor
  · have sound : Sound (maxAge ttlSeconds delay) final :=
      run_invariant (CachesAnswers delay) _ kept (sound_initial _ table) answers ran
    exact sound.sentinelJustified
  · rintro first second middle model rfl before priced id startedAt pricing returned late usage input output used
    obtain ⟨other, same, after⟩ := run?_append_iff.mp ran
    obtain rfl := Option.some.inj (before.symm.trans same)
    have sound : Sound (maxAge ttlSeconds delay) middle :=
      run_invariant (CachesAnswers delay) _ kept (sound_initial _ table) answers.append_left before
    have fresh := run_invariant
      (fun state label => CachesAnswers delay state label ∧ PricedStep floats model state label)
      (fun state => Sound (maxAge ttlSeconds delay) state ∧
        Fresh floats model middle.now (maxAge ttlSeconds delay) state)
      (fun state label next ⟨sound, fresh⟩ ⟨answers, priced⟩ stepped =>
        ⟨sound.step answers stepped, fresh.step reads sound answers priced stepped⟩)
      ⟨sound, sound.fresh floats model⟩ ((answers.append_right before).and priced) after
    have known := fresh.2.phases id
    rw [returned] at known
    exact (known rfl late).costUsd_pos model input output used

/-- Floats that are only used for one dollar and for nothing. -/
def sampleFloats : Floats where
  ofDecimal price := if 0 < price then { text := "1.0" } else { text := "0.0" }
  parse text :=
    if digits : ∀ c ∈ text.toList, c ∈ "0123456789+-.einfa".toList then some ⟨text, digits⟩ else none
  value float := if float.text = "1.0" then 1 else 0

theorem sampleFloats_readsBack : ReadsBack sampleFloats := fun float => dif_pos float.digits

def sampleModel : ModelIdentifier := ⟨"openai", "gpt-4o"⟩

def samplePrice : ModelPricingModel where
  provider := "openai"
  modelName := "gpt-4o"
  inputPricePer1k := 1
  outputPricePer1k := 1
  effectiveFrom := 0

/-- The model is looked up before it has a price, and again after the entry has expired. -/
def pricedLater : List Label :=
  [.get 0 sampleModel true, .query 0 none, .set 0 true, .changeTable [samplePrice], .tick (301 * 10 ^ 6),
    .get 1 sampleModel true, .query 1 (some samplePrice), .set 1 true]

theorem run_pricedLater : ∃ final,
    run? (CostService.step sampleFloats 300) { table := [] } pricedLater = some final ∧
      SentinelJustified (maxAge 300 0) final ∧
      NeverFree sampleFloats 300 (maxAge 300 0) { table := [] } pricedLater final := by
  have isSome : (run? (CostService.step sampleFloats 300) { table := [] } pricedLater).isSome = true := by
    decide +kernel
  obtain ⟨final, ran⟩ := Option.isSome_iff_exists.mp isSome
  have answers : Along (CostService.step sampleFloats 300) (CachesAnswers 0) { table := [] } pricedLater := by
    decide +kernel
  exact ⟨final, ran, run_sentinelJustified sampleFloats_readsBack [] ran answers⟩

/-- The query fails, and the model is looked up again once the database is back. -/
def outage : List Label :=
  [.get 0 sampleModel true, .queryFails 0, .set 0 true, .tick (10 ^ 6), .get 1 sampleModel true]

/-- The priced model is taken to be free, though no query ever said so. -/
theorem run_outage : ∃ final,
    run? (CostService.step sampleFloats 300) { table := [samplePrice] } outage = some final ∧
      (∀ age, ¬ SentinelJustified age final) ∧
      ∃ startedAt pricing, final.lookups 1 = .returned sampleModel startedAt pricing ∧
        costUsd sampleFloats sampleModel pricing ⟨1000, 1000⟩ = 0 := by
  have states : (run? (CostService.step sampleFloats 300) { table := [samplePrice] } outage).map
      (fun final => (final.read (cacheKey sampleModel), final.queries.length, final.lookups 1)) =
        some (some noPriceSentinel, 0, .returned sampleModel (10 ^ 6) none) := by
    decide +kernel
  obtain ⟨final, ran, state⟩ := Option.map_eq_some_iff.mp states
  obtain ⟨cached, state⟩ := Prod.mk.inj state
  obtain ⟨queries, returned⟩ := Prod.mk.inj state
  refine ⟨final, ran, fun age justified => ?_, _, _, returned, rfl⟩
  obtain ⟨query, member, -⟩ := justified sampleModel (by decide) cached
  rw [List.length_eq_zero_iff.mp queries] at member
  contradiction

end LlmopsGateway.CostService
