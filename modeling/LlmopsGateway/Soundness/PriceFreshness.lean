import LlmopsGateway.Machine.Staleness
import LlmopsGateway.Soundness.PriceSentinel

/-! # How old a charged price may be

A price a lookup returns was the active one at some moment of the run: of its own query, or of the query behind
the cache entry it found. The entry outlives its query by the lifetime of entries and the time it took to write
it. Queries and Redis commands may fail at will; what a failed query leaves behind is no price.
-/

namespace LlmopsGateway.CostService

open Machine

variable {floats : Floats} {ttlSeconds delay : ℕ} {initial state next : State} {labels : List Label}

/-- The prices are those of the row that is active for the model. -/
def ActiveAs (floats : Floats) (model : ModelIdentifier) (prices : Prices) (state : State) : Prop :=
  ∃ record, PricingRepository.ActivePrice state.table model.provider model.model state.now (some record) ∧
    pricesOf floats record = prices

/-- What is written to the cache was queried at most `delay` before. Provider names have no colon. -/
def PromptWrites (delay : ℕ) (state : State) : Label → Prop
  | .get _ model _ => ':' ∉ model.provider.toList
  | .set id stored => stored = true → ∀ cached ∈ (state.lookups id).cached?, state.now ≤ cached.1 + delay
  | _ => True

instance (delay : ℕ) (state : State) (label : Label) : Decidable (PromptWrites delay state label) :=
  match label with
  | .get _ model _ => inferInstanceAs (Decidable (':' ∉ model.provider.toList))
  | .set id stored => inferInstanceAs (Decidable (stored = true → ∀ cached ∈ (state.lookups id).cached?,
      state.now ≤ cached.1 + delay))
  | .query .. | .queryFails _ | .tick _ | .evict _ | .changeTable _ => isTrue trivial

/-- At this time of the run the prices were active. -/
def WasActive (floats : Floats) (ttlSeconds : ℕ) (initial : State) (labels : List Label)
    (model : ModelIdentifier)
    (prices : Prices) (time : ℕ) : Prop :=
  Once (step floats ttlSeconds) initial labels fun state =>
    state.now = time ∧ ActiveAs floats model prices state

/-- The prices an entry has, if it has any, were active for the model of its key. -/
def Repeats (floats : Floats) (ttlSeconds : ℕ) (initial : State) (labels : List Label) (key : String)
    (entry : Entry) (time : ℕ) : Prop :=
  ∀ prices, readEntry floats entry.value = some prices → ∃ model : ModelIdentifier,
    ':' ∉ model.provider.toList ∧ cacheKey model = key ∧
      WasActive floats ttlSeconds initial labels model prices time

/-- A lookup knows prices only from a time when they were active. -/
def PhaseBacked (floats : Floats) (ttlSeconds age : ℕ) (initial : State) (labels : List Label) (now : ℕ) :
    Phase → Prop
  | .idle => True
  | .loading model startedAt => ':' ∉ model.provider.toList ∧ startedAt ≤ now
  | .caching model startedAt queriedAt loaded =>
    ':' ∉ model.provider.toList ∧ startedAt ≤ queriedAt ∧ queriedAt ≤ now ∧
      ∀ prices, loaded.pricing = some prices → WasActive floats ttlSeconds initial labels model prices queriedAt
  | .returned model startedAt pricing => ∀ prices, pricing = some prices →
      ∃ time, startedAt ≤ time + age ∧ WasActive floats ttlSeconds initial labels model prices time

structure PricesBacked (floats : Floats) (ttlSeconds age : ℕ) (initial : State) (labels : List Label)
    (state : State) : Prop where
  entries : Backed Entry.deadline (Repeats floats ttlSeconds initial labels) age state.redis
  phases : ∀ id, PhaseBacked floats ttlSeconds age initial labels state.now (state.lookups id)

section keeping

variable {age : ℕ} {more : List Label}

theorem WasActive.later {model : ModelIdentifier} {prices : Prices} {time : ℕ}
    (was : WasActive floats ttlSeconds initial labels model prices time) (more : List Label) :
    WasActive floats ttlSeconds initial (labels ++ more) model prices time :=
  Once.later was more

theorem PhaseBacked.later {now later : ℕ} {phase : Phase} (ordered : now ≤ later)
    (backed : PhaseBacked floats ttlSeconds age initial labels now phase) (more : List Label) :
    PhaseBacked floats ttlSeconds age initial (labels ++ more) later phase := by
  cases phase with
  | idle => trivial
  | loading model startedAt => exact ⟨backed.1, backed.2.trans ordered⟩
  | caching model startedAt queriedAt loaded =>
    obtain ⟨plain, started, past, was⟩ := backed
    exact ⟨plain, started, past.trans ordered, fun prices known => (was prices known).later more⟩
  | returned model startedAt pricing =>
    intro prices known
    obtain ⟨time, recent, was⟩ := backed prices known
    exact ⟨time, recent, was.later more⟩

/-- More labels and later times change nothing. -/
theorem PricesBacked.later (backed : PricesBacked floats ttlSeconds age initial labels state) (label : Label) :
    PricesBacked floats ttlSeconds age initial (labels ++ [label]) state := by
  refine ⟨backed.entries.imp ?_, fun id => (backed.phases id).later le_rfl [label]⟩
  intro key entry time repeated prices known
  obtain ⟨model, plain, same, was⟩ := repeated prices known
  exact ⟨model, plain, same, was.later [label]⟩

theorem PricesBacked.goto (backed : PricesBacked floats ttlSeconds age initial labels state) (id : ℕ)
    {phase : Phase}
    (fits : PhaseBacked floats ttlSeconds age initial labels state.now phase) :
    PricesBacked floats ttlSeconds age initial labels (state.goto id phase) := by
  refine ⟨backed.entries, ?_⟩
  exact (Function.forall_update_iff state.lookups fun _ phase =>
    PhaseBacked floats ttlSeconds age initial labels state.now phase).mpr ⟨fits, fun other _ =>
      backed.phases other⟩

/-- A lookup writes down what it has found. -/
theorem PricesBacked.write (reads : ReadsBack floats)
    (backed : PricesBacked floats ttlSeconds (maxAge ttlSeconds delay) initial labels state)
    {model : ModelIdentifier} {startedAt queriedAt : ℕ} {loaded : Loaded}
    (known : PhaseBacked floats ttlSeconds (maxAge ttlSeconds delay) initial labels state.now
      (.caching model startedAt queriedAt loaded))
    (soon : state.now ≤ queriedAt + delay) :
    PricesBacked floats ttlSeconds (maxAge ttlSeconds delay) initial labels
      (state.write ttlSeconds (cacheKey model) (cacheValue loaded.pricing)) := by
  obtain ⟨plain, -, -, was⟩ := known
  unfold State.write
  split
  · exact backed
  · refine ⟨backed.entries.put queriedAt ?_ ?_, backed.phases⟩
    · intro prices known
      rw [readEntry_cacheValue reads] at known
      exact ⟨model, plain, rfl, was prices known⟩
    · simp only [maxAge]
      omega

theorem PricesBacked.step (reads : ReadsBack floats)
    (ran : run? (CostService.step floats ttlSeconds) initial labels = some state)
    (backed : PricesBacked floats ttlSeconds (maxAge ttlSeconds delay) initial labels state) {label : Label}
    (prompt : PromptWrites delay state label)
    (stepped : CostService.step floats ttlSeconds state label = some next) :
    PricesBacked floats ttlSeconds (maxAge ttlSeconds delay) initial (labels ++ [label]) next := by
  have before := backed.later label
  cases moves_of_step stepped with
  | hit id model cached read =>
    refine before.goto id fun prices known => ?_
    obtain ⟨entry, present, live⟩ := Option.bind_eq_some_iff.mp read
    split at live
    · next alive =>
      obtain rfl := Option.some.inj live
      obtain ⟨time, repeated, recent⟩ := before.entries.read present alive
      obtain ⟨other, plain, same, was⟩ := repeated prices known
      obtain rfl := cacheKey_injective plain prompt same
      exact ⟨time, recent.le, was⟩
    · cases live
  | missed id model answered => exact before.goto id ⟨prompt, le_rfl⟩
  | queried id record model startedAt phase active =>
    have known := backed.phases id
    rw [phase] at known
    have here (prices : Prices) (found : record.map (pricesOf floats) = some prices) :
        WasActive floats ttlSeconds initial (labels ++ [.query id record]) model prices state.now := by
      obtain ⟨row, rfl, rfl⟩ := Option.map_eq_some_iff.mp found
      exact (once_now ran ⟨rfl, row, active, rfl⟩).later _
    have remembered : PricesBacked floats ttlSeconds (maxAge ttlSeconds delay) initial (labels ++
      [.query id record])
        { state with queries := ⟨model, state.now, record.map (pricesOf floats)⟩ :: state.queries } :=
      ⟨before.entries, before.phases⟩
    exact remembered.goto id ⟨known.1, known.2, le_rfl, here⟩
  | failed id model startedAt phase =>
    have known := backed.phases id
    rw [phase] at known
    refine before.goto id ⟨known.1, known.2, le_rfl, fun prices nothing => ?_⟩
    cases nothing
  | unstored id model startedAt queriedAt loaded phase =>
    have known := before.phases id
    rw [phase] at known
    obtain ⟨-, started, -, was⟩ := known
    exact before.goto id fun prices known => ⟨queriedAt, by omega, was prices known⟩
  | stored id model startedAt queriedAt loaded phase =>
    have known := before.phases id
    rw [phase] at known
    have soon : state.now ≤ queriedAt + delay := prompt rfl (queriedAt, loaded) (by rw [phase]; rfl)
    have started : startedAt ≤ queriedAt := known.2.1
    refine (before.write reads known soon).goto id fun prices found => ?_
    exact ⟨queriedAt, by omega, known.2.2.2 prices found⟩
  | tick elapsed => exact ⟨before.entries, fun id => (backed.phases id).later (Nat.le_add_right ..) _⟩
  | evicted key => exact ⟨before.entries.forget key, before.phases⟩
  | changed table => exact ⟨before.entries, before.phases⟩

end keeping

/-- Whatever happens to the table, to Redis and to the queries: a price a lookup returns was the active one at a
moment no longer than the lifetime of entries and the delay of their writes before the lookup began. -/
theorem charged_price_fresh (reads : ReadsBack floats) (table : List ModelPricingModel) {final : State}
    (ran : run? (step floats ttlSeconds) { table } labels = some final)
    (prompt : Along (step floats ttlSeconds) (PromptWrites delay) { table } labels) {id startedAt : ℕ}
    {model : ModelIdentifier} {prices : Prices}
    (returned : final.lookups id = .returned model startedAt (some prices)) :
    Once (step floats ttlSeconds) { table } labels fun state =>
      startedAt ≤ state.now + maxAge ttlSeconds delay ∧ ActiveAs floats model prices state := by
  have backed := run_history (PromptWrites delay)
    (fun labels => PricesBacked floats ttlSeconds (maxAge ttlSeconds delay) { table } labels)
    (fun _ _ _ _ ran backed prompt stepped => backed.step reads ran prompt stepped)
    ⟨Backed.empty, fun _ => trivial⟩ prompt ran
  have known := backed.phases id
  rw [returned] at known
  obtain ⟨time, recent, was⟩ := known prices rfl
  exact was.imp fun state ⟨now, active⟩ => ⟨now ▸ recent, active⟩

/-- A price is looked up and cached, the table changes, and the next lookup still finds the price. -/
def priceChanged : List Label :=
  [.get 0 sampleModel true, .query 0 (some samplePrice), .set 0 true, .changeTable [], .tick (10 ^ 6),
    .get 1 sampleModel true]

theorem charged_price_fresh_priceChanged : ∃ final prices,
    run? (step sampleFloats 300) { table := [samplePrice] } priceChanged = some final ∧
      final.lookups 1 = .returned sampleModel (10 ^ 6) (some prices) ∧
      Once (step sampleFloats 300) { table := [samplePrice] } priceChanged fun state =>
        10 ^ 6 ≤ state.now + maxAge 300 0 ∧ ActiveAs sampleFloats sampleModel prices state := by
  have last : (run? (step sampleFloats 300) { table := [samplePrice] } priceChanged).map (fun final =>
    final.lookups 1) =
      some (.returned sampleModel (10 ^ 6) (some (pricesOf sampleFloats samplePrice))) := by
    decide +kernel
  obtain ⟨final, ran, returned⟩ := Option.map_eq_some_iff.mp last
  have prompt : Along (step sampleFloats 300) (PromptWrites 0) { table := [samplePrice] } priceChanged := by
    decide +kernel
  exact ⟨final, _, ran, returned, charged_price_fresh sampleFloats_readsBack _ ran prompt returned⟩

end LlmopsGateway.CostService
