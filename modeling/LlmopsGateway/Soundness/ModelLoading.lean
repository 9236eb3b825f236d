import LlmopsGateway.Model.LocalEmbedding

/-! # The embedding model is loaded once

The loads of `LocalEmbeddingProvider` are those of a cell that is filled once. So one thread at most loads for a
call that waits for it, a load is repeated only after one that failed or was given up, and after a call has
returned, as `warm_up` has before a cache is built, the model and its dimension stay what they are. `dimension`
is at any time what the caches are modelled with.
-/

namespace LlmopsGateway.LocalEmbeddingProvider

open Machine

variable {ι : Type} [DecidableEq ι] (transformer : String → SentenceTransformer) (modelName : String)

theorem load_step (state : State ι) (label : Label ι) :
    OnceCell.step state.load (label.toOnce transformer modelName) =
      (step transformer modelName state label).map State.load := by
  rw [step, Option.map_map]
  cases stepped : OnceCell.step state.load (label.toOnce transformer modelName) with
  | none => rfl
  | some load => cases label <;> rfl

variable {transformer} {modelName} {state next final middle : State ι} {label : Label ι}
    {labels : List (Label ι)}

theorem load_run (ran : run? (step transformer modelName) state labels = some final) :
    run? OnceCell.step state.load (labels.map (Label.toOnce transformer modelName)) = some final.load := by
  rw [run?_view (load_step transformer modelName), ran]
  rfl

theorem total_loads (state : State ι) (labels : List (Label ι)) :
    total (step transformer modelName) (loads transformer modelName) state labels =
      total OnceCell.step OnceCell.beginning state.load (labels.map (Label.toOnce transformer modelName)) :=
  total_view (load_step transformer modelName) OnceCell.beginning state labels

theorem total_lost (state : State ι) (labels : List (Label ι)) :
    total (step transformer modelName) (lost transformer modelName) state labels =
      total OnceCell.step OnceCell.lost state.load (labels.map (Label.toOnce transformer modelName)) :=
  total_view (load_step transformer modelName) OnceCell.lost state labels

/-- The provider as the caches see it: its dimension is that of the loaded model, or the known one. -/
structure Agrees (transformer : String → SentenceTransformer) (modelName : String)
    (state : State ι) : Prop where
  model : ∀ model, state.load.cell = some model → model = transformer modelName
  dimension : state.dimension =
    (EmbeddingProvider.localProvider modelName).dimension transformer state.load.cell.isSome

omit [DecidableEq ι] in
theorem agrees_initial : Agrees transformer modelName (initial modelName : State ι) where
  model _ loaded := nomatch loaded
  dimension := rfl

theorem Agrees.step (agrees : Agrees transformer modelName state)
    (stepped : step transformer modelName state label = some next) : Agrees transformer modelName next := by
  obtain ⟨load, loaded, rfl⟩ := Option.map_eq_some_iff.mp stepped
  cases label with
  | loaded call =>
    cases OnceCell.advance loaded with
    | fills caller value running =>
      exact ⟨fun model same => (Option.some.inj same).symm, rfl⟩
  | _ =>
    have cell : load.cell = state.load.cell := by
      cases OnceCell.advance loaded <;> rfl
    exact ⟨fun model same => agrees.model model (cell.symm.trans same), by rw [cell]; exact agrees.dimension⟩

/-- What is known of the provider at any time. -/
theorem known_of_run (ran : run? (step transformer modelName) (initial modelName) labels = some final) :
    OnceCell.Sound final.load ∧ Agrees transformer modelName final :=
  ⟨OnceCell.sound_of_run (load_run ran),
    reachable_invariant (Agrees transformer modelName) (fun _ _ _ agrees stepped => agrees.step stepped)
      agrees_initial ran⟩

/-- After a call has returned. -/
structure Warm (transformer : String → SentenceTransformer) (modelName : String) (state : State ι) : Prop where
  model : state.load.cell = some (transformer modelName)
  dimension : state.dimension = (transformer modelName).dimension
  vectors : ∀ text, ((transformer modelName).encode text).length = state.dimension

omit [DecidableEq ι] in
theorem Agrees.warm (agrees : Agrees transformer modelName state) (full : state.load.cell ≠ none) :
    Warm transformer modelName state := by
  obtain ⟨model, cell⟩ := Option.ne_none_iff_exists'.mp full
  obtain rfl := agrees.model model cell
  have dimension := agrees.dimension
  rw [cell] at dimension
  exact ⟨cell, dimension, fun text => ((transformer modelName).length_encode text).trans dimension.symm⟩

/-- One load at a time, and no more loads than those that were lost and one. Once a call has returned nothing is
loaded any more, and the model and its dimension are final. -/
theorem loaded_once (ran : run? (step transformer modelName) (initial modelName) labels = some final) :
    total (step transformer modelName) (loads transformer modelName) (initial modelName) labels ≤
        1 + total (step transformer modelName) (lost transformer modelName) (initial modelName) labels ∧
      (∀ first second, final.load.call first = .running → final.load.call second = .running → first = second) ∧
      final.dimension =
        (EmbeddingProvider.localProvider modelName).dimension transformer final.load.cell.isSome ∧
      ∀ front back middle call, labels = front ++ back →
        run? (step transformer modelName) (initial modelName) front = some middle →
        middle.load.call call = .returned →
          Warm transformer modelName middle ∧ Warm transformer modelName final ∧
            total (step transformer modelName) (loads transformer modelName) middle back = 0 := by
  obtain ⟨sound, agrees⟩ := known_of_run ran
  refine ⟨?_, fun first second one other => ?_, agrees.dimension, ?_⟩
  · rw [total_loads, total_lost]
    exact OnceCell.beginnings_le (load_run ran)
  · have holder := ((sound.locked first).mpr one).symm.trans ((sound.locked second).mpr other)
    exact Option.some.inj holder
  · rintro front back middle call rfl before returned
    obtain ⟨soundBefore, agreesBefore⟩ := known_of_run before
    have full := soundBefore.served call returned
    obtain ⟨_, same, later⟩ := run?_append_iff.mp ran
    obtain rfl := Option.some.inj (before.symm.trans same)
    have kept := soundBefore.cell_of_run full (load_run later)
    refine ⟨agreesBefore.warm full, agrees.warm (kept ▸ full), ?_⟩
    rw [total_loads]
    exact soundBefore.beginnings_eq_zero full _

section sample

/-- An embedding times out while it loads the model and another one while it waits; one call loads it again and
another finds it. -/
def coldStart : List (Label ℕ) :=
  [.ensure 0, .acquire 0, .ensure 1, .ensure 2, .ensure 3, .cancel 3, .cancel 0, .acquire 2, .loaded 2,
    .acquire 1]

def oneNumber : String → SentenceTransformer := fun _ => ⟨1, fun _ => [0], fun _ => rfl⟩

theorem loaded_once_coldStart : ∃ final,
    run? (step oneNumber "unlisted") (initial "unlisted" : State ℕ) coldStart = some final ∧
      total (step oneNumber "unlisted") (loads oneNumber "unlisted") (initial "unlisted") coldStart = 2 ∧
      total (step oneNumber "unlisted") (lost oneNumber "unlisted") (initial "unlisted") coldStart = 1 ∧
      (initial "unlisted" : State ℕ).dimension = 384 ∧ final.dimension = 1 ∧
        Warm oneNumber "unlisted" final := by
  obtain ⟨final, ran, returned⟩ : ∃ final,
      run? (step oneNumber "unlisted") (initial "unlisted" : State ℕ) coldStart = some final ∧
        final.load.call 1 = .returned := ⟨_, rfl, rfl⟩
  obtain ⟨-, -, -, warm⟩ := loaded_once ran
  obtain ⟨-, warm, -⟩ := warm coldStart [] final 1 (List.append_nil _).symm ran returned
  exact ⟨final, ran, rfl, rfl, rfl, warm.dimension, warm⟩

end sample

end LlmopsGateway.LocalEmbeddingProvider
