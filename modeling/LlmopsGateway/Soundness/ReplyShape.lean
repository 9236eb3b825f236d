import LlmopsGateway.Model.Upstream

/-! # The replies an adapter can take apart

For each adapter the shape of the JSON bodies it turns into a response. On every other body one
of its subscripts, `get`s or validations raises an exception of its own. The operations on decoded
values are first characterised by the values they succeed on.
-/

namespace LlmopsGateway

theorem bind_eq_ok_iff {ε α β : Type} {first : Except ε α} {next : α → Except ε β} {result : β} :
    (first >>= next) = .ok result ↔ ∃ value, first = .ok value ∧ next value = .ok result := by
  cases first with
  | error error => exact iff_of_false nofun nofun
  | ok value => exact ⟨fun ran => ⟨value, rfl, ran⟩, fun ⟨_, same, ran⟩ => by cases same; exact ran⟩

theorem exists_bind_ok_iff {ε α β : Type} {first : Except ε α} {next : α → Except ε β} :
    (∃ result, (first >>= next) = .ok result) ↔
      ∃ value, first = .ok value ∧ ∃ result, next value = .ok result := by
  simp only [bind_eq_ok_iff]
  exact ⟨fun ⟨result, value, got, ran⟩ => ⟨value, got, result, ran⟩,
    fun ⟨value, got, result, ran⟩ => ⟨result, value, got, ran⟩⟩

namespace Json

theorem getItem_eq_ok_iff {value found : Json} {key : String} :
    value.getItem key = .ok found ↔ ∃ fields, value = obj fields ∧ field? fields key = some found := by
  cases value with
  | obj fields =>
    unfold getItem
    cases lookup : field? fields key <;> simp [lookup]
  | _ => simp [getItem]

theorem getD_eq_ok_iff {value default found : Json} {key : String} :
    value.getD key default = .ok found ↔
      ∃ fields, value = obj fields ∧ (field? fields key).getD default = found := by
  cases value <;> simp [getD]

/-- Only of an array is the first item an object. -/
theorem first_eq_ok_obj_iff {value : Json} {fields : List (String × Json)} :
    value.first = .ok (obj fields) ↔ ∃ rest, value = arr (obj fields :: rest) := by
  constructor
  · intro first
    cases value with
    | arr items =>
      cases items with
      | nil => exact nomatch first
      | cons head rest =>
        obtain rfl := Except.ok.inj first
        exact ⟨rest, rfl⟩
    | str text =>
      simp only [Json.first] at first
      split at first <;> cases first
    | _ => exact nomatch first
  · rintro ⟨rest, rfl⟩
    rfl

def IsText (value : Json) : Prop := ∃ text, value = str text

theorem text?_isSome_iff {value : Json} : (∃ text, value.text? = some text) ↔ value.IsText := by
  cases value <;> simp [text?, IsText]

/-- The key is absent, or its value has the shape. -/
def AbsentOr (shape : Json → Prop) (fields : List (String × Json)) (key : String) : Prop :=
  ∀ value, field? fields key = some value → shape value

/-- `get` with a default of the shape. -/
theorem absentOr_iff {shape : Json → Prop} {fields : List (String × Json)} {key : String}
    {default : Json} (defaulted : shape default) :
    shape ((field? fields key).getD default) ↔ AbsentOr shape fields key := by
  unfold AbsentOr
  cases field? fields key <;> simp [defaulted]

theorem orElse_isText_iff {value : Json} :
    (value.orElse (str "")).IsText ↔ (value.truthy = true → value.IsText) := by
  unfold orElse
  split
  · rename_i truthy
    exact ⟨fun text _ => text, fun text => text truthy⟩
  · rename_i falsy
    exact iff_of_true ⟨"", rfl⟩ fun truthy => absurd truthy falsy

theorem join_ok_iff {items : List Json} : (∃ text, join items = .ok text) ↔ ∀ item ∈ items, item.IsText := by
  induction items with
  | nil => exact iff_of_true ⟨"", rfl⟩ nofun
  | cons item rest ih =>
    rw [List.forall_mem_cons, ← ih]
    cases item with
    | str text =>
      simp only [join]
      cases join rest <;> simp [IsText]
    | _ => simp [join, IsText]

end Json

open Json

namespace AdapterContext

variable (context : AdapterContext)

/-- A value pydantic takes for a token count. -/
def IsCount (value : Json) : Prop := ∃ count, context.intField value = some count

/-- A `usage` block that is falsy, or an object whose counts are counts where they are present. -/
def CountsShaped (inputKey outputKey : String) (usage : Json) : Prop :=
  usage.truthy = true → ∃ counts, usage = .obj counts ∧
    AbsentOr context.IsCount counts inputKey ∧ AbsentOr context.IsCount counts outputKey

theorem tokenUsage_ok_iff {inputTokens outputTokens : Json} :
    (∃ usage, context.tokenUsage inputTokens outputTokens = .ok usage) ↔
      context.IsCount inputTokens ∧ context.IsCount outputTokens := by
  unfold tokenUsage IsCount
  cases context.intField inputTokens <;> cases context.intField outputTokens <;> simp

theorem chatResponse_ok_iff {id model content : Json} {provider : String} {usage : TokenUsage} :
    (∃ response, context.chatResponse id model provider content usage = .ok response) ↔
      content.IsText ∧ id.IsText ∧ model.IsText := by
  unfold chatResponse
  rw [← text?_isSome_iff, ← text?_isSome_iff, ← text?_isSome_iff]
  cases content.text? <;> cases id.text? <;> cases model.text? <;> simp

theorem isCount_zero : context.IsCount (.int 0) := ⟨0, context.intField_int 0⟩

theorem counts_ok_iff {usage : Json} {inputKey outputKey : String} :
    (∃ inputTokens, (usage.orElse (.obj [])).getD inputKey (.int 0) = .ok inputTokens ∧
      ∃ outputTokens, (usage.orElse (.obj [])).getD outputKey (.int 0) = .ok outputTokens ∧
        context.IsCount inputTokens ∧ context.IsCount outputTokens) ↔
      context.CountsShaped inputKey outputKey usage := by
  unfold CountsShaped orElse
  split
  · rename_i truthy
    constructor
    · rintro ⟨input, gotInput, output, gotOutput, isInput, isOutput⟩ -
      obtain ⟨counts, rfl, rfl⟩ := getD_eq_ok_iff.mp gotInput
      obtain rfl := Except.ok.inj gotOutput
      exact ⟨counts, rfl, (absentOr_iff context.isCount_zero).mp isInput,
        (absentOr_iff context.isCount_zero).mp isOutput⟩
    · intro shaped
      obtain ⟨counts, rfl, isInput, isOutput⟩ := shaped truthy
      exact ⟨_, rfl, _, rfl, (absentOr_iff context.isCount_zero).mpr isInput,
        (absentOr_iff context.isCount_zero).mpr isOutput⟩
  · rename_i falsy
    exact iff_of_true ⟨_, rfl, _, rfl, context.isCount_zero, context.isCount_zero⟩
      fun truthy => absurd truthy falsy

/-- The usage of a body can be read exactly when the block has the shape, or is absent. -/
theorem usageOf_ok_iff {fields : List (String × Json)} {inputKey outputKey : String} :
    (∃ usage, context.usageOf (.obj fields) inputKey outputKey = .ok usage) ↔
      AbsentOr (context.CountsShaped inputKey outputKey) fields "usage" := by
  have absent : context.CountsShaped inputKey outputKey .null := nofun
  rw [← absentOr_iff absent, ← counts_ok_iff]
  unfold usageOf
  simp only [exists_bind_ok_iff, tokenUsage_ok_iff]
  constructor
  · rintro ⟨usage, got, read⟩
    obtain rfl := Except.ok.inj got
    exact read
  · intro read
    exact ⟨_, rfl, read⟩

end AdapterContext

namespace OpenAIProvider

/-- An object whose first choice has a message with a content, a string if it is truthy; whose usage
block has the shape; and whose id and model are strings where they are present. -/
structure WellShaped (context : AdapterContext) (fields : List (String × Json)) : Prop where
  choice : ∃ item rest message content, Json.field? fields "choices" = some (.arr (.obj item :: rest)) ∧
    Json.field? item "message" = some (.obj message) ∧ Json.field? message "content" = some content ∧
    (content.truthy = true → content.IsText)
  usage : AbsentOr (context.CountsShaped "prompt_tokens" "completion_tokens") fields "usage"
  id : AbsentOr IsText fields "id"
  model : AbsentOr IsText fields "model"

variable {context : AdapterContext} {request : ChatRequest}

theorem decode_ok_iff {data : Json} :
    (∃ response, decode context request data = .ok response) ↔
      ∃ fields, data = .obj fields ∧ WellShaped context fields := by
  unfold decode
  simp only [exists_bind_ok_iff, AdapterContext.chatResponse_ok_iff, orElse_isText_iff]
  constructor
  · rintro ⟨choices, gotChoices, item, first, usage, gotUsage, id, gotId, model, gotModel, message,
      gotMessage, content, gotContent, isText, isId, isModel⟩
    obtain ⟨fields, rfl, foundChoices⟩ := getItem_eq_ok_iff.mp gotChoices
    obtain ⟨itemFields, rfl, foundMessage⟩ := getItem_eq_ok_iff.mp gotMessage
    obtain ⟨messageFields, rfl, foundContent⟩ := getItem_eq_ok_iff.mp gotContent
    obtain ⟨rest, rfl⟩ := first_eq_ok_obj_iff.mp first
    obtain rfl := Except.ok.inj gotId
    obtain rfl := Except.ok.inj gotModel
    exact ⟨fields, rfl,
      { choice := ⟨itemFields, rest, messageFields, content, foundChoices, foundMessage, foundContent, isText⟩
        usage := context.usageOf_ok_iff.mp ⟨usage, gotUsage⟩
        id := (absentOr_iff ⟨_, rfl⟩).mp isId
        model := (absentOr_iff ⟨_, rfl⟩).mp isModel }⟩
  · rintro ⟨fields, rfl, shaped⟩
    obtain ⟨item, rest, message, content, foundChoices, foundMessage, foundContent, isText⟩ := shaped.choice
    obtain ⟨usage, gotUsage⟩ := context.usageOf_ok_iff.mpr shaped.usage
    exact ⟨_, getItem_eq_ok_iff.mpr ⟨fields, rfl, foundChoices⟩, _, rfl, usage, gotUsage, _, rfl, _, rfl,
      _, getItem_eq_ok_iff.mpr ⟨item, rfl, foundMessage⟩,
      _, getItem_eq_ok_iff.mpr ⟨message, rfl, foundContent⟩, isText,
      (absentOr_iff ⟨_, rfl⟩).mpr shaped.id, (absentOr_iff ⟨_, rfl⟩).mpr shaped.model⟩

end OpenAIProvider

namespace AnthropicProvider

/-- A content block: an object, whose text is a string where its type is `text` and it has one. -/
def BlockShaped (block : Json) : Prop :=
  ∃ fields, block = .obj fields ∧
    (Json.field? fields "type" = some (.str "text") → AbsentOr IsText fields "text")

/-- A list of blocks, or another value whose iteration is empty. -/
def ContentShaped (content : Json) : Prop :=
  content = .str "" ∨ content = .obj [] ∨
    ∃ blocks, content = .arr blocks ∧ ∀ block ∈ blocks, BlockShaped block

/-- An object whose content and usage block have their shapes, and whose id and model are strings, all
where they are present. -/
structure WellShaped (context : AdapterContext) (fields : List (String × Json)) : Prop where
  content : AbsentOr ContentShaped fields "content"
  usage : AbsentOr (context.CountsShaped "input_tokens" "output_tokens") fields "usage"
  id : AbsentOr IsText fields "id"
  model : AbsentOr IsText fields "model"

theorem text?_getD_eq_iff {fields : List (String × Json)} :
    ((Json.field? fields "type").getD .null).text? = some "text" ↔
      Json.field? fields "type" = some (.str "text") := by
  cases Json.field? fields "type" with
  | none => simp [text?]
  | some value => cases value <;> simp [text?]

theorem blockText_iff {block : Json} :
    (∃ texts, blockText block = .ok texts ∧ ∀ text ∈ texts, text.IsText) ↔ BlockShaped block := by
  unfold BlockShaped
  cases block with
  | obj fields =>
    have read : blockText (.obj fields) =
        if ((Json.field? fields "type").getD .null).text? = some "text" then
          .ok [(Json.field? fields "text").getD (.str "")] else .ok [] := rfl
    rw [read]
    split
    · rename_i text
      have present := text?_getD_eq_iff.mp text
      have empty : IsText (.str "") := ⟨"", rfl⟩
      simp [present, absentOr_iff empty]
    · rename_i other
      have absent : Json.field? fields "type" ≠ some (.str "text") := fun text =>
        other (text?_getD_eq_iff.mpr text)
      simp [absent]
  | _ => exact iff_of_false nofun nofun

theorem blockTexts_iff {blocks : List Json} :
    (∃ texts, blockTexts blocks = .ok texts ∧ ∀ text ∈ texts, text.IsText) ↔
      ∀ block ∈ blocks, BlockShaped block := by
  induction blocks with
  | nil => exact iff_of_true ⟨[], rfl, nofun⟩ nofun
  | cons block rest ih =>
    rw [List.forall_mem_cons, ← blockText_iff, ← ih]
    simp only [blockTexts, bind_eq_ok_iff]
    constructor
    · rintro ⟨_, ⟨texts, first, later, others, same⟩, allText⟩
      obtain rfl := Except.ok.inj same
      exact ⟨⟨texts, first, fun text member => allText text (List.mem_append_left _ member)⟩,
        ⟨later, others, fun text member => allText text (List.mem_append_right _ member)⟩⟩
    · rintro ⟨⟨texts, first, firstText⟩, ⟨later, others, laterText⟩⟩
      refine ⟨texts ++ later, ⟨texts, first, later, others, rfl⟩, fun text member => ?_⟩
      rcases List.mem_append.mp member with here | there
      · exact firstText text here
      · exact laterText text there

/-- The texts of a content can be joined exactly when it has the shape. -/
theorem content_ok_iff {content : Json} :
    (∃ blocks, content.iterate = .ok blocks ∧ ∃ texts, blockTexts blocks = .ok texts ∧
      ∃ text, Json.join texts = .ok text) ↔ ContentShaped content := by
  have noBlock (text : String) : ¬ BlockShaped (.str text) := nofun
  simp only [join_ok_iff, blockTexts_iff]
  unfold ContentShaped
  cases content with
  | arr blocks => simp [iterate]
  | str text =>
    -- the characters of a string are no blocks
    rcases letters : text.toList with _ | ⟨letter, rest⟩
    · simp_all [iterate]
    · simp_all [iterate, ← String.toList_inj]
  | obj fields =>
    -- nor are the keys of an object
    cases fields <;> simp [iterate, noBlock]
  | _ => simp [iterate]

variable {context : AdapterContext} {request : ChatRequest}

theorem decode_ok_iff {data : Json} :
    (∃ response, decode context request data = .ok response) ↔
      ∃ fields, data = .obj fields ∧ WellShaped context fields := by
  have empty : ContentShaped (.arr []) := .inr (.inr ⟨[], rfl, nofun⟩)
  unfold decode
  simp only [exists_bind_ok_iff, AdapterContext.chatResponse_ok_iff]
  constructor
  · rintro ⟨content, gotContent, blocks, iterated, texts, read, text, joined, usage, gotUsage,
      id, gotId, model, gotModel, -, isId, isModel⟩
    obtain ⟨fields, rfl, rfl⟩ := getD_eq_ok_iff.mp gotContent
    obtain rfl := Except.ok.inj gotId
    obtain rfl := Except.ok.inj gotModel
    exact ⟨fields, rfl,
      { content := (absentOr_iff empty).mp (content_ok_iff.mp ⟨blocks, iterated, texts, read, text, joined⟩)
        usage := context.usageOf_ok_iff.mp ⟨usage, gotUsage⟩
        id := (absentOr_iff ⟨_, rfl⟩).mp isId
        model := (absentOr_iff ⟨_, rfl⟩).mp isModel }⟩
  · rintro ⟨fields, rfl, shaped⟩
    obtain ⟨blocks, iterated, texts, read, text, joined⟩ :=
      content_ok_iff.mpr ((absentOr_iff empty).mpr shaped.content)
    obtain ⟨usage, gotUsage⟩ := context.usageOf_ok_iff.mpr shaped.usage
    exact ⟨_, rfl, blocks, iterated, texts, read, text, joined, usage, gotUsage, _, rfl, _, rfl, ⟨text, rfl⟩,
      (absentOr_iff ⟨_, rfl⟩).mpr shaped.id, (absentOr_iff ⟨_, rfl⟩).mpr shaped.model⟩

end AnthropicProvider

end LlmopsGateway
