import LlmopsGateway.Model.ChatStream
import LlmopsGateway.Soundness.JsonRoundTrip
import LlmopsGateway.Soundness.OpenAIStream

/-! # The chat endpoint's stream decodes back

Every item of the stream is an event that arrives in one piece, because `json.dumps` escapes all that could
end a line. A chunk is read as the content it carries, the metadata as an event without content.
-/

namespace LlmopsGateway.ChatCompletions

open JsonText Machine OpenAIProvider PyText

variable {floatOf : List Char → PyFloat} {costFloat : ℚ → PyFloat}

/-- The fields of an item's event. -/
def fieldsOf (costFloat : ℚ → PyFloat) (item : StreamItem) : List (String × Json) :=
  match event costFloat item with
  | .obj fields => fields
  | _ => []

theorem event_eq (item : StreamItem) : event costFloat item = .obj (fieldsOf costFloat item) := by
  cases item <;> rfl

/-- The text that an item adds to the completion. -/
def textOf : StreamItem → Option String
  | .chunk text => some text
  | .metadata _ => none

theorem carries_fieldsOf (item : StreamItem) :
    OpenAIProvider.Carries (fieldsOf costFloat item) (textOf item) := by
  cases item with
  | chunk text => exact .inr ⟨_, _, _, rfl, rfl, rfl⟩
  | metadata response => exact .inl ⟨.inl rfl, rfl⟩

theorem printable_chunk (text : String) : Printable floatOf (event costFloat (.chunk text)) := by
  simp [event, Printable, PrintableItems, PrintableFields]

theorem not_lineBreak_of_visible {c : Char} (visible : isVisible c = true) : isLineBreak c = false := by
  rw [isVisible, Bool.and_eq_true, decide_eq_true_iff, decide_eq_true_iff] at visible
  cases boundary : isLineBreak c with
  | false => rfl
  | true =>
    simp only [isLineBreak, Bool.or_eq_true, Bool.and_eq_true, decide_eq_true_iff, beq_iff_eq] at boundary
    omega

theorem not_lineBreak_of_dumps {item : Json} : ∀ c ∈ dumps item, isLineBreak c = false := fun c member =>
  not_lineBreak_of_visible (visible_dumps item c member)

/-- The event of an item, as the decoder is promised one. -/
def eventOf (item : StreamItem) (printable : Printable floatOf (event costFloat item)) :
    OpenAIProvider.Event floatOf where
  text := dumps (event costFloat item)
  fields := fieldsOf costFloat item
  content := textOf item
  oneLine := ⟨fun member => absurd (not_lineBreak_of_dumps '\n' member) (by decide),
    fun member => absurd (not_lineBreak_of_dumps '\r' member) (by decide)⟩
  encodes := by rw [loads_dumps printable, event_eq]
  carries := carries_fieldsOf item

variable (item : StreamItem) (printable : Printable floatOf (event costFloat item))

theorem isCut_eventOf : (eventOf item printable).isCut = false := by
  rw [Event.isCut, List.any_eq_false]
  exact fun c member => Bool.eq_false_iff.mp (not_lineBreak_of_dumps c member)

theorem framed_eventOf : (eventOf item printable).framed = frame costFloat item := rfl

section body

/-- The body as text. -/
def bodyText (costFloat : ℚ → PyFloat) (items : List StreamItem) : List Char :=
  items.flatMap (frame costFloat) ++ doneFrame

theorem receivedLines_sse (items : List StreamItem) :
    receivedLines (sse costFloat items) = some (splitLines (bodyText costFloat items)) := by
  have body : (sse costFloat items).foldr (· ++ ·) ByteArray.empty = encode (bodyText costFloat items) := by
    induction items with
    | nil => exact ByteArray.append_empty
    | cons item items ih =>
      rw [bodyText, List.flatMap_cons, List.append_assoc, ← bodyText, encode, String.ofList_append,
        String.toUTF8_eq_toByteArray, String.toByteArray_append]
      exact congrArg (encode (frame costFloat item) ++ ·) ih
  have decoded : String.fromUTF8? (encode (bodyText costFloat items)) =
      some (String.ofList (bodyText costFloat items)) :=
    dif_pos (String.ofList (bodyText costFloat items)).isValidUTF8
  rw [receivedLines, body, decoded, Option.map_some, String.toList_ofList]

/-- What the client makes of the chunks. -/
def yieldedTexts (items : List StreamItem) : List Json :=
  items.filterMap fun item => ((textOf item).filter fun text => text ≠ "").map .str

theorem yieldedTexts_cons (item : StreamItem) (items : List StreamItem) : yieldedTexts (item :: items) =
    (((textOf item).filter fun text => text ≠ "").map Json.str).toList ++ yieldedTexts items := by
  rw [yieldedTexts, List.filterMap_cons]
  cases ((textOf item).filter fun text => text ≠ "").map Json.str <;> rfl

theorem yieldedTexts_chunks (chunks : List String) :
    yieldedTexts (chunks.map .chunk) = (chunks.filter fun text => text ≠ "").map .str := by
  induction chunks with
  | nil => rfl
  | cons text chunks ih =>
    rw [List.map_cons, yieldedTexts_cons, ih]
    by_cases empty : text = ""
    · simp [textOf, empty]
    · simp [textOf, empty, Option.filter]

theorem yieldedTexts_append (first second : List StreamItem) :
    yieldedTexts (first ++ second) = yieldedTexts first ++ yieldedTexts second :=
  List.filterMap_append

theorem scan_bodyText {items : List StreamItem}
    (printable : ∀ item ∈ items, Printable floatOf (event costFloat item)) :
    scan (readLine (loads floatOf)) () (splitLines (bodyText costFloat items)) =
      { outputs := yieldedTexts items, ending := .finished, unread := [[]] } := by
  induction items with
  | nil => rfl
  | cons item items ih =>
    obtain ⟨here, later⟩ := List.forall_mem_cons.mp printable
    rw [bodyText, List.flatMap_cons, List.append_assoc, ← framed_eventOf item here, splitLines_framed,
      scan_whole (isCut_eventOf item here), ← bodyText, ih later, yieldedTexts_cons]
    rfl

end body

/-- The endpoint's stream is read back as its non-empty chunks, up to the marker at its end. -/
theorem sse_decodes (chunks : List String) (metadata : Option ChatResponse)
    (printable : ∀ response ∈ metadata, Printable floatOf (event costFloat (.metadata response))) :
    ∃ lines, receivedLines (sse costFloat (chunks.map .chunk ++ metadata.toList.map .metadata)) = some lines ∧
      scan (readLine (loads floatOf)) () lines =
        { outputs := (chunks.filter fun text => text ≠ "").map .str, ending := .finished, unread := [[]] } := by
  have silent : yieldedTexts (metadata.toList.map .metadata) = [] := by cases metadata <;> rfl
  refine ⟨_, receivedLines_sse _, ?_⟩
  rw [scan_bodyText, yieldedTexts_append, yieldedTexts_chunks, silent, List.append_nil]
  intro item member
  rcases List.mem_append.mp member with among | last
  · obtain ⟨text, -, rfl⟩ := List.mem_map.mp among
    exact printable_chunk text
  · obtain ⟨response, present, rfl⟩ := List.mem_map.mp last
    exact printable response (Option.mem_toList.mp present)

section sample

def half : PyFloat := { text := "0.5", digits := by decide }

def sampleResponse : ChatResponse where
  id := "chatcmpl-1"
  model := "gpt-4o"
  provider := "openai"
  message := { role := .assistant, content := "[DONE]" }
  usage := { inputTokens := 12, outputTokens := 3 }
  costUsd := 1 / 2
  traceId := "trace"
  createdAt := 0
  latencyMs := 0

theorem printable_sample : Printable (fun _ => half) (event (fun _ => half) (.metadata sampleResponse)) := by
  have inputTokens : (Nat.toDigits 10 12).length ≤ 4300 := by decide
  have outputTokens : (Nat.toDigits 10 3).length ≤ 4300 := by decide
  exact ⟨by decide, ⟨by decide, inputTokens, outputTokens, trivial⟩, rfl, trivial, trivial, trivial,
    trivial, trivial⟩

theorem sse_decodes_sample :
    ∃ lines, receivedLines (sse (fun _ => half)
        (["data: [DONE]", "", "a\u2028b"].map .chunk ++ (some sampleResponse).toList.map .metadata)) =
          some lines ∧
      scan (readLine (loads fun _ => half)) () lines =
        { outputs := (["data: [DONE]", "", "a\u2028b"].filter fun text => text ≠ "").map .str,
          ending := .finished, unread := [[]] } :=
  sse_decodes _ (some sampleResponse) fun _ present => Option.mem_some_iff.mp present ▸ printable_sample

end sample

end LlmopsGateway.ChatCompletions
