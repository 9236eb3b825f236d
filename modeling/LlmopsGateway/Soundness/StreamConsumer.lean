import LlmopsGateway.Model.ChatStream
import LlmopsGateway.Soundness.Attribution
import LlmopsGateway.Soundness.StreamRoundTrip

/-! # What the reader of a stream can rely on

The marker at the end of a stream is delivered exactly when its handler has returned, and by then the request is
recorded with the text that was read, unless it was bypassed. A client that goes away earlier leaves no record.
What is written to the caches is the whole text, and the client has been handed all of it.
-/

namespace LlmopsGateway

open Machine JsonText PyText

namespace ChatCompletions

variable {pricing : Pricing} {visit : Visit}

/-- A request that may be answered from the caches, and of which they know nothing. -/
def Missed (visit : Visit) : Prop :=
  (CacheService.lookup visit.env (GatewayService.applyAdapterRoute visit.env visit.request)).outcome =
    .ok (none, .miss)

/-- What the handler of a stream does and hands over. -/
inductive Shape (pricing : Pricing) (visit : Visit) : Prop
  | recorded (body : List Event) (entry : AuditEntry) (chunks : List String)
      (events : (visit.handle pricing).events = body ++ [.finalized entry])
      (unfinalized : ∀ other, Event.finalized other ∉ body)
      (returned : (visit.handle pricing).outcome = .ok ())
      (items : body.filterMap Event.item? = chunks.map .chunk ++ [.metadata entry.response])
      (text : String.join chunks = entry.response.message.content)
      (backfill : ∀ request response, .backfilled request response ∈ body → response = entry.response ∧
        ∃ front, body = front ++ [.backfilled request response, .yielded (.metadata response)] ∧
          ∀ other, Event.backfilled request other ∉ front)
      (cacheable : visit.request.cacheBypass = false)
      (missed : Missed visit ↔ ∃ request response, .backfilled request response ∈ body)
  | unrecorded (chunks : List String)
      (unfinalized : ∀ other, Event.finalized other ∉ (visit.handle pricing).events)
      (items : items pricing visit = chunks.map .chunk)
      (bypassed : (visit.handle pricing).outcome = .ok () → visit.request.cacheBypass = true)
      (unwritten : ∀ request response, .backfilled request response ∉ (visit.handle pricing).events)

theorem items_chunks (chunks : List String) :
    (chunks.map fun text => Event.yielded (.chunk text)).filterMap Event.item? = chunks.map .chunk := by
  rw [List.filterMap_map]
  exact congrFun List.filterMap_eq_map chunks

/-- Of a stream that fails only chunks are handed over. -/
theorem exists_chunks {events : List Event} (cut : ∀ event ∈ events, (∃ text, event = .yielded (.chunk text)) ∨
    ∃ model usage, event = .completed model usage) :
    ∃ chunks : List String, events.filterMap Event.item? = chunks.map .chunk := by
  induction events with
  | nil => exact ⟨[], rfl⟩
  | cons event rest ih =>
    obtain ⟨here, later⟩ := List.forall_mem_cons.mp cut
    obtain ⟨chunks, items⟩ := ih later
    rcases here with ⟨text, rfl⟩ | ⟨model, usage, rfl⟩
    · exact ⟨text :: chunks, congrArg (StreamItem.chunk text :: ·) items⟩
    · exact ⟨chunks, items⟩

theorem shape (streams : visit.request.stream = true) : Shape pricing visit := by
  have run : visit.handle pricing =
      GatewayService.handleChatCompletionStream pricing visit.env visit.request := if_pos streams
  have exits := GatewayService.streamExit pricing visit.env visit.request
  rw [← run] at exits
  generalize handled : visit.handle pricing = final at exits
  cases exits with
  | @hit hit status events looked written =>
    have silent : events.filterMap Event.item? = [] := by
      refine List.filterMap_eq_nil_iff.mpr fun event member => ?_
      rw [written event member]
      rfl
    have unwritten (request : ChatRequest) (response : ChatResponse) : Event.backfilled request response ∉
        events ++ [.yielded (.chunk hit.message.content), .yielded (.metadata (GatewayService.stamp visit.env
          (GatewayService.applyAdapterRoute visit.env visit.request) hit status))] := by
      intro member
      rcases List.mem_append.mp member with promoted | yielded
      · cases written _ promoted
      · simp at yielded
    refine .recorded _ _ [hit.message.content] (congrArg Logged.events handled) ?_
      (congrArg Logged.outcome handled) ?_ ?_ (fun request response member =>
        absurd member (unwritten request response)) ?_ ?_
    · intro other member
      rcases List.mem_append.mp member with promoted | yielded
      · cases written _ promoted
      · simp at yielded
    · rw [List.filterMap_append, silent]
      rfl
    · exact String.empty_append
    · rw [← GatewayService.cacheBypass_applyAdapterRoute visit.env]
      exact CacheService.cacheBypass_of_hit looked
    · refine iff_of_false (fun missed => ?_) fun ⟨request, response, member⟩ =>
        unwritten request response member
      cases (congrArg Logged.outcome looked).symm.trans missed
  | @bypassed provider model chunks looked served =>
    have bypass := (CacheService.cacheBypass_iff looked).mpr rfl
    rw [GatewayService.cacheBypass_applyAdapterRoute] at bypass
    refine .unrecorded chunks ?_ ?_ (fun _ => bypass) ?_
    · rw [handled]
      simp
    · rw [items, handled, List.filterMap_append, items_chunks]
      exact List.append_nil _
    · rw [handled]
      simp
  | @missed provider model chunks usage name looked served =>
    let request := GatewayService.applyAdapterRoute visit.env visit.request
    let response := GatewayService.streamedResponse pricing visit.env request .miss chunks usage name
    let front : List Event := (chunks.map fun text => .yielded (.chunk text)) ++
      [.completed ⟨provider.name, model⟩ (visit.env.countTokens provider
        (RoutingService.attemptRequest request model) (String.join chunks)),
          .priced ⟨name, request.model⟩ usage]
    have events : (visit.handle pricing).events =
        (front ++ [.backfilled request response, .yielded (.metadata response)]) ++
          [.finalized ⟨.chatCompletionsStream, visit.env.tenantId, visit.env.apiKeyId, request, response⟩] := by
      rw [handled, List.append_assoc, List.append_assoc]
      rfl
    refine .recorded _ _ chunks events ?_ (congrArg Logged.outcome handled) ?_ rfl ?_ ?_ ?_
    · simp [front]
    · rw [List.filterMap_append, List.filterMap_append, items_chunks, List.append_assoc]
      rfl
    · intro other written member
      have here : other = request ∧ written = response := by simpa [front] using member
      obtain ⟨rfl, rfl⟩ := here
      exact ⟨rfl, front, rfl, by simp [front]⟩
    · rw [← GatewayService.cacheBypass_applyAdapterRoute visit.env]
      exact Bool.eq_false_iff.mpr fun bypass => nomatch (CacheService.cacheBypass_iff looked).mp bypass
    · refine iff_of_true (congrArg Logged.outcome looked) ⟨request, response, ?_⟩
      simp [front]
  | @failed events error cut =>
    obtain ⟨chunks, handedOver⟩ := exists_chunks cut
    refine .unrecorded chunks ?_ ?_ ?_ ?_
    · rw [handled]
      intro other member
      rcases cut _ member with ⟨text, same⟩ | ⟨other, usage, same⟩ <;> cases same
    · rw [items, handled]
      exact handedOver
    · rw [handled]
      exact nofun
    · rw [handled]
      intro request response member
      rcases cut _ member with ⟨text, same⟩ | ⟨other, usage, same⟩ <;> cases same

section reading

variable {floatOf : List Char → PyFloat} {costFloat : ℚ → PyFloat}

theorem receivedLines_encode (texts : List (List Char)) :
    receivedLines (texts.map encode) = some (splitLines texts.flatten) := by
  have body : (texts.map encode).foldr (· ++ ·) ByteArray.empty = encode texts.flatten := by
    induction texts with
    | nil => rfl
    | cons text texts ih =>
      rw [List.flatten_cons, encode, String.ofList_append, String.toUTF8_eq_toByteArray,
        String.toByteArray_append]
      exact congrArg (encode text ++ ·) ih
  have decoded : String.fromUTF8? (encode texts.flatten) = some (String.ofList texts.flatten) :=
    dif_pos (String.ofList texts.flatten).isValidUTF8
  rw [receivedLines, body, decoded, Option.map_some, String.toList_ofList]

/-- A body without the marker. -/
theorem scan_frames {items : List StreamItem}
    (printable : ∀ item ∈ items, Printable floatOf (event costFloat item)) :
    scan (OpenAIProvider.readLine (loads floatOf)) () (splitLines (items.flatMap (frame costFloat))) =
      { outputs := yieldedTexts items, ending := .exhausted (), unread := [] } := by
  induction items with
  | nil => rfl
  | cons item items ih =>
    obtain ⟨here, later⟩ := List.forall_mem_cons.mp printable
    rw [List.flatMap_cons, ← framed_eventOf item here, OpenAIProvider.splitLines_framed,
      OpenAIProvider.scan_whole (isCut_eventOf item here), ih later, yieldedTexts_cons]
    rfl

/-- A stream is complete for a consumer who has pulled past its last item, if the handler has returned. -/
def Complete (pricing : Pricing) (visit : Visit) (pulls : ℕ) : Prop :=
  (items pricing visit).length < pulls ∧ (visit.handle pricing).outcome = .ok ()

theorem delivered_of_complete {pulls : ℕ} (complete : Complete pricing visit pulls) :
    delivered pricing visit costFloat pulls =
      ((items pricing visit).map (frame costFloat) ++ [doneFrame]).map encode := by
  obtain ⟨past, returned⟩ := complete
  rw [delivered, returned, sse, List.map_append, List.map_map]
  refine List.take_of_length_le ?_
  rw [List.length_append, List.length_map]
  exact past

theorem delivered_of_incomplete {pulls : ℕ} (incomplete : ¬ Complete pricing visit pulls) :
    delivered pricing visit costFloat pulls =
      (((items pricing visit).take pulls).map (frame costFloat)).map encode := by
  rw [delivered, List.map_map, List.map_take]
  cases returned : (visit.handle pricing).outcome with
  | error error => rfl
  | ok done =>
    have few : pulls ≤ (items pricing visit).length := Nat.le_of_not_lt fun past => incomplete ⟨past, returned⟩
    refine List.take_append_of_le_length ?_
    rwa [List.length_map]

variable {pulls : ℕ} (printable : ∀ item ∈ items pricing visit, Printable floatOf (event costFloat item))

include printable in
theorem reads_complete (complete : Complete pricing visit pulls) :
    ∃ lines, receivedLines (delivered pricing visit costFloat pulls) = some lines ∧
      scan (OpenAIProvider.readLine (loads floatOf)) () lines =
        { outputs := yieldedTexts (items pricing visit), ending := .finished, unread := [[]] } := by
  refine ⟨_, by rw [delivered_of_complete complete, receivedLines_encode], ?_⟩
  rw [List.flatten_append, List.flatten_singleton, ← List.flatMap_def]
  exact scan_bodyText printable

include printable in
theorem reads_incomplete (incomplete : ¬ Complete pricing visit pulls) :
    ∃ lines, receivedLines (delivered pricing visit costFloat pulls) = some lines ∧
      scan (OpenAIProvider.readLine (loads floatOf)) () lines =
        { outputs := yieldedTexts ((items pricing visit).take pulls), ending := .exhausted (),
          unread := [] } := by
  refine ⟨_, by rw [delivered_of_incomplete incomplete, receivedLines_encode], ?_⟩
  rw [← List.flatMap_def]
  exact scan_frames fun item member => printable item (List.mem_of_mem_take member)

end reading

section record

variable {pulls : ℕ}

theorem items_of_recorded {body : List Event} {entry : AuditEntry} {handed : List StreamItem}
    (events : (visit.handle pricing).events = body ++ [.finalized entry])
    (yielded : body.filterMap Event.item? = handed) : items pricing visit = handed := by
  rw [items, events, List.filterMap_append, yielded]
  exact List.append_nil handed

/-- The last thing a handler does is done at the pull that finds no more items. -/
theorem finalized_handled_iff {body : List Event} {entry other : AuditEntry}
    (events : (visit.handle pricing).events = body ++ [.finalized entry])
    (unfinalized : ∀ other, Event.finalized other ∉ body) :
    .finalized other ∈ handled pricing visit pulls ↔ other = entry ∧ (items pricing visit).length < pulls := by
  have handed : items pricing visit = body.filterMap Event.item? := items_of_recorded events rfl
  rw [handled, events, handed]
  constructor
  · intro member
    have same : other = entry := by
      have whole := (pulled_isPrefix _ pulls).subset member
      have last := (List.mem_append.mp whole).resolve_left (unfinalized other)
      exact Event.finalized.inj (List.mem_singleton.mp last)
    rw [same] at member
    exact ⟨same, (mem_pulled_of_last rfl (List.mem_singleton_self _) (unfinalized entry)).mp member⟩
  · rintro ⟨rfl, past⟩
    exact (mem_pulled_of_last rfl (List.mem_singleton_self _) (unfinalized other)).mpr past

/-- A response is written to the caches at the pull that hands its metadata over. -/
theorem backfilled_handled_iff {front tail : List Event} {request : ChatRequest} {response : ChatResponse}
    (events : (visit.handle pricing).events =
      front ++ .backfilled request response :: .yielded (.metadata response) :: tail)
    (silent : tail.filterMap Event.item? = []) (elsewhere : .backfilled request response ∉ front) :
    .backfilled request response ∈ handled pricing visit pulls ↔ (items pricing visit).length ≤ pulls := by
  have handed : (items pricing visit).length = (front.filterMap Event.item?).length + 1 := by
    rw [items, events, List.filterMap_append, List.length_append]
    refine congrArg _ ?_
    exact congrArg (fun later => List.length (StreamItem.metadata response :: later)) silent
  rw [handled, events, handed]
  rcases Nat.lt_or_ge (front.filterMap Event.item?).length pulls with many | few
  · refine iff_of_true ?_ many
    obtain ⟨more, left⟩ : ∃ n, pulls - (front.filterMap Event.item?).length = n + 1 :=
      ⟨_, (Nat.succ_pred_eq_of_pos (Nat.sub_pos_of_lt many)).symm⟩
    rw [pulled_append_of_lt many, left, pulled_cons_of_silent rfl]
    exact List.mem_append_right _ (List.mem_cons_self ..)
  · refine iff_of_false (fun member => ?_) (Nat.not_lt_of_ge few)
    rw [pulled_append_of_le few] at member
    exact elsewhere ((pulled_isPrefix front pulls).subset member)

theorem join_filter (chunks : List String) : String.join (chunks.filter fun text => text ≠ "") =
    String.join chunks := by
  induction chunks with
  | nil => rfl
  | cons text chunks ih =>
    by_cases empty : text = ""
    · simpa [empty] using ih
    · simpa [empty] using ih

/-- A request is recorded when its stream is complete, with the text its reader has got. -/
theorem complete_of_recorded (streams : visit.request.stream = true) {entry : AuditEntry}
    (recorded : .finalized entry ∈ handled pricing visit pulls) :
    Complete pricing visit pulls ∧ ∃ texts : List String, yieldedTexts (items pricing visit) = texts.map .str ∧
      String.join texts = entry.response.message.content := by
  cases shape streams with
  | unrecorded chunks unfinalized =>
    exact absurd ((pulled_isPrefix _ pulls).subset recorded) (unfinalized entry)
  | recorded body last chunks events unfinalized returned yielded text =>
    have handed := items_of_recorded events yielded
    obtain ⟨rfl, past⟩ := (finalized_handled_iff events unfinalized).mp recorded
    refine ⟨⟨past, returned⟩, chunks.filter fun text => text ≠ "", ?_, (join_filter chunks).trans text⟩
    rw [handed, yieldedTexts_append, yieldedTexts_chunks]
    exact List.append_nil _

theorem recorded_of_complete (streams : visit.request.stream = true) (complete : Complete pricing visit pulls)
    (cacheable : visit.request.cacheBypass = false) :
    ∃ entry, .finalized entry ∈ handled pricing visit pulls := by
  cases shape streams with
  | unrecorded chunks unfinalized handed bypassed =>
    exact absurd (cacheable.symm.trans (bypassed complete.2)) nofun
  | recorded body entry chunks events unfinalized =>
    exact ⟨entry, (finalized_handled_iff events unfinalized).mpr ⟨rfl, complete.1⟩⟩

end record

variable {floatOf : List Char → PyFloat} {costFloat : ℚ → PyFloat}

/-- However often the server pulls, the reader finds the marker exactly if the handler has returned by then. A
request that is recorded by then was read with the text of its record, and only a bypassed one is not recorded
though its marker is there. -/
theorem marker_certifies (streams : visit.request.stream = true) (pulls : ℕ)
    (printable : ∀ item ∈ items pricing visit, Printable floatOf (event costFloat item)) :
    ∃ lines, receivedLines (delivered pricing visit costFloat pulls) = some lines ∧
      ∃ scanned, scan (OpenAIProvider.readLine (loads floatOf)) () lines = scanned ∧
        scanned.outputs = yieldedTexts ((items pricing visit).take pulls) ∧
        (scanned.ending = .finished ↔ Complete pricing visit pulls) ∧
        (∀ entry, .finalized entry ∈ handled pricing visit pulls → scanned.ending = .finished ∧
          ∃ texts : List String, scanned.outputs = texts.map .str ∧
            String.join texts = entry.response.message.content) ∧
        (scanned.ending = .finished → visit.request.cacheBypass = false →
          ∃ entry, .finalized entry ∈ handled pricing visit pulls) := by
  by_cases complete : Complete pricing visit pulls
  · obtain ⟨lines, received, scanned⟩ := reads_complete printable complete
    have all : (items pricing visit).take pulls = items pricing visit :=
      List.take_of_length_le (Nat.le_of_lt complete.1)
    refine ⟨lines, received, _, scanned, by rw [all], iff_of_true rfl complete, fun entry recorded => ?_, ?_⟩
    · exact ⟨rfl, (complete_of_recorded streams recorded).2⟩
    · exact fun _ cacheable => recorded_of_complete streams complete cacheable
  · obtain ⟨lines, received, scanned⟩ := reads_incomplete printable complete
    refine ⟨lines, received, _, scanned, rfl, iff_of_false nofun complete, fun entry recorded => ?_, nofun⟩
    exact absurd (complete_of_recorded streams recorded).1 complete

/-- The metadata is the last item. -/
theorem length_le_of_metadata {chunks : List String} {response other : ChatResponse}
    (taken : StreamItem.metadata other ∈
      (chunks.map StreamItem.chunk ++ [StreamItem.metadata response]).take pulls) :
    (chunks.map StreamItem.chunk ++ [StreamItem.metadata response]).length ≤ pulls := by
  by_contra few
  rw [List.length_append, List.length_singleton, not_le, Nat.lt_succ_iff] at few
  rw [List.take_append_of_le_length few] at taken
  simpa using List.mem_of_mem_take taken

/-- A stream hands its metadata over unless it is bypassed or fails. The whole text is written to the caches
when the metadata is handed over, if the caches did not know the answer, and the request is recorded one pull
later. -/
theorem backfilled_whole (streams : visit.request.stream = true) (pulls : ℕ) :
    ((∃ response, .metadata response ∈ items pricing visit) ↔
      (visit.handle pricing).outcome = .ok () ∧ visit.request.cacheBypass = false) ∧
    ((∃ request response, .backfilled request response ∈ handled pricing visit pulls) ↔
      Missed visit ∧ ∃ response, .metadata response ∈ (items pricing visit).take pulls) ∧
    ((∃ entry, .finalized entry ∈ handled pricing visit pulls) ↔
      (items pricing visit).length < pulls ∧ ∃ response, .metadata response ∈ items pricing visit) ∧
    ∀ request response, .backfilled request response ∈ handled pricing visit pulls →
      ∃ chunks : List String, items pricing visit = chunks.map .chunk ++ [.metadata response] ∧
        String.join chunks = response.message.content := by
  cases shape streams with
  | unrecorded chunks unfinalized handed bypassed unwritten =>
    have untouched {event : Event} (never : event ∉ (visit.handle pricing).events) :
        event ∉ handled pricing visit pulls := fun member => never ((pulled_isPrefix _ pulls).subset member)
    have noMetadata (response : ChatResponse) : .metadata response ∉ items pricing visit := by
      rw [handed]
      simp
    refine ⟨iff_of_false ?_ ?_, iff_of_false ?_ ?_, iff_of_false ?_ ?_, ?_⟩
    · exact fun ⟨response, member⟩ => noMetadata response member
    · exact fun ⟨returned, cacheable⟩ => nomatch cacheable.symm.trans (bypassed returned)
    · exact fun ⟨request, response, written⟩ => untouched (unwritten request response) written
    · exact fun ⟨_, response, member⟩ => noMetadata response (List.mem_of_mem_take member)
    · exact fun ⟨entry, recorded⟩ => untouched (unfinalized entry) recorded
    · exact fun ⟨_, response, member⟩ => noMetadata response member
    · exact fun request response written => absurd written (untouched (unwritten request response))
  | recorded body entry chunks events unfinalized returned yielded text backfill cacheable missed =>
    have handed := items_of_recorded events yielded
    have inBody {request : ChatRequest} {response : ChatResponse}
        (member : .backfilled request response ∈ handled pricing visit pulls) :
        .backfilled request response ∈ body := by
      have among := (pulled_isPrefix _ pulls).subset member
      rw [events] at among
      exact (List.mem_append.mp among).resolve_right fun last => nomatch List.mem_singleton.mp last
    have metadata : .metadata entry.response ∈ items pricing visit := by
      rw [handed]
      simp
    have written {request : ChatRequest} {response : ChatResponse}
        (member : .backfilled request response ∈ body) :
        .backfilled request response ∈ handled pricing visit pulls ↔ (items pricing visit).length ≤ pulls := by
      obtain ⟨-, front, split, elsewhere⟩ := backfill request response member
      have parts := events
      rw [split, List.append_assoc] at parts
      exact backfilled_handled_iff parts rfl (elsewhere response)
    refine ⟨iff_of_true ⟨_, metadata⟩ ⟨returned, cacheable⟩, ?_, ?_, fun request response member => ?_⟩
    · rw [missed]
      constructor
      · rintro ⟨request, response, member⟩
        refine ⟨⟨request, response, inBody member⟩, entry.response, ?_⟩
        rw [List.take_of_length_le ((written (inBody member)).mp member)]
        exact metadata
      · rintro ⟨⟨request, response, member⟩, other, taken⟩
        rw [handed] at taken
        refine ⟨request, response, (written member).mpr ?_⟩
        rw [handed]
        exact length_le_of_metadata taken
    · simp only [finalized_handled_iff events unfinalized]
      exact ⟨fun ⟨_, _, past⟩ => ⟨past, _, metadata⟩, fun ⟨past, _⟩ => ⟨entry, rfl, past⟩⟩
    · obtain ⟨rfl, -⟩ := backfill request response (inBody member)
      exact ⟨chunks, handed, text⟩

section sample

/-- A request whose stream is one word. -/
def greetingVisit : Visit where
  env := GatewayService.outageEnv false
  request := { RoutingService.gptRequest with stream := true }

theorem printable_greetingVisit : ∀ item ∈ items (fun _ => none) greetingVisit,
    Printable (fun _ => half) (event (fun _ => half) item) := by
  have inputTokens : (Nat.toDigits 10 10).length ≤ 4300 := by decide
  have outputTokens : (Nat.toDigits 10 20).length ≤ 4300 := by decide
  obtain ⟨response, handed, printable⟩ : ∃ response,
      items (fun _ => none) greetingVisit = [.chunk "Hello", .metadata response] ∧
        Printable (fun _ => half) (event (fun _ => half) (.metadata response)) :=
    ⟨_, rfl, by decide, ⟨by decide, inputTokens, outputTokens, trivial⟩, rfl, trivial, trivial, trivial,
      trivial, trivial⟩
  rw [handed]
  exact List.forall_mem_cons.mpr ⟨printable_chunk "Hello", List.forall_mem_singleton.mpr printable⟩

/-- Read to its end, the word is followed by the marker. -/
theorem marker_certifies_greeting :
    ∃ lines, receivedLines (delivered (fun _ => none) greetingVisit (fun _ => half) 3) = some lines ∧
      (scan (OpenAIProvider.readLine (loads fun _ => half)) () lines).ending = .finished ∧
      (scan (OpenAIProvider.readLine (loads fun _ => half)) () lines).outputs = [.str "Hello"] := by
  obtain ⟨lines, received, _, rfl, outputs, complete, -⟩ :=
    marker_certifies rfl 3 printable_greetingVisit
  exact ⟨lines, received, complete.mpr ⟨Nat.lt_succ_self 2, rfl⟩, outputs⟩

/-- A client that goes away with the metadata leaves a written cache and no record. -/
theorem backfilled_whole_greeting :
    (∃ request response, .backfilled request response ∈ handled (fun _ => none) greetingVisit 2) ∧
      (¬ ∃ request response, .backfilled request response ∈ handled (fun _ => none) greetingVisit 1) ∧
      ¬ ∃ entry, .finalized entry ∈ handled (fun _ => none) greetingVisit 2 := by
  have streams : greetingVisit.request.stream = true := rfl
  obtain ⟨response, handed⟩ : ∃ response,
      items (fun _ => none) greetingVisit = [.chunk "Hello", .metadata response] :=
    ⟨_, rfl⟩
  have missed : Missed greetingVisit := rfl
  obtain ⟨-, late, recorded, -⟩ := @backfilled_whole (fun _ => none) greetingVisit streams 2
  obtain ⟨-, early, -⟩ := @backfilled_whole (fun _ => none) greetingVisit streams 1
  rw [handed] at late early recorded
  refine ⟨late.mpr ⟨missed, response, by simp⟩, fun written => ?_, fun record => ?_⟩
  · obtain ⟨-, other, taken⟩ := early.mp written
    simp at taken
  · exact absurd (recorded.mp record).1 (lt_irrefl 2)

end sample

end ChatCompletions

end LlmopsGateway
