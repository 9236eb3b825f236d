import LlmopsGateway.Model.ChatRequest
import LlmopsGateway.Soundness.PyTextReading
import Mathlib.Data.List.Forall2
import Mathlib.Tactic.Tauto

/-! # When the exact-cache key stands for one request

With an injective digest two keys agree exactly when the tenants and the fingerprints do, and the
fingerprint is read from the right: the stop list, the numbers and then adapter, model and
normalized prompt. Nothing on that way is escaped. The request is determined up to whitespace
exactly when neither model nor adapter holds a bar, bars in the prompt stand only at the start of
a word, and no later word of the prompt looks like the start of a message.
-/

namespace LlmopsGateway

open PyText

/-- The equivalence a cache hit promises. -/
structure ChatRequest.Equivalent (request other : ChatRequest) : Prop where
  model : request.model = other.model
  adapter : request.adapter = other.adapter
  temperature : request.temperature = other.temperature
  maxTokens : request.maxTokens = other.maxTokens
  topP : request.topP = other.topP
  stop : request.stop = other.stop
  messages : List.Forall₂ (fun message message' => message.role = message'.role ∧
    normalizePrompt message.content.toList = normalizePrompt message'.content.toList)
    request.messages other.messages

/-- `f"{role}:"`. -/
def Role.marker (role : Role) : List Char := role.text ++ [':']

def StartsMessage (word : List Char) : Prop := ∃ role : Role, role.marker <+: word

instance (word : List Char) : Decidable (StartsMessage word) :=
  decidable_of_iff (∃ role ∈ [Role.system, .user, .assistant, .tool], role.marker <+: word) (by
    constructor
    · rintro ⟨role, -, start⟩
      exact ⟨role, start⟩
    · rintro ⟨role, start⟩
      exact ⟨role, by cases role <;> decide, start⟩)

/-- The words of the canonical prompt. -/
def ChatRequest.promptWords (request : ChatRequest) : List (List Char) :=
  Words.split isSpace request.canonicalPrompt

/-- The condition under which a fingerprint has only one reading. -/
structure ChatRequest.Unambiguous (request : ChatRequest) : Prop where
  model : '|' ∉ request.model.toList
  adapter : '|' ∉ request.adapter.toList
  bars : ∀ word ∈ request.promptWords, '|' ∉ word.tail
  roles : ∀ word ∈ request.promptWords.tail, ¬ StartsMessage word

theorem normalizePrompt_eq (text : List Char) :
    normalizePrompt text = Words.join ' ' (Words.split isSpace text) := by
  rw [normalizePrompt, Words.split_strip]

theorem split_normalizePrompt (text : List Char) :
    Words.split isSpace (normalizePrompt text) = Words.split isSpace text := by
  rw [normalizePrompt_eq, Words.split_join_split (by decide)]

theorem proper_promptWords {request : ChatRequest} {word : List Char}
    (member : word ∈ request.promptWords) : Words.Proper isSpace word :=
  Words.proper_of_mem_split member

theorem Role.proper_marker (role : Role) : Words.Proper isSpace role.marker := by
  have letters : role.marker.all (fun c => !isSpace c) = true := by cases role <;> decide
  refine ⟨by cases role <;> decide, fun c member => ?_⟩
  simpa using List.all_eq_true.mp letters c member

theorem ChatMessage.line_eq (message : ChatMessage) :
    message.line = message.role.marker ++ message.content.toList := by
  rw [line, Role.marker, List.append_assoc, List.singleton_append]

theorem ChatMessage.split_line (message : ChatMessage) :
    Words.split isSpace message.line =
      (message.role.marker ++ (Words.scan isSpace message.content.toList).1) ::
        (Words.scan isSpace message.content.toList).2 := by
  rw [line_eq, Words.split_append_of_proper message.role.proper_marker]

theorem ChatRequest.promptWords_eq (request : ChatRequest) :
    request.promptWords = request.messages.flatMap fun message => Words.split isSpace message.line := by
  rw [promptWords, canonicalPrompt, Words.split_join (by decide), List.flatMap_map]

/-- The prompt of a request without messages is empty; any other begins with a role marker. -/
theorem ChatRequest.promptWords_head {request : ChatRequest} (nonempty : request.promptWords ≠ []) :
    ∃ role rest later, request.promptWords = (Role.marker role ++ rest) :: later := by
  rw [promptWords_eq] at nonempty ⊢
  cases messages : request.messages with
  | nil =>
    rw [messages] at nonempty
    contradiction
  | cons message rest =>
    rw [List.flatMap_cons, message.split_line]
    exact ⟨message.role, _, _, rfl⟩

section words

theorem Role.text_colon (role : Role) : ':' ∉ role.text := by
  cases role <;> decide

theorem Role.text_injective : Function.Injective Role.text := by
  intro role other same
  cases role <;> cases other <;> first | rfl | exact absurd same (by decide)

/-- One message is recovered from its words up to the whitespace of its content. -/
theorem ChatMessage.split_line_inj {message other : ChatMessage}
    (same : Words.split isSpace message.line = Words.split isSpace other.line) :
    message.role = other.role ∧
      normalizePrompt message.content.toList = normalizePrompt other.content.toList := by
  rw [split_line, split_line] at same
  obtain ⟨heads, later⟩ := List.cons.inj same
  simp only [Role.marker, List.append_assoc, List.singleton_append] at heads
  obtain ⟨roles, runs⟩ := Words.first_field_inj message.role.text_colon other.role.text_colon heads
  refine ⟨Role.text_injective roles, ?_⟩
  rw [normalizePrompt_eq, normalizePrompt_eq, Words.split, Words.split, Prod.ext runs later]

/-- Without a second role marker, the messages are recovered from the prompt's words. -/
theorem ChatRequest.messages_of_promptWords {request other : ChatRequest}
    (roles : ∀ word ∈ request.promptWords.tail, ¬ StartsMessage word)
    (same : request.promptWords = other.promptWords) :
    List.Forall₂ (fun message message' => message.role = message'.role ∧
      normalizePrompt message.content.toList = normalizePrompt message'.content.toList)
      request.messages other.messages := by
  have single (request : ChatRequest) (roles : ∀ word ∈ request.promptWords.tail, ¬ StartsMessage word) :
      request.messages = [] ∨ ∃ message, request.messages = [message] := by
    rw [promptWords_eq] at roles
    rcases messages : request.messages with _ | ⟨first, _ | ⟨second, rest⟩⟩
    · exact .inl rfl
    · exact .inr ⟨first, rfl⟩
    · rw [messages] at roles
      refine absurd ⟨second.role, List.prefix_append ..⟩ (roles (second.role.marker ++
        (Words.scan isSpace second.content.toList).1) ?_)
      simp [ChatMessage.split_line]
  have roles' : ∀ word ∈ other.promptWords.tail, ¬ StartsMessage word := same ▸ roles
  rw [promptWords_eq, promptWords_eq] at same
  rcases single request roles with empty | ⟨message, alone⟩
  · rcases single other roles' with empty' | ⟨message', alone'⟩
    · rw [empty, empty']
      exact .nil
    · rw [empty, alone'] at same
      simp [ChatMessage.split_line] at same
  · rcases single other roles' with empty' | ⟨message', alone'⟩
    · rw [alone, empty'] at same
      simp [ChatMessage.split_line] at same
    · rw [alone, alone'] at same ⊢
      simp only [List.flatMap_cons, List.flatMap_nil, List.append_nil] at same
      exact .cons (ChatMessage.split_line_inj same) .nil

end words

section fields

variable (isPrintable : Char → Bool)

/-- Everything of the fingerprint before the numbers. -/
def ChatRequest.front (request : ChatRequest) : List Char :=
  normalizePrompt request.canonicalPrompt ++
    '|' :: (request.model.toList ++ '|' :: request.adapter.toList)

theorem ChatRequest.fingerprint_eq (request : ChatRequest) :
    request.fingerprint isPrintable =
      (((request.front ++ '|' :: request.temperature.text.toList) ++ '|' :: strOfInt request.maxTokens) ++
        '|' :: request.topP.text.toList) ++ '|' :: strOfStop isPrintable request.stop := by
  simp only [fingerprint, paramsFingerprint, front, List.append_assoc, List.cons_append]

theorem bar_not_mem_float (value : PyFloat) : '|' ∉ value.text.toList := by
  intro member
  exact absurd (value.digits _ member) (by decide)

theorem pyFloat_ext {value other : PyFloat} (same : value.text.toList = other.text.toList) :
    value = other := by
  cases value
  cases other
  congr
  exact String.toList_inj.mp same

/-- Read from the right, the numbers and the stop list are determined, and so is what stands before them. -/
theorem ChatRequest.numbers_inj {request other : ChatRequest} {front front' : List Char}
    (same : (((front ++ '|' :: request.temperature.text.toList) ++ '|' :: strOfInt request.maxTokens) ++
          '|' :: request.topP.text.toList) ++ '|' :: strOfStop isPrintable request.stop =
        (((front' ++ '|' :: other.temperature.text.toList) ++ '|' :: strOfInt other.maxTokens) ++
          '|' :: other.topP.text.toList) ++ '|' :: strOfStop isPrintable other.stop) :
    front = front' ∧ request.temperature = other.temperature ∧
      request.maxTokens = other.maxTokens ∧ request.topP = other.topP ∧ request.stop = other.stop := by
  obtain ⟨same, stop⟩ := stop_field_inj isPrintable same
  obtain ⟨same, topP⟩ := Words.last_field_inj (bar_not_mem_float _) (bar_not_mem_float _) same
  obtain ⟨same, maxTokens⟩ :=
    Words.last_field_inj (bar_not_mem_strOfInt _) (bar_not_mem_strOfInt _) same
  obtain ⟨front, temperature⟩ := Words.last_field_inj (bar_not_mem_float _) (bar_not_mem_float _) same
  exact ⟨front, pyFloat_ext temperature, strOfInt_injective maxTokens, pyFloat_ext topP, stop⟩

theorem ChatRequest.fingerprint_inj {request other : ChatRequest}
    (same : request.fingerprint isPrintable = other.fingerprint isPrintable) :
    request.front = other.front ∧ request.temperature = other.temperature ∧
      request.maxTokens = other.maxTokens ∧ request.topP = other.topP ∧ request.stop = other.stop := by
  rw [fingerprint_eq, fingerprint_eq] at same
  exact numbers_inj isPrintable same

/-- A bar that follows a normalized prompt is not inside another, unambiguous one. -/
theorem ChatRequest.Unambiguous.not_split {request other : ChatRequest} (unambiguous : request.Unambiguous)
    (rest : List Char) : normalizePrompt request.canonicalPrompt ≠
      normalizePrompt other.canonicalPrompt ++ '|' :: rest := by
  intro longer
  by_cases empty : other.promptWords = []
  · have shorter : normalizePrompt other.canonicalPrompt = [] := by
      rw [normalizePrompt_eq, ← promptWords, empty, Words.join_nil]
    rw [shorter, List.nil_append] at longer
    have split := split_normalizePrompt request.canonicalPrompt
    rw [longer, Words.split, Words.scan_cons_of_not_space (by decide)] at split
    have begun : request.promptWords ≠ [] := by
      rw [promptWords, ← split]
      exact List.cons_ne_nil _ _
    obtain ⟨role, rest, later, head⟩ := promptWords_head begun
    rw [promptWords, ← split] at head
    obtain ⟨heads, -⟩ := List.cons.inj head
    cases role <;> exact absurd (List.cons.inj heads).1 (by decide)
  · obtain ⟨front, letter, ended, notSpace⟩ :
        ∃ front letter, Words.join ' ' other.promptWords = front ++ [letter] ∧ isSpace letter = false :=
      Words.join_eq_append_letter empty fun _ => proper_promptWords
    rw [normalizePrompt_eq other.canonicalPrompt, ← promptWords, ended, List.append_assoc,
      List.singleton_append] at longer
    obtain ⟨word, member, bar⟩ :
        ∃ word ∈ Words.split isSpace (front ++ letter :: '|' :: rest), '|' ∈ word.tail :=
      Words.exists_mem_tail notSpace (by decide)
    rw [← longer, split_normalizePrompt] at member
    exact unambiguous.bars word member bar

theorem ChatRequest.Unambiguous.front_inj {request other : ChatRequest} (unambiguous : request.Unambiguous)
    (same : request.front = other.front) :
    normalizePrompt request.canonicalPrompt = normalizePrompt other.canonicalPrompt ∧
      request.model = other.model ∧ request.adapter = other.adapter := by
  have fields {model adapter : List Char}
      (same : request.model.toList ++ '|' :: request.adapter.toList = model ++ '|' :: adapter) :
      request.model.toList = model ∧ request.adapter.toList = adapter := by
    obtain ⟨models, -, adapters⟩ :=
      (List.append_cons_inj_of_notMem unambiguous.model unambiguous.adapter).mp same
    exact ⟨models, adapters⟩
  have equal (tails : request.model.toList ++ '|' :: request.adapter.toList =
      other.model.toList ++ '|' :: other.adapter.toList) :
      request.model = other.model ∧ request.adapter = other.adapter :=
    ⟨String.toList_inj.mp (fields tails).1, String.toList_inj.mp (fields tails).2⟩
  rcases List.append_eq_append_iff.mp same with ⟨middle, longer, tails⟩ | ⟨middle, longer, tails⟩
  · cases middle with
    | nil => exact ⟨by rw [longer, List.append_nil], equal (List.cons.inj tails).2⟩
    | cons c middle =>
      -- the other prompt would run on into the model field
      obtain ⟨-, adapters⟩ := fields (List.cons.inj tails).2
      refine absurd ?_ unambiguous.adapter
      rw [adapters]
      exact List.mem_append_right _ (List.mem_cons_self ..)
  · cases middle with
    | nil => exact ⟨by rw [longer, List.append_nil], equal (List.cons.inj tails).2.symm⟩
    | cons c middle =>
      obtain rfl : '|' = c := (List.cons.inj tails).1
      exact absurd longer (unambiguous.not_split middle)

end fields

section readings

/-- Words that begin with a role marker are the words of one message. -/
theorem exists_message {words : List (List Char)} (proper : ∀ word ∈ words, Words.Proper isSpace word)
    {role : Role} {rest : List Char} {later : List (List Char)}
    (head : words = (role.marker ++ rest) :: later) :
    ∃ message : ChatMessage, message.line = Words.join ' ' words ∧
      Words.split isSpace message.line = words := by
  have line : ∃ content, Words.join ' ' words = role.marker ++ content := by
    cases later with
    | nil => exact ⟨rest, by rw [head, Words.join_singleton]⟩
    | cons next later =>
      exact ⟨rest ++ ' ' :: Words.join ' ' (next :: later), by
        rw [head, Words.join_cons_cons, List.append_assoc]⟩
  obtain ⟨content, joined⟩ := line
  have same : ChatMessage.line ⟨role, String.ofList content⟩ = Words.join ' ' words := by
    rw [ChatMessage.line_eq, joined, String.toList_ofList]
  exact ⟨⟨role, String.ofList content⟩, same, by rw [same, Words.split_join_of_proper (by decide) proper]⟩

theorem normalizePrompt_of_words {text : List Char} {words : List (List Char)}
    (split : Words.split isSpace text = words) : normalizePrompt text = Words.join ' ' words := by
  rw [normalizePrompt_eq, split]

variable (isPrintable : Char → Bool)

/-- A bar in the model can also be the delimiter before the adapter ... -/
theorem exists_reading_of_model {request : ChatRequest} (bar : '|' ∈ request.model.toList) :
    ∃ other : ChatRequest, request.fingerprint isPrintable = other.fingerprint isPrintable ∧
      ¬ request.Equivalent other := by
  obtain ⟨before, after, cut⟩ := List.append_of_mem bar
  refine ⟨{ request with
    model := String.ofList before
    adapterId := some (String.ofList (after ++ '|' :: request.adapter.toList)) }, ?_, fun same => ?_⟩
  · simp only [ChatRequest.fingerprint, ChatRequest.canonicalPrompt, ChatRequest.paramsFingerprint, cut]
    simp [ChatRequest.adapter]
  · have models := congrArg String.toList same.model
    rw [cut, String.toList_ofList] at models
    simpa using congrArg List.length models

/-- ... and a bar in the adapter the one after the model. -/
theorem exists_reading_of_adapter {request : ChatRequest} (bar : '|' ∈ request.adapter.toList) :
    ∃ other : ChatRequest, request.fingerprint isPrintable = other.fingerprint isPrintable ∧
      ¬ request.Equivalent other := by
  obtain ⟨before, after, cut⟩ := List.append_of_mem bar
  refine ⟨{ request with
    model := String.ofList (request.model.toList ++ '|' :: before)
    adapterId := some (String.ofList after) }, ?_, fun same => ?_⟩
  · simp only [ChatRequest.fingerprint, ChatRequest.canonicalPrompt, ChatRequest.paramsFingerprint, cut]
    simp [ChatRequest.adapter]
  · have models := congrArg String.toList same.model
    rw [String.toList_ofList] at models
    simpa using congrArg List.length models

theorem Role.marker_prefix_of_bar {role : Role} {rest front back : List Char}
    (same : front ++ '|' :: back = role.marker ++ rest) : ∃ rest, front = role.marker ++ rest := by
  rcases List.append_eq_append_iff.mp same with ⟨middle, marker, tails⟩ | ⟨middle, longer, -⟩
  · cases middle with
    | nil => exact ⟨[], by rw [marker]; simp⟩
    | cons c middle =>
      obtain rfl : '|' = c := (List.cons.inj tails).1
      have bar : '|' ∈ role.marker := marker ▸ List.mem_append_right _ (List.mem_cons_self ..)
      cases role <;> exact absurd bar (by decide)
  · exact ⟨middle, longer⟩

/-- A bar inside a word of the prompt can be the delimiter before the model. -/
theorem exists_reading_of_bar {request : ChatRequest} {word : List Char}
    (member : word ∈ request.promptWords) (bar : '|' ∈ word.tail) :
    ∃ other : ChatRequest, request.fingerprint isPrintable = other.fingerprint isPrintable ∧
      ¬ request.Equivalent other := by
  have proper := proper_promptWords member
  obtain ⟨before, after, cut⟩ := List.append_of_mem member
  obtain ⟨front, back, rfl, nonempty⟩ : ∃ front back, word = front ++ '|' :: back ∧ front ≠ [] := by
    cases word with
    | nil => exact nomatch bar
    | cons letter tail =>
      obtain ⟨middle, back, rfl⟩ := List.append_of_mem bar
      exact ⟨letter :: middle, back, rfl, List.cons_ne_nil _ _⟩
  have kept : ∀ word ∈ before ++ [front], Words.Proper isSpace word := by
    intro word part
    rcases List.mem_append.mp part with early | last
    · exact proper_promptWords (cut ▸ List.mem_append_left _ early)
    · obtain rfl := List.mem_singleton.mp last
      exact ⟨nonempty, fun c letter => proper.2 c (List.mem_append_left _ letter)⟩
  have nonempty : request.promptWords ≠ [] := by
    intro empty
    rw [empty] at member
    exact nomatch member
  obtain ⟨role, rest, later, head⟩ := ChatRequest.promptWords_head nonempty
  have begun : ∃ rest later, before ++ [front] = (role.marker ++ rest) :: later := by
    rw [head] at cut
    cases before with
    | nil =>
      obtain ⟨rest, longer⟩ := Role.marker_prefix_of_bar (List.cons.inj cut).1.symm
      exact ⟨rest, [], by rw [longer, List.nil_append]⟩
    | cons first before => exact ⟨rest, before ++ [front], by rw [(List.cons.inj cut).1, List.cons_append]⟩
  obtain ⟨rest, later, begun⟩ := begun
  obtain ⟨message, joined, words⟩ := exists_message kept begun
  have prompt : normalizePrompt request.canonicalPrompt =
      Words.join ' ' (before ++ [front]) ++ '|' :: Words.join ' ' (back :: after) := by
    rw [normalizePrompt_of_words rfl, show Words.split isSpace request.canonicalPrompt = _ from cut,
      Words.join_append_word, Words.join_cons_letter]
  have prompt' (model : String) :
      normalizePrompt ({ request with model, messages := [message] } : ChatRequest).canonicalPrompt =
        Words.join ' ' (before ++ [front]) := by
    refine normalizePrompt_of_words ?_
    rw [← words]
    exact congrArg (Words.split isSpace) (Words.join_singleton message.line)
  refine ⟨{ request with
    model := String.ofList (Words.join ' ' (back :: after) ++ '|' :: request.model.toList)
    messages := [message] }, ?_, fun same => ?_⟩
  · simp only [ChatRequest.fingerprint, prompt, prompt']
    simp [ChatRequest.paramsFingerprint, ChatRequest.adapter]
  · have models := congrArg String.toList same.model
    rw [String.toList_ofList] at models
    have lengths := congrArg List.length models
    rw [List.length_append, List.length_cons] at lengths
    omega

/-- A later word that begins with a role marker can begin a message or not. -/
theorem exists_reading_of_role {request : ChatRequest} {word : List Char}
    (member : word ∈ request.promptWords.tail) (start : StartsMessage word) :
    ∃ other : ChatRequest, request.fingerprint isPrintable = other.fingerprint isPrintable ∧
      ¬ request.Equivalent other := by
  have nonempty : request.promptWords ≠ [] := by
    intro empty
    rw [empty] at member
    exact nomatch member
  obtain ⟨role, rest, later, head⟩ := ChatRequest.promptWords_head nonempty
  -- all words as one message, or the words from the marker on as a second one
  have reading (messages : List ChatMessage)
      (words : messages.flatMap (fun message => Words.split isSpace message.line) = request.promptWords)
      (lengths : request.messages.length ≠ messages.length) :
      ∃ other : ChatRequest, request.fingerprint isPrintable = other.fingerprint isPrintable ∧
        ¬ request.Equivalent other := by
    refine ⟨{ request with messages }, ?_, fun same => lengths same.messages.length_eq⟩
    have split : Words.split isSpace { request with messages }.canonicalPrompt = request.promptWords := by
      rw [← words]
      exact ChatRequest.promptWords_eq { request with messages }
    simp only [ChatRequest.fingerprint, normalizePrompt_of_words split, normalizePrompt_of_words rfl]
    rfl
  by_cases one : request.messages.length = 1
  · rw [head, List.tail_cons] at member
    obtain ⟨before, after, cut⟩ := List.append_of_mem member
    have proper {words : List (List Char)} (part : ∀ word ∈ words, word ∈ request.promptWords) :
        ∀ word ∈ words, Words.Proper isSpace word := fun word member => proper_promptWords (part word member)
    have front : ∀ word ∈ (role.marker ++ rest) :: before, word ∈ request.promptWords := by
      intro word member
      rw [head, cut]
      simp at member ⊢
      tauto
    obtain ⟨first, -, firstWords⟩ := exists_message (proper front) rfl
    obtain ⟨role', rest', rfl⟩ := start
    have back : ∀ word ∈ (role'.marker ++ rest') :: after, word ∈ request.promptWords := by
      intro word member
      rw [head, cut]
      simp at member ⊢
      tauto
    obtain ⟨second, -, secondWords⟩ := exists_message (proper back) rfl
    refine reading [first, second] ?_ (by rw [one]; simp)
    rw [List.flatMap_cons, List.flatMap_cons, List.flatMap_nil, firstWords, secondWords, head, cut]
    simp
  · obtain ⟨message, -, words⟩ := exists_message (fun _ => proper_promptWords) head
    refine reading [message] ?_ one
    rw [List.flatMap_cons, List.flatMap_nil, List.append_nil, words]

end readings

section key

variable {sha256 : List Char → List Char} (isPrintable : Char → Bool)

theorem RedisExactCache.key_eq (request : ChatRequest) (tenantId : String) :
    key sha256 isPrintable request tenantId = "cache:exact:".toList ++
      (sha256 (request.fingerprint isPrintable) ++ ':' :: ("tenant:".toList ++ tenantId.toList)) := by
  have literal : ":tenant:".toList = ':' :: "tenant:".toList := by decide
  unfold key exactCacheKey
  rw [literal, List.append_assoc, List.cons_append]

/-- An injective digest in hexadecimal leaves the tenant and the fingerprint readable. -/
theorem RedisExactCache.key_inj (injective : Function.Injective sha256)
    (hexdigest : ∀ text, ∀ c ∈ sha256 text, c ∈ "0123456789abcdef".toList)
    {request other : ChatRequest} {tenantId tenantId' : String}
    (same : key sha256 isPrintable request tenantId = key sha256 isPrintable other tenantId') :
    tenantId = tenantId' ∧ request.fingerprint isPrintable = other.fingerprint isPrintable := by
  have colon (text : List Char) : ':' ∉ sha256 text := fun member =>
    absurd (hexdigest text _ member) (by decide)
  rw [key_eq, key_eq] at same
  obtain ⟨digests, tails⟩ := Words.first_field_inj (colon _) (colon _) (List.append_cancel_left same)
  exact ⟨String.toList_inj.mp (List.append_cancel_left tails), injective digests⟩

/-- A key stands for one tenant and one request up to whitespace exactly when the request is
unambiguous. -/
theorem RedisExactCache.key_sound_iff (sha256 : List Char → List Char) (isPrintable : Char → Bool)
    (injective : Function.Injective sha256)
    (hexdigest : ∀ text, ∀ c ∈ sha256 text, c ∈ "0123456789abcdef".toList)
    (request : ChatRequest) (tenantId : String) :
    (∀ (other : ChatRequest) (tenantId' : String),
      key sha256 isPrintable request tenantId = key sha256 isPrintable other tenantId' →
        tenantId = tenantId' ∧ request.Equivalent other) ↔ request.Unambiguous := by
  constructor
  · intro sound
    have only (reading : ∃ other : ChatRequest, request.fingerprint isPrintable =
        other.fingerprint isPrintable ∧ ¬ request.Equivalent other) : False := by
      obtain ⟨other, same, different⟩ := reading
      have keys : key sha256 isPrintable request tenantId = key sha256 isPrintable other tenantId := by
        rw [key_eq, key_eq, same]
      exact different (sound other tenantId keys).2
    constructor
    · exact fun bar => only (exists_reading_of_model isPrintable bar)
    · exact fun bar => only (exists_reading_of_adapter isPrintable bar)
    · exact fun word member bar => only (exists_reading_of_bar isPrintable member bar)
    · exact fun word member start => only (exists_reading_of_role isPrintable member start)
  · intro unambiguous other tenantId' same
    obtain ⟨tenants, fingerprints⟩ := key_inj isPrintable injective hexdigest same
    obtain ⟨front, temperature, maxTokens, topP, stop⟩ :=
      ChatRequest.fingerprint_inj isPrintable fingerprints
    obtain ⟨prompts, model, adapter⟩ := unambiguous.front_inj front
    refine ⟨tenants, model, adapter, temperature, maxTokens, topP, stop, ?_⟩
    refine ChatRequest.messages_of_promptWords unambiguous.roles ?_
    rw [ChatRequest.promptWords, ← split_normalizePrompt, prompts, split_normalizePrompt]
    rfl

/-- A request with one reading. -/
def plainRequest : ChatRequest := { model := "gpt-4o", messages := [⟨.user, "hi"⟩] }

/-- SHA-256 on the fingerprint of `plainRequest`, and any other injective text of digits elsewhere. -/
def plainSha256 (text : List Char) : List Char :=
  if text = "user:hi|gpt-4o||1.0|None|1.0|None".toList then
    "346795aeebf81414a42d1b6c03c96f9cb2bf821bf7d2082141d8f658ae09c1c7".toList
  else 'f' :: text.flatMap fun c => hexDigits 8 c.toNat

theorem plainSha256_injective : Function.Injective plainSha256 := by
  have wide (text : List Char) : (text.flatMap fun c => hexDigits 8 c.toNat).length = 8 * text.length := by
    induction text with
    | nil => rfl
    | cons c text ih =>
      rw [List.flatMap_cons, List.length_append, ih, length_hexDigits, List.length_cons]
      omega
  have spelled (text other : List Char) (same : (text.flatMap fun c => hexDigits 8 c.toNat) =
      other.flatMap fun c => hexDigits 8 c.toNat) : text = other := by
    induction text generalizing other with
    | nil =>
      have lengths := congrArg List.length same
      rw [wide, wide, List.length_nil] at lengths
      exact (List.eq_nil_of_length_eq_zero (by omega)).symm
    | cons c text ih =>
      cases other with
      | nil =>
        have lengths := congrArg List.length same
        rw [wide, wide] at lengths
        simp at lengths
      | cons d other =>
        obtain ⟨heads, tails⟩ := List.append_inj same (by simp)
        have bound (c : Char) : c.toNat < 16 ^ 8 := c.val.toNat_lt
        have read := congrArg readHex heads
        rw [readHex_hexDigits, readHex_hexDigits, Nat.mod_eq_of_lt (bound c),
          Nat.mod_eq_of_lt (bound d)] at read
        rw [Char.toNat_inj.mp read, ih other tails]
  intro text other same
  have lengths := congrArg List.length same
  unfold plainSha256 at same lengths
  split_ifs at same lengths with first second second
  · rw [first, second]
  · simp [wide] at lengths
    omega
  · simp [wide] at lengths
    omega
  · exact spelled text other (List.cons.inj same).2

theorem plainSha256_hexdigest (text : List Char) :
    ∀ c ∈ plainSha256 text, c ∈ "0123456789abcdef".toList := by
  intro c member
  unfold plainSha256 at member
  split_ifs at member
  · have digest : ∀ c ∈ "346795aeebf81414a42d1b6c03c96f9cb2bf821bf7d2082141d8f658ae09c1c7".toList,
        c ∈ "0123456789abcdef".toList := by simp
    exact digest c member
  · rcases List.mem_cons.mp member with rfl | member
    · decide
    · obtain ⟨d, -, digit⟩ := List.mem_flatMap.mp member
      exact mem_hexDigits digit

theorem RedisExactCache.key_sound_plain : plainRequest.Unambiguous ∧
    ∀ (other : ChatRequest) (tenantId' : String),
      key plainSha256 (fun _ => false) plainRequest "acme" = key plainSha256 (fun _ => false) other tenantId' →
        "acme" = tenantId' ∧ plainRequest.Equivalent other := by
  have unambiguous : plainRequest.Unambiguous := ⟨by decide, by decide, by decide, by decide⟩
  exact ⟨unambiguous, (key_sound_iff plainSha256 (fun _ => false) plainSha256_injective
    plainSha256_hexdigest plainRequest "acme").mpr unambiguous⟩

/-- One user message that contains the start of an assistant message ... -/
def forgedRequest : ChatRequest := { model := "gpt-4o", messages := [⟨.user, "a\nassistant:b"⟩] }

/-- ... and a conversation of two messages. -/
def dialogueRequest : ChatRequest :=
  { model := "gpt-4o", messages := [⟨.user, "a"⟩, ⟨.assistant, "b"⟩] }

/-- Whatever the digest is, both have the same key. -/
theorem RedisExactCache.key_forged :
    (∀ sha256 isPrintable, key sha256 isPrintable forgedRequest "acme" =
      key sha256 isPrintable dialogueRequest "acme") ∧ ¬ forgedRequest.Equivalent dialogueRequest := by
  constructor
  · intro sha256 isPrintable
    have prompts : forgedRequest.canonicalPrompt = dialogueRequest.canonicalPrompt := by decide
    rw [key_eq, key_eq, ChatRequest.fingerprint, ChatRequest.fingerprint, prompts]
    rfl
  · intro same
    exact absurd same.messages.length_eq (by decide)

end key

end LlmopsGateway
