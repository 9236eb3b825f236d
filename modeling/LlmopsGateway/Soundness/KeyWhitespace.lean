import LlmopsGateway.Soundness.CacheKeySound

/-! # Whitespace and the exact-cache key

The prompt is normalized behind its role markers, which are not separated from the contents. A content that
begins with a word is glued to its marker, one that begins with whitespace is not; all other whitespace is
normalized away.
-/

namespace LlmopsGateway

open PyText

/-- A content that leaves its role marker a word of its own. -/
def ChatMessage.indented (message : ChatMessage) : Bool := message.content.toList.head?.all isSpace

/-- At every place both contents, or neither of them, are empty or begin with whitespace. -/
def ChatRequest.SameIndents (request other : ChatRequest) : Prop :=
  List.Forall₂ (fun message message' => message.indented = message'.indented) request.messages other.messages

variable {message message' : ChatMessage} {request other : ChatRequest}

/-- Two lines with the same words, the first ones glued to their markers in both or in neither. -/
theorem ChatMessage.split_line_of_indented (role : message.role = message'.role)
    (words : normalizePrompt message.content.toList = normalizePrompt message'.content.toList)
    (indents : message.indented = message'.indented) :
    Words.split isSpace message.line = Words.split isSpace message'.line := by
  have split : Words.split isSpace message.content.toList = Words.split isSpace message'.content.toList := by
    rw [← split_normalizePrompt, words, split_normalizePrompt]
  have runs : (Words.scan isSpace message.content.toList).1 = [] ↔
      (Words.scan isSpace message'.content.toList).1 = [] := by
    rw [Words.scan_fst_eq_nil_iff, Words.scan_fst_eq_nil_iff, ← indented, ← indented, indents]
  obtain ⟨run, later⟩ := Words.pack_inj runs split
  rw [split_line, split_line, role, run, later]

/-- What the first word of a line says about its content, and where the words of the line end. -/
theorem ChatMessage.indented_of_split_line (role : message.role = message'.role)
    (words : normalizePrompt message.content.toList = normalizePrompt message'.content.toList)
    {rest rest' : List (List Char)}
    (same : Words.split isSpace message.line ++ rest = Words.split isSpace message'.line ++ rest') :
    message.indented = message'.indented ∧ rest = rest' := by
  rw [split_line, split_line, role, List.cons_append, List.cons_append] at same
  obtain ⟨heads, tails⟩ := List.cons.inj same
  have run := List.append_cancel_left heads
  have indents : message.indented = message'.indented := by
    rw [Bool.eq_iff_iff, indented, indented, ← Words.scan_fst_eq_nil_iff, ← Words.scan_fst_eq_nil_iff, run]
  have lines := split_line_of_indented role words indents
  rw [split_line, split_line, role] at lines
  rw [(List.cons.inj lines).2] at tails
  exact ⟨indents, List.append_cancel_left tails⟩

theorem ChatRequest.normalizePrompt_eq_iff (request other : ChatRequest) :
    normalizePrompt request.canonicalPrompt = normalizePrompt other.canonicalPrompt ↔
      request.promptWords = other.promptWords := by
  constructor
  · intro same
    rw [promptWords, ← split_normalizePrompt, same, split_normalizePrompt, ← promptWords]
  · intro same
    rw [normalizePrompt_of_words rfl, normalizePrompt_of_words rfl, ← promptWords, same, promptWords]

/-- The prompts of equivalent requests have the same words exactly when their contents are glued at the same
places. -/
theorem ChatRequest.Equivalent.promptWords_eq_iff (equivalent : request.Equivalent other) :
    request.promptWords = other.promptWords ↔ request.SameIndents other := by
  have messages := equivalent.messages
  rw [promptWords_eq, promptWords_eq, SameIndents]
  generalize request.messages = messages₁ at messages ⊢
  generalize other.messages = messages₂ at messages ⊢
  induction messages with
  | nil => exact ⟨fun _ => .nil, fun _ => rfl⟩
  | cons here _ ih =>
    rw [List.flatMap_cons, List.flatMap_cons, List.forall₂_cons]
    constructor
    · intro same
      obtain ⟨indents, later⟩ := ChatMessage.indented_of_split_line here.1 here.2 same
      exact ⟨indents, ih.mp later⟩
    · rintro ⟨indents, later⟩
      rw [ChatMessage.split_line_of_indented here.1 here.2 indents, ih.mpr later]

variable {sha256 : List Char → List Char} (isPrintable : Char → Bool)

theorem ChatRequest.Equivalent.paramsFingerprint_eq (equivalent : request.Equivalent other) :
    request.paramsFingerprint isPrintable = other.paramsFingerprint isPrintable := by
  simp only [paramsFingerprint, equivalent.model, equivalent.adapter, equivalent.temperature,
    equivalent.maxTokens, equivalent.topP, equivalent.stop]

theorem exactCacheKey_eq_iff_fingerprint
    (collisionFree : sha256 (request.fingerprint isPrintable) = sha256 (other.fingerprint isPrintable) →
      request.fingerprint isPrintable = other.fingerprint isPrintable) :
    exactCacheKey sha256 isPrintable request = exactCacheKey sha256 isPrintable other ↔
      request.fingerprint isPrintable = other.fingerprint isPrintable := by
  constructor
  · intro same
    exact collisionFree (List.append_cancel_left same)
  · intro same
    unfold exactCacheKey
    rw [same]

/-- Two requests with the same parameters, roles and words share their key exactly when the contents that begin
with a word stand at the same places. -/
theorem exactCacheKey_eq_iff (equivalent : request.Equivalent other)
    (collisionFree : sha256 (request.fingerprint isPrintable) = sha256 (other.fingerprint isPrintable) →
      request.fingerprint isPrintable = other.fingerprint isPrintable) :
    exactCacheKey sha256 isPrintable request = exactCacheKey sha256 isPrintable other ↔
      request.SameIndents other := by
  rw [exactCacheKey_eq_iff_fingerprint isPrintable collisionFree, ChatRequest.fingerprint,
    ChatRequest.fingerprint, equivalent.paramsFingerprint_eq isPrintable,
    List.append_left_inj, ChatRequest.normalizePrompt_eq_iff, equivalent.promptWords_eq_iff]

/-- `plainRequest` with a space before the content, another after it ... -/
def spacedRequest : ChatRequest := { plainRequest with messages := [⟨.user, " hi "⟩] }

/-- ... and with the second space only. -/
def trailingRequest : ChatRequest := { plainRequest with messages := [⟨.user, "hi "⟩] }

/-- SHA-256 on the fingerprints of these requests. -/
def spacedSha256 (text : List Char) : List Char :=
  if text = "user: hi|gpt-4o||1.0|None|1.0|None".toList then
    "1ef5468fd9d3efd97f34376b1537ab3474a67db42b0020735814fe97e0f8f774".toList
  else plainSha256 text

theorem plainRequest_equivalent : plainRequest.Equivalent trailingRequest :=
  ⟨rfl, rfl, rfl, rfl, rfl, rfl, .cons (by decide) .nil⟩

theorem exactCacheKey_eq_trailing : plainRequest.SameIndents trailingRequest ∧
    exactCacheKey spacedSha256 (fun _ => false) plainRequest =
      exactCacheKey spacedSha256 (fun _ => false) trailingRequest := by
  have same : plainRequest.SameIndents trailingRequest := .cons (by decide) .nil
  have fingerprints : plainRequest.fingerprint (fun _ => false) =
      trailingRequest.fingerprint (fun _ => false) := by
    decide
  exact ⟨same, (exactCacheKey_eq_iff (fun _ => false) plainRequest_equivalent fun _ => fingerprints).mpr same⟩

/-- A space in front of the first word changes the key. -/
theorem exactCacheKey_ne_spaced : plainRequest.Equivalent spacedRequest ∧
    exactCacheKey spacedSha256 (fun _ => false) plainRequest ≠
      exactCacheKey spacedSha256 (fun _ => false) spacedRequest :=
  ⟨⟨rfl, rfl, rfl, rfl, rfl, rfl, .cons (by decide) .nil⟩, by decide⟩

end LlmopsGateway
