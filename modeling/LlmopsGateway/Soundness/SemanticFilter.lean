import LlmopsGateway.Soundness.CacheKeySound

/-! # What the semantic cache filters by

The parameter fingerprint joins its fields with bars and escapes none. Read from the right its numbers
and stop list are determined, whatever bars the adapter holds; the model is a field of the filter itself,
so what is left of the fingerprint is the adapter.
-/

namespace LlmopsGateway

open PyText

variable {isPrintable : Char → Bool} {request other : ChatRequest}

theorem ChatRequest.paramsFingerprint_eq (isPrintable : Char → Bool) (request : ChatRequest) :
    request.paramsFingerprint isPrintable =
      ((((request.model.toList ++ '|' :: request.adapter.toList) ++ '|' :: request.temperature.text.toList) ++
        '|' :: strOfInt request.maxTokens) ++ '|' :: request.topP.text.toList) ++
          '|' :: strOfStop isPrintable request.stop := by
  simp only [paramsFingerprint, List.append_assoc, List.cons_append]

/-- Under one model the fingerprint determines the adapter and the other parameters. -/
theorem ChatRequest.paramsFingerprint_inj (model : request.model = other.model)
    (same : request.paramsFingerprint isPrintable = other.paramsFingerprint isPrintable) :
    request.adapter = other.adapter ∧ request.temperature = other.temperature ∧
      request.maxTokens = other.maxTokens ∧ request.topP = other.topP ∧ request.stop = other.stop := by
  rw [paramsFingerprint_eq, paramsFingerprint_eq] at same
  obtain ⟨front, numbers⟩ := numbers_inj isPrintable same
  rw [model] at front
  exact ⟨String.toList_inj.mp (List.cons.inj (List.append_cancel_left front)).2, numbers⟩

/-- Requests with one filter agree in the tenant and in every parameter. The hash is cut to 16 digits, so
that it tells fingerprints apart is assumed of the two at hand. -/
theorem QdrantSemanticCache.buildFilter_inj (sha256 : List Char → List Char) (isPrintable : Char → Bool)
    (request other : ChatRequest) (tenantId tenantId' : String)
    (collisionFree : paramsHash sha256 isPrintable request = paramsHash sha256 isPrintable other →
      request.paramsFingerprint isPrintable = other.paramsFingerprint isPrintable)
    (same : buildFilter sha256 isPrintable request tenantId = buildFilter sha256 isPrintable other tenantId') :
    tenantId = tenantId' ∧ request.model = other.model ∧ request.adapter = other.adapter ∧
      request.temperature = other.temperature ∧ request.maxTokens = other.maxTokens ∧
      request.topP = other.topP ∧ request.stop = other.stop := by
  obtain ⟨tenants, model, hashes⟩ := SemanticFilter.mk.inj same
  exact ⟨tenants, model, ChatRequest.paramsFingerprint_inj model (collisionFree hashes)⟩

/-- `str.isprintable` of a character in ASCII. -/
def isAsciiPrintable (c : Char) : Bool := 0x20 ≤ c.toNat && c.toNat < 0x7f

/-- Bars in the adapter and in a stop word, and a stop word with both kinds of quotes. -/
def barredRequest : ChatRequest :=
  { plainRequest with adapterId := some "a|b", stop := some ["x|y", "it's \"q\""] }

/-- The same parameters under another prompt, streamed. -/
def barredStream : ChatRequest :=
  { barredRequest with messages := [{ role := .user, content := "a|b" }], stream := true }

def barredText : List Char := "gpt-4o|a|b|1.0|None|1.0|['x|y', 'it\\'s \"q\"']".toList

/-- SHA-256 on the fingerprint of these requests, and the text itself elsewhere. -/
def paramsSha256 (text : List Char) : List Char :=
  if text = barredText then
    "bf1d1a8af2667ec2c5d3b356b3b0e8301dc5aa8efd3bcfeb3a22e267cb4f3781".toList
  else text

theorem QdrantSemanticCache.buildFilter_barred :
    barredRequest.paramsFingerprint isAsciiPrintable = barredText ∧ "acme" = "acme" ∧
      barredRequest.model = barredStream.model ∧ barredRequest.adapter = barredStream.adapter ∧
      barredRequest.temperature = barredStream.temperature ∧ barredRequest.maxTokens = barredStream.maxTokens ∧
      barredRequest.topP = barredStream.topP ∧ barredRequest.stop = barredStream.stop :=
  ⟨by decide, buildFilter_inj paramsSha256 isAsciiPrintable barredRequest barredStream "acme" "acme"
    (fun _ => rfl) rfl⟩

end LlmopsGateway
