import LlmopsGateway.Model.JsonText
import LlmopsGateway.Soundness.AnthropicBlocks
import LlmopsGateway.Soundness.StreamMarkers

/-! # The Anthropic stream, block by block

The decoder should say what the blocks say: the texts of the deltas up to the first block that stops the message
or reports an error. It does exactly if the blocks are intact.
-/

namespace LlmopsGateway.AnthropicProvider

open Machine PyText

variable {loads : Loads}

/-- A response with these lines, after which the body may break off. -/
def replyOf (lines : List (List Char)) (bodyEnd : BodyEnd) : StreamReply :=
  { statusCode := 200, lines := splitLines (body lines), bodyEnd }

section stream

variable (isPrintable : Char → Bool)

def streamOf (before : List OtherLine) (blocks : List (Block loads)) (bodyEnd : BodyEnd) : Streamed :=
  streamImpl loads isPrintable (.reply (replyOf (linesOf before blocks) bodyEnd))

/-- A stream yields the texts, raises a `ProviderResponseError` exactly if the message ends in an error, and
ends with a stop or else with the body. -/
structure Decoded (message : Message) (bodyEnd : BodyEnd) (streamed : Streamed) : Prop where
  chunks : streamed.chunks = message.texts
  raises : (∃ text, streamed.outcome = .error (.provider (.response text 200))) ↔
    message.closing = some .report
  stops : message.closing = some .stop → streamed.outcome = .ok ()
  ends : message.closing = none → streamed.outcome = bodyEnd.outcome "Anthropic"

/-- However many of the blocks arrive and however the body ends then, the stream gives what these blocks say;
and nothing behind the end of the message is read. -/
structure Decodes (before : List OtherLine) (blocks : List (Block loads)) : Prop where
  decoded : ∀ front back bodyEnd, blocks = front ++ back →
    Decoded (spoken front) bodyEnd (streamOf isPrintable before front bodyEnd)
  consumed : ∀ front back bodyEnd, blocks = front ++ back → (spoken front).closing ≠ none →
    arrived (back.flatMap Block.lines) <:+ (streamOf isPrintable before blocks bodyEnd).unread

end stream

section scans

/-- A scan gives a message. -/
structure Gives {ρ : Type} (scanned : Scan (List Char) ρ Json Raised) (message : Message) : Prop where
  outputs : scanned.outputs = message.texts
  ending :
    match message.closing with
    | none => ∃ register, scanned.ending = .exhausted register
    | some .stop => scanned.ending = .finished
    | some .report => ∃ text, scanned.ending = .failed (.provider (.response text 200))
    | some .broken => ∃ error, scanned.ending = .failed error ∧ ∀ typed, error ≠ .provider typed

variable (isPrintable : Char → Bool)

variable {isPrintable} in
theorem Gives.prepend {ρ : Type} {scanned : Scan (List Char) ρ Json Raised} {message : Message} (text : Json)
    (gives : Gives scanned message) : Gives (scanned.prepend [text]) (message.say text) :=
  ⟨congrArg (text :: ·) gives.outputs, gives.ending⟩

section decoding

/-- Only an `error` event raises a `ProviderResponseError` in a stream. -/
theorem bodyEnd_outcome_ne (bodyEnd : BodyEnd) (label text : String) (statusCode : ℕ) :
    bodyEnd.outcome label ≠ .error (.provider (.response text statusCode)) := by
  intro same
  cases bodyEnd with
  | complete => cases same
  | timeout message => cases congrArg ProviderError.statusCode (Raised.provider.inj (Except.error.inj same))
  | transport message => cases congrArg ProviderError.statusCode (Raised.provider.inj (Except.error.inj same))
  | escaped => cases same

variable {ρ : Type} {scanned : Scan (List Char) ρ Json Raised} {given : Message}

/-- How a stream ends, by the end of what it gives. -/
inductive Ends (bodyEnd : BodyEnd) : Option Closing → Except Raised Unit → Prop
  | goesOn : Ends bodyEnd none (bodyEnd.outcome "Anthropic")
  | stop : Ends bodyEnd (some .stop) (.ok ())
  | report (text : String) : Ends bodyEnd (some .report) (.error (.provider (.response text 200)))
  | broken (error : Raised) (untyped : ∀ typed, error ≠ .provider typed) :
    Ends bodyEnd (some .broken) (.error error)

theorem Gives.ends (gives : Gives scanned given) (lines : List (List Char)) (bodyEnd : BodyEnd) :
    Ends bodyEnd given.closing ((replyOf lines bodyEnd).streamed "Anthropic" scanned).outcome := by
  have ending := gives.ending
  rw [StreamReply.streamed]
  cases closing : given.closing with
  | none =>
    rw [closing] at ending
    obtain ⟨register, exhausted⟩ := ending
    rw [exhausted]
    exact .goesOn
  | some closing' =>
    rw [closing] at ending
    cases closing' with
    | stop =>
      rw [ending]
      exact .stop
    | report =>
      obtain ⟨text, failed⟩ := ending
      rw [failed]
      exact .report text
    | broken =>
      obtain ⟨error, failed, untyped⟩ := ending
      rw [failed]
      exact .broken error untyped

theorem Ends.decoded {bodyEnd : BodyEnd} {streamed : Streamed}
    (ends : Ends bodyEnd given.closing streamed.outcome) (chunks : streamed.chunks = given.texts)
    (unbroken : given.closing ≠ some .broken) : Decoded given bodyEnd streamed := by
  generalize outcome : streamed.outcome = result at ends
  generalize closing : given.closing = closed at ends
  cases ends with
  | goesOn =>
    refine ⟨chunks, ?_, fun stops => absurd (closing.symm.trans stops) nofun, fun _ => outcome⟩
    rw [outcome, closing]
    exact iff_of_false (fun ⟨text, same⟩ => bodyEnd_outcome_ne _ _ _ _ same) nofun
  | stop =>
    refine ⟨chunks, ?_, fun _ => outcome, fun goesOn => absurd (closing.symm.trans goesOn) nofun⟩
    rw [outcome, closing]
    exact iff_of_false nofun nofun
  | report text =>
    refine ⟨chunks, ?_, fun stops => absurd (closing.symm.trans stops) nofun,
      fun goesOn => absurd (closing.symm.trans goesOn) nofun⟩
    rw [outcome, closing]
    exact iff_of_true ⟨text, rfl⟩ rfl
  | broken error untyped => exact absurd closing unbroken

/-- The end shows in the outcomes, if the body may be complete or break off. -/
theorem Ends.inj {first second : Option Closing} {outcome : BodyEnd → Except Raised Unit}
    (ends : ∀ bodyEnd, Ends bodyEnd first (outcome bodyEnd))
    (others : ∀ bodyEnd, Ends bodyEnd second (outcome bodyEnd)) : first = second := by
  have complete := ends .complete
  have complete' := others .complete
  have late := ends (.timeout "")
  have late' := others (.timeout "")
  generalize outcome .complete = whole at complete complete'
  generalize outcome (.timeout "") = torn at late late'
  cases complete with
  | goesOn =>
    cases complete' with
    | goesOn => rfl
    | stop =>
      cases late
      cases late'
  | stop =>
    cases complete' with
    | goesOn =>
      cases late
      cases late'
    | stop => rfl
  | report text =>
    cases complete' with
    | report => rfl
    | broken error untyped => exact absurd rfl (untyped _)
  | broken error untyped =>
    cases complete' with
    | report text => exact absurd rfl (untyped _)
    | broken => rfl

end decoding

end scans

section streams

variable (isPrintable : Char → Bool)

/-- Blocks are intact if no line is cut and `json.loads` does not give up on them. -/
theorem intactBehind_of_whole {before : List OtherLine} {blocks : List (Block loads)}
    (uncut : ∀ line ∈ before, isCut line.text = false) (whole : ∀ block ∈ blocks, block.Whole) :
    IntactBehind before blocks := by
  refine ⟨.inl uncut, ?_⟩
  generalize inForce none (arrived (before.map OtherLine.text)) = name
  induction blocks generalizing name with
  | nil => trivial
  | cons block rest ih =>
    obtain ⟨here, later⟩ := List.forall_mem_cons.mp whole
    exact ⟨.inl here, fun _ => ih later _⟩

end streams

section separators

/-- The text `a\u2028b` with the separator as it is. -/
def separatorFields : List (String × Json) := [("delta", .obj [("text", .str "a\u2028b")])]

end separators

end LlmopsGateway.AnthropicProvider
