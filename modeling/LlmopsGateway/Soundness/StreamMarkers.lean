import LlmopsGateway.Model.ProviderStream
import LlmopsGateway.Soundness.RetryRuns

/-! # How a stream comes to its end

A provider marks the end of a completion: OpenAI with `data: [DONE]`, Anthropic with a `message_stop`. The
decoders stop at the marker, but they stop as well where the lines run out, and the one for OpenAI passes
over an event that reports an error. `Regular` says which deliveries are read as what they are.
-/

namespace LlmopsGateway

open Machine PyText

namespace Adapter

variable (loads : Loads) (isPrintable : Char → Bool)

/-- What an adapter keeps from line to line: nothing, or the name of the last `event:` line. -/
def Register : Adapter → Type
  | openai => Unit
  | anthropic => Option (List Char)

def start : (adapter : Adapter) → adapter.Register
  | openai => ()
  | anthropic => none

def advance : (adapter : Adapter) → adapter.Register → List Char → adapter.Register
  | openai, _, _ => ()
  | anthropic, current, line => (field? "event:".toList line).or current

def label : Adapter → String
  | openai => "OpenAI"
  | anthropic => "Anthropic"

/-- One round of the loop over the lines. -/
def readLine (statusCode : ℕ) :
    (adapter : Adapter) → adapter.Register → List Char → Verdict adapter.Register Json Raised
  | openai => OpenAIProvider.readLine loads
  | anthropic => AnthropicProvider.readLine loads isPrintable statusCode

/-- A line, and what is kept when it is read. -/
abbrev Place (adapter : Adapter) : Type := adapter.Register × List Char

def places (adapter : Adapter) (lines : List (List Char)) : List adapter.Place :=
  decorated adapter.advance adapter.start lines

/-- What `json.loads` makes of the data of a line. -/
def loaded? (line : List Char) : Option (Except LoadError Json) := (dataOf? line).map loads

/-- The provider's mark at the end of a completion. -/
def IsMarker : (adapter : Adapter) → adapter.Place → Prop
  | openai, (_, line) => dataOf? line = some "[DONE]".toList
  | anthropic, (current, line) =>
    current = some "message_stop".toList ∧ ∃ event, loaded? loads line = some (.ok event)

/-- An event by which the provider reports an error. -/
def ReportsError : (adapter : Adapter) → adapter.Place → Prop
  | openai, (_, line) => dataOf? line ≠ some "[DONE]".toList ∧ ∃ fields error,
    loaded? loads line = some (.ok (.obj fields)) ∧ Json.field? fields "error" = some error ∧ error ≠ .null
  | anthropic, (current, line) => current = some "error".toList ∧ ∃ event, loaded? loads line = some (.ok event)

/-- Data that `json.loads` gives up on, or of a shape that the adapter takes apart with an exception. -/
def IsMalformed : (adapter : Adapter) → adapter.Place → Prop
  | openai, (_, line) => dataOf? line ≠ some "[DONE]".toList ∧ (loaded? loads line = some (.error .other) ∨
    ∃ event error, loaded? loads line = some (.ok event) ∧ OpenAIProvider.deltaContent event = .error error)
  | anthropic, (current, line) => loaded? loads line = some (.error .other) ∨
    ∃ event error, loaded? loads line = some (.ok event) ∧
      (current = some "content_block_delta".toList ∧ AnthropicProvider.deltaText event = .error error ∨
        current = some "error".toList ∧ AnthropicProvider.errorMessage event = .error error)

/-- What an adapter makes of a line. -/
inductive Reads (adapter : Adapter) (place : adapter.Place) : Verdict adapter.Register Json Raised → Prop
  | marker (marked : IsMarker loads adapter place) : Reads adapter place .finish
  | malformed (error : Raised) (unmarked : ¬ IsMarker loads adapter place)
    (malformed : IsMalformed loads adapter place)
    (untyped : ∀ typed, error ≠ .provider typed) : Reads adapter place (.fail error)
  | reported (error : ProviderError) (unmarked : ¬ IsMarker loads adapter place)
    (formed : ¬ IsMalformed loads adapter place) (anthropic : adapter = .anthropic)
    (reports : ReportsError loads adapter place) : Reads adapter place (.fail (.provider error))
  | passed (output : Option Json) (unmarked : ¬ IsMarker loads adapter place)
    (formed : ¬ IsMalformed loads adapter place)
    (silent : adapter = .anthropic → ¬ ReportsError loads adapter place) :
    Reads adapter place (.pass (adapter.advance place.1 place.2) output)

theorem reads_openai (register : Unit) (line : List Char) :
    Reads loads openai (register, line) (OpenAIProvider.readLine loads register line) := by
  rw [OpenAIProvider.readLine]
  cases found : dataOf? line with
  | none => exact .passed none (by simp [IsMarker, found]) (by simp [IsMalformed, loaded?, found]) nofun
  | some data =>
    simp only
    split_ifs with done
    · exact .marker (found.trans (congrArg some done))
    · have unmarked : ¬ IsMarker loads openai (register, line) := fun marked =>
        done (Option.some.inj (found.symm.trans marked))
      cases read : loads data with
      | error error =>
        cases error with
        | decode => exact .passed none unmarked (by simp [IsMalformed, loaded?, found, read]) nofun
        | other => exact .malformed .library unmarked ⟨unmarked, .inl (by simp [loaded?, found, read])⟩ nofun
      | ok event =>
        have loaded : loaded? loads line = some (.ok event) := by simp [loaded?, found, read]
        simp only [OpenAIProvider.readEvent]
        cases delta : OpenAIProvider.deltaContent event with
        | error error =>
          exact .malformed (.shape error) unmarked ⟨unmarked, .inr ⟨event, error, loaded, delta⟩⟩ nofun
        | ok content => exact .passed _ unmarked (by simp [IsMalformed, loaded, delta]) nofun

theorem dataOf?_of_event {line name : List Char} (named : field? "event:".toList line = some name) :
    dataOf? line = none := by
  rw [field?] at named
  split_ifs at named with event
  obtain ⟨rest, rfl⟩ := List.isPrefixOf_iff_prefix.mp event
  rfl

theorem isMalformed_iff_of_loaded {current : Option (List Char)} {line : List Char} {event : Json}
    (loaded : loaded? loads line = some (.ok event)) :
    IsMalformed loads anthropic (current, line) ↔ ∃ error,
      current = some "content_block_delta".toList ∧ AnthropicProvider.deltaText event = .error error ∨
        current = some "error".toList ∧ AnthropicProvider.errorMessage event = .error error := by
  constructor
  · rintro (other | ⟨found, error, loaded', which⟩)
    · cases loaded.symm.trans other
    · obtain rfl := Except.ok.inj (Option.some.inj (loaded.symm.trans loaded'))
      exact ⟨error, which⟩
  · rintro ⟨error, which⟩
    exact .inr ⟨event, error, loaded, which⟩

theorem Reads.passed_to {current after : Option (List Char)} {line : List Char} (output : Option Json)
    (moved : advance anthropic current line = after) (unmarked : ¬ IsMarker loads anthropic (current, line))
    (formed : ¬ IsMalformed loads anthropic (current, line))
    (silent : ¬ ReportsError loads anthropic (current, line)) :
    Reads loads anthropic (current, line) (.pass after output) := by
  subst moved
  exact .passed output unmarked formed fun _ => silent

/-- The data of an event under the name that is current. -/
theorem reads_event (statusCode : ℕ) {current : Option (List Char)} {line : List Char} {event : Json}
    (loaded : loaded? loads line = some (.ok event)) (unnamed : field? "event:".toList line = none) :
    Reads loads anthropic (current, line)
      (AnthropicProvider.readEvent isPrintable statusCode current event) := by
  have moved : advance anthropic current line = current := congrArg (·.or current) unnamed
  have malformed_iff : IsMalformed loads anthropic (current, line) ↔ _ := isMalformed_iff_of_loaded loads loaded
  unfold AnthropicProvider.readEvent
  split
  · next delta =>
    subst delta
    have unmarked : some "content_block_delta".toList ≠ some "message_stop".toList := by decide
    have silent : some "content_block_delta".toList ≠ some "error".toList := by decide
    cases text : AnthropicProvider.deltaText event with
    | error error =>
      exact .malformed (.shape error) (fun marked => unmarked marked.1)
        (malformed_iff.mpr ⟨error, .inl ⟨rfl, text⟩⟩) nofun
    | ok text' =>
      refine Reads.passed_to loads _ moved (fun marked => unmarked marked.1) (fun malformed => ?_)
        fun reports => silent reports.1
      obtain ⟨error, ⟨-, failed⟩ | ⟨other, -⟩⟩ := malformed_iff.mp malformed
      · cases failed.symm.trans text
      · exact silent other
  · next notDelta =>
    split
    · next reports =>
      subst reports
      have unmarked : some "error".toList ≠ some "message_stop".toList := by decide
      unfold AnthropicProvider.streamError
      cases message : AnthropicProvider.errorMessage event with
      | error error =>
        exact .malformed (.shape error) (fun marked => unmarked marked.1)
          (malformed_iff.mpr ⟨error, .inr ⟨rfl, message⟩⟩) nofun
      | ok text =>
        refine .reported _ (fun marked => unmarked marked.1) (fun malformed => ?_) rfl ⟨rfl, event, loaded⟩
        obtain ⟨error, ⟨other, -⟩ | ⟨-, failed⟩⟩ := malformed_iff.mp malformed
        · exact notDelta other
        · cases failed.symm.trans message
    · next notError =>
      split
      · next stop => exact .marker ⟨stop, event, loaded⟩
      · next notStop =>
        refine Reads.passed_to loads none moved (fun marked => notStop marked.1) (fun malformed => ?_)
          fun reports => notError reports.1
        obtain ⟨error, ⟨delta, -⟩ | ⟨reports, -⟩⟩ := malformed_iff.mp malformed
        · exact notDelta delta
        · exact notError reports

/-- A line that is no data, or whose data does not parse. -/
theorem reads_skipped {current after : Option (List Char)} {line : List Char}
    (moved : advance anthropic current line = after)
    (skipped : loaded? loads line = none ∨ loaded? loads line = some (.error .decode)) :
    Reads loads anthropic (current, line) (.pass after none) := by
  rcases skipped with nothing | unparsable
  · exact Reads.passed_to loads none moved (by simp [IsMarker, nothing]) (by simp [IsMalformed, nothing])
      (by simp [ReportsError, nothing])
  · exact Reads.passed_to loads none moved (by simp [IsMarker, unparsable]) (by simp [IsMalformed, unparsable])
      (by simp [ReportsError, unparsable])

theorem reads_anthropic (statusCode : ℕ) (current : Option (List Char)) (line : List Char) :
    Reads loads anthropic (current, line)
      (AnthropicProvider.readLine loads isPrintable statusCode current line) := by
  unfold AnthropicProvider.readLine
  cases named : field? "event:".toList line with
  | some name =>
    refine reads_skipped loads (congrArg (·.or current) named) (.inl ?_)
    rw [loaded?, dataOf?_of_event named]
    rfl
  | none =>
    have moved : advance anthropic current line = current := congrArg (·.or current) named
    simp only
    cases found : dataOf? line with
    | none => exact reads_skipped loads moved (.inl (by rw [loaded?, found]; rfl))
    | some data =>
      have loaded : loaded? loads line = some (loads data) := by rw [loaded?, found]; rfl
      simp only
      cases read : loads data with
      | error error =>
        rw [read] at loaded
        cases error with
        | decode => exact reads_skipped loads moved (.inr loaded)
        | other => exact .malformed .library (by simp [IsMarker, loaded]) (.inl loaded) nofun
      | ok event => exact reads_event loads isPrintable statusCode (loaded.trans (congrArg some read)) named

theorem reads_readLine (statusCode : ℕ) : ∀ (adapter : Adapter) (place : adapter.Place),
    Reads loads adapter place (readLine loads isPrintable statusCode adapter place.1 place.2)
  | openai, (register, line) => reads_openai loads register line
  | anthropic, (current, line) => reads_anthropic loads isPrintable statusCode current line

section deliveries

variable (adapter : Adapter) (reply : StreamReply)

/-- The completion is marked as complete, and no error is reported before. -/
def Finished : Prop := ∃ before place after, adapter.places reply.lines = before ++ place :: after ∧
  IsMarker loads adapter place ∧ ∀ other ∈ before, ¬ ReportsError loads adapter other

/-- An error is reported before the end is marked and before anything malformed. -/
def Reported : Prop := ∃ before place after, adapter.places reply.lines = before ++ place :: after ∧
  ReportsError loads adapter place ∧ ¬ IsMalformed loads adapter place ∧
    ∀ other ∈ before, ¬ IsMarker loads adapter other ∧ ¬ IsMalformed loads adapter other

/-- The client fails, with neither a mark nor anything malformed before. -/
def Interrupted : Prop :=
  (∀ place ∈ adapter.places reply.lines, ¬ IsMarker loads adapter place ∧ ¬ IsMalformed loads adapter place) ∧
    ∃ message, reply.bodyEnd = .timeout message ∨ reply.bodyEnd = .transport message

/-- The deliveries that are read as what they are. -/
def Regular : Prop :=
  Finished loads adapter reply ∨ adapter = .anthropic ∧ Reported loads adapter reply ∨
    Interrupted loads adapter reply

/-- An error is reported, and no marker stands before it. -/
def ReportedFirst : Prop := ∃ before place after, adapter.places reply.lines = before ++ place :: after ∧
  ReportsError loads adapter place ∧ ∀ other ∈ before, ¬ IsMarker loads adapter other

/-- A stream ends normally only behind a marker; without one, or with an error reported before it, a
`ProviderError` is raised. -/
structure Honest : Prop where
  finishes : (adapter.streamImpl loads isPrintable (.reply reply)).outcome = .ok () →
    ∃ before place after, adapter.places reply.lines = before ++ place :: after ∧ IsMarker loads adapter place ∧
      (adapter.streamImpl loads isPrintable (.reply reply)).unread = after.map Prod.snd
  truncated : (∀ place ∈ adapter.places reply.lines, ¬ IsMarker loads adapter place) →
    ∃ error, (adapter.streamImpl loads isPrintable (.reply reply)).outcome = .error (.provider error)
  reported : ReportedFirst loads adapter reply →
    ∃ error, (adapter.streamImpl loads isPrintable (.reply reply)).outcome = .error (.provider error)

end deliveries

section outcomes

variable {loads isPrintable} {adapter : Adapter} {reply : StreamReply}

theorem streamImpl_reply (accepted : reply.statusCode = 200) :
    adapter.streamImpl loads isPrintable (.reply reply) =
    reply.streamed adapter.label
      (scan (readLine loads isPrintable reply.statusCode adapter) adapter.start reply.lines) := by
  cases adapter with
  | openai =>
    rw [streamImpl, OpenAIProvider.streamImpl, streamImplOf_reply accepted]
    rfl
  | anthropic =>
    rw [streamImpl, AnthropicProvider.streamImpl, streamImplOf_reply accepted]
    rfl

/-- A line that the adapter goes on behind. -/
structure Silent (loads : Loads) (adapter : Adapter) (place : adapter.Place) : Prop where
  unmarked : ¬ IsMarker loads adapter place
  formed : ¬ IsMalformed loads adapter place
  unreported : adapter = .anthropic → ¬ ReportsError loads adapter place

/-- How a delivery is read: to its end, up to a marker, up to something malformed, or up to a report. -/
inductive Ends (loads : Loads) (adapter : Adapter) (reply : StreamReply) (streamed : Streamed) : Prop
  | exhausted (silent : ∀ place ∈ adapter.places reply.lines, Silent loads adapter place)
    (outcome : streamed.outcome = reply.bodyEnd.outcome adapter.label)
  | marked (before : List adapter.Place) (place : adapter.Place) (after : List adapter.Place)
    (parts : adapter.places reply.lines = before ++ place :: after)
    (silent : ∀ other ∈ before, Silent loads adapter other) (marker : IsMarker loads adapter place)
    (outcome : streamed.outcome = .ok ()) (unread : streamed.unread = after.map Prod.snd)
  | malformed (before : List adapter.Place) (place : adapter.Place) (after : List adapter.Place)
    (parts : adapter.places reply.lines = before ++ place :: after)
    (silent : ∀ other ∈ before, Silent loads adapter other) (unmarked : ¬ IsMarker loads adapter place)
    (malformed : IsMalformed loads adapter place) (error : Raised) (untyped : ∀ typed, error ≠ .provider typed)
    (outcome : streamed.outcome = .error error)
  | reported (before : List adapter.Place) (place : adapter.Place) (after : List adapter.Place)
    (parts : adapter.places reply.lines = before ++ place :: after)
    (silent : ∀ other ∈ before, Silent loads adapter other) (unmarked : ¬ IsMarker loads adapter place)
    (formed : ¬ IsMalformed loads adapter place) (anthropic : adapter = .anthropic)
    (reports : ReportsError loads adapter place) (error : ProviderError)
    (outcome : streamed.outcome = .error (.provider error))

theorem Reads.silent {place : adapter.Place} {next : adapter.Register} {output : Option Json}
    (reads : Reads loads adapter place (.pass next output)) : Silent loads adapter place := by
  cases reads with
  | passed output unmarked formed silent => exact ⟨unmarked, formed, silent⟩

theorem Reads.next {place : adapter.Place} {next : adapter.Register} {output : Option Json}
    (reads : Reads loads adapter place (.pass next output)) : next = adapter.advance place.1 place.2 := by
  cases reads with
  | passed => rfl

theorem Reads.marked {place : adapter.Place} (reads : Reads loads adapter place .finish) :
    IsMarker loads adapter place := by
  cases reads with
  | marker marked => exact marked

variable (isPrintable) in
theorem ends (accepted : reply.statusCode = 200) :
    Ends loads adapter reply (adapter.streamImpl loads isPrintable (.reply reply)) := by
  rw [streamImpl_reply accepted]
  have reads (place : adapter.Place) := reads_readLine loads isPrintable reply.statusCode adapter place
  have silent {places : List adapter.Place}
      (passed : ∀ place ∈ places, ∃ next output,
        readLine loads isPrintable reply.statusCode adapter place.1 place.2 = .pass next output) :
      ∀ place ∈ places, Silent loads adapter place := fun place member => by
    obtain ⟨next, output, verdict⟩ := passed place member
    exact (verdict ▸ reads place).silent
  have moves (register : adapter.Register) (line : List Char) (next : adapter.Register) (output : Option Json)
      (verdict : readLine loads isPrintable reply.statusCode adapter register line = .pass next output) :
      next = adapter.advance register line :=
    (verdict ▸ reads (register, line)).next
  cases scan_decorated moves adapter.start reply.lines with
  | exhausted passed ended =>
    obtain ⟨register, ended⟩ := ended
    exact .exhausted (silent passed) (by rw [StreamReply.streamed, ended])
  | finished before stop after parts passed finishes ended unread =>
    exact .marked before stop after parts (silent passed) (finishes ▸ reads stop).marked
      (by rw [StreamReply.streamed, ended]) unread
  | failed before stop after parts passed error fails ended =>
    have outcome : (reply.streamed adapter.label
        (scan (readLine loads isPrintable reply.statusCode adapter) adapter.start reply.lines)).outcome =
          .error error := by
      rw [StreamReply.streamed, ended]
    have stopped := reads stop
    rw [fails] at stopped
    cases stopped with
    | malformed _ unmarked malformed untyped =>
      exact .malformed before stop after parts (silent passed) unmarked malformed error untyped outcome
    | reported typed unmarked formed anthropic reports =>
      exact .reported before stop after parts (silent passed) unmarked formed anthropic reports typed outcome

end outcomes

section honesty

variable {loads isPrintable} {adapter : Adapter} {reply : StreamReply}

/-- Two items of one list: one stands before the other, or they are the same. -/
theorem split_cases {α : Type} {before other after later : List α} {x y : α}
    (same : before ++ x :: after = other ++ y :: later) : x ∈ other ∨ x = y ∨ y ∈ before := by
  rcases List.append_eq_append_iff.mp same with ⟨middle, rfl, rest⟩ | ⟨middle, rfl, rest⟩
  · cases middle with
    | nil => exact .inr (.inl (List.cons.inj rest).1)
    | cons z middle =>
      obtain ⟨rfl, -⟩ := List.cons.inj rest
      exact .inl (by simp)
  · cases middle with
    | nil => exact .inr (.inl (List.cons.inj rest).1.symm)
    | cons z middle =>
      obtain ⟨rfl, -⟩ := List.cons.inj rest
      exact .inr (.inr (by simp))

theorem exists_first {α : Type} {p : α → Prop} {items : List α} (some : ∃ item ∈ items, p item) :
    ∃ before item after, items = before ++ item :: after ∧ p item ∧ ∀ other ∈ before, ¬ p other := by
  induction items with
  | nil => simp at some
  | cons first items ih =>
    by_cases here : p first
    · exact ⟨[], first, items, rfl, here, nofun⟩
    · obtain ⟨item, member, holds⟩ := some
      have later : item ∈ items := by
        rcases List.mem_cons.mp member with rfl | later
        · exact absurd holds here
        · exact later
      obtain ⟨before, item, after, rfl, holds, earlier⟩ := ih ⟨item, later, holds⟩
      exact ⟨first :: before, item, after, rfl, holds, List.forall_mem_cons.mpr ⟨here, earlier⟩⟩

theorem not_reportsError_of_marker {place : adapter.Place} (marked : IsMarker loads adapter place) :
    ¬ ReportsError loads adapter place := by
  cases adapter with
  | openai => exact fun reports => reports.1 marked
  | anthropic =>
    intro reports
    have other := marked.1.symm.trans reports.1
    cases other

theorem reportedFirst_of_mem {before after : List adapter.Place} {place other : adapter.Place}
    (parts : adapter.places reply.lines = before ++ place :: after)
    (unmarked : ∀ other ∈ before, ¬ IsMarker loads adapter other) (member : other ∈ before)
    (reports : ReportsError loads adapter other) : ReportedFirst loads adapter reply := by
  obtain ⟨front, back, rfl⟩ := List.append_of_mem member
  refine ⟨front, other, back ++ place :: after, ?_, reports, fun earlier among =>
    unmarked earlier (List.mem_append_left _ among)⟩
  rw [parts, List.append_assoc, List.cons_append]

theorem not_reportedFirst_of_finished (finished : Finished loads adapter reply) :
    ¬ ReportedFirst loads adapter reply := by
  rintro ⟨front, reported, back, parts', reports, unmarked⟩
  obtain ⟨before, place, after, parts, marker, clean⟩ := finished
  rcases split_cases (parts.symm.trans parts') with among | same | among
  · exact unmarked place among marker
  · exact not_reportsError_of_marker marker (same ▸ reports)
  · exact clean reported among reports

theorem outcome_of_bodyEnd {label : String} {bodyEnd : BodyEnd} {error : ProviderError}
    (raised : bodyEnd.outcome label = .error (.provider error)) :
    ∃ message, bodyEnd = .timeout message ∨ bodyEnd = .transport message := by
  cases bodyEnd with
  | complete => cases raised
  | timeout message => exact ⟨message, .inl rfl⟩
  | transport message => exact ⟨message, .inr rfl⟩
  | escaped => cases raised

theorem honest_of_raised {error : ProviderError}
    (raised : (adapter.streamImpl loads isPrintable (.reply reply)).outcome = .error (.provider error)) :
    Honest loads isPrintable adapter reply where
  finishes ended := by cases ended.symm.trans raised
  truncated _ := ⟨error, raised⟩
  reported _ := ⟨error, raised⟩

theorem raised_of_reported (accepted : reply.statusCode = 200) (anthropic : adapter = .anthropic)
    (reported : Reported loads adapter reply) :
    ∃ error, (adapter.streamImpl loads isPrintable (.reply reply)).outcome = .error (.provider error) := by
  obtain ⟨before, place, after, parts, reports, formed, earlier⟩ := reported
  cases ends isPrintable accepted with
  | exhausted silent _ =>
    have member : place ∈ adapter.places reply.lines := by
      rw [parts]
      simp
    exact absurd reports ((silent place member).unreported anthropic)
  | marked front mark back parts' silent marker _ _ =>
    rcases split_cases (parts'.symm.trans parts) with among | rfl | among
    · exact absurd marker (earlier mark among).1
    · exact absurd reports (not_reportsError_of_marker marker)
    · exact absurd reports ((silent place among).unreported anthropic)
  | malformed front stop back parts' silent _ malformed =>
    rcases split_cases (parts'.symm.trans parts) with among | rfl | among
    · exact absurd malformed (earlier stop among).2
    · exact absurd malformed formed
    · exact absurd reports ((silent place among).unreported anthropic)
  | reported _ _ _ _ _ _ _ _ _ error outcome => exact ⟨error, outcome⟩

theorem raised_of_interrupted (accepted : reply.statusCode = 200)
    (interrupted : Interrupted loads adapter reply) :
    ∃ error, (adapter.streamImpl loads isPrintable (.reply reply)).outcome = .error (.provider error) := by
  obtain ⟨quiet, message, failed⟩ := interrupted
  have among {before after : List adapter.Place} {place : adapter.Place}
      (parts : adapter.places reply.lines = before ++ place :: after) : place ∈ adapter.places reply.lines := by
    rw [parts]
    simp
  cases ends isPrintable accepted with
  | exhausted _ outcome => rcases failed with ended | ended <;> exact ⟨_, by rw [outcome, ended]; rfl⟩
  | marked _ _ _ parts _ marker _ _ => exact absurd marker (quiet _ (among parts)).1
  | malformed _ _ _ parts _ _ malformed => exact absurd malformed (quiet _ (among parts)).2
  | reported _ _ _ _ _ _ _ _ _ error outcome => exact ⟨error, outcome⟩

theorem honest_of_finished (accepted : reply.statusCode = 200) (finished : Finished loads adapter reply) :
    Honest loads isPrintable adapter reply := by
  have unreported := not_reportedFirst_of_finished finished
  obtain ⟨before, place, after, parts, marker, clean⟩ := finished
  have member : place ∈ adapter.places reply.lines := by
    rw [parts]
    simp
  refine ⟨fun ended => ?_, fun unmarked => absurd marker (unmarked place member), fun reported =>
    absurd reported unreported⟩
  cases ends isPrintable accepted with
  | exhausted silent _ => exact absurd marker (silent place member).unmarked
  | marked front mark back parts' _ marker' _ unread => exact ⟨front, mark, back, parts', marker', unread⟩
  | malformed _ _ _ _ _ _ _ _ _ outcome => cases ended.symm.trans outcome
  | reported _ _ _ _ _ _ _ _ _ _ outcome => cases ended.symm.trans outcome

theorem regular_of_honest (accepted : reply.statusCode = 200)
    (honest : Honest loads isPrintable adapter reply) :
    Regular loads adapter reply := by
  cases ends isPrintable accepted with
  | exhausted silent outcome =>
    obtain ⟨error, raised⟩ := honest.truncated fun place member => (silent place member).unmarked
    exact .inr (.inr ⟨fun place member => ⟨(silent place member).unmarked, (silent place member).formed⟩,
      outcome_of_bodyEnd (outcome.symm.trans raised)⟩)
  | marked before place after parts silent marker outcome _ =>
    refine .inl ⟨before, place, after, parts, marker, fun other member reports => ?_⟩
    obtain ⟨error, raised⟩ := honest.reported
      (reportedFirst_of_mem parts (fun other among => (silent other among).unmarked) member reports)
    cases outcome.symm.trans raised
  | malformed before place after parts silent unmarked malformed error untyped outcome =>
    have untyped' : ¬ ∃ error, (adapter.streamImpl loads isPrintable (.reply reply)).outcome =
        .error (.provider error) := by
      rintro ⟨typed, raised⟩
      exact untyped typed (Except.error.inj (outcome.symm.trans raised))
    by_cases marked : ∃ place ∈ adapter.places reply.lines, IsMarker loads adapter place
    · obtain ⟨front, mark, back, parts', marker, earlier⟩ := exists_first marked
      refine .inl ⟨front, mark, back, parts', marker, fun other member reports => ?_⟩
      exact untyped' (honest.reported (reportedFirst_of_mem parts' earlier member reports))
    · exact absurd (honest.truncated fun place member marker => marked ⟨place, member, marker⟩) untyped'
  | reported before place after parts silent _ formed anthropic reports _ _ =>
    exact .inr (.inl ⟨anthropic, before, place, after, parts, reports, formed, fun other member =>
      ⟨(silent other member).unmarked, (silent other member).formed⟩⟩)

/-- A regular delivery that ends normally is finished. -/
theorem finished_of_ok (accepted : reply.statusCode = 200) (regular : Regular loads adapter reply)
    (ended : (adapter.streamImpl loads isPrintable (.reply reply)).outcome = .ok ()) :
    Finished loads adapter reply := by
  rcases regular with finished | ⟨anthropic, reported⟩ | interrupted
  · exact finished
  · obtain ⟨error, raised⟩ := raised_of_reported accepted anthropic reported
    cases ended.symm.trans raised
  · obtain ⟨error, raised⟩ := raised_of_interrupted accepted interrupted
    cases ended.symm.trans raised

theorem honest_of_regular (accepted : reply.statusCode = 200) (regular : Regular loads adapter reply) :
    Honest loads isPrintable adapter reply := by
  rcases regular with finished | ⟨anthropic, reported⟩ | interrupted
  · exact honest_of_finished accepted finished
  · obtain ⟨error, raised⟩ := raised_of_reported accepted anthropic reported
    exact honest_of_raised raised
  · obtain ⟨error, raised⟩ := raised_of_interrupted accepted interrupted
    exact honest_of_raised raised

end honesty

end Adapter

end LlmopsGateway
