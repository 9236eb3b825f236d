import LlmopsGateway.Model.PyText
import LlmopsGateway.Soundness.JsonReading

/-! # The OpenAI stream, event by event

An event is one line of JSON behind `data: `. The lines of the client end at more characters than JSON has
to escape: an event with a raw U+0085, U+2028 or U+2029 in one of its strings reaches the decoder in pieces,
and the decoder skips what it cannot parse. `Intact` says when nothing is lost by that.
-/

namespace LlmopsGateway.OpenAIProvider

open Machine PyText JsonText

/-- The delta of the first choice of an event has this content, or none. -/
def Carries (fields : List (String × Json)) (content : Option String) : Prop :=
  (((Json.field? fields "choices").getD .null = .null ∨ (Json.field? fields "choices").getD .null = .arr []) ∧
      content = none) ∨
    ∃ choice more delta, Json.field? fields "choices" = some (.arr (.obj choice :: more)) ∧
      (Json.field? choice "delta").getD (.obj []) = .obj delta ∧
      (Json.field? delta "content").getD .null = content.elim .null .str

/-- A JSON text on one line, the object it encodes and the content in it. -/
structure Event (floatOf : List Char → PyFloat) where
  text : List Char
  fields : List (String × Json)
  content : Option String
  oneLine : '\n' ∉ text ∧ '\r' ∉ text
  encodes : loads floatOf text = .ok (.obj fields)
  carries : Carries fields content

variable {floatOf : List Char → PyFloat}

namespace Event

variable (event : Event floatOf)

def dataLine : List Char := "data: ".toList ++ event.text

theorem dataLine_eq : event.dataLine = "data: ".toList ++ event.text := rfl

/-- The event as it is sent, with a blank line behind it. -/
def framed : List Char := event.dataLine ++ ['\n', '\n']

/-- The content, unless it is empty. -/
def delta? : Option Json := (event.content.filter fun content => content ≠ "").map .str

/-- A line boundary of the client stands within the JSON text. -/
def isCut : Bool := event.text.any isLineBreak

def pieces : List (List Char) := event.dataLine.splitOnP isLineBreak

/-- The lines in which the event arrives. -/
def lines : List (List Char) := event.pieces ++ [[]]

end Event

def doneLine : List Char := "data: [DONE]".toList

/-- The body of a response. -/
def body (events : List (Event floatOf)) : List Char :=
  events.flatMap Event.framed ++ (doneLine ++ ['\n', '\n'])

/-- The response that sends these events. -/
def replyOf (events : List (Event floatOf)) : StreamReply :=
  { statusCode := 200, lines := splitLines (body events) }

def contents (events : List (Event floatOf)) : List Json := events.filterMap Event.delta?

/-- The stream yields the contents in their order and ends normally. -/
def Decodes (events : List (Event floatOf)) : Prop :=
  (streamImpl (loads floatOf) (.reply (replyOf events))).chunks = contents events ∧
    (streamImpl (loads floatOf) (.reply (replyOf events))).outcome = .ok ()

/-- The line is the end marker, or its data is no object, whether `json.loads` reads it or gives up on it. -/
def stops (floatOf : List Char → PyFloat) (line : List Char) : Bool :=
  match dataOf? line with
  | none => false
  | some data =>
    if data = "[DONE]".toList then true
    else
      match loads floatOf data with
      | .error .decode => false
      | .error .other => true
      | .ok (.obj _) => false
      | .ok _ => true

/-- No cut event has content, none of its pieces makes the decoder raise, and when one of them reads as the
end marker no content follows. -/
def Intact : List (Event floatOf) → Prop
  | [] => True
  | event :: rest =>
    if event.isCut then
      event.delta? = none ∧
        match event.pieces.find? (stops floatOf) with
        | none => Intact rest
        | some line => dataOf? line = some "[DONE]".toList ∧ ∀ later ∈ rest, later.delta? = none
    else Intact rest

section lines

theorem splitOnP_append {α : Type} {p : α → Bool} {front : List α} (free : ∀ c ∈ front, p c = false)
    (text : List α) : (front ++ text).splitOnP p = (text.splitOnP p).modifyHead (front ++ ·) := by
  induction front with
  | nil =>
    rw [List.nil_append]
    cases text.splitOnP p <;> rfl
  | cons c front ih =>
    obtain ⟨here, later⟩ := List.forall_mem_cons.mp free
    rw [List.cons_append, List.splitOnP_cons_eq_if_modifyHead, here, ih later]
    cases text.splitOnP p <;> rfl

theorem splitLines_newline (text : List Char) : splitLines ('\n' :: text) = [] :: splitLines text := by
  rw [splitLines_cons (by decide), if_pos (by decide)]

theorem splitLines_framed (event : Event floatOf) (more : List Char) :
    splitLines (event.framed ++ more) = event.lines ++ splitLines more := by
  have noReturn : '\r' ∉ event.dataLine := by
    intro member
    rcases List.mem_append.mp member with label | among
    · exact absurd label (by decide)
    · exact event.oneLine.2 among
  rw [Event.framed, Event.lines, List.append_assoc, List.cons_append, List.singleton_append,
    splitLines_append noReturn, splitLines_newline, List.append_assoc]
  rfl

theorem splitLines_body (events : List (Event floatOf)) :
    splitLines (body events) = events.flatMap Event.lines ++ [doneLine, []] := by
  induction events with
  | nil => rfl
  | cons event rest ih =>
    rw [body, List.flatMap_cons, List.append_assoc, splitLines_framed, ← body, ih, List.flatMap_cons,
      List.append_assoc]

end lines

section pieces

theorem isSpace_of_lineBreak {c : Char} (boundary : isLineBreak c = true) : isSpace c = true := by
  simp only [isLineBreak, Bool.or_eq_true, Bool.and_eq_true, decide_eq_true_iff, beq_iff_eq] at boundary
  simp only [isSpace, Bool.or_eq_true, Bool.and_eq_true, decide_eq_true_iff, beq_iff_eq]
  omega

/-- A boundary that ends no line of text stands within a string literal. -/
theorem next_lineBreak {c : Char} {mode after : Mode} (boundary : isLineBreak c = true) (notNewline : c ≠ '\n')
    (notReturn : c ≠ '\r') (stepped : mode.next c = some after) : mode = .inside ∧ after = .inside := by
  obtain ⟨rfl, inside | blank⟩ := next_space (isSpace_of_lineBreak boundary) stepped
  · exact ⟨inside, inside⟩
  · simp only [isWhitespace, Bool.or_eq_true, decide_eq_true_iff] at blank
    rcases blank with ((rfl | rfl) | rfl) | rfl
    · exact absurd boundary (by decide)
    · exact absurd boundary (by decide)
    · exact absurd rfl notNewline
    · exact absurd rfl notReturn

/-- A text is cut within its literals: the first piece ends in one, and the later ones begin there. -/
theorem exists_pieces {text : List Char} {mode final : Mode} (noNewline : '\n' ∉ text) (noReturn : '\r' ∉ text)
    (ran : run? Mode.next mode text = some final) :
    ∃ first later reached, text.splitOnP isLineBreak = first :: later ∧
      run? Mode.next mode first = some reached ∧ (text.any isLineBreak = true → reached = .inside) ∧
      ∀ piece ∈ later, ∃ reached, run? Mode.next .inside piece = some reached := by
  induction text generalizing mode with
  | nil => exact ⟨[], [], mode, rfl, rfl, nofun, nofun⟩
  | cons c text ih =>
    obtain ⟨next, stepped, ran⟩ := run?_cons_iff.mp ran
    obtain ⟨first, later, reached, pieces, tracked, within, others⟩ :=
      ih (fun member => noNewline (List.mem_cons_of_mem _ member))
        (fun member => noReturn (List.mem_cons_of_mem _ member)) ran
    rw [List.splitOnP_cons_eq_if_modifyHead, pieces]
    cases boundary : isLineBreak c with
    | true =>
      obtain ⟨rfl, rfl⟩ := next_lineBreak boundary (fun same => noNewline (same ▸ List.mem_cons_self ..))
        (fun same => noReturn (same ▸ List.mem_cons_self ..)) stepped
      exact ⟨[], first :: later, .inside, rfl, rfl, fun _ => rfl,
        List.forall_mem_cons.mpr ⟨⟨reached, tracked⟩, others⟩⟩
    | false =>
      refine ⟨c :: first, later, reached, rfl, run?_cons_iff.mpr ⟨next, stepped, tracked⟩,
        fun cut => ?_, others⟩
      rw [List.any_cons, boundary, Bool.false_or] at cut
      exact within cut

end pieces

section fragments

variable {line data : List Char} {fields : List (String × Json)} {mode reached : Mode}

theorem run?_stripped {before after : List Char} (blank : ∀ c ∈ before, isSpace c = true)
    (spaces : ∀ c ∈ after, isSpace c = true)
    (ran : run? Mode.next mode (before ++ (data ++ after)) = some reached) :
    run? Mode.next mode data = some reached := by
  obtain ⟨first, leading, onward⟩ := run?_append_iff.mp ran
  obtain rfl := run?_spaces blank leading
  obtain ⟨last, tracked, trailing⟩ := run?_append_iff.mp onward
  obtain rfl := run?_spaces spaces trailing
  exact tracked

theorem dataOf?_append (text : List Char) : dataOf? ("data:".toList ++ text) =
    some (Words.strip isSpace text) := by
  rw [dataOf?, field?, if_pos (List.isPrefixOf_iff_prefix.mpr (List.prefix_append _ text)), List.drop_left]

theorem dataOf?_parts (found : dataOf? line = some data) : ∃ before after,
    line = "data:".toList ++ (before ++ (data ++ after)) ∧ (∀ c ∈ before, isSpace c = true) ∧
      ∀ c ∈ after, isSpace c = true := by
  rw [dataOf?, field?] at found
  split_ifs at found with first
  obtain ⟨rest, rfl⟩ := List.isPrefixOf_iff_prefix.mp first
  obtain rfl := Option.some.inj found
  rw [List.drop_left]
  obtain ⟨before, after, parts, blank, spaces⟩ := @Words.strip_parts Char isSpace rest
  exact ⟨before, after, congrArg _ parts, blank, spaces⟩

/-- What begins within a literal and still reads as an object has no letters, and so no choices. -/
theorem deltaContent_of_inside (tracked : run? Mode.next .inside line = some reached)
    (found : dataOf? line = some data)
    (read : loads floatOf data = .ok (.obj fields)) : deltaContent (.obj fields) = .ok .null := by
  obtain ⟨before, after, rfl, blank, spaces⟩ := dataOf?_parts found
  obtain ⟨middle, label, ran⟩ := run?_append_iff.mp tracked
  obtain rfl : Mode.inside = middle := Option.some.inj label
  have bare := bare_of_two_ways (run?_stripped blank spaces ran) (balanced_of_loads read)
  have absent (c : Char) (notQuote : c ≠ '"') (letter : isBare c = false) : c ∉ data := fun member =>
    (bare c member).elim notQuote fun bare => Bool.false_ne_true (letter.symm.trans bare)
  have choices : Json.field? fields "choices" = none := by
    rw [Json.field?, List.lookup_eq_none_iff]
    intro field member
    rw [bne_iff_ne]
    intro named
    refine absent 'c' (by decide) (by decide) (mem_of_mem_key read (absent '\\' (by decide) (by decide))
      (List.mem_reverse.mp member) ?_)
    rw [← named]
    decide
  simp [deltaContent, Json.getD_obj, choices, Json.orElse, Json.truthy, bind, Except.bind]

/-- The piece in which a cut event begins does not parse. -/
theorem loads_of_beginning {text : List Char} {item : Json}
    (tracked : run? Mode.next .outside text = some .inside)
    (found : dataOf? ("data: ".toList ++ text) = some data) : loads floatOf data ≠ .ok item := by
  intro read
  rw [show "data: ".toList ++ text = "data:".toList ++ (' ' :: text) from rfl, dataOf?_append] at found
  obtain rfl := Option.some.inj found
  obtain ⟨before, after, parts, blank, spaces⟩ := @Words.strip_parts Char isSpace (' ' :: text)
  have ran : run? Mode.next .outside (' ' :: text) = some .inside := run?_cons_iff.mpr ⟨.outside, rfl, tracked⟩
  rw [parts] at ran
  have balanced := balanced_of_loads read
  rw [JsonText.Balanced, run?_stripped blank spaces ran] at balanced
  cases balanced

/-- A line that would give no text if it were read. -/
def Silent (floatOf : List Char → PyFloat) (line : List Char) : Prop :=
  ∀ data fields, dataOf? line = some data → loads floatOf data = .ok (.obj fields) →
    deltaContent (.obj fields) = .ok .null

theorem readLine_of_silent (silent : Silent floatOf line) (goesOn : stops floatOf line = false) :
    readLine (loads floatOf) () line = .pass () none := by
  rw [stops] at goesOn
  rw [readLine]
  cases found : dataOf? line with
  | none => rfl
  | some data =>
    simp only [found] at goesOn ⊢
    split_ifs at goesOn with done
    rw [if_neg done]
    cases read : loads floatOf data with
    | error error =>
      cases error with
      | decode => rfl
      | other => simp [read] at goesOn
    | ok event =>
      cases event with
      | obj fields => simp only [readEvent, silent data fields found read]; rfl
      | _ => simp [read] at goesOn

theorem readLine_of_stops (stop : stops floatOf line = true) :
    (dataOf? line = some "[DONE]".toList ∧ readLine (loads floatOf) () line = .finish) ∨
      (dataOf? line ≠ some "[DONE]".toList ∧ ∃ error, readLine (loads floatOf) () line = .fail error) := by
  rw [stops] at stop
  rw [readLine]
  cases found : dataOf? line with
  | none => simp [found] at stop
  | some data =>
    simp only [found] at stop ⊢
    split_ifs at stop ⊢ with done
    · exact .inl ⟨congrArg some done, rfl⟩
    · refine .inr ⟨fun same => done (Option.some.inj same), ?_⟩
      cases read : loads floatOf data with
      | error error =>
        cases error with
        | decode => simp [read] at stop
        | other => exact ⟨_, rfl⟩
      | ok event =>
        cases event with
        | obj fields => simp [read] at stop
        | _ => exact ⟨_, rfl⟩

theorem silent_of_mem_pieces {event : Event floatOf} (cut : event.isCut = true) :
    ∀ line ∈ event.pieces, Silent floatOf line := by
  obtain ⟨first, later, reached, pieces, tracked, within, others⟩ :=
    exists_pieces event.oneLine.1 event.oneLine.2 (balanced_of_loads event.encodes)
  have lines : event.pieces = ("data: ".toList ++ first) :: later := by
    rw [Event.pieces, Event.dataLine_eq, splitOnP_append (by decide), pieces]
    rfl
  rw [lines]
  refine List.forall_mem_cons.mpr ⟨fun data fields found read => ?_,
    fun line member data fields found read => ?_⟩
  · rw [within cut] at tracked
    exact absurd read (loads_of_beginning tracked found)
  · obtain ⟨last, tracked⟩ := others line member
    exact deltaContent_of_inside tracked found read

end fragments

section events

variable {event : Event floatOf} {rest : List (List Char)}

theorem deltaContent_of_carries {fields : List (String × Json)} {content : Option String}
    (carries : Carries fields content) : deltaContent (.obj fields) = .ok (content.elim .null .str) := by
  rcases carries with ⟨nothing, rfl⟩ | ⟨choice, more, delta, choices, inner, found⟩
  · rcases nothing with absent | empty
    · simp [deltaContent, Json.getD_obj, absent, Json.orElse, Json.truthy, bind, Except.bind]
    · simp [deltaContent, Json.getD_obj, empty, Json.orElse, Json.truthy, bind, Except.bind]
  · simp [deltaContent, Json.getD_obj, choices, inner, found, Json.orElse, Json.truthy, Json.first, bind,
      Except.bind]

theorem readEvent_of_carries (event : Event floatOf) :
    readEvent (.obj event.fields) = .pass () event.delta? := by
  rw [readEvent, deltaContent_of_carries event.carries, Event.delta?]
  cases event.content with
  | none => rfl
  | some content => by_cases empty : content = "" <;> simp [yielded, Json.truthy, empty]

theorem isSpace_of_isWhitespace {c : Char} (blank : isWhitespace c = true) : isSpace c = true := by
  simp only [isWhitespace, Bool.or_eq_true, decide_eq_true_iff] at blank
  rcases blank with ((rfl | rfl) | rfl) | rfl <;> decide

/-- An event that arrives in one piece is read as it was sent. -/
theorem readLine_dataLine (event : Event floatOf) :
    readLine (loads floatOf) () event.dataLine = .pass () event.delta? := by
  obtain ⟨front, after, parts, blank, read⟩ := loads_object event.encodes
  have found : dataOf? event.dataLine = some ('{' :: (front ++ ['}'])) := by
    rw [Event.dataLine_eq, show "data: ".toList ++ event.text = "data:".toList ++ (' ' :: event.text) from rfl,
      dataOf?_append, parts, ← List.cons_append]
    refine congrArg some (Words.strip_enclosed (List.forall_mem_cons.mpr ⟨by decide, fun c member => ?_⟩)
      (fun c member => isSpace_of_isWhitespace (blank c member)) (by decide) (by decide))
    exact isSpace_of_isWhitespace (List.mem_takeWhile_imp member)
  have notDone : '{' :: (front ++ ['}']) ≠ "[DONE]".toList := fun same =>
    absurd (List.cons.inj same).1 (by decide)
  rw [readLine, found]
  simp only [if_neg notDone, read]
  exact readEvent_of_carries event

theorem readLine_nil : readLine (loads floatOf) () [] = .pass () none := rfl

theorem scan_whole (whole : event.isCut = false) : scan (readLine (loads floatOf)) () (event.lines ++ rest) =
    (scan (readLine (loads floatOf)) () rest).prepend event.delta?.toList := by
  have free (c : Char) (member : c ∈ event.dataLine) : isLineBreak c = false := by
    rcases List.mem_append.mp member with label | among
    · exact (by decide : ∀ d ∈ "data: ".toList, isLineBreak d = false) c label
    · exact Bool.eq_false_iff.mpr (List.any_eq_false.mp whole c among)
  rw [Event.lines, Event.pieces, List.splitOnP_eq_singleton free, List.singleton_append, List.cons_append,
    scan_cons_pass (readLine_dataLine event), List.singleton_append, scan_cons_pass readLine_nil]
  rfl

/-- Of an event in pieces nothing is yielded. -/
theorem scan_pieces (cut : event.isCut = true) : scan (readLine (loads floatOf)) () event.pieces =
    { outputs := []
      ending := .ofStop () ((event.pieces.find? (stops floatOf)).map (readLine (loads floatOf) ()))
      unread := (event.pieces.dropWhile fun line => !stops floatOf line).tail } := by
  have passes (line : List Char) (member : line ∈ event.pieces) (goesOn : stops floatOf line = false) :
      readLine (loads floatOf) () line = .pass () none :=
    readLine_of_silent (silent_of_mem_pieces cut line member) goesOn
  have halts (line : List Char) (_ : line ∈ event.pieces) (stop : stops floatOf line = true) (next : Unit)
      (output : Option Json) : readLine (loads floatOf) () line ≠ .pass next output := by
    rintro passed
    rcases readLine_of_stops stop with ⟨-, finished⟩ | ⟨-, error, failed⟩
    · cases finished.symm.trans passed
    · cases failed.symm.trans passed
  rw [scan_of_stops passes halts, List.filterMap_none]

theorem scan_skipped (cut : event.isCut = true) (goesOn : event.pieces.find? (stops floatOf) = none) :
    scan (readLine (loads floatOf)) () (event.lines ++ rest) = scan (readLine (loads floatOf)) () rest := by
  have exhausted := scan_pieces cut
  rw [goesOn] at exhausted
  rw [Event.lines, List.append_assoc, scan_append_of_exhausted exhausted, List.singleton_append,
    scan_cons_pass readLine_nil]
  rfl

theorem scan_stopped {line : List Char} (cut : event.isCut = true)
    (stop : event.pieces.find? (stops floatOf) = some line) :
    (scan (readLine (loads floatOf)) () (event.lines ++ rest)).outputs = [] ∧
      (scan (readLine (loads floatOf)) () (event.lines ++ rest)).ending =
        .ofStop () (some (readLine (loads floatOf) () line)) := by
  have stopped := scan_pieces cut
  rw [stop] at stopped
  have halts (after : Unit) : (scan (readLine (loads floatOf)) () event.pieces).ending ≠ .exhausted after := by
    rw [stopped]
    rcases readLine_of_stops (List.find?_some stop) with ⟨-, finished⟩ | ⟨-, error, failed⟩
    · rw [Option.map_some, finished]
      nofun
    · rw [Option.map_some, failed]
      nofun
  rw [Event.lines, List.append_assoc, scan_append_of_stopped halts, stopped]
  exact ⟨rfl, rfl⟩

end events

section streams

/-- The scan yields the contents of the events and does not fail. -/
def Clean (scanned : Scan (List Char) Unit Json Raised) (events : List (Event floatOf)) : Prop :=
  scanned.outputs = contents events ∧ ∀ error, scanned.ending ≠ .failed error

/-- The lines of a body. -/
def linesOf (events : List (Event floatOf)) : List (List Char) := events.flatMap Event.lines ++ [doneLine, []]

theorem linesOf_cons (event : Event floatOf) (rest : List (Event floatOf)) :
    linesOf (event :: rest) = event.lines ++ linesOf rest := by
  rw [linesOf, List.flatMap_cons, List.append_assoc, linesOf]

theorem contents_cons (event : Event floatOf) (rest : List (Event floatOf)) :
    contents (event :: rest) = event.delta?.toList ++ contents rest := by
  rw [contents, List.filterMap_cons]
  cases event.delta? <;> rfl

theorem contents_eq_nil_iff (events : List (Event floatOf)) :
    contents events = [] ↔ ∀ event ∈ events, event.delta? = none :=
  List.filterMap_eq_nil_iff

/-- The decoder yields no more than what was sent. -/
theorem outputs_sublist (events : List (Event floatOf)) :
    (scan (readLine (loads floatOf)) () (linesOf events)).outputs.Sublist (contents events) := by
  induction events with
  | nil => exact List.Sublist.refl []
  | cons event rest ih =>
    rw [linesOf_cons, contents_cons]
    cases cut : event.isCut with
    | false =>
      rw [scan_whole cut]
      exact ih.append_left _
    | true =>
      cases stop : event.pieces.find? (stops floatOf) with
      | none =>
        rw [scan_skipped cut stop]
        exact ih.trans (List.sublist_append_right ..)
      | some line =>
        rw [(scan_stopped cut stop).1]
        exact List.nil_sublist _

theorem clean_iff (events : List (Event floatOf)) :
    Clean (scan (readLine (loads floatOf)) () (linesOf events)) events ↔ Intact events := by
  induction events with
  | nil => exact ⟨fun _ => trivial, fun _ => ⟨rfl, nofun⟩⟩
  | cons event rest ih =>
    rw [linesOf_cons, Clean, contents_cons, Intact]
    cases cut : event.isCut with
    | false =>
      rw [scan_whole cut, if_neg Bool.false_ne_true, ← ih]
      exact and_congr (List.append_right_inj _) Iff.rfl
    | true =>
      rw [if_pos rfl]
      cases stop : event.pieces.find? (stops floatOf) with
      | none =>
        simp only [scan_skipped cut stop, ← ih]
        constructor
        · rintro ⟨outputs, goesOn⟩
          have short := (outputs_sublist rest).length_le
          rw [outputs, List.length_append] at short
          have silent : event.delta? = none := by
            cases given : event.delta? with
            | none => rfl
            | some content =>
              rw [given, Option.toList_some, List.length_singleton] at short
              omega
          rw [silent] at outputs
          exact ⟨silent, outputs, goesOn⟩
        · rintro ⟨silent, outputs, goesOn⟩
          rw [silent]
          exact ⟨outputs, goesOn⟩
      | some line =>
        have nothing : [] = event.delta?.toList ++ contents rest ↔
            event.delta? = none ∧ ∀ later ∈ rest, later.delta? = none := by
          rw [eq_comm, List.append_eq_nil_iff, contents_eq_nil_iff, Option.toList_eq_nil_iff]
        simp only [scan_stopped cut stop, nothing]
        rcases readLine_of_stops (List.find?_some stop) with ⟨done, finished⟩ | ⟨notDone, error, failed⟩
        · simp [done, finished, Ending.ofStop]
        · rw [failed]
          constructor
          · rintro ⟨-, goesOn⟩
            exact absurd rfl (goesOn error)
          · rintro ⟨-, done, -⟩
            exact absurd done notDone

/-- The stream gives back what its events carry exactly if they are intact. -/
theorem decodes_iff_intact (events : List (Event floatOf)) : Decodes events ↔ Intact events := by
  have streamed : streamImpl (loads floatOf) (.reply (replyOf events)) =
      (replyOf events).streamed "OpenAI" (scan (readLine (loads floatOf)) () (linesOf events)) := by
    rw [streamImpl, streamImplOf_reply rfl, linesOf, ← splitLines_body]
    rfl
  rw [Decodes, streamed, ← clean_iff]
  refine and_congr Iff.rfl ?_
  rw [StreamReply.streamed]
  cases ending : (scan (readLine (loads floatOf)) () (linesOf events)).ending with
  | exhausted register => simp [replyOf, BodyEnd.outcome]
  | finished => simp
  | failed error => simp

end streams

section separators

/-- The content `a\u2028b` with the separator as it is. -/
def separatorText : List Char :=
  "\x7b\"choices\":[\x7b\"delta\":\x7b\"content\":\"a\u2028b\"\x7d\x7d]\x7d".toList

def separatorFields : List (String × Json) :=
  [("choices", .arr [.obj [("delta", .obj [("content", .str "a\u2028b")])]])]

def separatorEvent (floatOf : List Char → PyFloat) : Event floatOf where
  text := separatorText
  fields := separatorFields
  content := some "a\u2028b"
  oneLine := ⟨by decide, by decide⟩
  encodes := rfl
  carries := .inr ⟨_, _, _, rfl, rfl, rfl⟩

theorem not_decodes_separator : ¬ ∀ floatOf (events : List (Event floatOf)), Decodes events := by
  intro decodes
  have lost := (decodes (fun _ => nan) [separatorEvent _]).1
  cases lost

end separators

end LlmopsGateway.OpenAIProvider
