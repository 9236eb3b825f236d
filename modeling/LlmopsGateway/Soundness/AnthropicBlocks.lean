import LlmopsGateway.Model.PyText
import LlmopsGateway.Model.ProviderStream

/-! # The blocks of an Anthropic stream

A block is an `event:` line with its `data:` line, and any other lines may stand before, between and behind
them. The lines of the client end at more characters than the lines that are sent, so a line may reach the
decoder in pieces, and `json.loads` may give up on an object. `Intact` says when nothing comes of that.
-/

namespace LlmopsGateway.AnthropicProvider

open Machine PyText

section messages

/-- How a message can end: with a stop, a reported error or an exception that is none of the gateway's. -/
inductive Closing
  | stop
  | report
  | broken
deriving DecidableEq, Repr

/-- What a line can say. -/
inductive Speech
  | text (text : Json)
  | closing (closing : Closing)

/-- Texts, and how they end, if they do. -/
structure Message where
  texts : List Json := []
  closing : Option Closing := none

namespace Message

def say (text : Json) (message : Message) : Message := { message with texts := text :: message.texts }

/-- Nothing is said any more behind an end. -/
def andThen (first later : Message) : Message :=
  match first.closing with
  | none => { later with texts := first.texts ++ later.texts }
  | some _ => first

variable {first later other : Message}

end Message

/-- The texts before the first end, and that end. -/
def message : List Speech → Message
  | [] => {}
  | .text text :: rest => (message rest).say text
  | .closing closing :: _ => { closing := some closing }

end messages

section blocks

/-- The lines that are not skipped at once. -/
def isField (line : List Char) : Bool := "event:".toList.isPrefixOf line || "data:".toList.isPrefixOf line

/-- A blank line, a comment or another field. -/
structure OtherLine where
  text : List Char
  oneLine : '\n' ∉ text ∧ '\r' ∉ text
  skipped : isField text = false

/-- What `json.loads` makes of an object, and of what encodes nothing. It may give up on both. -/
def Encodes (loads : Loads) (text : List Char) : Option (List (String × Json)) → Prop
  | some fields => loads text = .ok (.obj fields) ∨ loads text = .error .other
  | none => ∀ value, loads text ≠ .ok value

/-- `delta` and `error` are objects and `text` is a string in the delta, each if it is there at all. -/
structure Shaped (fields : List (String × Json)) : Prop where
  delta : ∀ value, Json.field? fields "delta" = some value →
    ∃ delta, value = .obj delta ∧ ∀ text, Json.field? delta "text" = some text → ∃ string, text = .str string
  error : ∀ value, Json.field? fields "error" = some value → ∃ error, value = .obj error

/-- What stands behind `event:` and behind `data:`, the other lines after each of them, and the object that the
data encodes, if it is not unparsable. -/
structure Block (loads : Loads) where
  event : List Char
  between : List OtherLine := []
  data : List Char
  after : List OtherLine := []
  content : Option (List (String × Json))
  oneLine : ('\n' ∉ event ∧ '\r' ∉ event) ∧ '\n' ∉ data ∧ '\r' ∉ data
  encodes : Encodes loads (Words.strip isSpace data) content
  shaped : ∀ fields ∈ content, Shaped fields

/-- The text of the delta in an event, unless it is empty. -/
def textOf (fields : List (String × Json)) : Option String :=
  match Json.field? fields "delta" with
  | some (.obj delta) =>
    match Json.field? delta "text" with
    | some (.str text) => if text = "" then none else some text
    | _ => none
  | _ => none

/-- A line boundary of the client stands within the line. -/
def isCut (line : List Char) : Bool := line.any isLineBreak

variable {loads : Loads}

namespace Block

variable (block : Block loads)

def name : List Char := Words.strip isSpace block.event

def eventLine : List Char := "event:".toList ++ block.event

def dataLine : List Char := "data:".toList ++ block.data

def lines : List (List Char) :=
  block.eventLine :: (block.between.map OtherLine.text ++ block.dataLine :: block.after.map OtherLine.text)

/-- An unparsable block and one of another name say nothing. -/
def speech : Option Speech := do
  let fields ← block.content
  if block.name = "content_block_delta".toList then (textOf fields).map fun text => .text (.str text)
  else if block.name = "error".toList then some (.closing .report)
  else if block.name = "message_stop".toList then some (.closing .stop)
  else none

/-- Its lines arrive in one piece, and `json.loads` does not give up on its data. -/
structure Whole : Prop where
  uncut : ∀ line ∈ block.lines, isCut line = false
  loaded : loads (Words.strip isSpace block.data) ≠ .error .other

end Block

/-- What the blocks say. -/
def spoken (blocks : List (Block loads)) : Message := message (blocks.filterMap Block.speech)

/-- The lines of a body: other lines and then the blocks. -/
def linesOf (before : List OtherLine) (blocks : List (Block loads)) : List (List Char) :=
  before.map OtherLine.text ++ blocks.flatMap Block.lines

/-- Every line is sent with a newline behind it. -/
def body (lines : List (List Char)) : List Char := lines.flatMap fun line => line ++ ['\n']

/-- The lines as the client cuts them. -/
def arrived (lines : List (List Char)) : List (List Char) := lines.flatMap (List.splitOnP isLineBreak)

section condition

/-- The name in force behind these lines. -/
def inForce (name : Option (List Char)) (lines : List (List Char)) : Option (List Char) :=
  lines.foldl (fun name line => (field? "event:".toList line).or name) name

/-- What an event says under a name. -/
def eventSpeech (name : Option (List Char)) (event : Json) : Option Speech :=
  if name = some "content_block_delta".toList then
    match deltaText event with
    | .error _ => some (.closing .broken)
    | .ok text => (yielded text).map .text
  else if name = some "error".toList then
    match errorMessage event with
    | .error _ => some (.closing .broken)
    | .ok _ => some (.closing .report)
  else if name = some "message_stop".toList then some (.closing .stop)
  else none

variable (loads) in
/-- What a line says by itself, be it a whole one or a piece. -/
def lineSpeech (name : Option (List Char)) (line : List Char) : Option Speech :=
  match (dataOf? line).map loads with
  | none | some (.error .decode) => none
  | some (.error .other) => some (.closing .broken)
  | some (.ok event) => eventSpeech name event

variable (loads) in
/-- What lines say, one after the other. -/
def heard : Option (List Char) → List (List Char) → List Speech
  | _, [] => []
  | name, line :: rest => (lineSpeech loads name line).toList ++ heard (inForce name [line]) rest

/-- Up to the end of the message each block is whole, or else its pieces happen to say what it does. -/
def Intact : Option (List Char) → List (Block loads) → Prop
  | _, [] => True
  | name, block :: rest =>
    (block.Whole ∨ message (heard loads name (arrived block.lines)) = spoken [block]) ∧
      ((spoken [block]).closing = none → Intact (inForce name (arrived block.lines)) rest)

/-- The same with other lines in front. -/
def IntactBehind (before : List OtherLine) (blocks : List (Block loads)) : Prop :=
  ((∀ line ∈ before, isCut line.text = false) ∨
      message (heard loads none (arrived (before.map OtherLine.text))) = {}) ∧
    Intact (inForce none (arrived (before.map OtherLine.text))) blocks

end condition

section lines

theorem splitLines_body {lines : List (List Char)} (noReturn : ∀ line ∈ lines, '\r' ∉ line) :
    splitLines (body lines) = arrived lines := by
  induction lines with
  | nil => rfl
  | cons line rest ih =>
    obtain ⟨here, later⟩ := List.forall_mem_cons.mp noReturn
    rw [body, List.flatMap_cons, List.append_assoc, List.singleton_append, splitLines_append here, ← body,
      ih later, arrived, arrived, List.flatMap_cons]

theorem arrived_of_uncut {lines : List (List Char)} (uncut : ∀ line ∈ lines, isCut line = false) :
    arrived lines = lines := by
  induction lines with
  | nil => rfl
  | cons line rest ih =>
    obtain ⟨here, later⟩ := List.forall_mem_cons.mp uncut
    have free (c : Char) (member : c ∈ line) : isLineBreak c = false :=
      Bool.eq_false_iff.mpr (List.any_eq_false.mp here c member)
    rw [arrived, List.flatMap_cons, List.splitOnP_eq_singleton free, ← arrived, ih later]
    rfl

theorem not_mem_append_of {c : Char} {label text : List Char} (front : c ∉ label) (back : c ∉ text) :
    c ∉ label ++ text := fun member => (List.mem_append.mp member).elim front back

theorem Block.noReturn (block : Block loads) : ∀ line ∈ block.lines, '\r' ∉ line := by
  rw [Block.lines]
  refine List.forall_mem_cons.mpr ⟨not_mem_append_of (by decide) block.oneLine.1.2, fun line member => ?_⟩
  rcases List.mem_append.mp member with between | rest
  · obtain ⟨other, -, rfl⟩ := List.mem_map.mp between
    exact other.oneLine.2
  · rcases List.mem_cons.mp rest with rfl | after
    · exact not_mem_append_of (by decide) block.oneLine.2.2
    · obtain ⟨other, -, rfl⟩ := List.mem_map.mp after
      exact other.oneLine.2

theorem inForce_append (name : Option (List Char)) (first later : List (List Char)) :
    inForce name (first ++ later) = inForce (inForce name first) later :=
  List.foldl_append

theorem heard_append (name : Option (List Char)) (first later : List (List Char)) :
    heard loads name (first ++ later) = heard loads name first ++ heard loads (inForce name first) later := by
  induction first generalizing name with
  | nil => rfl
  | cons line rest ih =>
    rw [List.cons_append, heard, ih, heard, List.append_assoc]
    rfl

end lines

section whole

theorem field?_append (name text : List Char) :
    field? name (name ++ text) = some (Words.strip isSpace text) := by
  rw [field?, if_pos (List.isPrefixOf_iff_prefix.mpr (List.prefix_append name text)), List.drop_left]

/-- Other lines say nothing and leave the name as it is. -/
theorem OtherLine.fields (line : OtherLine) :
    field? "event:".toList line.text = none ∧ dataOf? line.text = none := by
  obtain ⟨notEvent, notData⟩ := Bool.or_eq_false_iff.mp line.skipped
  exact ⟨if_neg (by rw [notEvent]; exact Bool.false_ne_true),
    if_neg (by rw [notData]; exact Bool.false_ne_true)⟩

theorem inForce_others (name : Option (List Char)) (others : List OtherLine) :
    inForce name (others.map OtherLine.text) = name := by
  induction others with
  | nil => rfl
  | cons other rest ih =>
    have kept : inForce name [other.text] = name := congrArg (·.or name) other.fields.1
    rw [List.map_cons, ← List.singleton_append, inForce_append, kept, ih]

theorem heard_others (name : Option (List Char)) (others : List OtherLine) :
    heard loads name (others.map OtherLine.text) = [] := by
  induction others generalizing name with
  | nil => rfl
  | cons other rest ih =>
    rw [List.map_cons, heard, ih, lineSpeech, other.fields.2]
    rfl

/-- The delta of an object of that shape is read without an exception. -/
theorem deltaText_eq {fields : List (String × Json)} (shaped : Shaped fields) :
    ∃ text, deltaText (.obj fields) = .ok text ∧ yielded text = (textOf fields).map .str := by
  cases delta : Json.field? fields "delta" with
  | none =>
    refine ⟨.null, by simp [deltaText, Json.getD_obj, delta, Json.field?_nil, Except.bind, bind], ?_⟩
    simp [textOf, delta, yielded, Json.truthy]
  | some value =>
    obtain ⟨deltaFields, rfl, strings⟩ := shaped.delta value delta
    cases text : Json.field? deltaFields "text" with
    | none =>
      refine ⟨.null, by simp [deltaText, Json.getD_obj, delta, text, Except.bind, bind], ?_⟩
      simp [textOf, delta, text, yielded, Json.truthy]
    | some value =>
      obtain ⟨string, rfl⟩ := strings value text
      refine ⟨.str string, by simp [deltaText, Json.getD_obj, delta, text, Except.bind, bind], ?_⟩
      by_cases empty : string = "" <;> simp [textOf, delta, text, yielded, Json.truthy, empty]

theorem errorMessage_eq {fields : List (String × Json)} (shaped : Shaped fields) :
    ∃ message, errorMessage (.obj fields) = .ok message := by
  cases error : Json.field? fields "error" with
  | none =>
    exact ⟨.obj fields, by simp [errorMessage, Json.getD_obj, error, Json.field?_nil, Except.bind, bind]⟩
  | some value =>
    obtain ⟨errorFields, rfl⟩ := shaped.error value error
    exact ⟨(Json.field? errorFields "message").getD (.obj fields),
      by simp [errorMessage, Json.getD_obj, error, Except.bind, bind]⟩

theorem eventSpeech_eq {block : Block loads} {fields : List (String × Json)}
    (content : block.content = some fields) :
    eventSpeech (some block.name) (.obj fields) = block.speech := by
  have shaped : Shaped fields := block.shaped fields content
  rw [eventSpeech, Block.speech, content]
  simp only [Option.some.injEq, Option.bind_eq_bind, Option.bind_some]
  split
  · obtain ⟨text, read, same⟩ := deltaText_eq shaped
    rw [read]
    exact (congrArg (Option.map Speech.text) same).trans (Option.map_map ..)
  · split
    · obtain ⟨message, read⟩ := errorMessage_eq shaped
      rw [read]
    · rfl

/-- The data line under the name of its block. -/
theorem lineSpeech_dataLine {block : Block loads}
    (loaded : loads (Words.strip isSpace block.data) ≠ .error .other) :
    lineSpeech loads (some block.name) block.dataLine = block.speech := by
  have data : dataOf? block.dataLine = some (Words.strip isSpace block.data) := field?_append _ _
  have encodes := block.encodes
  rw [lineSpeech, data, Option.map_some]
  cases content : block.content with
  | none =>
    rw [content] at encodes
    have silent : block.speech = none := by rw [Block.speech, content]; rfl
    cases read : loads (Words.strip isSpace block.data) with
    | ok value => exact absurd read (encodes value)
    | error error =>
      cases error with
      | decode => exact silent.symm
      | other => exact absurd read loaded
  | some fields =>
    rw [content] at encodes
    rcases encodes with read | other
    · rw [read]
      exact eventSpeech_eq content
    · exact absurd other loaded

/-- A block whose lines are read as they were sent says what it should. -/
theorem heard_lines {block : Block loads} (loaded : loads (Words.strip isSpace block.data) ≠ .error .other)
    (name : Option (List Char)) : heard loads name block.lines = block.speech.toList := by
  have named : field? "event:".toList block.eventLine = some block.name := field?_append _ _
  have renamed : inForce name [block.eventLine] = some block.name := congrArg (·.or name) named
  have silent : lineSpeech loads name block.eventLine = none := rfl
  have kept : inForce (some block.name) [block.dataLine] = some block.name := rfl
  rw [Block.lines, heard, silent, renamed, heard_append, heard_others, inForce_others, heard,
    lineSpeech_dataLine loaded, kept, heard_others, List.append_nil]
  rfl

theorem spoken_singleton (block : Block loads) : spoken [block] = message block.speech.toList := by
  rw [spoken, List.filterMap_cons]
  cases block.speech <;> rfl

theorem Block.Whole.heard {block : Block loads} (whole : block.Whole) (name : Option (List Char)) :
    message (heard loads name (arrived block.lines)) = spoken [block] := by
  rw [arrived_of_uncut whole.uncut, heard_lines whole.loaded, spoken_singleton]

end whole

end blocks

end LlmopsGateway.AnthropicProvider
