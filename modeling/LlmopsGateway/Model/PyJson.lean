import LlmopsGateway.Model.PyText

/-! # Decoded JSON in Python

The values `json.loads` returns and the operations the adapters apply to them without looking at
their type first: subscripts, `get`, truth, iteration and `join`. Each raises the exception Python
raises for the wrong type. Strings are sequences of Unicode scalar values.
-/

namespace LlmopsGateway

open PyText

/-- The built-in exceptions of operations on data of the wrong shape, and pydantic's. -/
inductive ShapeError
  | keyError
  | indexError
  | typeError
  | attributeError
  | validation
deriving DecidableEq, Repr

/-- A decoded value. Of a repeated key the last value counts. -/
inductive Json
  | null
  | bool (value : Bool)
  | int (value : ℤ)
  | float (value : PyFloat)
  | str (value : String)
  | arr (items : List Json)
  | obj (fields : List (String × Json))

namespace Json

def field? (fields : List (String × Json)) (key : String) : Option Json :=
  fields.reverse.lookup key

/-- `value[key]`. -/
def getItem (value : Json) (key : String) : Except ShapeError Json :=
  match value with
  | obj fields =>
    match field? fields key with
    | some found => .ok found
    | none => .error .keyError
  | _ => .error .typeError

/-- `value[0]`. -/
def first : Json → Except ShapeError Json
  | arr [] => .error .indexError
  | arr (item :: _) => .ok item
  | str text =>
    match text.toList with
    | [] => .error .indexError
    | c :: _ => .ok (str (String.singleton c))
  | obj _ => .error .keyError
  | _ => .error .typeError

/-- `value.get(key, default)`. -/
def getD (value : Json) (key : String) (default : Json) : Except ShapeError Json :=
  match value with
  | obj fields => .ok ((field? fields key).getD default)
  | _ => .error .attributeError

theorem field?_nil (key : String) : field? [] key = none := rfl

theorem field?_append (first second : List (String × Json)) (key : String) :
    field? (first ++ second) key = (field? second key).or (field? first key) := by
  rw [field?, List.reverse_append, List.lookup_append, field?, field?]

theorem getItem_obj {fields : List (String × Json)} {key : String} {found : Json}
    (present : field? fields key = some found) : (obj fields).getItem key = .ok found := by
  simp only [getItem, present]

theorem getD_obj (fields : List (String × Json)) (key : String) (default : Json) :
    (obj fields).getD key default = .ok ((field? fields key).getD default) := rfl

/-- `bool(value)`. -/
def truthy : Json → Bool
  | null => false
  | bool value => value
  | int value => value ≠ 0
  | float value => value.text ∉ ["0.0", "-0.0"]
  | str text => text ≠ ""
  | arr items => !items.isEmpty
  | obj fields => !fields.isEmpty

/-- `value or default`. -/
def orElse (value default : Json) : Json :=
  if value.truthy then value else default

/-- The values of `for item in value`. -/
def iterate : Json → Except ShapeError (List Json)
  | arr items => .ok items
  | str text => .ok (text.toList.map fun c => str (String.singleton c))
  | obj fields => .ok (fields.map fun field => str field.1)
  | _ => .error .typeError

/-- The only JSON value pydantic takes for a `str`. -/
def text? : Json → Option String
  | str text => some text
  | _ => none

/-- `"".join(items)`. -/
def join : List Json → Except ShapeError String
  | [] => .ok ""
  | str text :: rest =>
    match join rest with
    | .ok joined => .ok (text ++ joined)
    | .error error => .error error
  | _ :: _ => .error .typeError

end Json

end LlmopsGateway
