import LlmopsGateway.Model.ProviderStream
import LlmopsGateway.Model.PyUuid

/-! # JSON texts

`json.loads` and `json.dumps` of the standard library. The reader is strict about control characters in
strings, takes the three constants that are no JSON and gives up on integers of more than 4300 digits with a
`ValueError` of its own. A surrogate without its partner, which no `Char` is, is read as U+FFFD. What
`float` makes of a number is a parameter; the recursion limit is left out.
-/

namespace LlmopsGateway.JsonText

open PyText
open Uuid (hexValue?)

/-- A reader takes a value from the beginning of a text. -/
abbrev Reader (α : Type) := List Char → Except LoadError (α × List Char)

def isWhitespace (c : Char) : Bool := c = ' ' || c = '\t' || c = '\n' || c = '\r'

def skip (text : List Char) : List Char := text.dropWhile isWhitespace

section strings

/-- Where a string literal is being read: between characters, behind a backslash, or before the last
`left + 1` digits of a `\u` escape. -/
inductive Position
  | plain
  | escape
  | unit (left value : ℕ)
deriving DecidableEq

def isHigh (unit : ℕ) : Bool := 0xd800 ≤ unit && unit ≤ 0xdbff

def isLow (unit : ℕ) : Bool := 0xdc00 ≤ unit && unit ≤ 0xdfff

def replacement : Char := '\ufffd'

/-- A high surrogate that no low one follows. -/
def lone (high : Option ℕ) : List Char := (high.map fun _ => replacement).toList

/-- The character of a code unit that stands alone, or the unit as the first half of one. -/
def single (unit : ℕ) : List Char × Option ℕ :=
  if isHigh unit then ([], some unit)
  else if isLow unit then ([replacement], none)
  else ([Char.ofNat unit], none)

/-- What a code unit adds behind the high surrogate before it. -/
def join (high : Option ℕ) (unit : ℕ) : List Char × Option ℕ :=
  match high with
  | none => single unit
  | some first =>
    if isLow unit then ([Char.ofNat (0x10000 + (first - 0xd800) * 0x400 + (unit - 0xdc00))], none)
    else (replacement :: (single unit).1, (single unit).2)

/-- The characters of the escapes of two characters. -/
def unescape (c : Char) : Option Char :=
  [('"', '"'), ('\\', '\\'), ('/', '/'), ('b', '\x08'), ('f', '\x0c'), ('n', '\n'), ('r', '\r'),
    ('t', '\t')].lookup c

/-- These characters and then the rest of a literal. -/
def prefixed (text : List Char) : Except LoadError (List Char × List Char) →
    Except LoadError (List Char × List Char)
  | .ok (later, rest) => .ok (text ++ later, rest)
  | .error error => .error error

/-- A string literal behind its opening quote. -/
def stringBody : Position → Option ℕ → Reader (List Char)
  | _, _, [] => .error .decode
  | .plain, high, c :: rest =>
    if c = '"' then .ok (lone high, rest)
    else if c = '\\' then stringBody .escape high rest
    else if c.toNat < 0x20 then .error .decode
    else prefixed (lone high ++ [c]) (stringBody .plain none rest)
  | .escape, high, c :: rest =>
    if c = 'u' then stringBody (.unit 3 0) high rest
    else
      match unescape c with
      | none => .error .decode
      | some meant => prefixed (lone high ++ [meant]) (stringBody .plain none rest)
  | .unit left value, high, c :: rest =>
    match hexValue? c with
    | none => .error .decode
    | some digit =>
      match left with
      | left + 1 => stringBody (.unit left (16 * value + digit)) high rest
      | 0 =>
        let joined := join high (16 * value + digit)
        prefixed joined.1 (stringBody .plain joined.2 rest)

end strings

section numbers

variable (floatOf : List Char → PyFloat)

def nan : PyFloat := { text := "nan" }

def infinity : PyFloat := { text := "inf" }

def negativeInfinity : PyFloat := { text := "-inf" }

def constants : List (List Char × Json) :=
  [(['n', 'u', 'l', 'l'], .null), (['t', 'r', 'u', 'e'], .bool true), (['f', 'a', 'l', 's', 'e'], .bool false),
    (['N', 'a', 'N'], .float nan), (['I', 'n', 'f', 'i', 'n', 'i', 't', 'y'], .float infinity),
    (['-', 'I', 'n', 'f', 'i', 'n', 'i', 't', 'y'], .float negativeInfinity)]

/-- A number ends where none of these characters follows. -/
def isNumberChar (c : Char) : Bool := c.isDigit || c ∈ ['+', '-', '.', 'e', 'E']

/-- `[eE][-+]?[0-9]+`, or nothing. -/
def isExponent : List Char → Bool
  | [] => true
  | 'e' :: sign :: digits | 'E' :: sign :: digits =>
    if sign = '+' ∨ sign = '-' then !digits.isEmpty && digits.all (·.isDigit)
    else (sign :: digits).all (·.isDigit)
  | _ => false

/-- What may follow the integer part of a float: a fraction, an exponent or both. -/
def isFraction : List Char → Bool
  | '.' :: rest => !(rest.takeWhile (·.isDigit)).isEmpty && isExponent (rest.dropWhile (·.isDigit))
  | [] => false
  | rest => isExponent rest

/-- The integer part is that of a float, whatever may be wrong behind it. -/
def beginsFraction : List Char → Bool
  | '.' :: digit :: _ => digit.isDigit
  | 'e' :: sign :: rest | 'E' :: sign :: rest =>
    sign.isDigit || ((sign = '+' || sign = '-') && rest.head?.any (·.isDigit))
  | _ => false

/-- `0|[1-9][0-9]*`. -/
def isWhole : List Char → Bool
  | [] => false
  | '0' :: rest => rest.isEmpty
  | _ => true

def natOf (digits : List Char) : ℕ := digits.foldl (fun value c => 10 * value + (c.toNat - '0'.toNat)) 0

/-- A number without its sign. -/
def unsignedNumber (negative : Bool) (token body : List Char) : Except LoadError Json :=
  let whole := body.takeWhile (·.isDigit)
  let rest := body.dropWhile (·.isDigit)
  if isWhole whole then
    if rest = [] then
      if 4300 < whole.length then .error .other
      else .ok (.int (if negative then -natOf whole else natOf whole))
    else if isFraction rest then .ok (.float (floatOf token))
    -- the number in front is read before the error behind it is seen
    else if 4300 < whole.length && !beginsFraction rest then .error .other
    else .error .decode
  else .error .decode

def decodeNumber (token : List Char) : Except LoadError Json :=
  match token with
  | '-' :: body => unsignedNumber floatOf true token body
  | body => unsignedNumber floatOf false token body

/-- A constant or a number. -/
def scalar : Reader Json := fun text =>
  match constants.find? fun constant => constant.1.isPrefixOf text with
  | some (name, value) => .ok (value, text.drop name.length)
  | none =>
    match decodeNumber floatOf (text.takeWhile isNumberChar) with
    | .ok value => .ok (value, text.dropWhile isNumberChar)
    | .error error => .error error

end numbers

section values

variable {α : Type}

/-- Items with commas between them, up to the bracket. -/
def series (read : Reader α) (close : Char) : ℕ → Reader (List α)
  | 0, _ => .error .decode
  | fuel + 1, text => do
    let (item, rest) ← read text
    match skip rest with
    | [] => .error .decode
    | c :: rest =>
      if c = close then .ok ([item], rest)
      else if c = ',' then do
        let (items, rest) ← series read close fuel (skip rest)
        .ok (item :: items, rest)
      else .error .decode

/-- What stands behind an opening bracket. -/
def enclosed (read : Reader α) (close : Char) (fuel : ℕ) : Reader (List α) := fun text =>
  match skip text with
  | [] => .error .decode
  | c :: rest => if c = close then .ok ([], rest) else series read close fuel (c :: rest)

/-- A key, a colon and a value. -/
def member (read : Reader Json) : Reader (String × Json) := fun text =>
  match text with
  | '"' :: rest => do
    let (key, rest) ← stringBody .plain none rest
    match skip rest with
    | ':' :: rest => do
      let (value, rest) ← read (skip rest)
      .ok ((String.ofList key, value), rest)
    | _ => .error .decode
  | _ => .error .decode

/-- `dict[key] = value`. -/
def insert (fields : List (String × Json)) (field : String × Json) : List (String × Json) :=
  if field.1 ∈ fields.map Prod.fst then fields.map fun other => if other.1 = field.1 then field else other
  else fields ++ [field]

/-- `dict(pairs)`. -/
def dict (pairs : List (String × Json)) : List (String × Json) := pairs.foldl insert []

/-- A value, with a bound on how deep and how long it is. -/
def value (floatOf : List Char → PyFloat) : ℕ → Reader Json
  | 0, _ => .error .decode
  | _, [] => .error .decode
  | fuel + 1, c :: rest =>
    if c = '"' then do
      let (text, rest) ← stringBody .plain none rest
      .ok (.str (String.ofList text), rest)
    else if c = '[' then do
      let (items, rest) ← enclosed (value floatOf fuel) ']' fuel rest
      .ok (.arr items, rest)
    else if c = '{' then do
      let (pairs, rest) ← enclosed (member (value floatOf fuel)) '}' fuel rest
      .ok (.obj (dict pairs), rest)
    else scalar floatOf (c :: rest)

/-- `json.loads`. -/
def loads (floatOf : List Char → PyFloat) : Loads := fun text => do
  let (value, rest) ← value floatOf text.length (skip text)
  if skip rest = [] then .ok value else .error .decode

end values

section dumps

/-- `\u` and four digits. -/
def escapeUnit (unit : ℕ) : List Char := '\\' :: 'u' :: hexDigits 4 unit

/-- A character in a string literal of ASCII characters. -/
def escapeChar (c : Char) : List Char :=
  if c = '"' then ['\\', '"']
  else if c = '\\' then ['\\', '\\']
  else if c = '\n' then ['\\', 'n']
  else if c = '\r' then ['\\', 'r']
  else if c = '\t' then ['\\', 't']
  else if c = '\x0c' then ['\\', 'f']
  else if c = '\x08' then ['\\', 'b']
  else if 0x20 ≤ c.toNat ∧ c.toNat < 0x7f then [c]
  else if c.toNat < 0x10000 then escapeUnit c.toNat
  else escapeUnit (0xd800 + (c.toNat - 0x10000) / 0x400) ++ escapeUnit (0xdc00 + (c.toNat - 0x10000) % 0x400)

def dumpString (text : String) : List Char := '"' :: (text.toList.flatMap escapeChar ++ ['"'])

def dumpFloat (float : PyFloat) : List Char :=
  if float = nan then "NaN".toList
  else if float = infinity then "Infinity".toList
  else if float = negativeInfinity then "-Infinity".toList
  else float.text.toList

mutual

/-- `json.dumps`. -/
def dumps : Json → List Char
  | .null => "null".toList
  | .bool true => "true".toList
  | .bool false => "false".toList
  | .int value => strOfInt (some value)
  | .float value => dumpFloat value
  | .str text => dumpString text
  | .arr items => '[' :: (List.intercalate [',', ' '] (dumpItems items) ++ [']'])
  | .obj fields => '{' :: (List.intercalate [',', ' '] (dumpFields fields) ++ ['}'])

def dumpItems : List Json → List (List Char)
  | [] => []
  | item :: rest => dumps item :: dumpItems rest

def dumpFields : List (String × Json) → List (List Char)
  | [] => []
  | (key, value) :: rest => (dumpString key ++ ':' :: ' ' :: dumps value) :: dumpFields rest

end

end dumps

end LlmopsGateway.JsonText
