import LlmopsGateway.Model.PyText

/-! # Python's UUIDs

`str` of a `uuid.UUID` and its constructor, which takes many spellings of the 32 hexadecimal digits
and reads them with `int(text, 16)`. Which digits outside ASCII stand for a decimal digit is a table
of Python's Unicode database and stays a parameter.
-/

namespace LlmopsGateway

open PyText

structure Uuid where
  value : ℕ
  below : value < 16 ^ 32 := by decide
deriving DecidableEq

namespace Uuid

/-- `uuid.UUID(int=value)` of a small number. -/
def ofNat (value : ℕ) : Uuid := ⟨value % 16 ^ 32, Nat.mod_lt value (by decide)⟩

def hex (uuid : Uuid) : List Char := hexDigits 32 uuid.value

/-- The digits in groups of 8, 4, 4, 4 and 12. -/
def text (uuid : Uuid) : List Char :=
  uuid.hex.take 8 ++ '-' :: ((uuid.hex.drop 8).take 4 ++ '-' :: ((uuid.hex.drop 12).take 4 ++
    '-' :: ((uuid.hex.drop 16).take 4 ++ '-' :: uuid.hex.drop 20)))

def str (uuid : Uuid) : String := String.ofList uuid.text

/-- `text.replace(pattern, "")`, with the characters of a hit that are still to be left out. -/
def removeFrom (pattern : List Char) : ℕ → List Char → List Char
  | _, [] => []
  | skip + 1, _ :: rest => removeFrom pattern skip rest
  | 0, c :: rest =>
    if pattern.isPrefixOf (c :: rest) then removeFrom pattern (pattern.length - 1) rest
    else c :: removeFrom pattern 0 rest

def remove (pattern text : List Char) : List Char := removeFrom pattern 0 text

/-- `text.strip` of the characters of a kind. -/
def stripBy (kind : Char → Bool) (text : List Char) : List Char :=
  ((text.dropWhile kind).reverse.dropWhile kind).reverse

section int

variable (decimal : Char → Option (Fin 10))

/-- `int` reads any Unicode space and any decimal digit as the ASCII one. -/
def toAscii (c : Char) : Char :=
  if c.toNat < 0x7f then c
  else if isSpace c then ' '
  else
    match decimal c with
    | some digit => hexDigit digit
    | none => '?'

def isIntSpace (c : Char) : Bool := (0x09 ≤ c.toNat && c.toNat ≤ 0x0d) || c == ' '

def hexValue? (c : Char) : Option ℕ :=
  if '0' ≤ c ∧ c ≤ '9' then some (c.toNat - '0'.toNat)
  else if 'a' ≤ c ∧ c ≤ 'f' then some (c.toNat - 'a'.toNat + 10)
  else if 'A' ≤ c ∧ c ≤ 'F' then some (c.toNat - 'A'.toNat + 10)
  else none

/-- The digits after the first; an underscore may stand before each of them. -/
def digitsFrom : ℕ → List Char → Option ℕ
  | value, [] => some value
  | value, '_' :: c :: rest => (hexValue? c).bind fun digit => digitsFrom (16 * value + digit) rest
  | value, c :: rest => (hexValue? c).bind fun digit => digitsFrom (16 * value + digit) rest

/-- What may stand before the digits: a sign, and then `0x` with an underscore or without. A minus sign
has been removed with the other hyphens. -/
def unsigned : List Char → List Char
  | '+' :: rest => rest
  | text => text

def unprefixed : List Char → List Char
  | '0' :: 'x' :: '_' :: rest => rest
  | '0' :: 'X' :: '_' :: rest => rest
  | '0' :: 'x' :: rest => rest
  | '0' :: 'X' :: rest => rest
  | text => text

/-- `int(text, 16)` of a text without a minus sign. -/
def int16 (text : List Char) : Option ℕ :=
  match unprefixed (unsigned (stripBy isIntSpace (text.map (toAscii decimal)))) with
  | [] => none
  | c :: rest => (hexValue? c).bind fun digit => digitsFrom digit rest

/-- `uuid.UUID(text)`; `none` is its `ValueError`. -/
def parse (text : List Char) : Option Uuid :=
  let hex := (stripBy (fun c => c == '{' || c == '}')
    (remove "uuid:".toList (remove "urn:".toList text))).filter (· ≠ '-')
  if hex.length = 32 then
    (int16 decimal hex).bind fun value => if below : value < 16 ^ 32 then some ⟨value, below⟩ else none
  else none

end int

end Uuid

end LlmopsGateway
