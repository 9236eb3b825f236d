import LlmopsGateway.Math.Words
import Mathlib.Algebra.Group.Nat.Defs
import Mathlib.Data.Nat.Notation

/-! # Python texts

What the repository uses of `str`, `repr` and f-strings: whitespace, `strip` and `split`, and the
texts of an optional integer, of a float and of an optional list of strings. Texts are lists of
code points. Whether a character outside ASCII is printable is a table of Python's Unicode
database and stays a parameter. The lines are those of `str.splitlines`, whose boundaries `aiter_lines` of the
HTTP client shares.
-/

namespace LlmopsGateway.PyText

/-- What holds of all characters of a text is decided by going through the text. -/
instance (priority := high) decidableForallMem (property : Char → Prop) [DecidablePred property]
    (text : List Char) :
    Decidable (∀ c ∈ text, property c) :=
  text.decidableBAll property

/-- `str.isspace` of one character, the whitespace of `strip` and `split`. -/
def isSpace (c : Char) : Bool :=
  (0x09 ≤ c.toNat && c.toNat ≤ 0x0d) || (0x1c ≤ c.toNat && c.toNat ≤ 0x20) ||
    c.toNat == 0x85 || c.toNat == 0xa0 || c.toNat == 0x1680 ||
    (0x2000 ≤ c.toNat && c.toNat ≤ 0x200a) || c.toNat == 0x2028 || c.toNat == 0x2029 ||
    c.toNat == 0x202f || c.toNat == 0x205f || c.toNat == 0x3000

theorem digits_zero : ∀ c ∈ "0.0".toList, c ∈ "0123456789+-.einfa".toList := by simp

theorem digits_one : ∀ c ∈ "1.0".toList, c ∈ "0123456789+-.einfa".toList := by simp

/-- `str` of a float, from which Python reads the same float back. -/
structure PyFloat where
  text : String
  digits : ∀ c ∈ text.toList, c ∈ "0123456789+-.einfa".toList := by
    first | exact digits_zero | exact digits_one | simp
deriving DecidableEq

def hexDigit (n : ℕ) : Char := "0123456789abcdef".toList.getD n '0'

/-- `n` in exactly `width` lower-case hexadecimal digits. -/
def hexDigits : ℕ → ℕ → List Char
  | 0, _ => []
  | width + 1, n => hexDigits width (n / 16) ++ [hexDigit (n % 16)]

inductive Quote
  | single
  | double
deriving DecidableEq, Repr

def Quote.char : Quote → Char
  | .single => '\''
  | .double => '"'

section repr

variable (isPrintable : Char → Bool)

/-- One character inside the `repr` of a string. -/
def reprChar (quote : Quote) (c : Char) : List Char :=
  if c = quote.char ∨ c = '\\' then ['\\', c]
  else if c = '\t' then ['\\', 't']
  else if c = '\n' then ['\\', 'n']
  else if c = '\r' then ['\\', 'r']
  else if c.toNat < 0x20 ∨ c.toNat = 0x7f then '\\' :: 'x' :: hexDigits 2 c.toNat
  else if c.toNat < 0x7f then [c]
  else if isPrintable c then [c]
  else if c.toNat ≤ 0xff then '\\' :: 'x' :: hexDigits 2 c.toNat
  else if c.toNat ≤ 0xffff then '\\' :: 'u' :: hexDigits 4 c.toNat
  else '\\' :: 'U' :: hexDigits 8 c.toNat

/-- Double quotes only around a text that has single quotes and no double ones. -/
def reprQuote (text : List Char) : Quote :=
  if '\'' ∈ text ∧ '"' ∉ text then .double else .single

def reprStr (text : List Char) : List Char :=
  (reprQuote text).char ::
    (text.flatMap (reprChar isPrintable (reprQuote text)) ++ [(reprQuote text).char])

def reprList (items : List (List Char)) : List Char :=
  '[' :: (List.intercalate [',', ' '] (items.map (reprStr isPrintable)) ++ [']'])

/-- `str` of a `list[str] | None`. -/
def strOfStop : Option (List String) → List Char
  | none => "None".toList
  | some items => reprList isPrintable (items.map String.toList)

end repr

/-- `str` of an `int | None`. -/
def strOfInt : Option ℤ → List Char
  | none => "None".toList
  | some (.ofNat n) => Nat.toDigits 10 n
  | some (.negSucc n) => '-' :: Nat.toDigits 10 (n + 1)

/-- The characters that end a line. -/
def isLineBreak (c : Char) : Bool :=
  (0x0a ≤ c.toNat && c.toNat ≤ 0x0d) || (0x1c ≤ c.toNat && c.toNat ≤ 0x1e) || c.toNat == 0x85 ||
    c.toNat == 0x2028 || c.toNat == 0x2029

/-- `c` stands in front of the first of these lines. -/
def attach (c : Char) : List (List Char) → List (List Char)
  | [] => [[c]]
  | line :: rest => (c :: line) :: rest

/-- `text.splitlines()`. -/
def splitLines : List Char → List (List Char)
  | [] => []
  | '\r' :: '\n' :: rest => [] :: splitLines rest
  | c :: rest => if isLineBreak c then [] :: splitLines rest else attach c (splitLines rest)

theorem attach_append {c : Char} {lines : List (List Char)} (more : List (List Char)) (nonempty : lines ≠ []) :
    attach c (lines ++ more) = lines.modifyHead (c :: ·) ++ more := by
  cases lines with
  | nil => contradiction
  | cons line lines => rfl

theorem splitLines_cons {c : Char} (notReturn : c ≠ '\r') (rest : List Char) :
    splitLines (c :: rest) = if isLineBreak c then [] :: splitLines rest else attach c (splitLines rest) := by
  rw [splitLines]
  rintro _ rfl
  exact absurd rfl notReturn

/-- A text that a newline ends is cut at its line boundaries, whatever follows. -/
theorem splitLines_append {text : List Char} (noReturn : '\r' ∉ text) (more : List Char) :
    splitLines (text ++ '\n' :: more) = text.splitOnP isLineBreak ++ splitLines more := by
  induction text with
  | nil => rfl
  | cons c text ih =>
    have notReturn : c ≠ '\r' := fun same => noReturn (same ▸ List.mem_cons_self ..)
    have later : '\r' ∉ text := fun member => noReturn (List.mem_cons_of_mem _ member)
    rw [List.cons_append, splitLines_cons notReturn, ih later, List.splitOnP_cons_eq_if_modifyHead]
    split
    · rfl
    · exact attach_append _ (List.splitOnP_ne_nil _ _)

end LlmopsGateway.PyText
