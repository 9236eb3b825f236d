import LlmopsGateway.Model.PyUuid
import LlmopsGateway.Soundness.PyTextReading

/-! # A UUID is read back from its text

The canonical text has none of the spellings the constructor takes apart, so removing the hyphens leaves
the 32 digits, and `int` reads them.
-/

namespace LlmopsGateway.Uuid

open PyText

variable {decimal : Char → Option (Fin 10)}

def digits : List Char := "0123456789abcdef".toList

theorem removeFrom_of_not_mem {c : Char} {pattern text : List Char} (absent : c ∉ text) :
    removeFrom (c :: pattern) 0 text = text := by
  induction text with
  | nil => rfl
  | cons first rest ih =>
    have other : c ≠ first := fun same => absent (same ▸ List.mem_cons_self)
    have missed : (c :: pattern).isPrefixOf (first :: rest) = false := by
      simp [List.isPrefixOf, other]
    rw [removeFrom, missed, ih fun member => absent (List.mem_cons_of_mem first member)]
    rfl

theorem stripBy_of_none {kind : Char → Bool} {text : List Char} (none : ∀ c ∈ text, kind c = false) :
    stripBy kind text = text := by
  have front : text.dropWhile kind = text := by
    cases text with
    | nil => rfl
    | cons c rest => rw [List.dropWhile_cons_of_neg (by simp [none c])]
  have back : text.reverse.dropWhile kind = text.reverse := by
    cases reversed : text.reverse with
    | nil => rfl
    | cons c rest =>
      have member : c ∈ text := by
        rw [← List.mem_reverse, reversed]
        exact List.mem_cons_self
      rw [List.dropWhile_cons_of_neg (by simp [none c member])]
  rw [stripBy, front, back, List.reverse_reverse]

theorem hexValue?_of_digit {c : Char} (digit : c ∈ digits) : hexValue? c = some (hexValue c) := by
  have table : ∀ c ∈ digits, hexValue? c = some (hexValue c) := by decide
  exact table c digit

theorem digitsFrom_of_digits {text : List Char} (all : ∀ c ∈ text, c ∈ digits) (value : ℕ) :
    digitsFrom value text = some (text.foldl (fun sofar c => 16 * sofar + hexValue c) value) := by
  induction text generalizing value with
  | nil => rfl
  | cons c rest ih =>
    obtain ⟨digit, others⟩ := List.forall_mem_cons.mp all
    have plain : c ≠ '_' := by
      rintro rfl
      exact absurd digit (by decide)
    have read : digitsFrom value (c :: rest) =
        (hexValue? c).bind fun digit => digitsFrom (16 * value + digit) rest := by
      rw [digitsFrom]
      exact fun _ _ underscore => absurd underscore plain
    rw [read, hexValue?_of_digit digit, Option.bind_some, ih others, List.foldl_cons]

theorem toAscii_of_digit {c : Char} (digit : c ∈ digits) : toAscii decimal c = c := by
  have table : ∀ c ∈ digits, c.toNat < 0x7f := by decide
  exact if_pos (table c digit)

theorem isIntSpace_of_digit {c : Char} (digit : c ∈ digits) : isIntSpace c = false := by
  have table : ∀ c ∈ digits, isIntSpace c = false := by decide
  exact table c digit

theorem unsigned_of_digits {text : List Char} (all : ∀ c ∈ text, c ∈ digits) : unsigned text = text := by
  unfold unsigned
  split
  · exact absurd (all '+' List.mem_cons_self) (by decide)
  · rfl

theorem unprefixed_of_digits {text : List Char} (all : ∀ c ∈ text, c ∈ digits) : unprefixed text = text := by
  have small : 'x' ∉ text := fun member => absurd (all 'x' member) (by decide)
  have capital : 'X' ∉ text := fun member => absurd (all 'X' member) (by decide)
  unfold unprefixed
  split <;> first | rfl | simp at small capital

/-- `int` reads plain digits. -/
theorem int16_of_digits {text : List Char} (all : ∀ c ∈ text, c ∈ digits) (some : text ≠ []) :
    int16 decimal text = Option.some (readHex text) := by
  have ascii : text.map (toAscii decimal) = text := by
    conv_rhs => rw [← List.map_id text]
    exact List.map_congr_left fun c member => toAscii_of_digit (all c member)
  have stripped : stripBy isIntSpace text = text :=
    stripBy_of_none fun c member => isIntSpace_of_digit (all c member)
  rw [int16, ascii, stripped, unsigned_of_digits all, unprefixed_of_digits all]
  obtain ⟨c, rest, rfl⟩ := List.exists_cons_of_ne_nil some
  obtain ⟨digit, others⟩ := List.forall_mem_cons.mp all
  simp only [hexValue?_of_digit digit, Option.bind_some, digitsFrom_of_digits others]
  rw [readHex, List.foldl_cons, Nat.mul_zero, Nat.zero_add]

theorem hex_digits (uuid : Uuid) : ∀ c ∈ uuid.hex, c ∈ digits := fun _ member => mem_hexDigits member

theorem hex_length (uuid : Uuid) : uuid.hex.length = 32 := length_hexDigits 32 uuid.value

/-- The text is the digits with hyphens in between. -/
theorem text_eq (uuid : Uuid) : ∃ a b c d e, uuid.hex = a ++ (b ++ (c ++ (d ++ e))) ∧
    uuid.text = a ++ '-' :: (b ++ '-' :: (c ++ '-' :: (d ++ '-' :: e))) := by
  refine ⟨_, _, _, _, _, ?_, rfl⟩
  conv_lhs => rw [← List.take_append_drop 8 uuid.hex, ← List.take_append_drop 4 (uuid.hex.drop 8),
    ← List.take_append_drop 4 ((uuid.hex.drop 8).drop 4),
    ← List.take_append_drop 4 (((uuid.hex.drop 8).drop 4).drop 4)]
  simp only [List.drop_drop]

theorem text_filter (uuid : Uuid) : uuid.text.filter (· ≠ '-') = uuid.hex := by
  have plain : uuid.hex.filter (· ≠ '-') = uuid.hex := by
    refine List.filter_eq_self.mpr fun c member => decide_eq_true ?_
    rintro rfl
    exact absurd (uuid.hex_digits '-' member) (by decide)
  obtain ⟨a, b, c, d, e, hex, text⟩ := uuid.text_eq
  rw [← plain, hex, text]
  simp

theorem text_mem {uuid : Uuid} {c : Char} (member : c ∈ uuid.text) : c = '-' ∨ c ∈ digits := by
  by_cases hyphen : c = '-'
  · exact .inl hyphen
  · have kept : c ∈ uuid.text.filter (· ≠ '-') := List.mem_filter.mpr ⟨member, decide_eq_true hyphen⟩
    rw [text_filter] at kept
    exact .inr (uuid.hex_digits c kept)

/-- The constructor reads the canonical text back. -/
theorem parse_text (uuid : Uuid) : parse decimal uuid.text = some uuid := by
  have absent (c : Char) (other : c ≠ '-' ∧ c ∉ digits) : c ∉ uuid.text :=
    fun member => (text_mem member).elim other.1 other.2
  have kept : (stripBy (fun c => c == '{' || c == '}')
      (remove "uuid:".toList (remove "urn:".toList uuid.text))).filter (· ≠ '-') = uuid.hex := by
    have urn : remove "urn:".toList uuid.text = uuid.text := removeFrom_of_not_mem (absent 'u' (by decide))
    have scheme : remove "uuid:".toList uuid.text = uuid.text := removeFrom_of_not_mem (absent 'u' (by decide))
    rw [urn, scheme, stripBy_of_none, text_filter]
    intro c member
    have open' : c ≠ '{' := fun same => absent '{' (by decide) (same ▸ member)
    have close : c ≠ '}' := fun same => absent '}' (by decide) (same ▸ member)
    simp [open', close]
  have value : readHex uuid.hex = uuid.value := by
    rw [hex, readHex_hexDigits, Nat.mod_eq_of_lt uuid.below]
  have read : int16 decimal uuid.hex = some uuid.value := by
    rw [int16_of_digits uuid.hex_digits (List.ne_nil_of_length_eq_add_one uuid.hex_length), value]
  simp only [parse, kept, hex_length, if_true, read, Option.bind_some, uuid.below, dif_pos]

theorem text_injective : Function.Injective text := by
  intro left right same
  have read : parse (fun _ => none) left.text = some left := left.parse_text
  rw [same, parse_text] at read
  exact (Option.some.inj read).symm

end LlmopsGateway.Uuid
