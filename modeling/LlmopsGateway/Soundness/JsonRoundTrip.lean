import LlmopsGateway.Soundness.JsonReading
import LlmopsGateway.Soundness.UuidText

/-! # JSON texts are read back

`json.loads` inverts `json.dumps` on the values it can write: string by string, then number by number, and
from there on by the structure of the value. The text is printable ASCII throughout.
-/

namespace LlmopsGateway.JsonText

open Machine PyText
open Uuid (hexValue? hexValue?_of_digit)

section strings

variable {high : Option ℕ} {rest : List Char}

theorem prefixed_nil (read : Except LoadError (List Char × List Char)) : prefixed [] read = read := by
  cases read <;> rfl

theorem hexValue?_hexDigit {n : ℕ} (digit : n < 16) : hexValue? (hexDigit n) = some n := by
  rw [hexValue?_of_digit (hexDigit_mem n), hexValue_hexDigit digit]

theorem stringBody_digit {left value n : ℕ} (digit : n < 16) :
    stringBody (.unit (left + 1) value) high (hexDigit n :: rest) =
      stringBody (.unit left (16 * value + n)) high rest := by
  rw [stringBody, hexValue?_hexDigit digit]

/-- A `\u` escape is one code unit. -/
theorem stringBody_escapeUnit {unit : ℕ} (fits : unit < 0x10000) :
    stringBody .plain high (escapeUnit unit ++ rest) =
      prefixed (join high unit).1 (stringBody .plain (join high unit).2 rest) := by
  have written : escapeUnit unit ++ rest = '\\' :: 'u' :: hexDigit (unit / 16 / 16 / 16 % 16) ::
      hexDigit (unit / 16 / 16 % 16) :: hexDigit (unit / 16 % 16) :: hexDigit (unit % 16) :: rest := rfl
  have digit (n : ℕ) : n % 16 < 16 := Nat.mod_lt n (by decide)
  have value : 16 * (16 * (16 * (16 * 0 + unit / 16 / 16 / 16 % 16) + unit / 16 / 16 % 16) + unit / 16 % 16) +
      unit % 16 = unit := by
    omega
  have opened (text : List Char) : stringBody .plain high ('\\' :: 'u' :: text) =
      stringBody (.unit 3 0) high text := rfl
  rw [written, opened, stringBody_digit (digit _), stringBody_digit (digit _),
    stringBody_digit (digit _), stringBody, hexValue?_hexDigit (digit _)]
  simp only [value]

theorem isSurrogate (c : Char) : isHigh c.toNat = false ∧ isLow c.toNat = false := by
  have valid : c.toNat < 0xd800 ∨ (0xdfff < c.toNat ∧ c.toNat < 0x110000) := c.valid
  simp only [isHigh, isLow, Bool.and_eq_false_iff, decide_eq_false_iff_not]
  omega

theorem single_char (c : Char) : single c.toNat = ([c], none) := by
  obtain ⟨notHigh, notLow⟩ := isSurrogate c
  simp [single, notHigh, notLow, Char.ofNat_toNat]

/-- The two halves of a character behind the basic plane. -/
theorem join_halves {c : Char} (astral : 0x10000 ≤ c.toNat) :
    join none (0xd800 + (c.toNat - 0x10000) / 0x400) = ([], some (0xd800 + (c.toNat - 0x10000) / 0x400)) ∧
      join (some (0xd800 + (c.toNat - 0x10000) / 0x400)) (0xdc00 + (c.toNat - 0x10000) % 0x400) =
        ([c], none) := by
  have valid : c.toNat < 0xd800 ∨ (0xdfff < c.toNat ∧ c.toNat < 0x110000) := c.valid
  have high : isHigh (0xd800 + (c.toNat - 0x10000) / 0x400) = true := by
    rw [isHigh, Bool.and_eq_true, decide_eq_true_iff, decide_eq_true_iff]
    omega
  have low : isLow (0xdc00 + (c.toNat - 0x10000) % 0x400) = true := by
    rw [isLow, Bool.and_eq_true, decide_eq_true_iff, decide_eq_true_iff]
    omega
  have point : 0x10000 + (0xd800 + (c.toNat - 0x10000) / 0x400 - 0xd800) * 0x400 +
      (0xdc00 + (c.toNat - 0x10000) % 0x400 - 0xdc00) = c.toNat := by
    omega
  constructor
  · rw [join, single, if_pos high]
  · simp only [join, if_pos low, point, Char.ofNat_toNat]

/-- The ways to write a character: behind a backslash, as it is, as its code unit, or as two of them. -/
inductive Escaped (c : Char) : List Char → Prop
  | short (letter : Char) (known : letter ∈ ['"', '\\', 'n', 'r', 't', 'f', 'b'])
    (meant : unescape letter = some c) :
    Escaped c ['\\', letter]
  | plain (notQuote : c ≠ '"') (notBackslash : c ≠ '\\') (visible : 0x20 ≤ c.toNat ∧ c.toNat < 0x7f) :
    Escaped c [c]
  | unit (basic : c.toNat < 0x10000) : Escaped c (escapeUnit c.toNat)
  | pair (astral : 0x10000 ≤ c.toNat) : Escaped c
    (escapeUnit (0xd800 + (c.toNat - 0x10000) / 0x400) ++ escapeUnit (0xdc00 + (c.toNat - 0x10000) % 0x400))

theorem escaped_escapeChar (c : Char) : Escaped c (escapeChar c) := by
  unfold escapeChar
  split
  · next quote => exact quote ▸ .short '"' (by decide) rfl
  split
  · next backslash => exact backslash ▸ .short '\\' (by decide) rfl
  split
  · next newline => exact newline ▸ .short 'n' (by decide) rfl
  split
  · next carriage => exact carriage ▸ .short 'r' (by decide) rfl
  split
  · next tab => exact tab ▸ .short 't' (by decide) rfl
  split
  · next feed => exact feed ▸ .short 'f' (by decide) rfl
  split
  · next backspace => exact backspace ▸ .short 'b' (by decide) rfl
  split
  · next visible => exact .plain ‹_› ‹_› visible
  split
  · next basic => exact .unit basic
  · next astral => exact .pair (Nat.le_of_not_lt astral)

/-- A character is read back from the way it is written. -/
theorem stringBody_escapeChar (c : Char) :
    stringBody .plain none (escapeChar c ++ rest) = prefixed [c] (stringBody .plain none rest) := by
  have escaped := escaped_escapeChar c
  generalize escapeChar c = written at escaped ⊢
  cases escaped with
  | short letter known meant =>
    have notUnit : letter ≠ 'u' := by
      rintro rfl
      exact absurd known (by decide)
    have opened : stringBody .plain none (['\\', letter] ++ rest) =
        stringBody .escape none (letter :: rest) := rfl
    rw [opened, stringBody, if_neg notUnit, meant]
    rfl
  | plain notQuote notBackslash visible =>
    rw [List.singleton_append, stringBody, if_neg notQuote, if_neg notBackslash,
      if_neg (Nat.not_lt.mpr visible.1)]
    rfl
  | unit basic => rw [stringBody_escapeUnit basic, join, single_char]
  | pair astral =>
    have valid : c.toNat < 0xd800 ∨ (0xdfff < c.toNat ∧ c.toNat < 0x110000) := c.valid
    obtain ⟨first, second⟩ := join_halves astral
    rw [List.append_assoc, stringBody_escapeUnit (by omega), first, stringBody_escapeUnit (by omega), second,
      prefixed_nil]

theorem stringBody_escaped (text : List Char) :
    stringBody .plain none (text.flatMap escapeChar ++ '"' :: rest) = .ok (text, rest) := by
  induction text with
  | nil => rfl
  | cons c text ih =>
    rw [List.flatMap_cons, List.append_assoc, stringBody_escapeChar, ih]
    rfl

end strings

section numbers

variable {floatOf : List Char → PyFloat}

theorem isNumberChar_of_digit {c : Char} (digit : c.isDigit = true) : isNumberChar c = true := by
  rw [isNumberChar, digit, Bool.true_or]

theorem natOf_toDigits (n : ℕ) : natOf (Nat.toDigits 10 n) = n := by
  rw [natOf, ← Nat.ofDigitChars_eq_foldl, Nat.ofDigitChars_toDigits (by decide) (by decide)]

theorem toDigits_head {n : ℕ} (positive : 0 < n) : ∃ c rest, Nat.toDigits 10 n = c :: rest ∧ c ≠ '0' := by
  induction n using Nat.strongRecOn with
  | _ n ih =>
    by_cases small : n < 10
    · have table : ∀ n < 10, 0 < n → n.digitChar ≠ '0' := by decide
      exact ⟨n.digitChar, [], Nat.toDigits_of_lt_base small, table n small positive⟩
    · obtain ⟨c, rest, front, nonzero⟩ := ih (n / 10) (by omega) (by omega)
      refine ⟨c, rest ++ [(n % 10).digitChar], ?_, nonzero⟩
      rw [Nat.toDigits_of_base_le (by decide) (Nat.le_of_not_lt small), front, List.cons_append]

/-- Digits start with a zero only where it stands alone. -/
theorem isWhole_toDigits (n : ℕ) : isWhole (Nat.toDigits 10 n) = true := by
  cases n with
  | zero => rfl
  | succ n =>
    obtain ⟨c, rest, digits, nonzero⟩ := toDigits_head n.succ_pos
    rw [digits]
    unfold isWhole
    split
    · contradiction
    · next same => exact absurd (List.cons.inj same).1 nonzero
    · rfl

theorem takeWhile_toDigits (n : ℕ) : (Nat.toDigits 10 n).takeWhile (·.isDigit) = Nat.toDigits 10 n ∧
    (Nat.toDigits 10 n).dropWhile (·.isDigit) = [] := by
  have digits (c : Char) (member : c ∈ Nat.toDigits 10 n) : c.isDigit = true := toDigits_isDigit member
  exact ⟨List.takeWhile_eq_self_iff.mpr digits, List.dropWhile_eq_nil_iff.mpr digits⟩

theorem unsignedNumber_toDigits {n : ℕ} (short : (Nat.toDigits 10 n).length ≤ 4300) (negative : Bool)
    (token : List Char) :
    unsignedNumber floatOf negative token (Nat.toDigits 10 n) = .ok (.int (if negative then -n else n)) := by
  obtain ⟨whole, rest⟩ := takeWhile_toDigits n
  simp only [unsignedNumber, whole, rest, isWhole_toDigits, natOf_toDigits, if_true,
    if_neg (Nat.not_lt.mpr short)]

/-- An integer that Python writes is read back. -/
theorem decodeNumber_strOfInt {value : ℤ} (short : (Nat.toDigits 10 value.natAbs).length ≤ 4300) :
    decodeNumber floatOf (strOfInt (some value)) = .ok (.int value) := by
  cases value with
  | ofNat n =>
    rw [strOfInt]
    unfold decodeNumber
    split
    · next same => exact absurd same (toDigits_ne_cons (by decide) _)
    · exact unsignedNumber_toDigits short false _
  | negSucc n =>
    rw [strOfInt, decodeNumber]
    exact unsignedNumber_toDigits short true _

end numbers

section written

variable {α : Type} {read : ℕ → Reader α} {close : Char} {texts : List (List Char)} {items : List α}

/-- A text from which the readers take exactly this item, whatever follows it. -/
structure Written (read : ℕ → Reader α) (text : List Char) (item : α) : Prop where
  opens : ∃ c rest, text = c :: rest ∧ isWhitespace c = false ∧ c ∉ [']', '}']
  again : ∀ fuel other, text.length ≤ fuel → Fresh other → read fuel (text ++ other) = .ok (item, other)

def separated (texts : List (List Char)) : List Char := List.intercalate [',', ' '] texts

theorem separated_cons (text next : List Char) (texts : List (List Char)) :
    separated (text :: next :: texts) = text ++ ',' :: ' ' :: separated (next :: texts) := by
  rw [separated, List.intercalate_cons_of_ne_nil (List.cons_ne_nil _ _), List.append_assoc]
  rfl

theorem separated_opens (written : List.Forall₂ (Written read) texts items) (nonempty : texts ≠ []) :
    ∃ c rest, separated texts = c :: rest ∧ isWhitespace c = false ∧ c ∉ [']', '}'] := by
  cases written with
  | nil => contradiction
  | @cons text item texts items first later =>
    obtain ⟨c, rest, rfl, letter, opens⟩ := first.opens
    cases texts with
    | nil => exact ⟨c, rest, List.intercalate_singleton, letter, opens⟩
    | cons next texts => exact ⟨c, _, separated_cons _ _ _, letter, opens⟩

theorem series_separated (closes : Punctuation close) (notComma : close ≠ ',')
    (written : List.Forall₂ (Written read) texts items) (nonempty : texts ≠ []) {fuel length : ℕ}
    {other : List Char}
    (enough : (separated texts).length ≤ fuel) (long : (separated texts).length < length) :
    series (read fuel) close length (separated texts ++ close :: other) = .ok (items, other) := by
  induction written generalizing length with
  | nil => contradiction
  | @cons text item texts items first later ih =>
    obtain ⟨length, rfl⟩ : ∃ n, length = n + 1 := ⟨length - 1, by omega⟩
    cases later with
    | nil =>
      rw [show separated [text] = text from List.intercalate_singleton] at enough ⊢
      exact series_last (first.again fuel _ enough (fresh_cons closes.fresh)) (skip_cons closes.letter)
    | @cons next item' texts items second later =>
      obtain ⟨c, rest, start, letter, -⟩ := separated_opens (.cons second later) (List.cons_ne_nil _ _)
      rw [separated_cons] at enough long ⊢
      simp only [List.length_append, List.length_cons] at enough long
      rw [List.append_assoc, List.cons_append, List.cons_append]
      refine series_comma notComma (first.again fuel _ (by omega) (fresh_cons punctuation_comma.fresh))
        (skip_cons punctuation_comma.letter) ?_
      have skipped : skip (' ' :: (separated (next :: texts) ++ close :: other)) =
          separated (next :: texts) ++ close :: other := by
        rw [start]
        exact skip_cons letter
      rw [skipped]
      exact ih (List.cons_ne_nil _ _) (by omega) (by omega)

/-- Items with commas between them are read back behind an opening bracket. -/
theorem enclosed_separated (closes : close ∈ [']', '}']) (written : List.Forall₂ (Written read) texts items)
    {fuel : ℕ} {other : List Char} (enough : (separated texts).length < fuel) :
    enclosed (read fuel) close fuel (separated texts ++ close :: other) = .ok (items, other) := by
  have mark : Punctuation close := punctuation_of_mem (by simp at closes ⊢; tauto)
  have notComma : close ≠ ',' := by
    rintro rfl
    exact absurd closes (by decide)
  by_cases empty : texts = []
  · subst empty
    cases written
    rw [show separated [] = [] from rfl, List.nil_append, enclosed, skip_cons mark.letter]
    simp only [if_pos]
  · obtain ⟨c, rest, start, letter, notClose⟩ := separated_opens written empty
    have others : c ≠ close := fun same => notClose (same ▸ closes)
    have ran : series (read fuel) close fuel (separated texts ++ close :: other) = .ok (items, other) :=
      series_separated mark notComma written empty (le_of_lt enough) enough
    rw [start, List.cons_append] at ran ⊢
    rw [enclosed, skip_cons letter]
    simp only [if_neg others]
    exact ran

end written

section values

variable {floatOf : List Char → PyFloat} {text : List Char} {item : Json}

/-- No value begins with whitespace or a closing bracket. -/
theorem opens_of_value {fuel : ℕ} {c : Char} {rest : List Char}
    (read : value floatOf fuel (c :: text) = .ok (item, rest)) : isWhitespace c = false ∧ c ∉ [']', '}'] := by
  obtain ⟨d, later, length, -, same, ways⟩ := value_of_ok read
  obtain ⟨rfl, rfl⟩ := List.cons.inj same
  rcases ways with ⟨rfl, -⟩ | ⟨rfl, -⟩ | ⟨rfl, -⟩ | ⟨-, inner⟩
  · decide
  · decide
  · decide
  · by_contra closed
    have among : c ∈ [' ', '\t', '\n', '\r', ']', '}'] := by
      by_contra other
      exact closed (by simp [isWhitespace] at other ⊢; tauto)
    simp only [List.mem_cons, List.not_mem_nil, or_false] at among
    rcases among with rfl | rfl | rfl | rfl | rfl | rfl <;> cases inner

theorem written_of_loads (noSpace : ∀ c ∈ text, isWhitespace c = false) (read : loads floatOf text = .ok item) :
    Written (value floatOf) text item := by
  obtain ⟨rest, read, finished⟩ := loads_ok_iff.mp read
  have unspaced : skip text = text := by
    cases text with
    | nil => rfl
    | cons c text => exact skip_cons (noSpace c (List.mem_cons_self ..))
  rw [unspaced] at read
  obtain ⟨used, rfl, takes⟩ := value_local _ _ _ _ read
  have nothing : rest = [] := by
    cases rest with
    | nil => rfl
    | cons c rest =>
      have blank := blank_of_skip finished c (List.mem_cons_self ..)
      have space := noSpace c (by simp)
      exact absurd (space.symm.trans blank) Bool.false_ne_true
  subst nothing
  rw [List.append_nil] at read ⊢
  refine ⟨?_, takes.again⟩
  obtain ⟨c, used, rfl⟩ := List.exists_cons_of_ne_nil takes.nonempty
  exact ⟨c, used, rfl, opens_of_value read⟩

theorem written_string (string : String) : Written (value floatOf) (dumpString string) (.str string) := by
  refine ⟨⟨'"', _, rfl, by decide⟩, fun fuel other enough _ => ?_⟩
  obtain ⟨fuel, rfl⟩ : ∃ n, fuel = n + 1 := ⟨fuel - 1, by simp [dumpString] at enough; omega⟩
  have read : stringBody .plain none (string.toList.flatMap escapeChar ++ ['"'] ++ other) =
      .ok (string.toList, other) := by
    rw [List.append_assoc]
    exact stringBody_escaped string.toList
  rw [dumpString, List.cons_append, value_string read, String.ofList_toList]

theorem written_array {texts : List (List Char)} {items : List Json}
    (written : List.Forall₂ (Written (value floatOf)) texts items) :
    Written (value floatOf) ('[' :: (separated texts ++ [']'])) (.arr items) := by
  refine ⟨⟨'[', _, rfl, by decide⟩, fun fuel other enough _ => ?_⟩
  simp only [List.length_cons, List.length_append, List.length_nil] at enough
  obtain ⟨fuel, rfl⟩ : ∃ n, fuel = n + 1 := ⟨fuel - 1, by omega⟩
  rw [List.cons_append, List.append_assoc]
  exact value_array (enclosed_separated (by decide) written (by omega))

theorem written_member {key : String} (written : Written (value floatOf) text item) :
    Written (fun fuel => member (value floatOf fuel)) (dumpString key ++ ':' :: ' ' :: text) (key, item) := by
  refine ⟨⟨'"', _, rfl, by decide⟩, fun fuel other enough fresh => ?_⟩
  simp only [List.length_append, List.length_cons] at enough
  have name : stringBody .plain none (key.toList.flatMap escapeChar ++ '"' :: ':' :: ' ' :: (text ++ other)) =
      .ok (key.toList, ':' :: ' ' :: (text ++ other)) := stringBody_escaped key.toList
  have read : value floatOf fuel (skip (' ' :: (text ++ other))) = .ok (item, other) := by
    have skipped : skip (' ' :: (text ++ other)) = text ++ other := by
      obtain ⟨c, rest, rfl, letter, -⟩ := written.opens
      exact skip_cons letter
    rw [skipped]
    exact written.again fuel other (by omega) fresh
  have found := member_eq name (skip_cons punctuation_colon.letter) read
  rw [String.ofList_toList] at found
  simpa [dumpString] using found

theorem dict_of_nodup {fields : List (String × Json)} (distinct : (fields.map Prod.fst).Nodup) :
    dict fields = fields := by
  induction fields using List.reverseRecOn with
  | nil => rfl
  | append_singleton fields last ih =>
    rw [List.map_append, List.map_singleton, List.nodup_append] at distinct
    have fresh : last.1 ∉ fields.map Prod.fst := fun member =>
      distinct.2.2 last.1 member last.1 (List.mem_singleton_self _) rfl
    rw [dict, List.foldl_append, List.foldl_cons, List.foldl_nil, ← dict, ih distinct.1, insert, if_neg fresh]

theorem written_object {texts : List (List Char)} {fields : List (String × Json)}
    (distinct : (fields.map Prod.fst).Nodup)
    (written : List.Forall₂ (Written fun fuel => member (value floatOf fuel)) texts fields) :
    Written (value floatOf) ('{' :: (separated texts ++ ['}'])) (.obj fields) := by
  refine ⟨⟨'{', _, rfl, by decide⟩, fun fuel other enough _ => ?_⟩
  simp only [List.length_cons, List.length_append, List.length_nil] at enough
  obtain ⟨fuel, rfl⟩ : ∃ n, fuel = n + 1 := ⟨fuel - 1, by omega⟩
  rw [List.cons_append, List.append_assoc]
  have read : enclosed (member (value floatOf fuel)) '}' fuel (separated texts ++ (['}'] ++ other)) =
      .ok (fields, other) :=
    enclosed_separated (by decide) written (by omega)
  rw [value_object read, dict_of_nodup distinct]

end values

section dumps

variable (floatOf : List Char → PyFloat)

mutual

/-- What `json.dumps` can write and `json.loads` reads back: no key twice, no integer of more digits than
Python writes, and floats that are read back by themselves. -/
def Printable : Json → Prop
  | .int value => (Nat.toDigits 10 value.natAbs).length ≤ 4300
  | .float value => loads floatOf (dumpFloat value) = .ok (.float value)
  | .arr items => PrintableItems items
  | .obj fields => (fields.map Prod.fst).Nodup ∧ PrintableFields fields
  | _ => True

def PrintableItems : List Json → Prop
  | [] => True
  | item :: rest => Printable item ∧ PrintableItems rest

def PrintableFields : List (String × Json) → Prop
  | [] => True
  | (_, value) :: rest => Printable value ∧ PrintableFields rest

end

variable {floatOf}

theorem numberChars_strOfInt (value : ℤ) : ∀ c ∈ strOfInt (some value), isNumberChar c = true := by
  have digits (n : ℕ) : ∀ c ∈ Nat.toDigits 10 n, isNumberChar c = true := fun c member =>
    isNumberChar_of_digit (toDigits_isDigit member)
  cases value with
  | ofNat n => exact digits n
  | negSucc n => exact List.forall_mem_cons.mpr ⟨by decide, digits (n + 1)⟩

theorem not_whitespace_of_numberChar {c : Char} (number : isNumberChar c = true) : isWhitespace c = false := by
  cases space : isWhitespace c with
  | false => rfl
  | true => exact absurd ((fresh_of_whitespace space).symm.trans number) Bool.false_ne_true

theorem loads_number {token : List Char} {item : Json} (characters : ∀ c ∈ token, isNumberChar c = true)
    (number : decodeNumber floatOf token = .ok item) : loads floatOf token = .ok item := by
  have read : scalar floatOf token = .ok (item, []) := by
    have unnamed := find?_number number characters []
    rw [List.append_nil] at unnamed
    simp only [scalar, unnamed, List.takeWhile_eq_self_iff.mpr characters,
      List.dropWhile_eq_nil_iff.mpr characters, number]
  cases token with
  | nil => cases decodeNumber_nil.symm.trans number
  | cons c rest =>
    have first := characters c (List.mem_cons_self ..)
    have letter : c ∉ ['"', '[', '{'] := by
      intro member
      simp only [List.mem_cons, List.not_mem_nil, or_false] at member
      rcases member with rfl | rfl | rfl <;> exact absurd first (by decide)
    refine loads_ok_iff.mpr ⟨[], ?_, rfl⟩
    rw [skip_cons (not_whitespace_of_numberChar first), List.length_cons, value_scalar letter, read]

theorem unspaced_dumpFloat (value : PyFloat) : ∀ c ∈ dumpFloat value, isWhitespace c = false := by
  rw [dumpFloat]
  split_ifs
  · decide
  · decide
  · decide
  · intro c member
    exact (by decide : ∀ d ∈ "0123456789+-.einfa".toList, isWhitespace d = false) c (value.digits c member)

mutual

theorem written_dumps : ∀ item, Printable floatOf item → Written (value floatOf) (dumps item) item
  | .null, _ => written_of_loads (by decide) rfl
  | .bool true, _ => written_of_loads (by decide) rfl
  | .bool false, _ => written_of_loads (by decide) rfl
  | .int value, short =>
    written_of_loads (fun c member => not_whitespace_of_numberChar (numberChars_strOfInt value c member))
      (loads_number (numberChars_strOfInt value) (decodeNumber_strOfInt short))
  | .float value, reads => written_of_loads (unspaced_dumpFloat value) reads
  | .str text, _ => written_string text
  | .arr items, printable => written_array (written_items items printable)
  | .obj fields, ⟨distinct, printable⟩ => written_object distinct (written_fields fields printable)

theorem written_items : ∀ items, PrintableItems floatOf items →
    List.Forall₂ (Written (value floatOf)) (dumpItems items) items
  | [], _ => .nil
  | item :: rest, ⟨first, later⟩ => .cons (written_dumps item first) (written_items rest later)

theorem written_fields : ∀ fields, PrintableFields floatOf fields →
    List.Forall₂ (Written fun fuel => member (value floatOf fuel)) (dumpFields fields) fields
  | [], _ => .nil
  | (_, item) :: rest, ⟨first, later⟩ =>
    .cons (written_member (written_dumps item first)) (written_fields rest later)

end

/-- `json.loads` inverts `json.dumps`. -/
theorem loads_dumps {item : Json} (printable : Printable floatOf item) :
    loads floatOf (dumps item) = .ok item := by
  have written := written_dumps item printable
  obtain ⟨c, rest, start, letter, -⟩ := written.opens
  have read := written.again (dumps item).length [] le_rfl fresh_nil
  rw [List.append_nil] at read
  refine loads_ok_iff.mpr ⟨[], ?_, rfl⟩
  rw [start, skip_cons letter, ← start, read]

end dumps

section ascii

/-- A printable character of ASCII. -/
def isVisible (c : Char) : Bool := 0x20 ≤ c.toNat && c.toNat < 0x7f

theorem visible_hexDigits {width n : ℕ} : ∀ c ∈ hexDigits width n, isVisible c = true := fun c member =>
  (by decide : ∀ d ∈ "0123456789abcdef".toList, isVisible d = true) c (mem_hexDigits member)

theorem visible_escapeUnit (unit : ℕ) : ∀ c ∈ escapeUnit unit, isVisible c = true :=
  List.forall_mem_cons.mpr ⟨by decide, List.forall_mem_cons.mpr ⟨by decide, visible_hexDigits⟩⟩

theorem visible_escapeChar (c : Char) : ∀ d ∈ escapeChar c, isVisible d = true := by
  have escaped := escaped_escapeChar c
  generalize escapeChar c = written at escaped ⊢
  cases escaped with
  | short letter known meant =>
    have table : ∀ d ∈ ['"', '\\', 'n', 'r', 't', 'f', 'b'], isVisible d = true := by decide
    exact List.forall_mem_cons.mpr ⟨by decide, List.forall_mem_singleton.mpr (table letter known)⟩
  | plain _ _ visible => simp [isVisible, visible]
  | unit basic => exact visible_escapeUnit _
  | pair astral => exact List.forall_mem_append.mpr ⟨visible_escapeUnit _, visible_escapeUnit _⟩

theorem visible_dumpString (text : String) : ∀ c ∈ dumpString text, isVisible c = true := by
  refine List.forall_mem_cons.mpr ⟨by decide, List.forall_mem_append.mpr ⟨fun c member => ?_, by decide⟩⟩
  obtain ⟨d, -, among⟩ := List.mem_flatMap.mp member
  exact visible_escapeChar d c among

theorem visible_separated {texts : List (List Char)}
    (visible : ∀ text ∈ texts, ∀ c ∈ text, isVisible c = true) :
    ∀ c ∈ separated texts, isVisible c = true := by
  induction texts with
  | nil => exact nofun
  | cons text texts ih =>
    obtain ⟨first, later⟩ := List.forall_mem_cons.mp visible
    cases texts with
    | nil => rwa [show separated [text] = text from List.intercalate_singleton]
    | cons next texts =>
      rw [separated_cons]
      exact List.forall_mem_append.mpr ⟨first,
        List.forall_mem_cons.mpr ⟨by decide, List.forall_mem_cons.mpr ⟨by decide, ih later⟩⟩⟩

theorem visible_enclosed {opening closing : Char} {texts : List (List Char)} (opens : isVisible opening = true)
    (closes : isVisible closing = true) (visible : ∀ text ∈ texts, ∀ c ∈ text, isVisible c = true) :
    ∀ c ∈ opening :: (separated texts ++ [closing]), isVisible c = true :=
  List.forall_mem_cons.mpr ⟨opens, List.forall_mem_append.mpr ⟨visible_separated visible,
    List.forall_mem_singleton.mpr closes⟩⟩

theorem visible_of_numberChar {c : Char} (number : isNumberChar c = true) : isVisible c = true := by
  rw [isNumberChar, Bool.or_eq_true] at number
  rcases number with digit | among
  · rw [Char.isDigit, Bool.and_eq_true, decide_eq_true_iff, decide_eq_true_iff] at digit
    have least : 48 ≤ c.toNat := digit.1
    have most : c.toNat ≤ 57 := digit.2
    rw [isVisible, Bool.and_eq_true, decide_eq_true_iff, decide_eq_true_iff]
    omega
  · exact (by decide : ∀ d ∈ ['+', '-', '.', 'e', 'E'], isVisible d = true) c (decide_eq_true_iff.mp among)

theorem visible_dumpFloat (value : PyFloat) : ∀ c ∈ dumpFloat value, isVisible c = true := by
  rw [dumpFloat]
  split_ifs
  · decide
  · decide
  · decide
  · intro c member
    exact (by decide : ∀ d ∈ "0123456789+-.einfa".toList, isVisible d = true) c (value.digits c member)

mutual

/-- What `json.dumps` writes is printable ASCII. -/
theorem visible_dumps : ∀ item : Json, ∀ c ∈ dumps item, isVisible c = true
  | .null => by decide
  | .bool true => by decide
  | .bool false => by decide
  | .int value => fun c member => visible_of_numberChar (numberChars_strOfInt value c member)
  | .float value => visible_dumpFloat value
  | .str text => visible_dumpString text
  | .arr items => visible_enclosed (by decide) (by decide) (visible_items items)
  | .obj fields => visible_enclosed (by decide) (by decide) (visible_fields fields)

theorem visible_items : ∀ items : List Json, ∀ text ∈ dumpItems items, ∀ c ∈ text, isVisible c = true
  | [] => nofun
  | item :: rest => List.forall_mem_cons.mpr ⟨visible_dumps item, visible_items rest⟩

theorem visible_fields : ∀ fields : List (String × Json), ∀ text ∈ dumpFields fields, ∀ c ∈ text,
    isVisible c = true
  | [] => nofun
  | (key, item) :: rest =>
    List.forall_mem_cons.mpr ⟨List.forall_mem_append.mpr ⟨visible_dumpString key,
      List.forall_mem_cons.mpr ⟨by decide, List.forall_mem_cons.mpr ⟨by decide, visible_dumps item⟩⟩⟩,
      visible_fields rest⟩

end

end ascii

end LlmopsGateway.JsonText
