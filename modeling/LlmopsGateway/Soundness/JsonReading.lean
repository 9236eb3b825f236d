import LlmopsGateway.Machine.Run
import LlmopsGateway.Model.JsonText

/-! # How far `json.loads` looks

A value is read from the characters it is written in: what follows them matters only in that it must not go
on with a number. Between the quotes of its strings a text may hold nearly any character, outside of them
only those of the punctuation, of numbers and of the constants; `Mode` keeps track of the quotes.
-/

namespace LlmopsGateway.JsonText

open Machine PyText
open Uuid (hexValue?)

section quotes

/-- Whether a character stands outside of the string literals, in one, or behind a backslash. -/
inductive Mode
  | outside
  | inside
  | escaped
deriving DecidableEq, Repr

/-- The characters outside of string literals. -/
def isBare (c : Char) : Bool :=
  isWhitespace c || isNumberChar c || c ∈ ['{', '}', '[', ']', ':', ','] ||
    c ∈ ['n', 'u', 'l', 't', 'r', 'f', 'a', 's', 'N', 'I', 'i', 'y']

def Mode.next : Mode → Char → Option Mode
  | .outside, c => if c = '"' then some .inside else if isBare c then some .outside else none
  | .inside, c =>
    if c = '"' then some .outside
    else if c = '\\' then some .escaped
    else if c.toNat < 0x20 then none
    else some .inside
  | .escaped, c => if c = 'u' ∨ (unescape c).isSome then some .inside else none

/-- The quotes of a text are closed. -/
def Balanced (text : List Char) : Prop := run? Mode.next .outside text = some .outside

theorem Balanced.append {first second : List Char} (left : Balanced first) (right : Balanced second) :
    Balanced (first ++ second) :=
  run?_append_iff.mpr ⟨.outside, left, right⟩

theorem quote_not_bare : isBare '"' = false := by decide

theorem next_outside_of_bare {c : Char} (bare : isBare c = true) : Mode.next .outside c = some .outside := by
  have notQuote : c ≠ '"' := by
    rintro rfl
    exact Bool.false_ne_true (quote_not_bare.symm.trans bare)
  rw [Mode.next, if_neg notQuote, if_pos bare]

theorem balanced_of_bare {text : List Char} (bare : ∀ c ∈ text, isBare c = true) : Balanced text := by
  induction text with
  | nil => rfl
  | cons c rest ih =>
    obtain ⟨here, later⟩ := List.forall_mem_cons.mp bare
    exact run?_cons_iff.mpr ⟨.outside, next_outside_of_bare here, ih later⟩

theorem isBare_of_whitespace {c : Char} (space : isWhitespace c = true) : isBare c = true := by
  simp [isBare, space]

theorem isBare_of_numberChar {c : Char} (number : isNumberChar c = true) : isBare c = true := by
  simp [isBare, number]

/-- Where the quotes can be read both ways, there is nothing but punctuation. -/
theorem bare_of_two_ways {text : List Char} {first second : Mode}
    (inside : run? Mode.next .inside text = some first)
    (outside : run? Mode.next .outside text = some second) : ∀ c ∈ text, c = '"' ∨ isBare c = true := by
  induction text generalizing first second with
  | nil => simp
  | cons c rest ih =>
    obtain ⟨within, stepped, later⟩ := run?_cons_iff.mp inside
    obtain ⟨without, stepped', later'⟩ := run?_cons_iff.mp outside
    by_cases quote : c = '"'
    · subst quote
      obtain rfl : Mode.outside = within := Option.some.inj stepped
      obtain rfl : Mode.inside = without := Option.some.inj stepped'
      exact List.forall_mem_cons.mpr ⟨.inl rfl, ih later' later⟩
    · rw [Mode.next, if_neg quote] at stepped
      rw [Mode.next, if_neg quote] at stepped'
      split_ifs at stepped' with bare
      obtain rfl := Option.some.inj stepped'
      have notBackslash : c ≠ '\\' := by
        rintro rfl
        exact absurd bare (by decide)
      rw [if_neg notBackslash] at stepped
      split_ifs at stepped
      obtain rfl := Option.some.inj stepped
      exact List.forall_mem_cons.mpr ⟨.inr bare, ih later later'⟩

theorem not_digit_of_space {c : Char} (space : isSpace c = true) : c.isDigit = false := by
  rw [Bool.eq_false_iff, Ne, Char.isDigit, Bool.and_eq_true, decide_eq_true_iff, decide_eq_true_iff]
  rintro ⟨least, most⟩
  have least : 48 ≤ c.toNat := least
  have most : c.toNat ≤ 57 := most
  simp only [isSpace, Bool.or_eq_true, Bool.and_eq_true, decide_eq_true_iff, beq_iff_eq] at space
  omega

/-- A space of any kind neither opens nor closes a string literal, and no backslash stands before it; outside
of literals it is one of those that JSON knows. -/
theorem next_space {c : Char} {mode after : Mode} (space : isSpace c = true)
    (stepped : mode.next c = some after) :
    after = mode ∧ (mode = .inside ∨ isWhitespace c = true) := by
  have other (d : Char) (letter : isSpace d = false) : c ≠ d := by
    rintro rfl
    exact Bool.false_ne_true (letter.symm.trans space)
  cases mode with
  | outside =>
    rw [Mode.next, if_neg (other '"' (by decide))] at stepped
    split_ifs at stepped with bare
    have absent (letters : List Char) (visible : ∀ d ∈ letters, isSpace d = false) : c ∉ letters :=
      fun member =>
      Bool.false_ne_true ((visible c member).symm.trans space)
    refine ⟨(Option.some.inj stepped).symm, .inr ?_⟩
    simpa only [isBare, isNumberChar, not_digit_of_space space,
      decide_eq_false (absent ['+', '-', '.', 'e', 'E'] (by decide)),
      decide_eq_false (absent ['{', '}', '[', ']', ':', ','] (by decide)),
      decide_eq_false (absent ['n', 'u', 'l', 't', 'r', 'f', 'a', 's', 'N', 'I', 'i', 'y'] (by decide)),
      Bool.or_false] using bare
  | inside =>
    rw [Mode.next, if_neg (other '"' (by decide)), if_neg (other '\\' (by decide))] at stepped
    split_ifs at stepped
    exact ⟨(Option.some.inj stepped).symm, .inl rfl⟩
  | escaped =>
    have unknown : unescape c = none := by
      simp only [unescape, List.lookup_eq_none_iff, List.mem_cons, List.not_mem_nil, or_false]
      rintro _ (rfl | rfl | rfl | rfl | rfl | rfl | rfl | rfl) <;> exact bne_iff_ne.mpr (other _ (by decide))
    simp [Mode.next, unknown, other 'u' (by decide)] at stepped

theorem run?_spaces {spaces : List Char} {mode after : Mode} (blank : ∀ c ∈ spaces, isSpace c = true)
    (ran : run? Mode.next mode spaces = some after) : after = mode := by
  induction spaces generalizing mode with
  | nil => exact (Option.some.inj ran).symm
  | cons c spaces ih =>
    obtain ⟨space, later⟩ := List.forall_mem_cons.mp blank
    obtain ⟨next, stepped, ran⟩ := run?_cons_iff.mp ran
    exact (ih later ran).trans (next_space space stepped).1

end quotes

section skip

theorem takeWhile_append_skip (text : List Char) : text.takeWhile isWhitespace ++ skip text = text :=
  List.takeWhile_append_dropWhile

theorem isWhitespace_of_skip {text rest : List Char} {c : Char} (skipped : skip text = c :: rest) :
    isWhitespace c = false := by
  have head := List.head?_dropWhile_not isWhitespace text
  rw [show text.dropWhile isWhitespace = c :: rest from skipped] at head
  simpa using head

theorem skip_append {spaces text : List Char} (blank : ∀ c ∈ spaces, isWhitespace c = true) :
    skip (spaces ++ text) = skip text :=
  List.dropWhile_append_of_pos blank

theorem skip_cons {text : List Char} {c : Char} (letter : isWhitespace c = false) :
    skip (c :: text) = c :: text := by
  rw [skip, List.dropWhile_cons_of_neg (by rw [letter]; exact Bool.false_ne_true)]

theorem balanced_whitespace (text : List Char) : Balanced (text.takeWhile isWhitespace) :=
  balanced_of_bare fun _ member => isBare_of_whitespace (List.mem_takeWhile_imp member)

end skip

section strings

variable {position : Position} {high : Option ℕ} {text string rest : List Char}

theorem prefixed_eq_ok_iff {front : List Char} {read : Except LoadError (List Char × List Char)} :
    prefixed front read = .ok (string, rest) ↔ ∃ later, read = .ok (later, rest) ∧ string = front ++ later := by
  cases read with
  | error error => simp [prefixed]
  | ok pair =>
    obtain ⟨later, left⟩ := pair
    simp only [prefixed, Except.ok.injEq, Prod.mk.injEq]
    constructor
    · rintro ⟨rfl, rfl⟩
      exact ⟨later, ⟨rfl, rfl⟩, rfl⟩
    · rintro ⟨_, ⟨rfl, rfl⟩, rfl⟩
      exact ⟨rfl, rfl⟩

/-- The mode in which a literal is read. -/
def Position.mode : Position → Mode
  | .plain => .inside
  | .escape => .escaped
  | .unit _ _ => .inside

theorem next_inside_of_hex {c : Char} {digit : ℕ} (read : hexValue? c = some digit) :
    Mode.next .inside c = some .inside := by
  have notQuote : c ≠ '"' := by
    rintro rfl
    cases (show hexValue? '"' = none by decide).symm.trans read
  have notBackslash : c ≠ '\\' := by
    rintro rfl
    cases (show hexValue? '\\' = none by decide).symm.trans read
  have visible : ¬ c.toNat < 0x20 := by
    intro below
    have low (d : Char) (large : 0x20 ≤ d.toNat) : ¬ d ≤ c := by
      intro least
      have least : d.toNat ≤ c.toNat := least
      omega
    simp [hexValue?, low '0' (by decide), low 'a' (by decide), low 'A' (by decide)] at read
  rw [Mode.next, if_neg notQuote, if_neg notBackslash, if_neg visible]

/-- A string literal ends with its closing quote. -/
theorem stringBody_local (read : stringBody position high text = .ok (string, rest)) :
    ∃ used, text = used ++ rest ∧ run? Mode.next position.mode used = some .outside ∧
      ∀ other, stringBody position high (used ++ other) = .ok (string, other) := by
  induction text generalizing position high string with
  | nil => cases position <;> simp [stringBody] at read
  | cons c text ih =>
    cases position with
    | plain =>
      rw [stringBody] at read
      split_ifs at read with quote backslash control
      · obtain ⟨rfl, rfl⟩ := Prod.mk.inj (Except.ok.inj read)
        subst quote
        exact ⟨['"'], rfl, rfl, fun other => by rw [List.singleton_append, stringBody, if_pos rfl]⟩
      · obtain ⟨used, rfl, tracked, again⟩ := ih read
        refine ⟨c :: used, rfl, run?_cons_iff.mpr ⟨.escaped, ?_, tracked⟩, fun other => ?_⟩
        · rw [Position.mode, Mode.next, if_neg quote, if_pos backslash]
        · rw [List.cons_append, stringBody, if_neg quote, if_pos backslash, again]
      · obtain ⟨later, inner, rfl⟩ := prefixed_eq_ok_iff.mp read
        obtain ⟨used, rfl, tracked, again⟩ := ih inner
        refine ⟨c :: used, rfl, run?_cons_iff.mpr ⟨.inside, ?_, tracked⟩, fun other => ?_⟩
        · rw [Position.mode, Mode.next, if_neg quote, if_neg backslash, if_neg control]
        · rw [List.cons_append, stringBody, if_neg quote, if_neg backslash, if_neg control, again]
          rfl
    | escape =>
      rw [stringBody] at read
      split_ifs at read with unicode
      · obtain ⟨used, rfl, tracked, again⟩ := ih read
        refine ⟨c :: used, rfl, run?_cons_iff.mpr ⟨.inside, ?_, tracked⟩, fun other => ?_⟩
        · rw [Position.mode, Mode.next, if_pos (.inl unicode)]
        · rw [List.cons_append, stringBody, if_pos unicode, again]
      · cases meant : unescape c with
        | none => simp [meant] at read
        | some d =>
          simp only [meant] at read
          obtain ⟨later, inner, rfl⟩ := prefixed_eq_ok_iff.mp read
          obtain ⟨used, rfl, tracked, again⟩ := ih inner
          refine ⟨c :: used, rfl, run?_cons_iff.mpr ⟨.inside, ?_, tracked⟩, fun other => ?_⟩
          · rw [Position.mode, Mode.next, if_pos (.inr (by rw [meant]; rfl))]
          · rw [List.cons_append, stringBody, if_neg unicode, meant]
            simp only [again]
            rfl
    | unit left value =>
      rw [stringBody] at read
      cases hex : hexValue? c with
      | none => simp [hex] at read
      | some digit =>
        simp only [hex] at read
        cases left with
        | zero =>
          obtain ⟨later, inner, rfl⟩ := prefixed_eq_ok_iff.mp read
          obtain ⟨used, rfl, tracked, again⟩ := ih inner
          refine ⟨c :: used, rfl, run?_cons_iff.mpr ⟨.inside, next_inside_of_hex hex, tracked⟩, fun other => ?_⟩
          rw [List.cons_append, stringBody, hex]
          simp only [again]
          rfl
        | succ left =>
          obtain ⟨used, rfl, tracked, again⟩ := ih read
          refine ⟨c :: used, rfl, run?_cons_iff.mpr ⟨.inside, next_inside_of_hex hex, tracked⟩, fun other => ?_⟩
          rw [List.cons_append, stringBody, hex]
          simp only [again]

end strings

/-- No number goes on at the beginning of the text. -/
def Fresh (text : List Char) : Prop := ∀ c ∈ text.head?, isNumberChar c = false

theorem fresh_nil : Fresh [] := nofun

theorem fresh_cons {c : Char} {rest : List Char} (fresh : isNumberChar c = false) : Fresh (c :: rest) := by
  rintro d same
  obtain rfl := Option.some.inj same
  exact fresh

theorem fresh_of_whitespace {c : Char} (space : isWhitespace c = true) : isNumberChar c = false := by
  simp only [isWhitespace, Bool.or_eq_true, decide_eq_true_iff] at space
  rcases space with ((rfl | rfl) | rfl) | rfl <;> decide

theorem Fresh.whitespace_append {spaces text : List Char} (blank : ∀ c ∈ spaces, isWhitespace c = true)
    (fresh : Fresh text) : Fresh (spaces ++ text) := by
  cases spaces with
  | nil => exact fresh
  | cons c spaces => exact fresh_cons (fresh_of_whitespace (blank c (List.mem_cons_self ..)))

/-- The beginning of a text that a reader takes a value from, whatever follows it. -/
structure Takes {α : Type} (read : ℕ → Reader α) (used : List Char) (item : α) : Prop where
  balanced : Balanced used
  nonempty : used ≠ []
  again : ∀ fuel other, used.length ≤ fuel → Fresh other → read fuel (used ++ other) = .ok (item, other)

/-- With this bound, the reader looks no further than its values go. -/
def LocalAt {α : Type} (read : ℕ → Reader α) (fuel : ℕ) : Prop :=
  ∀ text item rest, read fuel text = .ok (item, rest) → ∃ used, text = used ++ rest ∧ Takes read used item

section scalars

variable {floatOf : List Char → PyFloat}

theorem decodeNumber_nil : decodeNumber floatOf [] = .error .decode := rfl

theorem decodeNumber_minus : decodeNumber floatOf ['-'] = .error .decode := rfl

/-- A constant of `json.loads` is recognized by its first letters. -/
theorem find?_constant {name : List Char} {constant : Json} (known : (name, constant) ∈ constants)
    (other : List Char) :
    (constants.find? fun known => known.1.isPrefixOf (name ++ other)) = some (name, constant) := by
  simp only [constants, List.mem_cons, List.not_mem_nil, or_false, Prod.mk.injEq] at known
  rcases known with ⟨rfl, rfl⟩ | ⟨rfl, rfl⟩ | ⟨rfl, rfl⟩ | ⟨rfl, rfl⟩ | ⟨rfl, rfl⟩ | ⟨rfl, rfl⟩ <;> rfl

/-- No constant stands at the beginning of a number. -/
theorem find?_number {token : List Char} {number : Json} (number? : decodeNumber floatOf token = .ok number)
    (characters : ∀ c ∈ token, isNumberChar c = true) (other : List Char) :
    (constants.find? fun known => known.1.isPrefixOf (token ++ other)) = none := by
  cases token with
  | nil => cases decodeNumber_nil.symm.trans number?
  | cons c token =>
    have first := characters c (List.mem_cons_self ..)
    have letter (d : Char) (outside : isNumberChar d = false) : (d == c) = false := by
      rw [beq_eq_false_iff_ne]
      rintro rfl
      exact Bool.false_ne_true (outside.symm.trans first)
    by_cases minus : c = '-'
    · subst minus
      cases token with
      | nil => cases decodeNumber_minus.symm.trans number?
      | cons d token =>
        have second := characters d (by simp)
        have notLetter : ('I' == d) = false := by
          rw [beq_eq_false_iff_ne]
          rintro rfl
          exact absurd second (by decide)
        simp [constants, List.find?, List.isPrefixOf, notLetter]
    · have notMinus : ('-' == c) = false := by
        rw [beq_eq_false_iff_ne]
        exact fun same => minus same.symm
      simp [constants, List.find?, List.isPrefixOf, notMinus, letter 'n' (by decide), letter 't' (by decide),
        letter 'f' (by decide), letter 'N' (by decide), letter 'I' (by decide)]

theorem scalar_local (fuel : ℕ) : LocalAt (fun _ => scalar floatOf) fuel := by
  intro text item rest read
  simp only [scalar] at read
  cases known : constants.find? fun constant => constant.1.isPrefixOf text with
  | some constant =>
    obtain ⟨name, value⟩ := constant
    simp only [known, Except.ok.injEq, Prod.mk.injEq] at read
    obtain ⟨rfl, rfl⟩ := read
    have member := List.mem_of_find?_eq_some known
    have first : name.isPrefixOf text = true := by simpa using List.find?_some known
    obtain ⟨after, rfl⟩ := List.isPrefixOf_iff_prefix.mp first
    refine ⟨name, by rw [List.drop_left], ?_, ?_, fun _ other _ _ => ?_⟩
    · simp only [constants, List.mem_cons, List.not_mem_nil, or_false, Prod.mk.injEq] at member
      rcases member with ⟨rfl, -⟩ | ⟨rfl, -⟩ | ⟨rfl, -⟩ | ⟨rfl, -⟩ | ⟨rfl, -⟩ | ⟨rfl, -⟩ <;>
        exact balanced_of_bare (by decide)
    · rintro rfl
      simp [constants] at member
    · simp only [scalar, find?_constant member, List.drop_left]
  | none =>
    simp only [known] at read
    cases number : decodeNumber floatOf (text.takeWhile isNumberChar) with
    | error error => simp [number] at read
    | ok value =>
      simp only [number, Except.ok.injEq, Prod.mk.injEq] at read
      obtain ⟨rfl, rfl⟩ := read
      have characters (c : Char) (member : c ∈ text.takeWhile isNumberChar) : isNumberChar c = true :=
        List.mem_takeWhile_imp member
      refine ⟨_, List.takeWhile_append_dropWhile.symm, ?_, ?_, fun _ other _ fresh => ?_⟩
      · exact balanced_of_bare fun c member => isBare_of_numberChar (characters c member)
      · intro empty
        rw [empty] at number
        cases decodeNumber_nil.symm.trans number
      · have stop : other.takeWhile isNumberChar = [] ∧ other.dropWhile isNumberChar = other := by
          cases other with
          | nil => exact ⟨rfl, rfl⟩
          | cons c other =>
            have outside := fresh c rfl
            simp [outside]
        simp only [scalar, find?_number number characters, List.takeWhile_append_of_pos characters,
          List.dropWhile_append_of_pos characters, stop.1, stop.2, List.append_nil, number]

end scalars

section composites

variable {α : Type}

/-- What a bracket or a comma does to a run of whitespace before it. -/
theorem skip_whitespace_cons {spaces rest : List Char} {c : Char} (blank : ∀ d ∈ spaces, isWhitespace d = true)
    (letter : isWhitespace c = false) : skip (spaces ++ c :: rest) = c :: rest := by
  rw [skip_append blank, skip_cons letter]

/-- A part of a text behind whitespace, with something else after it. -/
theorem skip_whitespace_append {text used rest : List Char} (skipped : skip text = used ++ rest)
    (nonempty : used ≠ [])
    (other : List Char) : skip (text.takeWhile isWhitespace ++ (used ++ other)) = used ++ other := by
  obtain ⟨c, used, rfl⟩ := List.exists_cons_of_ne_nil nonempty
  exact skip_whitespace_cons (fun _ member => List.mem_takeWhile_imp member) (isWhitespace_of_skip skipped)

/-- A character that stands between values. -/
structure Punctuation (c : Char) : Prop where
  bare : isBare c = true
  letter : isWhitespace c = false
  fresh : isNumberChar c = false

theorem punctuation_of_mem {c : Char} (member : c ∈ [']', '}', ',', ':']) : Punctuation c := by
  simp only [List.mem_cons, List.not_mem_nil, or_false] at member
  rcases member with rfl | rfl | rfl | rfl <;> exact ⟨by decide, by decide, by decide⟩

theorem punctuation_comma : Punctuation ',' := punctuation_of_mem (by decide)

theorem Punctuation.balanced {c : Char} (mark : Punctuation c) : Balanced [c] :=
  balanced_of_bare (by simp [mark.bare])

/-- The part of a text that a series takes, with both bounds large enough. -/
structure TakesSeries (read : ℕ → Reader α) (close : Char) (used : List Char) (items : List α) : Prop where
  balanced : Balanced used
  closed : ∃ front, used = front ++ [close]
  again : ∀ fuel length other, used.length ≤ fuel → used.length ≤ length →
    series (read fuel) close length (used ++ other) = .ok (items, other)

variable {read : ℕ → Reader α} {close : Char} {fuel : ℕ}

theorem TakesSeries.nonempty {used : List Char} {items : List α} (takes : TakesSeries read close used items) :
    used ≠ [] := by
  obtain ⟨front, rfl⟩ := takes.closed
  simp

theorem series_last {length : ℕ} {reader : Reader α} {text after later : List Char} {item : α}
    (first : reader text = .ok (item, after)) (skipped : skip after = close :: later) :
    series reader close (length + 1) text = .ok ([item], later) := by
  simp only [series, first, skipped, bind, Except.bind, if_pos]

theorem series_comma {length : ℕ} {reader : Reader α} {text after later rest : List Char} {item : α}
    {items : List α}
    (notComma : close ≠ ',') (first : reader text = .ok (item, after)) (skipped : skip after = ',' :: later)
    (others : series reader close length (skip later) = .ok (items, rest)) :
    series reader close (length + 1) text = .ok (item :: items, rest) := by
  simp only [series, first, skipped, others, bind, Except.bind, if_neg notComma.symm, if_pos]

theorem series_local (looks : LocalAt read fuel) (closes : Punctuation close) (notComma : close ≠ ',')
    {length : ℕ}
    {text rest : List Char} {items : List α} (ran : series (read fuel) close length text = .ok (items, rest)) :
    ∃ used, text = used ++ rest ∧ TakesSeries read close used items := by
  induction length generalizing text items rest with
  | zero => cases ran
  | succ length ih =>
    rw [series] at ran
    cases first : read fuel text with
    | error error => simp [first, bind, Except.bind] at ran
    | ok pair =>
      obtain ⟨item, after⟩ := pair
      obtain ⟨used, rfl, takes⟩ := looks text item after first
      simp only [first, bind, Except.bind] at ran
      cases skipped : skip after with
      | nil => simp [skipped] at ran
      | cons c later =>
        have spaces (d : Char) (member : d ∈ after.takeWhile isWhitespace) : isWhitespace d = true :=
          List.mem_takeWhile_imp member
        have apart : after = after.takeWhile isWhitespace ++ c :: later := by
          rw [← skipped, takeWhile_append_skip]
        simp only [skipped] at ran
        split_ifs at ran with closed comma
        · subst closed
          obtain ⟨rfl, rfl⟩ := Prod.mk.inj (Except.ok.inj ran)
          refine ⟨used ++ (after.takeWhile isWhitespace ++ [c]), ?_, ?_, ⟨_, (List.append_assoc ..).symm⟩,
            fun fuel length other enough long => ?_⟩
          · rw [List.append_assoc, List.append_assoc, List.singleton_append, ← apart]
          · exact takes.balanced.append ((balanced_whitespace after).append closes.balanced)
          · simp only [List.length_append, List.length_singleton] at enough long
            obtain ⟨length, rfl⟩ : ∃ n, length = n + 1 := ⟨length - 1, by omega⟩
            rw [List.append_assoc, List.append_assoc, List.singleton_append]
            exact series_last (takes.again fuel _ (by omega)
              (.whitespace_append spaces (fresh_cons closes.fresh)))
              (skip_whitespace_cons spaces closes.letter)
        · subst comma
          cases others : series (read fuel) close length (skip later) with
          | error error => simp [others] at ran
          | ok pair =>
            obtain ⟨items, left⟩ := pair
            simp only [others, Except.ok.injEq, Prod.mk.injEq] at ran
            obtain ⟨rfl, rfl⟩ := ran
            obtain ⟨more, split, takesMore⟩ := ih others
            obtain ⟨front, closed⟩ := takesMore.closed
            have tail : later = later.takeWhile isWhitespace ++ (more ++ left) := by
              rw [← split, takeWhile_append_skip]
            refine ⟨used ++ (after.takeWhile isWhitespace ++
              ([','] ++ (later.takeWhile isWhitespace ++ more))), ?_, ?_,
              ⟨used ++ (after.takeWhile isWhitespace ++ ([','] ++ (later.takeWhile isWhitespace ++ front))),
                by simp [closed]⟩, fun fuel length other enough long => ?_⟩
            · simp only [List.append_assoc, List.cons_append, List.nil_append]
              rw [← tail, ← apart]
            · exact takes.balanced.append ((balanced_whitespace after).append
                (punctuation_comma.balanced.append ((balanced_whitespace later).append takesMore.balanced)))
            · simp only [List.length_append, List.length_singleton] at enough long
              obtain ⟨length, rfl⟩ : ∃ n, length = n + 1 := ⟨length - 1, by omega⟩
              simp only [List.append_assoc, List.cons_append, List.nil_append]
              refine series_comma notComma
                (takes.again fuel _ (by omega) (.whitespace_append spaces (fresh_cons punctuation_comma.fresh)))
                (skip_whitespace_cons spaces punctuation_comma.letter) ?_
              rw [skip_whitespace_append split takesMore.nonempty]
              exact takesMore.again fuel length other (by omega) (by omega)

/-- The part of a text behind an opening bracket, up to the closing one. -/
theorem enclosed_local (looks : LocalAt read fuel) (closes : Punctuation close) (notComma : close ≠ ',')
    {length : ℕ} {text rest : List Char} {items : List α} (ran : enclosed (read fuel) close length text =
      .ok (items, rest)) :
    ∃ front, text = front ++ [close] ++ rest ∧ Balanced (front ++ [close]) ∧
      ∀ fuel other, (front ++ [close]).length ≤ fuel →
        enclosed (read fuel) close fuel (front ++ [close] ++ other) = .ok (items, other) := by
  rw [enclosed] at ran
  have apart := takeWhile_append_skip text
  cases skipped : skip text with
  | nil => simp [skipped] at ran
  | cons c later =>
    have spaces (d : Char) (member : d ∈ text.takeWhile isWhitespace) : isWhitespace d = true :=
      List.mem_takeWhile_imp member
    rw [skipped] at apart
    simp only [skipped] at ran
    split_ifs at ran with closed
    · subst closed
      obtain ⟨rfl, rfl⟩ := Prod.mk.inj (Except.ok.inj ran)
      refine ⟨text.takeWhile isWhitespace, ?_, (balanced_whitespace text).append closes.balanced,
        fun fuel other _ => ?_⟩
      · rw [List.append_assoc, List.singleton_append, apart]
      · rw [List.append_assoc, List.singleton_append, enclosed, skip_whitespace_cons spaces closes.letter]
        simp only [if_pos]
    · obtain ⟨used, split, takes⟩ := series_local looks closes notComma ran
      obtain ⟨front, rfl⟩ := takes.closed
      refine ⟨text.takeWhile isWhitespace ++ front, ?_, ?_, fun fuel other enough => ?_⟩
      · rw [List.append_assoc, List.append_assoc, ← List.append_assoc front, ← split, apart]
      · rw [List.append_assoc]
        exact (balanced_whitespace text).append takes.balanced
      · obtain ⟨d, used, cut⟩ := List.exists_cons_of_ne_nil takes.nonempty
        have first := split
        rw [cut, List.cons_append] at first
        obtain ⟨rfl, -⟩ := List.cons.inj first
        have again := takes.again fuel fuel other
        rw [List.append_assoc, List.length_append] at enough
        rw [List.append_assoc (text.takeWhile isWhitespace), List.append_assoc (text.takeWhile isWhitespace)]
        rw [cut] at again enough ⊢
        rw [List.cons_append, enclosed, skip_whitespace_cons spaces (isWhitespace_of_skip skipped)]
        simp only [if_neg closed]
        exact again (by omega) (by omega)

theorem punctuation_colon : Punctuation ':' := punctuation_of_mem (by decide)

theorem member_eq {reader : Reader Json} {text key after later rest : List Char} {item : Json}
    (name : stringBody .plain none text = .ok (key, after)) (skipped : skip after = ':' :: later)
    (read : reader (skip later) = .ok (item, rest)) :
    member reader ('"' :: text) = .ok ((String.ofList key, item), rest) := by
  simp only [member, name, skipped, read, bind, Except.bind]

/-- A member of an object, from its key to the end of its value. -/
theorem member_of_ok {reader : Reader Json} {text rest : List Char} {field : String × Json}
    (ran : member reader text = .ok (field, rest)) : ∃ body key after later item, text = '"' :: body ∧
      stringBody .plain none body = .ok (key, after) ∧ skip after = ':' :: later ∧
      reader (skip later) = .ok (item, rest) ∧ field = (String.ofList key, item) := by
  unfold member at ran
  split at ran
  · rename_i body
    simp only [bind, Except.bind] at ran
    cases name : stringBody .plain none body with
    | error error => simp [name] at ran
    | ok pair =>
      obtain ⟨key, after⟩ := pair
      simp only [name] at ran
      split at ran
      · rename_i later skipped
        cases value : reader (skip later) with
        | error error => simp [value] at ran
        | ok pair =>
          obtain ⟨item, left⟩ := pair
          simp only [value, Except.ok.injEq, Prod.mk.injEq] at ran
          obtain ⟨rfl, rfl⟩ := ran
          exact ⟨body, key, after, later, item, rfl, name, skipped, value, rfl⟩
      · cases ran
  · cases ran

theorem quote_cons_balanced {used : List Char} (tracked : run? Mode.next .inside used = some .outside) :
    Balanced ('"' :: used) :=
  run?_cons_iff.mpr ⟨.inside, rfl, tracked⟩

theorem member_local {read : ℕ → Reader Json} (looks : LocalAt read fuel) :
    LocalAt (fun fuel => member (read fuel)) fuel := by
  intro text field rest ran
  obtain ⟨body, key, after, later, item, rfl, name, skipped, value, rfl⟩ := member_of_ok ran
  obtain ⟨usedKey, rfl, tracked, keyAgain⟩ := stringBody_local name
  obtain ⟨used, split, takes⟩ := looks _ _ _ value
  have spaces (c : Char) (among : c ∈ after.takeWhile isWhitespace) : isWhitespace c = true :=
    List.mem_takeWhile_imp among
  have apart : after = after.takeWhile isWhitespace ++ ':' :: later := by
    rw [← skipped, takeWhile_append_skip]
  have tail : later = later.takeWhile isWhitespace ++ (used ++ rest) := by
    rw [← split, takeWhile_append_skip]
  refine ⟨'"' :: usedKey ++ (after.takeWhile isWhitespace ++
    ([':'] ++ (later.takeWhile isWhitespace ++ used))), ?_, ?_, by simp, fun fuel other enough fresh => ?_⟩
  · simp only [List.append_assoc, List.cons_append, List.nil_append]
    rw [← tail, ← apart]
  · exact (quote_cons_balanced tracked).append ((balanced_whitespace after).append
      (punctuation_colon.balanced.append ((balanced_whitespace later).append takes.balanced)))
  · simp only [List.length_append, List.length_cons] at enough
    simp only [List.append_assoc, List.cons_append, List.nil_append]
    refine member_eq (keyAgain _) (skip_whitespace_cons spaces punctuation_colon.letter) ?_
    rw [skip_whitespace_append split takes.nonempty]
    exact takes.again fuel other (by omega) fresh

end composites

section values

variable {floatOf : List Char → PyFloat} {fuel : ℕ} {text rest : List Char}

theorem bracket_balanced {c : Char} {used : List Char} (bare : isBare c = true) (balanced : Balanced used) :
    Balanced (c :: used) :=
  run?_cons_iff.mpr ⟨.outside, next_outside_of_bare bare, balanced⟩

theorem value_string {string : List Char} (read : stringBody .plain none text = .ok (string, rest)) :
    value floatOf (fuel + 1) ('"' :: text) = .ok (.str (String.ofList string), rest) := by
  rw [value, if_pos rfl]
  simp only [read, bind, Except.bind]

theorem value_array {items : List Json} (read : enclosed (value floatOf fuel) ']' fuel text =
    .ok (items, rest)) :
    value floatOf (fuel + 1) ('[' :: text) = .ok (.arr items, rest) := by
  rw [value, if_neg (by decide), if_pos rfl]
  simp only [read, bind, Except.bind]

theorem value_object {pairs : List (String × Json)}
    (read : enclosed (member (value floatOf fuel)) '}' fuel text = .ok (pairs, rest)) :
    value floatOf (fuel + 1) ('{' :: text) = .ok (.obj (dict pairs), rest) := by
  rw [value, if_neg (by decide), if_neg (by decide), if_pos rfl]
  simp only [read, bind, Except.bind]

theorem value_scalar {c : Char} (letter : c ∉ ['"', '[', '{']) :
    value floatOf (fuel + 1) (c :: text) = scalar floatOf (c :: text) := by
  simp only [List.mem_cons, List.not_mem_nil, or_false, not_or] at letter
  rw [value, if_neg letter.1, if_neg letter.2.1, if_neg letter.2.2]

/-- The four ways to read a value. -/
theorem value_of_ok {item : Json} (ran : value floatOf fuel text = .ok (item, rest)) :
    ∃ c later length, fuel = length + 1 ∧ text = c :: later ∧
      ((c = '"' ∧ ∃ string, stringBody .plain none later = .ok (string, rest) ∧
        item = .str (String.ofList string)) ∨
        (c = '[' ∧ ∃ items, enclosed (value floatOf length) ']' length later = .ok (items, rest) ∧
          item = .arr items) ∨
        (c = '{' ∧ ∃ pairs, enclosed (member (value floatOf length)) '}' length later = .ok (pairs, rest) ∧
          item = .obj (dict pairs)) ∨
        (c ∉ ['"', '[', '{'] ∧ scalar floatOf (c :: later) = .ok (item, rest))) := by
  cases fuel with
  | zero => cases text <;> cases ran
  | succ length =>
    cases text with
    | nil => cases ran
    | cons c later =>
      refine ⟨c, later, length, rfl, rfl, ?_⟩
      rw [value] at ran
      split_ifs at ran with quote array object
      · simp only [bind, Except.bind] at ran
        cases read : stringBody .plain none later with
        | error error => simp [read] at ran
        | ok pair =>
          simp only [read, Except.ok.injEq, Prod.mk.injEq] at ran
          obtain ⟨rfl, rfl⟩ := ran
          exact .inl ⟨quote, pair.1, rfl, rfl⟩
      · simp only [bind, Except.bind] at ran
        cases read : enclosed (value floatOf length) ']' length later with
        | error error => simp [read] at ran
        | ok pair =>
          simp only [read, Except.ok.injEq, Prod.mk.injEq] at ran
          obtain ⟨rfl, rfl⟩ := ran
          exact .inr (.inl ⟨array, pair.1, rfl, rfl⟩)
      · simp only [bind, Except.bind] at ran
        cases read : enclosed (member (value floatOf length)) '}' length later with
        | error error => simp [read] at ran
        | ok pair =>
          simp only [read, Except.ok.injEq, Prod.mk.injEq] at ran
          obtain ⟨rfl, rfl⟩ := ran
          exact .inr (.inr (.inl ⟨object, pair.1, rfl, rfl⟩))
      · exact .inr (.inr (.inr ⟨by simp [quote, array, object], ran⟩))

/-- A value is read from its own characters. -/
theorem value_local (fuel : ℕ) : LocalAt (value floatOf) fuel := by
  induction fuel with
  | zero =>
    intro text item rest ran
    cases text <;> cases ran
  | succ fuel ih =>
    intro text item rest ran
    have positive {c : Char} {used : List Char} {bound : ℕ} (enough : (c :: used).length ≤ bound) :
        ∃ n, bound = n + 1 ∧ used.length ≤ n := by
      rw [List.length_cons] at enough
      exact ⟨bound - 1, by omega, by omega⟩
    obtain ⟨c, later, length, same, rfl, ways⟩ := value_of_ok ran
    obtain rfl := Nat.succ.inj same
    rcases ways with ⟨rfl, string, read, rfl⟩ | ⟨rfl, items, read, rfl⟩ | ⟨rfl, pairs, read,
      rfl⟩ | ⟨letter, read⟩
    · obtain ⟨used, rfl, tracked, again⟩ := stringBody_local read
      refine ⟨'"' :: used, rfl, quote_cons_balanced tracked, List.cons_ne_nil _ _,
        fun bound other enough _ => ?_⟩
      obtain ⟨bound, rfl, -⟩ := positive enough
      exact value_string (again other)
    · obtain ⟨front, rfl, balanced, again⟩ :=
        enclosed_local ih (punctuation_of_mem (by decide)) (by decide) read
      refine ⟨'[' :: (front ++ [']']), rfl, bracket_balanced (by decide) balanced, List.cons_ne_nil _ _,
        fun bound other enough _ => ?_⟩
      obtain ⟨bound, rfl, short⟩ := positive enough
      exact value_array (again bound other short)
    · obtain ⟨front, rfl, balanced, again⟩ :=
        enclosed_local (member_local ih) (punctuation_of_mem (by decide)) (by decide) read
      refine ⟨'{' :: (front ++ ['}']), rfl, bracket_balanced (by decide) balanced, List.cons_ne_nil _ _,
        fun bound other enough _ => ?_⟩
      obtain ⟨bound, rfl, short⟩ := positive enough
      exact value_object (again bound other short)
    · obtain ⟨used, split, takes⟩ := scalar_local 0 _ _ _ read
      refine ⟨used, split, takes.balanced, takes.nonempty, fun bound other enough fresh => ?_⟩
      obtain ⟨d, used, rfl⟩ := List.exists_cons_of_ne_nil takes.nonempty
      obtain ⟨bound, rfl, -⟩ := positive enough
      obtain ⟨rfl, -⟩ := List.cons.inj split
      rw [List.cons_append, value_scalar letter]
      exact takes.again _ other le_rfl fresh

end values

section objects

variable {floatOf : List Char → PyFloat} {text rest : List Char} {item : Json} {fields : List (String × Json)}

theorem loads_ok_iff : loads floatOf text = .ok item ↔
    ∃ rest, value floatOf text.length (skip text) = .ok (item, rest) ∧ skip rest = [] := by
  rw [loads]
  cases read : value floatOf text.length (skip text) with
  | error error => simp [bind, Except.bind]
  | ok pair =>
    obtain ⟨found, rest⟩ := pair
    simp only [bind, Except.bind]
    constructor
    · intro ran
      split_ifs at ran with finished
      obtain rfl := Except.ok.inj ran
      exact ⟨rest, rfl, finished⟩
    · rintro ⟨_, same, finished⟩
      obtain ⟨rfl, rfl⟩ := Prod.mk.inj (Except.ok.inj same)
      rw [if_pos finished]

theorem blank_of_skip (skipped : skip text = []) : ∀ c ∈ text, isWhitespace c = true :=
  List.dropWhile_eq_nil_iff.mp skipped

/-- Whatever `json.loads` takes has its quotes closed. -/
theorem balanced_of_loads (read : loads floatOf text = .ok item) : Balanced text := by
  obtain ⟨rest, read, finished⟩ := loads_ok_iff.mp read
  obtain ⟨used, split, takes⟩ := value_local _ _ _ _ read
  rw [← takeWhile_append_skip text, split]
  exact (balanced_whitespace text).append (takes.balanced.append
    (balanced_of_bare fun c member => isBare_of_whitespace (blank_of_skip finished c member)))

theorem scalar_ne_obj (read : scalar floatOf text = .ok (item, rest)) : item ≠ .obj fields := by
  rintro rfl
  simp only [scalar] at read
  cases known : constants.find? fun constant => constant.1.isPrefixOf text with
  | some constant =>
    obtain ⟨name, value⟩ := constant
    have member := List.mem_of_find?_eq_some known
    simp only [known, Except.ok.injEq, Prod.mk.injEq] at read
    simp only [constants, List.mem_cons, List.not_mem_nil, or_false, Prod.mk.injEq] at member
    rcases member with ⟨-, rfl⟩ | ⟨-, rfl⟩ | ⟨-, rfl⟩ | ⟨-, rfl⟩ | ⟨-, rfl⟩ | ⟨-, rfl⟩ <;> cases read.1
  | none =>
    simp only [known] at read
    cases number : decodeNumber floatOf (text.takeWhile isNumberChar) with
    | error error => simp [number] at read
    | ok value =>
      simp only [number, Except.ok.injEq, Prod.mk.injEq] at read
      obtain ⟨rfl, -⟩ := read
      unfold decodeNumber unsignedNumber at number
      grind

/-- An object with what stands around it left out. -/
theorem loads_object (read : loads floatOf text = .ok (.obj fields)) :
    ∃ front after, text = text.takeWhile isWhitespace ++ (('{' :: (front ++ ['}'])) ++ after) ∧
      (∀ c ∈ after, isWhitespace c = true) ∧ loads floatOf ('{' :: (front ++ ['}'])) = .ok (.obj fields) := by
  obtain ⟨rest, read, finished⟩ := loads_ok_iff.mp read
  obtain ⟨c, later, length, -, skipped, ways⟩ := value_of_ok read
  rcases ways with ⟨-, string, -, same⟩ | ⟨-, items, -, same⟩ | ⟨rfl, pairs, inner, same⟩ | ⟨-, inner⟩
  · cases same
  · cases same
  · obtain ⟨front, rfl, -, again⟩ :=
      enclosed_local (member_local (value_local length)) (punctuation_of_mem (by decide)) (by decide) inner
    refine ⟨front, rest, ?_, blank_of_skip finished, loads_ok_iff.mpr ⟨[], ?_, rfl⟩⟩
    · rw [List.cons_append, ← skipped, takeWhile_append_skip]
    · rw [skip_cons (by decide), same, List.length_cons]
      have object := value_object (again _ [] le_rfl)
      rwa [List.append_nil] at object
  · exact absurd rfl (scalar_ne_obj inner)

/-- Without a backslash, a string literal is what stands between its quotes. -/
theorem stringBody_plain {string : List Char} (plain : '\\' ∉ text)
    (read : stringBody .plain none text = .ok (string, rest)) : text = string ++ '"' :: rest := by
  induction text generalizing string with
  | nil => simp [stringBody] at read
  | cons c text ih =>
    have notBackslash : c ≠ '\\' := fun same => plain (same ▸ List.mem_cons_self ..)
    rw [stringBody, if_neg notBackslash] at read
    split_ifs at read with quote
    · obtain ⟨rfl, rfl⟩ := Prod.mk.inj (Except.ok.inj read)
      rw [quote]
      rfl
    · obtain ⟨later, inner, rfl⟩ := prefixed_eq_ok_iff.mp read
      rw [ih (fun member => plain (List.mem_cons_of_mem _ member)) inner]
      rfl

/-- The items of a series are read at places of its text. -/
theorem series_places {α : Type} {reader : Reader α} {close : Char} {length : ℕ} {text rest : List Char}
    {items : List α} (advances : ∀ text item rest, reader text = .ok (item, rest) → rest <:+ text)
    (ran : series reader close length text = .ok (items, rest)) :
    ∀ item ∈ items, ∃ place after, place <:+ text ∧ reader place = .ok (item, after) := by
  induction length generalizing text items rest with
  | zero => cases ran
  | succ length ih =>
    rw [series] at ran
    cases first : reader text with
    | error error => simp [first, bind, Except.bind] at ran
    | ok pair =>
      obtain ⟨item, after⟩ := pair
      simp only [first, bind, Except.bind] at ran
      cases skipped : skip after with
      | nil => simp [skipped] at ran
      | cons c later =>
        simp only [skipped] at ran
        split_ifs at ran with closed comma
        · obtain ⟨rfl, -⟩ := Prod.mk.inj (Except.ok.inj ran)
          exact List.forall_mem_singleton.mpr ⟨text, after, List.suffix_rfl, first⟩
        · cases others : series reader close length (skip later) with
          | error error => simp [others] at ran
          | ok pair =>
            obtain ⟨items, left⟩ := pair
            simp only [others, Except.ok.injEq, Prod.mk.injEq] at ran
            obtain ⟨rfl, -⟩ := ran
            have onward : skip later <:+ text := by
              have behind : c :: later <:+ after := skipped ▸ List.dropWhile_suffix _
              exact (List.dropWhile_suffix _).trans ((List.suffix_cons c later).trans
                (behind.trans (advances text item after first)))
            refine List.forall_mem_cons.mpr ⟨⟨text, after, List.suffix_rfl, first⟩, fun other member => ?_⟩
            obtain ⟨place, left, within, read⟩ := ih others other member
            exact ⟨place, left, within.trans onward, read⟩

theorem enclosed_places {α : Type} {reader : Reader α} {close : Char} {length : ℕ} {text rest : List Char}
    {items : List α} (advances : ∀ text item rest, reader text = .ok (item, rest) → rest <:+ text)
    (ran : enclosed reader close length text = .ok (items, rest)) :
    ∀ item ∈ items, ∃ place after, place <:+ text ∧ reader place = .ok (item, after) := by
  rw [enclosed] at ran
  cases skipped : skip text with
  | nil => simp [skipped] at ran
  | cons c later =>
    simp only [skipped] at ran
    split_ifs at ran with closed
    · obtain ⟨rfl, -⟩ := Prod.mk.inj (Except.ok.inj ran)
      simp
    · intro item member
      obtain ⟨place, after, within, read⟩ := series_places advances ran item member
      exact ⟨place, after, within.trans (skipped ▸ List.dropWhile_suffix _), read⟩

theorem LocalAt.advances {α : Type} {read : ℕ → Reader α} {fuel : ℕ} (looks : LocalAt read fuel) :
    ∀ text item rest, read fuel text = .ok (item, rest) → rest <:+ text := by
  intro text item rest ran
  obtain ⟨used, rfl, -⟩ := looks text item rest ran
  exact List.suffix_append used rest

theorem mem_of_mem_dict {pairs : List (String × Json)} {field : String × Json} (member : field ∈ dict pairs) :
    field ∈ pairs := by
  induction pairs using List.reverseRecOn generalizing field with
  | nil => exact member
  | append_singleton pairs last ih =>
    rw [dict, List.foldl_append, List.foldl_cons, List.foldl_nil, ← dict, insert] at member
    split at member
    · obtain ⟨other, among, rfl⟩ := List.mem_map.mp member
      split
      · simp
      · exact List.mem_append_left _ (ih among)
    · rcases List.mem_append.mp member with among | last
      · exact List.mem_append_left _ (ih among)
      · exact List.mem_append_right _ last

/-- Without a backslash, the keys of an object are written in its text. -/
theorem mem_of_mem_key (read : loads floatOf text = .ok (.obj fields)) (plain : '\\' ∉ text)
    {field : String × Json}
    (member : field ∈ fields) {c : Char} (letter : c ∈ field.1.toList) : c ∈ text := by
  obtain ⟨rest, read, -⟩ := loads_ok_iff.mp read
  obtain ⟨d, later, length, -, skipped, ways⟩ := value_of_ok read
  have suffix : later <:+ text := by
    have behind : d :: later <:+ text := skipped ▸ List.dropWhile_suffix _
    exact (List.suffix_cons d later).trans behind
  rcases ways with ⟨-, string, -, same⟩ | ⟨-, items, -, same⟩ | ⟨-, pairs, inner, same⟩ | ⟨-, inner⟩
  · cases same
  · cases same
  · obtain rfl := Json.obj.inj same
    obtain ⟨place, after, within, ran⟩ :=
      enclosed_places (member_local (value_local length)).advances inner field (mem_of_mem_dict member)
    obtain ⟨body, key, _, _, _, rfl, name, -, -, rfl⟩ := member_of_ok ran
    have onward : body <:+ text := (List.suffix_cons '"' body).trans (within.trans suffix)
    have written := stringBody_plain (fun among => plain (onward.subset among)) name
    rw [String.toList_ofList] at letter
    exact onward.subset (written ▸ List.mem_append_left _ letter)
  · exact absurd rfl (scalar_ne_obj inner)

end objects

end LlmopsGateway.JsonText
