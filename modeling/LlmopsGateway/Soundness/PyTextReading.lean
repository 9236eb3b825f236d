import LlmopsGateway.Model.PyText
import Mathlib.Tactic.Common

/-! # Reading Python texts back

The text of an optional integer and the `repr` of an optional list of strings determine the value
they came from: a reader of one escaped character undoes `reprChar`, and quotes and brackets are
found again from the left. The texts contain no `|` outside a string literal. A lexer that keeps
track of the open quote shows more: of two such texts, one cannot be a proper suffix of the other
behind a `|`, since the longer one would have the shorter one's literals inside out.
-/

namespace LlmopsGateway.PyText

section hex

def hexValue (c : Char) : ℕ := "0123456789abcdef".toList.idxOf c

def readHex (digits : List Char) : ℕ := digits.foldl (fun sofar c => 16 * sofar + hexValue c) 0

theorem hexValue_hexDigit {n : ℕ} (digit : n < 16) : hexValue (hexDigit n) = n := by
  have table : ∀ n < 16, hexValue (hexDigit n) = n := by decide
  exact table n digit

theorem hexDigit_mem (n : ℕ) : hexDigit n ∈ "0123456789abcdef".toList := by
  by_cases digit : n < 16
  · have table : ∀ n < 16, hexDigit n ∈ "0123456789abcdef".toList := by decide
    exact table n digit
  · have beyond : "0123456789abcdef".toList.length ≤ n := Nat.le_of_not_lt digit
    rw [hexDigit, List.getD_eq_getElem?_getD, List.getElem?_eq_none beyond]
    decide

theorem mem_hexDigits {width n : ℕ} {c : Char} (member : c ∈ hexDigits width n) :
    c ∈ "0123456789abcdef".toList := by
  induction width generalizing n with
  | zero => exact nomatch member
  | succ width ih =>
    rcases List.mem_append.mp member with front | last
    · exact ih front
    · obtain rfl := List.mem_singleton.mp last
      exact hexDigit_mem _

@[simp] theorem length_hexDigits (width n : ℕ) : (hexDigits width n).length = width := by
  induction width generalizing n with
  | zero => rfl
  | succ width ih => simp only [hexDigits, List.length_append, ih, List.length_singleton]

theorem readHex_hexDigits (width n : ℕ) : readHex (hexDigits width n) = n % 16 ^ width := by
  induction width generalizing n with
  | zero => simp [hexDigits, readHex, Nat.mod_one]
  | succ width ih =>
    have last := hexValue_hexDigit (Nat.mod_lt n (by decide : 16 > 0))
    simp only [readHex] at ih ⊢
    rw [hexDigits, List.foldl_append, ih, List.foldl_cons, List.foldl_nil, last, Nat.pow_succ',
      Nat.mod_mul]
    omega

/-- Fixed-width digits are read back as the character they stand for. -/
theorem ofNat_readHex {width : ℕ} {c : Char} (fits : c.toNat < 16 ^ width) (rest : List Char) :
    Char.ofNat (readHex ((hexDigits width c.toNat ++ rest).take width)) = c := by
  have taken : (hexDigits width c.toNat ++ rest).take width = hexDigits width c.toNat := by
    rw [List.take_append_of_le_length (by simp), List.take_of_length_le (by simp)]
  rw [taken, readHex_hexDigits, Nat.mod_eq_of_lt fits, Char.ofNat_toNat]

theorem drop_hexDigits (width n : ℕ) (rest : List Char) :
    (hexDigits width n ++ rest).drop width = rest := by
  rw [List.drop_append_of_le_length (by simp), List.drop_of_length_le (by simp), List.nil_append]

end hex

section repr

variable (isPrintable : Char → Bool)

/-- The number of hexadecimal digits an escape letter announces. -/
def escapeWidth : Char → Option ℕ
  | 'x' => some 2
  | 'u' => some 4
  | 'U' => some 8
  | _ => none

/-- Read one character of a string literal and what follows it. -/
def readChar : List Char → Option (Char × List Char)
  | [] => none
  | '\\' :: kind :: rest =>
    match escapeWidth kind with
    | some width => some (Char.ofNat (readHex (rest.take width)), rest.drop width)
    | none =>
      some (match kind with
        | 't' => '\t'
        | 'n' => '\n'
        | 'r' => '\r'
        | other => other, rest)
  | c :: rest => some (c, rest)

theorem readChar_plain {c : Char} (plain : c ≠ '\\') (rest : List Char) :
    readChar (c :: rest) = some (c, rest) := by
  cases rest with
  | nil => simp [readChar]
  | cons d rest => simp [readChar, plain]

theorem readChar_hex {kind : Char} {width : ℕ} (announced : escapeWidth kind = some width) {c : Char}
    (fits : c.toNat < 16 ^ width) (rest : List Char) :
    readChar ('\\' :: kind :: hexDigits width c.toNat ++ rest) = some (c, rest) := by
  simp only [List.cons_append, readChar, announced, ofNat_readHex fits, drop_hexDigits]

/-- The ways to write a character inside a literal: as it is, behind a backslash, or by its number. -/
inductive Written (quote : Quote) (c : Char) : List Char → Prop
  | plain (notQuote : c ≠ quote.char) (notBackslash : c ≠ '\\') : Written quote c [c]
  | escaped (kind : Char) (read : ∀ rest, readChar ('\\' :: kind :: rest) = some (c, rest)) :
    Written quote c ['\\', kind]
  | hex (kind : Char) (width : ℕ) (announced : escapeWidth kind = some width) (fits : c.toNat < 16 ^ width) :
    Written quote c ('\\' :: kind :: hexDigits width c.toNat)

theorem written_reprChar (quote : Quote) (c : Char) : Written quote c (reprChar isPrintable quote c) := by
  have bound : c.toNat < 2 ^ 32 := c.val.toNat_lt
  unfold reprChar
  split_ifs with quoted tab newline carriage control ascii printable latin basic
  · refine .escaped c fun rest => ?_
    rcases quoted with rfl | rfl
    · cases quote <;> rfl
    · rfl
  · exact .escaped 't' fun rest => by rw [tab]; rfl
  · exact .escaped 'n' fun rest => by rw [newline]; rfl
  · exact .escaped 'r' fun rest => by rw [carriage]; rfl
  · exact .hex 'x' 2 rfl (by omega)
  · exact .plain (not_or.mp quoted).1 (not_or.mp quoted).2
  · exact .plain (not_or.mp quoted).1 (not_or.mp quoted).2
  · exact .hex 'x' 2 rfl (by omega)
  · exact .hex 'u' 4 rfl (by omega)
  · exact .hex 'U' 8 rfl (by omega)

/-- Every way to write a character inside a literal is read back. -/
theorem readChar_reprChar (quote : Quote) (c : Char) (rest : List Char) :
    readChar (reprChar isPrintable quote c ++ rest) = some (c, rest) := by
  have written := written_reprChar isPrintable quote c
  generalize reprChar isPrintable quote c = text at written ⊢
  cases written with
  | plain notQuote notBackslash => exact readChar_plain notBackslash rest
  | escaped kind read => exact read rest
  | hex kind width announced fits => exact readChar_hex announced fits rest

theorem Quote.char_ne_backslash (quote : Quote) : quote.char ≠ '\\' := by
  cases quote <;> decide

/-- The closing quote is not mistaken for a character. -/
theorem reprChar_ne_quote {quote : Quote} {c : Char} {rest other : List Char} :
    reprChar isPrintable quote c ++ rest ≠ quote.char :: other := by
  intro same
  have read := readChar_reprChar isPrintable quote c rest
  rw [same, readChar_plain quote.char_ne_backslash] at read
  obtain ⟨rfl, -⟩ := Prod.mk.inj (Option.some.inj read)
  rw [reprChar, if_pos (.inl rfl)] at same
  exact quote.char_ne_backslash (List.cons.inj same).1.symm

theorem literal_inj {quote : Quote} {text other rest rest' : List Char}
    (same : text.flatMap (reprChar isPrintable quote) ++ quote.char :: rest =
      other.flatMap (reprChar isPrintable quote) ++ quote.char :: rest') :
    text = other ∧ rest = rest' := by
  induction text generalizing other with
  | nil =>
    cases other with
    | nil => exact ⟨rfl, (List.cons.inj same).2⟩
    | cons d other =>
      rw [List.flatMap_cons, List.append_assoc] at same
      exact absurd same.symm (reprChar_ne_quote isPrintable)
  | cons c text ih =>
    cases other with
    | nil =>
      rw [List.flatMap_cons, List.append_assoc] at same
      exact absurd same (reprChar_ne_quote isPrintable)
    | cons d other =>
      rw [List.flatMap_cons, List.flatMap_cons, List.append_assoc, List.append_assoc] at same
      have read := readChar_reprChar isPrintable quote c
        (text.flatMap (reprChar isPrintable quote) ++ quote.char :: rest)
      rw [same, readChar_reprChar] at read
      obtain ⟨rfl, tails⟩ := Prod.mk.inj (Option.some.inj read)
      obtain ⟨rfl, rests⟩ := ih tails.symm
      exact ⟨rfl, rests⟩

theorem Quote.char_injective : Function.Injective Quote.char := by
  intro quote other same
  cases quote <;> cases other <;> first | rfl | exact absurd same (by decide)

/-- A literal at the head of a text is determined, and so is what follows it. -/
theorem reprStr_inj {text other rest rest' : List Char}
    (same : reprStr isPrintable text ++ rest = reprStr isPrintable other ++ rest') :
    text = other ∧ rest = rest' := by
  simp only [reprStr, List.cons_append, List.append_assoc] at same
  obtain ⟨quotes, same⟩ := List.cons.inj same
  rw [Quote.char_injective quotes] at same
  exact literal_inj isPrintable same

/-- The items of a list after the first, up to the closing bracket. -/
def reprItems : List (List Char) → List Char
  | [] => [']']
  | item :: rest => ',' :: ' ' :: (reprStr isPrintable item ++ reprItems rest)

theorem reprList_cons (item : List Char) (rest : List (List Char)) :
    reprList isPrintable (item :: rest) =
      '[' :: (reprStr isPrintable item ++ reprItems isPrintable rest) := by
  have tail (item : List Char) :
      List.intercalate [',', ' '] ((item :: rest).map (reprStr isPrintable)) ++ [']'] =
      reprStr isPrintable item ++ reprItems isPrintable rest := by
    induction rest generalizing item with
    | nil => simp [List.intercalate, reprItems]
    | cons next rest ih =>
      rw [reprItems, ← ih next]
      simp [List.intercalate]
  rw [reprList, tail]

theorem reprItems_injective : Function.Injective (reprItems isPrintable) := by
  intro items other same
  induction items generalizing other with
  | nil =>
    cases other with
    | nil => rfl
    | cons item rest => exact absurd (List.cons.inj same).1 (by decide)
  | cons item rest ih =>
    cases other with
    | nil => exact absurd (List.cons.inj same).1 (by decide)
    | cons item' rest' =>
      obtain ⟨rfl, rests⟩ := reprStr_inj isPrintable (List.cons.inj (List.cons.inj same).2).2
      rw [ih rests]

theorem reprList_injective : Function.Injective (reprList isPrintable) := by
  intro items other same
  cases items with
  | nil =>
    cases other with
    | nil => rfl
    | cons item rest =>
      rw [reprList_cons] at same
      have closing : [']'] = reprStr isPrintable item ++ reprItems isPrintable rest :=
        (List.cons.inj same).2
      have quoted : ']' = (reprQuote item).char := (List.cons.inj closing).1
      cases kind : reprQuote item <;> rw [kind] at quoted <;> exact absurd quoted (by decide)
  | cons item rest =>
    rw [reprList_cons] at same
    cases other with
    | nil =>
      have closing : reprStr isPrintable item ++ reprItems isPrintable rest = [']'] :=
        (List.cons.inj same).2
      have quoted : (reprQuote item).char = ']' := (List.cons.inj closing).1
      cases kind : reprQuote item <;> rw [kind] at quoted <;> exact absurd quoted (by decide)
    | cons item' rest' =>
      rw [reprList_cons] at same
      obtain ⟨rfl, rests⟩ := reprStr_inj isPrintable (List.cons.inj same).2
      rw [reprItems_injective isPrintable rests]

theorem strOfStop_injective : Function.Injective (strOfStop isPrintable) := by
  intro stop other same
  cases stop with
  | none =>
    cases other with
    | none => rfl
    | some items => exact absurd (List.cons.inj same).1 (by decide)
  | some items =>
    cases other with
    | none => exact absurd (List.cons.inj same).1 (by decide)
    | some items' =>
      have texts := reprList_injective isPrintable same
      rw [List.map_injective_iff.mpr (fun _ _ => String.toList_inj.mp) texts]

end repr

section int

theorem toDigits_injective {n m : ℕ} (same : Nat.toDigits 10 n = Nat.toDigits 10 m) : n = m := by
  rw [← Nat.ofDigitChars_ten_toDigits (n := n), same, Nat.ofDigitChars_ten_toDigits]

theorem toDigits_isDigit {n : ℕ} {c : Char} (member : c ∈ Nat.toDigits 10 n) : c.isDigit = true :=
  Nat.isDigit_of_mem_toDigits (by decide) (by decide) member

/-- Digits are not the text of another value that starts with something else. -/
theorem toDigits_ne_cons {n : ℕ} {c : Char} (notDigit : c.isDigit = false) (rest : List Char) :
    Nat.toDigits 10 n ≠ c :: rest := by
  intro same
  have digit : c.isDigit = true := toDigits_isDigit (n := n) (same ▸ List.mem_cons_self ..)
  rw [notDigit] at digit
  contradiction

theorem strOfInt_injective : Function.Injective strOfInt := by
  rintro (_ | n | n) (_ | m | m) same
  · rfl
  · exact absurd same.symm (toDigits_ne_cons (by decide) _)
  · exact absurd (List.cons.inj same).1 (by decide)
  · exact absurd same (toDigits_ne_cons (by decide) _)
  · rw [toDigits_injective same]
  · exact absurd same (toDigits_ne_cons (by decide) _)
  · exact absurd (List.cons.inj same).1 (by decide)
  · exact absurd same.symm (toDigits_ne_cons (by decide) _)
  · rw [Nat.succ.inj (toDigits_injective (List.cons.inj same).2)]

theorem bar_not_mem_strOfInt (value : Option ℤ) : '|' ∉ strOfInt value := by
  have digits (n : ℕ) : '|' ∉ Nat.toDigits 10 n := by
    intro member
    exact absurd (toDigits_isDigit member) (by decide)
  rcases value with _ | n | n
  · decide
  · exact digits n
  · intro member
    rcases List.mem_cons.mp member with same | member
    · exact absurd same (by decide)
    · exact digits _ member

end int

section lexer

variable (isPrintable : Char → Bool)

/-- Where a reader of a text stands: outside string literals, in one, or behind a backslash in one. -/
inductive Lexer
  | outside
  | inside (quote : Quote)
  | escaped (quote : Quote)
deriving DecidableEq

def Lexer.next : Lexer → Char → Lexer
  | .outside, c => if c = '\'' then .inside .single else if c = '"' then .inside .double else .outside
  | .inside quote, c =>
    if c = quote.char then .outside else if c = '\\' then .escaped quote else .inside quote
  | .escaped quote, _ => .inside quote

/-- The text closes all its literals, and has neither backslash nor bar outside them. -/
def Lexed : Lexer → List Char → Prop
  | lexer, [] => lexer = .outside
  | lexer, c :: rest => (lexer = .outside → c ≠ '\\' ∧ c ≠ '|') ∧ Lexed (lexer.next c) rest

instance Lexed.decidable : (lexer : Lexer) → (text : List Char) → Decidable (Lexed lexer text)
  | lexer, [] => inferInstanceAs (Decidable (lexer = .outside))
  | lexer, c :: rest =>
    have := Lexed.decidable (lexer.next c) rest
    inferInstanceAs (Decidable (_ ∧ _))

theorem Lexed.append_left {lexer : Lexer} {front rest : List Char} (lexed : Lexed lexer (front ++ rest)) :
    Lexed (front.foldl Lexer.next lexer) rest := by
  induction front generalizing lexer with
  | nil => exact lexed
  | cons c front ih => exact ih lexed.2

/-- Characters that neither close nor escape leave a reader in its literal. -/
theorem Lexed.inside_append {quote : Quote} {plain rest : List Char}
    (harmless : ∀ c ∈ plain, c ≠ quote.char ∧ c ≠ '\\') (lexed : Lexed (.inside quote) rest) :
    Lexed (.inside quote) (plain ++ rest) := by
  induction plain with
  | nil => exact lexed
  | cons c plain ih =>
    obtain ⟨notQuote, notBackslash⟩ := harmless c (List.mem_cons_self ..)
    refine ⟨nofun, ?_⟩
    rw [Lexer.next, if_neg notQuote, if_neg notBackslash]
    exact ih fun d member => harmless d (List.mem_cons_of_mem _ member)

theorem Lexed.inside_escape {quote : Quote} {kind : Char} {rest : List Char}
    (lexed : Lexed (.inside quote) rest) : Lexed (.inside quote) ('\\' :: kind :: rest) := by
  refine ⟨nofun, ?_⟩
  rw [Lexer.next, if_neg quote.char_ne_backslash.symm, if_pos rfl]
  exact ⟨nofun, lexed⟩

theorem Lexed.inside_hex {quote : Quote} {kind : Char} {width n : ℕ} {rest : List Char}
    (lexed : Lexed (.inside quote) rest) :
    Lexed (.inside quote) ('\\' :: kind :: hexDigits width n ++ rest) := by
  refine Lexed.inside_escape (Lexed.inside_append (fun c member => ?_) lexed)
  have digit := mem_hexDigits member
  constructor
  · rintro rfl
    cases quote <;> exact absurd digit (by decide)
  · rintro rfl
    exact absurd digit (by decide)

theorem Lexed.inside_reprChar {quote : Quote} (c : Char) {rest : List Char}
    (lexed : Lexed (.inside quote) rest) :
    Lexed (.inside quote) (reprChar isPrintable quote c ++ rest) := by
  have written := written_reprChar isPrintable quote c
  generalize reprChar isPrintable quote c = text at written ⊢
  cases written with
  | plain notQuote notBackslash =>
    refine Lexed.inside_append (fun d member => ?_) lexed
    obtain rfl := List.mem_singleton.mp member
    exact ⟨notQuote, notBackslash⟩
  | escaped kind read => exact lexed.inside_escape
  | hex kind width announced fits => exact lexed.inside_hex

theorem Lexed.reprStr {rest : List Char} (text : List Char) (lexed : Lexed .outside rest) :
    Lexed .outside (reprStr isPrintable text ++ rest) := by
  have body (quote : Quote) (text : List Char) :
      Lexed (.inside quote) (text.flatMap (reprChar isPrintable quote) ++ quote.char :: rest) := by
    induction text with
    | nil =>
      refine ⟨nofun, ?_⟩
      rw [Lexer.next, if_pos rfl]
      exact lexed
    | cons c text ih =>
      rw [List.flatMap_cons, List.append_assoc]
      exact ih.inside_reprChar isPrintable c
  have opened := body (reprQuote text) text
  simp only [PyText.reprStr, List.cons_append, List.append_assoc]
  cases kind : reprQuote text <;> rw [kind] at opened
  · exact ⟨fun _ => by decide, opened⟩
  · exact ⟨fun _ => by decide, opened⟩

theorem lexed_reprItems (items : List (List Char)) : Lexed .outside (reprItems isPrintable items) := by
  induction items with
  | nil => exact (by decide : Lexed .outside [']'])
  | cons item rest ih =>
    exact ⟨fun _ => by decide, fun _ => by decide, ih.reprStr isPrintable item⟩

theorem lexed_strOfStop (stop : Option (List String)) : Lexed .outside (strOfStop isPrintable stop) := by
  cases stop with
  | none => exact (by decide : Lexed .outside "None".toList)
  | some items =>
    rw [strOfStop]
    cases items.map String.toList with
    | nil => exact (by decide : Lexed .outside ['[', ']'])
    | cons item rest =>
      rw [reprList_cons]
      exact ⟨fun _ => by decide, (lexed_reprItems isPrintable rest).reprStr isPrintable item⟩

/-- Two readers of one text of which at most one is outside and no two wait for the same quote. -/
def Lexer.Apart : Lexer → Lexer → Prop
  | .outside, .inside _ => True
  | .inside _, .outside => True
  | .inside quote, .inside other => quote ≠ other
  | .escaped quote, .escaped other => quote ≠ other
  | _, _ => False

theorem Lexer.Apart.next {lexer other : Lexer} (apart : lexer.Apart other) {c : Char}
    (plain : lexer = .outside → c ≠ '\\') (plain' : other = .outside → c ≠ '\\') :
    (lexer.next c).Apart (other.next c) := by
  have entering (quote : Quote) (plain : c ≠ '\\') :
      (Lexer.outside.next c).Apart ((Lexer.inside quote).next c) ∧
        ((Lexer.inside quote).next c).Apart (Lexer.outside.next c) := by
    cases quote <;> simp only [Lexer.next, Quote.char, if_neg plain] <;> split_ifs <;>
      simp_all [Lexer.Apart]
  have crossing : ((Lexer.inside .single).next c).Apart ((Lexer.inside .double).next c) ∧
      ((Lexer.inside .double).next c).Apart ((Lexer.inside .single).next c) := by
    by_cases single : c = Quote.single.char
    · subst single
      simp [Lexer.next, Lexer.Apart, Quote.char]
    · by_cases double : c = Quote.double.char
      · subst double
        simp [Lexer.next, Lexer.Apart, Quote.char]
      · simp only [Lexer.next, if_neg single, if_neg double]
        split <;> simp [Lexer.Apart]
  cases lexer with
  | outside =>
    cases other with
    | inside quote => exact (entering quote (plain rfl)).1
    | _ => exact apart.elim
  | inside quote =>
    cases other with
    | outside => exact (entering quote (plain' rfl)).2
    | inside other =>
      cases quote <;> cases other
      · exact absurd rfl apart
      · exact crossing.1
      · exact crossing.2
      · exact absurd rfl apart
    | escaped other => exact apart.elim
  | escaped quote =>
    cases other with
    | escaped other => exact apart
    | _ => exact apart.elim

/-- Readers that are apart never both accept. -/
theorem Lexer.Apart.not_lexed {lexer other : Lexer} {text : List Char} (apart : lexer.Apart other)
    (lexed : Lexed lexer text) : ¬ Lexed other text := by
  induction text generalizing lexer other with
  | nil =>
    intro lexed'
    rw [show lexer = .outside from lexed, show other = .outside from lexed'] at apart
    exact apart
  | cons c text ih =>
    intro lexed'
    exact ih (apart.next (fun outside => (lexed.1 outside).1) fun outside => (lexed'.1 outside).1)
      lexed.2 lexed'.2

/-- No such text continues, behind a bar, as another one. -/
theorem not_lexed_bar {front text : List Char} (lexed : Lexed .outside text) :
    ¬ Lexed .outside (front ++ '|' :: text) := by
  intro longer
  have behind := longer.append_left
  obtain ⟨quote, inside⟩ : ∃ quote, (front.foldl Lexer.next .outside).next '|' = .inside quote := by
    cases place : front.foldl Lexer.next .outside with
    | outside =>
      rw [place] at behind
      exact absurd rfl (behind.1 rfl).2
    | inside quote => exact ⟨quote, by cases quote <;> rfl⟩
    | escaped quote => exact ⟨quote, rfl⟩
  have accepted := behind.2
  rw [inside] at accepted
  have apart : Lexer.outside.Apart (.inside quote) := trivial
  exact apart.not_lexed lexed accepted

/-- The last of several fields between bars is determined when it is the text of a stop list. -/
theorem stop_field_inj {front front' : List Char} {stop stop' : Option (List String)}
    (same : front ++ '|' :: strOfStop isPrintable stop = front' ++ '|' :: strOfStop isPrintable stop') :
    front = front' ∧ stop = stop' := by
  rcases List.append_eq_append_iff.mp same with ⟨middle, longer, tails⟩ | ⟨middle, longer, tails⟩
  · cases middle with
    | nil => exact ⟨by rw [longer, List.append_nil], strOfStop_injective isPrintable (List.cons.inj tails).2⟩
    | cons c middle =>
      have inner := lexed_strOfStop isPrintable stop
      rw [(List.cons.inj tails).2] at inner
      exact absurd inner (not_lexed_bar (lexed_strOfStop isPrintable stop'))
  · cases middle with
    | nil =>
      exact ⟨by rw [longer, List.append_nil], strOfStop_injective isPrintable (List.cons.inj tails).2.symm⟩
    | cons c middle =>
      have inner := lexed_strOfStop isPrintable stop'
      rw [(List.cons.inj tails).2] at inner
      exact absurd inner (not_lexed_bar (lexed_strOfStop isPrintable stop))

end lexer

end LlmopsGateway.PyText
