import Mathlib.Data.List.DropRight
import Mathlib.Data.List.Basic
import Mathlib.Tactic.Common

/-! # Texts as words between separators

`split` cuts a text at every run of separators, as whitespace splitting does, and `join` puts
words back together with one separator between them. `scan` exposes the leading run, the part of
a text that becomes longer when something is put in front of it. The last section is about
fields between occurrences of one delimiter.
-/

namespace LlmopsGateway.Words

variable {α : Type*} (space : α → Bool)

/-- A leading run and later words, an empty run being no word. -/
def pack : List α × List (List α) → List (List α)
  | ([], later) => later
  | (first :: run, later) => (first :: run) :: later

/-- The leading separator-free run of a text, and the words after it. -/
def scan : List α → List α × List (List α)
  | [] => ([], [])
  | c :: rest =>
    if space c then ([], pack (scan rest)) else (c :: (scan rest).1, (scan rest).2)

/-- The maximal separator-free runs of a text. -/
def split (text : List α) : List (List α) := pack (scan space text)

def strip (text : List α) : List α := (text.dropWhile space).rdropWhile space

def join (sep : α) (words : List (List α)) : List α := List.intercalate [sep] words

/-- What `split` returns: words are not empty and contain no separator. -/
def Proper (word : List α) : Prop := word ≠ [] ∧ ∀ c ∈ word, space c = false

variable {space} {sep : α}

theorem pack_append (run : List α) (later more : List (List α)) :
    pack (run, later ++ more) = pack (run, later) ++ more := by
  cases run <;> rfl

theorem pack_of_ne_nil {run : List α} (nonempty : run ≠ []) (later : List (List α)) :
    pack (run, later) = run :: later := by
  cases run with
  | nil => contradiction
  | cons c run => rfl

theorem pack_inj {run other : List α} {later later' : List (List α)} (runs : run = [] ↔ other = [])
    (same : pack (run, later) = pack (other, later')) : run = other ∧ later = later' := by
  by_cases empty : run = []
  · obtain rfl := runs.mp empty
    obtain rfl := empty
    exact ⟨rfl, same⟩
  · rw [pack_of_ne_nil empty, pack_of_ne_nil (mt runs.mpr empty)] at same
    exact List.cons.inj same

theorem mem_pack {run word : List α} {later : List (List α)} :
    word ∈ pack (run, later) ↔ (word = run ∧ run ≠ []) ∨ word ∈ later := by
  cases run with
  | nil => simp [pack]
  | cons c run => simp [pack]

theorem scan_cons_of_space {c : α} (isSpace : space c = true) (rest : List α) :
    scan space (c :: rest) = ([], split space rest) := by
  simp only [scan, isSpace, if_true, split]

theorem scan_cons_of_not_space {c : α} (notSpace : space c = false) (rest : List α) :
    scan space (c :: rest) = (c :: (scan space rest).1, (scan space rest).2) := by
  simp only [scan, notSpace, Bool.false_eq_true, if_false]

@[simp] theorem split_nil : split space [] = [] := rfl

theorem split_cons_of_space {c : α} (isSpace : space c = true) (rest : List α) :
    split space (c :: rest) = split space rest := by
  rw [split, scan_cons_of_space isSpace]
  rfl

/-- A separator ends the words before it. -/
theorem scan_append_cons (isSpace : space sep = true) (before after : List α) :
    scan space (before ++ sep :: after) =
      ((scan space before).1, (scan space before).2 ++ split space after) := by
  induction before with
  | nil => exact scan_cons_of_space isSpace after
  | cons c rest ih =>
    rw [List.cons_append]
    cases kind : space c with
    | true =>
      rw [scan_cons_of_space kind, scan_cons_of_space kind, split, ih, pack_append]
      rfl
    | false => rw [scan_cons_of_not_space kind, scan_cons_of_not_space kind, ih]

theorem split_append_cons (isSpace : space sep = true) (before after : List α) :
    split space (before ++ sep :: after) = split space before ++ split space after := by
  rw [split, scan_append_cons isSpace, pack_append]
  rfl

/-- What stands in front of a text without a separator joins its leading run. -/
theorem scan_append_of_free {mark : List α} (free : ∀ c ∈ mark, space c = false) (text : List α) :
    scan space (mark ++ text) = (mark ++ (scan space text).1, (scan space text).2) := by
  induction mark with
  | nil => rfl
  | cons c mark ih =>
    rw [List.cons_append, scan_cons_of_not_space (free c (List.mem_cons_self ..)),
      ih fun d member => free d (List.mem_cons_of_mem _ member)]
    rfl

theorem split_append_of_proper {mark : List α} (proper : Proper space mark) (text : List α) :
    split space (mark ++ text) = (mark ++ (scan space text).1) :: (scan space text).2 := by
  rw [split, scan_append_of_free proper.2]
  exact pack_of_ne_nil (List.append_ne_nil_of_left_ne_nil proper.1 _) _

theorem split_of_proper {word : List α} (proper : Proper space word) : split space word = [word] := by
  have attached := split_append_of_proper proper []
  rwa [List.append_nil, show scan space ([] : List α) = ([], []) from rfl, List.append_nil] at attached

/-- The leading run is empty where a text is or begins with a separator. -/
theorem scan_fst_eq_nil_iff (text : List α) : (scan space text).1 = [] ↔ text.head?.all space = true := by
  cases text with
  | nil => simp [scan]
  | cons c rest =>
    cases kind : space c with
    | true => simp [kind, scan_cons_of_space kind]
    | false => simp [kind, scan_cons_of_not_space kind]

theorem scan_free (text : List α) : ∀ c ∈ (scan space text).1, space c = false := by
  induction text with
  | nil => exact fun _ member => nomatch member
  | cons c rest ih =>
    cases kind : space c with
    | true =>
      rw [scan_cons_of_space kind]
      exact fun _ member => nomatch member
    | false =>
      rw [scan_cons_of_not_space kind]
      intro d member
      rcases List.mem_cons.mp member with rfl | member
      · exact kind
      · exact ih d member

theorem proper_of_mem_split {text word : List α} (member : word ∈ split space text) :
    Proper space word := by
  have later (text : List α) : ∀ word ∈ (scan space text).2, Proper space word := by
    induction text with
    | nil => exact fun _ member => nomatch member
    | cons c rest ih =>
      cases kind : space c with
      | false =>
        rw [scan_cons_of_not_space kind]
        exact ih
      | true =>
        rw [scan_cons_of_space kind]
        intro word member
        rcases mem_pack.mp member with ⟨rfl, nonempty⟩ | member
        · exact ⟨nonempty, scan_free rest⟩
        · exact ih word member
  rcases mem_pack.mp member with ⟨rfl, nonempty⟩ | member
  · exact ⟨nonempty, scan_free text⟩
  · exact later text word member

section join

@[simp] theorem join_nil : join sep ([] : List (List α)) = [] := rfl

@[simp] theorem join_singleton (word : List α) : join sep [word] = word := by
  simp [join, List.intercalate]

theorem join_cons_cons (word next : List α) (rest : List (List α)) :
    join sep (word :: next :: rest) = word ++ sep :: join sep (next :: rest) := by
  simp [join, List.intercalate]

theorem join_cons_letter (letter : α) (word : List α) (rest : List (List α)) :
    join sep ((letter :: word) :: rest) = letter :: join sep (word :: rest) := by
  cases rest with
  | nil => rw [join_singleton, join_singleton]
  | cons next rest => rw [join_cons_cons, join_cons_cons, List.cons_append]

/-- Joining at a separator and splitting again loses only how the pieces were cut. -/
theorem split_join (isSpace : space sep = true) (pieces : List (List α)) :
    split space (join sep pieces) = pieces.flatMap (split space) := by
  induction pieces with
  | nil => rfl
  | cons piece rest ih =>
    cases rest with
    | nil => simp
    | cons next rest => rw [join_cons_cons, split_append_cons isSpace, ih, ← List.flatMap_cons]

/-- Words survive being joined. -/
theorem split_join_of_proper (isSpace : space sep = true) {words : List (List α)}
    (proper : ∀ word ∈ words, Proper space word) : split space (join sep words) = words := by
  rw [split_join isSpace]
  induction words with
  | nil => rfl
  | cons word rest ih =>
    rw [List.flatMap_cons, split_of_proper (proper word (List.mem_cons_self ..)),
      ih fun other member => proper other (List.mem_cons_of_mem _ member), List.singleton_append]

theorem split_join_split (isSpace : space sep = true) (text : List α) :
    split space (join sep (split space text)) = split space text :=
  split_join_of_proper isSpace fun _ => proper_of_mem_split

/-- A cut inside a word cuts the joined text at the same place. -/
theorem join_append_word (before : List (List α)) (front back : List α) (after : List (List α)) :
    join sep (before ++ (front ++ back) :: after) =
      join sep (before ++ [front]) ++ join sep (back :: after) := by
  induction before with
  | nil =>
    cases after with
    | nil => simp
    | cons next after => simp [join_cons_cons]
  | cons word before ih =>
    cases before with
    | nil =>
      rw [List.singleton_append, join_cons_cons, ← List.nil_append (_ :: after), ih]
      simp [join_cons_cons]
    | cons next before =>
      simp only [List.cons_append, join_cons_cons] at ih ⊢
      rw [ih, List.append_assoc, List.cons_append]

/-- A joined text of words ends in the last letter of the last word. -/
theorem join_eq_append_letter {words : List (List α)} (nonempty : words ≠ [])
    (proper : ∀ word ∈ words, Proper space word) :
    ∃ front letter, join sep words = front ++ [letter] ∧ space letter = false := by
  induction words with
  | nil => contradiction
  | cons word rest ih =>
    cases rest with
    | nil =>
      obtain ⟨full, letters⟩ := proper word (List.mem_cons_self ..)
      obtain ⟨front, letter, rfl⟩ := (List.eq_nil_or_concat' word).resolve_left full
      exact ⟨front, letter, by simp, letters letter (by simp)⟩
    | cons next rest =>
      obtain ⟨front, letter, ended, notSpace⟩ := ih (List.cons_ne_nil next rest) fun other member =>
        proper other (List.mem_cons_of_mem _ member)
      refine ⟨word ++ sep :: front, letter, ?_, notSpace⟩
      rw [join_cons_cons, ended, List.append_assoc, List.cons_append]

end join

section strip

theorem split_append_of_spaces {tail : List α} (spaces : ∀ c ∈ tail, space c = true) (text : List α) :
    split space (text ++ tail) = split space text := by
  cases tail with
  | nil => rw [List.append_nil]
  | cons c tail =>
    rw [split_append_cons (spaces c (List.mem_cons_self ..))]
    have nothing : split space tail = [] := by
      replace spaces : ∀ d ∈ tail, space d = true := fun d member =>
        spaces d (List.mem_cons_of_mem _ member)
      induction tail with
      | nil => rfl
      | cons d tail ih =>
        rw [split_cons_of_space (spaces d (List.mem_cons_self ..))]
        exact ih fun e member => spaces e (List.mem_cons_of_mem _ member)
    rw [nothing, List.append_nil]

theorem split_dropWhile (text : List α) : split space (text.dropWhile space) = split space text := by
  induction text with
  | nil => rfl
  | cons c rest ih =>
    rw [List.dropWhile_cons]
    split
    · next isSpace => rw [split_cons_of_space isSpace, ih]
    · rfl

/-- Stripping first changes nothing for `split`. -/
theorem split_strip (text : List α) : split space (strip space text) = split space text := by
  calc split space (strip space text)
      = split space (strip space text ++ (text.dropWhile space).rtakeWhile space) :=
        (split_append_of_spaces (fun _ member => List.mem_rtakeWhile_imp member) _).symm
    _ = split space (text.dropWhile space) := by rw [strip, List.rdropWhile_append_rtakeWhile]
    _ = split space text := split_dropWhile text

theorem strip_parts (text : List α) : ∃ before after, text = before ++ (strip space text ++ after) ∧
    (∀ c ∈ before, space c = true) ∧ ∀ c ∈ after, space c = true := by
  refine ⟨text.takeWhile space, (text.dropWhile space).rtakeWhile space, ?_,
    fun _ member => List.mem_takeWhile_imp member, fun _ member => List.mem_rtakeWhile_imp member⟩
  rw [strip, List.rdropWhile_append_rtakeWhile, List.takeWhile_append_dropWhile]

/-- A text between two characters that are no space is what stripping leaves of it. -/
theorem strip_enclosed {before middle after : List α} {first last : α} (spaces : ∀ c ∈ before, space c = true)
    (blank : ∀ c ∈ after, space c = true) (opens : space first = false) (closes : space last = false) :
    strip space (before ++ ((first :: (middle ++ [last])) ++ after)) = first :: (middle ++ [last]) := by
  rw [strip, List.dropWhile_append_of_pos spaces, List.cons_append,
    List.dropWhile_cons_of_neg (by simp [opens])]
  induction after using List.reverseRecOn with
  | nil =>
    rw [List.append_nil, ← List.cons_append]
    exact List.rdropWhile_concat_neg space _ _ (by simp [closes])
  | append_singleton after c ih =>
    rw [← List.append_assoc, ← List.cons_append, List.rdropWhile_concat_pos space _ _ (blank c (by simp))]
    exact ih fun d member => blank d (List.mem_append_left _ member)

end strip

/-- Something that directly follows a non-separator is in the tail of a word. -/
theorem exists_mem_tail {before after : List α} {x y : α} (letter : space x = false)
    (next : space y = false) : ∃ word ∈ split space (before ++ x :: y :: after), y ∈ word.tail := by
  have inside : y ∈ (scan space (before ++ x :: y :: after)).1.tail ∨
      ∃ word ∈ (scan space (before ++ x :: y :: after)).2, y ∈ word.tail := by
    induction before with
    | nil =>
      rw [List.nil_append, scan_cons_of_not_space letter, scan_cons_of_not_space next]
      exact .inl (List.mem_cons_self ..)
    | cons c before ih =>
      rw [List.cons_append]
      cases kind : space c with
      | true =>
        rw [scan_cons_of_space kind]
        rcases ih with first | ⟨word, member, found⟩
        · refine .inr ⟨_, mem_pack.mpr (.inl ⟨rfl, ?_⟩), first⟩
          exact fun empty => by rw [empty] at first; exact nomatch first
        · exact .inr ⟨word, mem_pack.mpr (.inr member), found⟩
      | false =>
        rw [scan_cons_of_not_space kind]
        rcases ih with first | later
        · exact .inl (List.mem_of_mem_tail first)
        · exact .inr later
  rcases inside with first | ⟨word, member, found⟩
  · refine ⟨_, mem_pack.mpr (.inl ⟨rfl, ?_⟩), first⟩
    exact fun empty => by rw [empty] at first; exact nomatch first
  · exact ⟨word, mem_pack.mpr (.inr member), found⟩

section fields

variable {first second rest other : List α}

/-- The field before the first delimiter is determined. -/
theorem first_field_inj (absent : sep ∉ first) (absent' : sep ∉ second)
    (same : first ++ sep :: rest = second ++ sep :: other) : first = second ∧ rest = other := by
  induction first generalizing second with
  | nil =>
    cases second with
    | nil => exact ⟨rfl, (List.cons.inj same).2⟩
    | cons d second =>
      obtain ⟨rfl, -⟩ := List.cons.inj same
      exact absurd (List.mem_cons_self ..) absent'
  | cons c first ih =>
    cases second with
    | nil =>
      obtain ⟨rfl, -⟩ := List.cons.inj same
      exact absurd (List.mem_cons_self ..) absent
    | cons d second =>
      obtain ⟨rfl, tails⟩ := List.cons.inj same
      have tail := ih (fun member => absent (List.mem_cons_of_mem _ member))
        (fun member => absent' (List.mem_cons_of_mem _ member)) tails
      exact ⟨congrArg _ tail.1, tail.2⟩

/-- The field after the last delimiter is determined. -/
theorem last_field_inj (absent : sep ∉ rest) (absent' : sep ∉ other)
    (same : first ++ sep :: rest = second ++ sep :: other) : first = second ∧ rest = other := by
  have reversed : rest.reverse ++ sep :: first.reverse = other.reverse ++ sep :: second.reverse := by
    simpa using congrArg List.reverse same
  obtain ⟨rest, first⟩ := first_field_inj (by simpa using absent) (by simpa using absent') reversed
  exact ⟨List.reverse_injective first, List.reverse_injective rest⟩

end fields

end LlmopsGateway.Words
