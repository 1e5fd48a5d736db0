import ShadingGraph.Proofs.Ron.Text
import ShadingGraph.Proofs.Ron.Word

/-! # Reading written RON

A text reads as a value if the value parser takes that value from it wherever a comma, a
closing mark or the end of the text follows. Each way in which texts are put together
keeps this.
-/

namespace ShadingGraph.Ron

theorem skipBlank?_append {gap : List Char} (blank : ∀ c ∈ gap, isBlank c = true) (rest : List Char) :
    skipBlank? (gap ++ rest) = skipBlank? rest := by
  induction gap with
  | nil => rfl
  | cons c gap ih =>
      have tail := ih fun d inside => blank d (List.mem_cons_of_mem _ inside)
      rw [List.cons_append, skipBlank?, skip?.eq_def]
      simp only [blank c List.mem_cons_self, if_true]
      exact tail

theorem skipBlank?_of_head {text : List Char}
    (token : ∀ c ∈ text.head?, isBlank c = false ∧ c ≠ '/') : skipBlank? text = some text := by
  cases text with
  | nil => rfl
  | cons c text =>
      obtain ⟨blank, slash⟩ := token c rfl
      rw [skipBlank?, skip?.eq_def]
      simp [blank, slash]

/-- Whether the character is a mark that may follow a value. -/
def isEnd (c : Char) : Bool :=
  c == ',' || isClosing c

theorem isMark_of_isEnd {c : Char} (ends : isEnd c = true) : isMark c = true := by
  simp only [isEnd, Bool.or_eq_true] at ends
  simp only [isMark, Bool.or_eq_true]
  tauto

theorem ne_of_isEnd {c : Char} (ends : isEnd c = true) : c ≠ ':' ∧ c ≠ '(' := by
  constructor <;> rintro rfl <;> cases ends

/-- Whether the character can begin a value: it is no blank, begins no comment and no
attribute, and ends nothing. -/
def isBeginning (c : Char) : Bool :=
  !isBlank c && c != '/' && c != '#' && !isEnd c

section

variable {c : Char} (start : isNameStart c = true)
include start

theorem toNat_of_isNameStart : 'A'.toNat ≤ c.toNat := by
  simp only [isNameStart, Bool.or_eq_true, beq_iff_eq] at start
  rcases start with rfl | letter
  · decide
  · unfold Text.isWordStart at letter
    split_ifs at letter with ascii
    · simp only [isLetter, Bool.or_eq_true, Bool.and_eq_true, decide_eq_true_eq, Char.le_def] at letter
      rcases letter with ⟨first, -⟩ | ⟨first, -⟩
      · exact le_trans (by decide) (show 'a'.toNat ≤ c.toNat from first)
      · exact first
    · exact le_trans (by decide) (not_lt.mp ascii)

theorem isBlank_of_isNameStart : isBlank c = false := by
  have letter := toNat_of_isNameStart start
  have outside : ∀ n ∈ [0x85, 0x200E, 0x200F, 0x2028, 0x2029], c.toNat ≠ n := by
    intro n listed same
    have none : ∀ n ∈ [0x85, 0x200E, 0x200F, 0x2028, 0x2029], isNameStart (Char.ofNat n) = false := by
      decide +kernel
    have none := none n listed
    rw [← same, Char.ofNat_toNat, start] at none
    cases none
  simp only [List.forall_mem_cons, List.not_mem_nil, false_imp_iff, implies_true, and_true] at outside
  change 65 ≤ c.toNat at letter
  simp only [isBlank, Bool.or_eq_false_iff, Bool.and_eq_false_iff, beq_eq_false_iff_ne,
    decide_eq_false_iff_not]
  omega

theorem isNumberStart_of_isNameStart : isNumberStart c = false := by
  have letter := toNat_of_isNameStart start
  rw [Bool.eq_false_iff]
  intro number
  simp only [isNumberStart, isDigit, Bool.or_eq_true, Bool.and_eq_true, decide_eq_true_eq,
    Char.le_def, beq_iff_eq] at number
  rcases number with ((⟨-, last⟩ | rfl) | rfl) | rfl
  · exact absurd (letter.trans (show c.toNat ≤ '9'.toNat from last)) (by decide)
  all_goals exact absurd letter (by decide)

theorem isBeginning_of_isNameStart : isBeginning c = true := by
  have letter := toNat_of_isNameStart start
  have notEnd : isEnd c = false := by
    rw [Bool.eq_false_iff]
    intro ends
    have := (not_word_of_isMark (isMark_of_isEnd ends)).2.2.1
    rw [start] at this
    cases this
  have slash : c ≠ '/' := by
    rintro rfl
    exact absurd letter (by decide)
  have hash : c ≠ '#' := by
    rintro rfl
    exact absurd letter (by decide)
  simp [isBeginning, isBlank_of_isNameStart start, notEnd, slash, hash]

end

/-- The text reads as the value. -/
structure Reads (text : List Char) (value : Ron) : Prop where
  reads : ∀ (fuel : ℕ) (rest : List Char), 3 * text.length ≤ fuel → (∀ c ∈ rest.head?, isEnd c = true) →
    value? .none fuel (text ++ rest) = some (value, rest)
  begins : ∃ c cs, text = c :: cs ∧ isBeginning c = true
  /-- No colon follows a name at the beginning of the text. -/
  noMember : ∀ rest : List Char, (∀ c ∈ rest.head?, isEnd c = true) → memberName? (text ++ rest) = none

section

variable {rest : List Char} (ends : ∀ c ∈ rest.head?, isEnd c = true)
include ends

theorem isMark_of_ends : ∀ c ∈ rest.head?, isMark c = true :=
  fun c first => isMark_of_isEnd (ends c first)

theorem skipBlank?_of_ends : skipBlank? rest = some rest := by
  refine skipBlank?_of_head fun c first => ?_
  obtain ⟨-, -, -, blank, slash, -⟩ := not_word_of_isMark (isMark_of_isEnd (ends c first))
  exact ⟨blank, slash⟩

end

theorem word?_eq_none {c : Char} (notName : isNameStart c = false) (text : List Char) :
    word? (c :: text) = none := by
  unfold word?
  split_ifs
  · rfl
  · split
    · rename_i same
      cases (List.cons.inj same).1
      cases notName
    · rename_i same
      obtain ⟨rfl, rfl⟩ := List.cons.inj same
      rw [if_neg (by simp [notName])]
    · rfl

theorem memberName?_eq_none {c : Char} (notName : isNameStart c = false) (text : List Char) :
    memberName? (c :: text) = none := by
  rw [memberName?, word?_eq_none notName]
  rfl

section

variable {name : String} (word : isWord name = true)
include word

theorem memberName?_eq_none_of_isWord {rest : List Char}
    (mark : ∀ c ∈ rest.head?, isMark c = true ∧ c ≠ ':') : memberName? (name.toList ++ rest) = none := by
  have skipped : skipBlank? rest = some rest := by
    refine skipBlank?_of_head fun c first => ?_
    obtain ⟨-, -, -, blank, slash, -⟩ := not_word_of_isMark (mark c first).1
    exact ⟨blank, slash⟩
  rw [memberName?, word?_name word fun c first => (mark c first).1]
  simp only [Option.bind_eq_bind, Option.bind_some, skipped]
  split
  · exact absurd rfl (mark ':' rfl).2
  · rfl

theorem memberName?_name {gap : List Char} (blank : ∀ c ∈ gap, isBlank c = true) {text : List Char}
    (token : ∀ c ∈ text.head?, isBlank c = false ∧ c ≠ '/') :
    memberName? (name.toList ++ ':' :: (gap ++ text)) = some (⟨false, name⟩, text) := by
  have colon : skipBlank? (':' :: (gap ++ text)) = some (':' :: (gap ++ text)) :=
    skipBlank?_of_head (by rintro c ⟨⟩; decide)
  rw [memberName?, word?_name word (by rintro c ⟨⟩; decide)]
  simp [colon, skipBlank?_append blank, skipBlank?_of_head token]

/-- A name that is not the keyword `Some` is a symbol, or the name of the parentheses
after it. -/
theorem value?_name (other : name ≠ "Some") {rest : List Char} (fuel : ℕ)
    (mark : ∀ c ∈ rest.head?, isMark c = true) :
    value? .none (fuel + 1) (name.toList ++ rest) =
      if rest.head? = some '(' then group? .none fuel (some ⟨false, name⟩) rest.tail
      else some (.symbol ⟨false, name⟩, rest) := by
  have literal := literal?_name word mark
  have keyword := dropSome?_name word mark other
  have found := word?_name word mark
  have skipped : skipBlank? rest = some rest := skipBlank?_of_head fun c first => by
    obtain ⟨-, -, -, blank, slash, -⟩ := not_word_of_isMark (mark c first)
    exact ⟨blank, slash⟩
  obtain ⟨c, cs, chars, start, -⟩ := exists_of_isWord word
  rw [chars, List.cons_append] at literal keyword found ⊢
  have bracket : c ≠ '[' ∧ c ≠ '\x7b' ∧ c ≠ '(' := by
    refine ⟨?_, ?_, ?_⟩ <;> rintro rfl <;> cases start
  rw [value?, literal]
  rotate_left
  · exact bracket.1
  · exact bracket.2.1
  · exact fun _ same => absurd same bracket.2.2
  · exact bracket.2.2
  simp only [isNumberStart_of_isNameStart start, Bool.false_eq_true, if_false, keyword, found, skipped]
  cases rest with
  | nil => rfl
  | cons d rest =>
      by_cases opening : d = '(' <;> simp [opening]

theorem value?_symbol (other : name ≠ "Some") {rest : List Char} (fuel : ℕ)
    (ends : ∀ c ∈ rest.head?, isEnd c = true) :
    value? .none (fuel + 1) (name.toList ++ rest) = some (.symbol ⟨false, name⟩, rest) := by
  have named : rest.head? ≠ some '(' := fun opening => (ne_of_isEnd (ends '(' opening)).2 rfl
  rw [value?_name word other fuel (isMark_of_ends ends), if_neg named]

theorem value?_named (other : name ≠ "Some") (inside : List Char) (fuel : ℕ) :
    value? .none (fuel + 1) (name.toList ++ '(' :: inside) =
      group? .none fuel (some ⟨false, name⟩) inside := by
  rw [value?_name word other fuel (by rintro c ⟨⟩; decide), List.head?_cons, if_pos rfl, List.tail_cons]

theorem Reads.symbol (other : name ≠ "Some") : Reads name.toList (.symbol ⟨false, name⟩) where
  reads fuel rest enough ends := by
    obtain ⟨c, cs, chars, -⟩ := exists_of_isWord word
    obtain ⟨fuel, rfl⟩ := Nat.exists_eq_add_of_le' (show 1 ≤ fuel by rw [chars] at enough; simp at enough; omega)
    exact value?_symbol word other fuel ends
  begins := by
    obtain ⟨c, cs, chars, start, -⟩ := exists_of_isWord word
    exact ⟨c, cs, chars, isBeginning_of_isNameStart start⟩
  noMember _ ends := memberName?_eq_none_of_isWord word fun c first =>
    ⟨isMark_of_isEnd (ends c first), (ne_of_isEnd (ends c first)).1⟩

end

theorem value?_literal {text : List Char} {found : Option (Ron × List Char)} (fuel : ℕ)
    (literal : literal? text = some found) : value? .none (fuel + 1) text = found := by
  unfold value?
  rw [literal]

theorem not_name_of_isNumberStart {c : Char} (start : isNumberStart c = true) :
    isNameStart c = false ∧ isBeginning c = true ∧
      c ∉ ['"', '\'', '[', '\x7b', '(', 'r', 'b'] := by
  have listed : ∀ n ∈ ['.'.toNat, '+'.toNat, '-'.toNat] ++ List.range' 48 10,
      isNameStart (Char.ofNat n) = false ∧ isBeginning (Char.ofNat n) = true ∧
        Char.ofNat n ∉ ['"', '\'', '[', '\x7b', '(', 'r', 'b'] := by
    decide
  rw [← Char.ofNat_toNat c]
  refine listed _ ?_
  simp only [isNumberStart, isDigit, Bool.or_eq_true, Bool.and_eq_true, decide_eq_true_eq,
    Char.le_def, beq_iff_eq] at start
  rcases start with ((⟨first, last⟩ | rfl) | rfl) | rfl
  · have first : 48 ≤ c.toNat := first
    have last : c.toNat ≤ 57 := last
    simp only [List.mem_append, List.mem_range'_1]
    omega
  all_goals decide

theorem Reads.number {c : Char} {cs : List Char} (start : isNumberStart c = true)
    (run : ∀ d ∈ c :: cs, isNumberChar d = true) : Reads (c :: cs) (.number (c :: cs)) where
  reads fuel rest enough ends := by
    obtain ⟨fuel, rfl⟩ := Nat.exists_eq_add_of_le' (show 1 ≤ fuel by simp at enough; omega)
    obtain ⟨-, -, others⟩ := not_name_of_isNumberStart start
    simp only [List.mem_cons, List.not_mem_nil, or_false, not_or] at others
    obtain ⟨quote, apostrophe, bracket, brace, parenthesis, r, b⟩ := others
    have literal : literal? (c :: (cs ++ rest)) = none := by
      refine literal?_eq_none quote apostrophe fun mark listed after same => ?_
      have first : ∀ mark ∈ literalMarks, mark.head? = some 'r' ∨ mark.head? = some 'b' := by decide
      obtain ⟨d, mark, rfl⟩ := List.exists_cons_of_ne_nil (show mark ≠ [] by
        rintro rfl
        simpa using first _ listed)
      have head := first _ listed
      simp only [List.head?_cons, Option.some.injEq, ← (List.cons.inj same).1] at head
      exact head.elim r b
    have stops : ∀ d ∈ rest.head?, isNumberChar d = false := by
      intro d first
      have ends := ends d first
      simp only [isEnd, isClosing, Bool.or_eq_true, beq_iff_eq] at ends
      rcases ends with rfl | (rfl | rfl) | rfl <;> decide
    have taken := takeWhile_run run stops
    have dropped := dropWhile_run run stops
    rw [List.cons_append] at taken dropped ⊢
    rw [value?, literal]
    simp only [start, if_true, taken, dropped]
    · exact bracket
    · exact brace
    · exact fun _ same => absurd same parenthesis
    · exact parenthesis
  begins := ⟨c, cs, rfl, (not_name_of_isNumberStart start).2.1⟩
  noMember _ _ := memberName?_eq_none (not_name_of_isNumberStart start).1 _

theorem Reads.quoted (text : String) : Reads (Text.quoted true text) (.string text) where
  reads fuel rest enough ends := by
    obtain ⟨fuel, rfl⟩ := Nat.exists_eq_add_of_le' (show 1 ≤ fuel by simp [Text.quoted] at enough; omega)
    exact value?_literal fuel (literal?_quoted text rest)
  begins := ⟨'"', _, rfl, by decide⟩
  noMember _ _ := memberName?_eq_none (by decide) _

theorem Reads.char (c : Char) : Reads (charText c) (.char c) where
  reads fuel rest enough ends := by
    obtain ⟨fuel, rfl⟩ := Nat.exists_eq_add_of_le' (show 1 ≤ fuel by
      unfold charText at enough; split_ifs at enough <;> simp at enough <;> omega)
    exact value?_literal fuel (literal?_charText c rest)
  begins := by
    unfold charText
    split_ifs
    · exact ⟨_, _, rfl, by decide⟩
    · exact ⟨_, _, rfl, by decide⟩
  noMember _ _ := by
    unfold charText
    split_ifs
    · exact memberName?_eq_none (by decide) _
    · exact memberName?_eq_none (by decide) _

theorem token_of_isBeginning {c : Char} (begins : isBeginning c = true) : isBlank c = false ∧ c ≠ '/' := by
  simp only [isBeginning, Bool.and_eq_true, Bool.not_eq_true', bne_iff_ne] at begins
  exact ⟨begins.1.1.1, begins.1.1.2⟩

theorem Reads.token {text : List Char} {value : Ron} (reads : Reads text value) (rest : List Char) :
    ∀ c ∈ (text ++ rest).head?, isBlank c = false ∧ c ≠ '/' := by
  obtain ⟨c, cs, rfl, begins⟩ := reads.begins
  rintro d ⟨⟩
  exact token_of_isBeginning begins

theorem Reads.skipBlank?_eq {text : List Char} {value : Ron} (reads : Reads text value) (rest : List Char) :
    skipBlank? (text ++ rest) = some (text ++ rest) :=
  skipBlank?_of_head (reads.token rest)

/-- Further texts, each after a comma and a gap. -/
def joined (gap : List Char) (texts : List (List Char)) : List Char :=
  texts.flatMap fun text => ',' :: gap ++ text

/-- The text is nothing, or a comma and a gap: what may stand before a closing mark. -/
def IsTail (text : List Char) : Prop :=
  text = [] ∨ ∃ gap, text = ',' :: gap ∧ ∀ c ∈ gap, isBlank c = true

theorem ends_joined {close : Char} (closing : isClosing close = true) (gap : List Char)
    (texts : List (List Char)) (rest : List Char) :
    ∀ c ∈ (joined gap texts ++ close :: rest).head?, isEnd c = true := by
  cases texts with
  | nil =>
      rintro c ⟨⟩
      simp [isEnd, closing]
  | cons text texts =>
      rintro c ⟨⟩
      rfl

/-- The parser takes values with commas between them, each of them from a text that is in the
relation to it, up to a closing mark. -/
structure TakesSeveral {α : Type} (close : Char) (R : List Char → α → Prop)
    (parser : ℕ → List Char → Option (List α × List Char)) : Prop where
  closing : isClosing close = true
  none : ∀ {gap : List Char}, (∀ c ∈ gap, isBlank c = true) → ∀ (fuel : ℕ) (rest : List Char),
    parser (fuel + 1) (gap ++ close :: rest) = some ([], rest)
  comma : ∀ (fuel : ℕ) {gap text : List Char} {value : α}, R text value → (∀ c ∈ gap, isBlank c = true) →
    3 * text.length ≤ fuel → ∀ rest : List Char, parser (fuel + 1) (gap ++ (text ++ ',' :: rest)) =
      (parser fuel rest).map fun (values, rest) => (value :: values, rest)
  last : ∀ (fuel : ℕ) {gap text : List Char} {value : α}, R text value → (∀ c ∈ gap, isBlank c = true) →
    3 * text.length ≤ fuel → ∀ rest : List Char, parser (fuel + 1) (gap ++ (text ++ close :: rest)) =
      some ([value], rest)

/-- Values with commas between them are taken up to the closing mark. -/
theorem TakesSeveral.joined {α : Type} {close : Char} {R : List Char → α → Prop}
    {parser : ℕ → List Char → Option (List α × List Char)} (takes : TakesSeveral close R parser)
    {gap tail : List Char} (blank : ∀ c ∈ gap, isBlank c = true) (isTail : IsTail tail)
    {texts : List (List Char)} {values : List α} (all : List.Forall₂ R texts values) {text : List Char}
    {value : α} (head : R text value) {before : List Char} (blank' : ∀ c ∈ before, isBlank c = true)
    {fuel : ℕ} (rest : List Char)
    (enough : 3 * (text.length + (joined gap texts).length + tail.length) + 3 ≤ fuel) :
    parser fuel (before ++ (text ++ (joined gap texts ++ (tail ++ close :: rest)))) =
      some (value :: values, rest) := by
  induction all generalizing text value before fuel with
  | nil =>
      obtain ⟨fuel, rfl⟩ := Nat.exists_eq_add_of_le' (show 2 ≤ fuel by omega)
      rcases isTail with rfl | ⟨gap', rfl, blank''⟩
      · exact takes.last (fuel + 1) head blank' (by omega) rest
      · have closed := takes.none blank'' fuel rest
        have taken := takes.comma (fuel + 1) head blank' (by omega) (gap' ++ close :: rest)
        rwa [closed] at taken
  | @cons next value' texts values found _ ih =>
      have size : (Ron.joined gap (next :: texts)).length =
          1 + gap.length + next.length + (Ron.joined gap texts).length := by
        simp [Ron.joined]
        omega
      obtain ⟨fuel, rfl⟩ := Nat.exists_eq_add_of_le' (show 1 ≤ fuel by omega)
      have more := @ih next value' found gap blank fuel (by omega)
      have taken := takes.comma fuel head blank' (by omega)
        (gap ++ (next ++ (Ron.joined gap texts ++ (tail ++ close :: rest))))
      rw [more] at taken
      simpa [Ron.joined] using taken

theorem ne_of_isBeginning {c close : Char} (begins : isBeginning c = true) (closing : isClosing close = true) :
    c ≠ close := by
  rintro rfl
  simp [isBeginning, isEnd, closing] at begins

theorem skipBlank?_closing {close : Char} (closing : isClosing close = true) (rest : List Char) :
    skipBlank? (close :: rest) = some (close :: rest) :=
  skipBlank?_of_ends (by rintro c ⟨⟩; simp [isEnd, closing])

theorem items?_step {close : Char} (closing : isClosing close = true) {text : List Char} {value : Ron}
    (reads : Reads text value) {gap : List Char} (blank : ∀ c ∈ gap, isBlank c = true) {fuel : ℕ}
    (enough : 3 * text.length ≤ fuel) {c : Char} (ends : isEnd c = true) (rest : List Char) :
    items? .none close (fuel + 1) (gap ++ (text ++ c :: rest)) =
      if c = ',' then (items? .none close fuel rest).map fun (items, rest) => (value :: items, rest)
      else if c = close then some ([value], rest)
      else none := by
  have stops : ∀ d ∈ (c :: rest).head?, isEnd d = true := by simpa using ends
  have found := reads.reads fuel (c :: rest) enough stops
  have start := reads.skipBlank?_eq (c :: rest)
  obtain ⟨d, ds, rfl, begins⟩ := reads.begins
  rw [items?, skipBlank?_append blank, start]
  rw [List.cons_append] at found ⊢
  simp only [ne_of_isBeginning begins closing, if_false, found, skipBlank?_of_ends stops]
  by_cases comma : c = ',' <;> simp [comma]

theorem takesSeveral_items {close : Char} (closing : isClosing close = true) :
    TakesSeveral close Reads (items? .none close) where
  closing := closing
  none blank fuel rest := by
    rw [items?, skipBlank?_append blank, skipBlank?_closing closing]
    simp
  comma fuel gap text value reads blank enough rest :=
    items?_step closing reads blank enough (by decide) rest
  last fuel gap text value reads blank enough rest := by
    have notComma : close ≠ ',' := by
      rintro rfl
      cases closing
    rw [items?_step closing reads blank enough (by simp [isEnd, closing]) rest, if_neg notComma, if_pos rfl]

/-- The text is an entry of a map: a text in quotes, a colon, and a value. -/
def ReadsEntry (text : List Char) (entry : Ron × Ron) : Prop :=
  ∃ (name : String) (gap value : List Char), text = Text.quoted true name ++ ':' :: (gap ++ value) ∧
    (∀ c ∈ gap, isBlank c = true) ∧ entry.1 = .string name ∧ Reads value entry.2

/-- The text is a member of a record: a name, a colon, and a value. -/
def ReadsMember (text : List Char) (member : Word × Ron) : Prop :=
  ∃ (name : String) (gap value : List Char), text = name.toList ++ ':' :: (gap ++ value) ∧
    (∀ c ∈ gap, isBlank c = true) ∧ isWord name = true ∧ member.1 = ⟨false, name⟩ ∧ Reads value member.2

theorem skipBlank?_colon (rest : List Char) : skipBlank? (':' :: rest) = some (':' :: rest) :=
  skipBlank?_of_head (by rintro c ⟨⟩; decide)

theorem entries?_step {text : List Char} {entry : Ron × Ron} (reads : ReadsEntry text entry)
    {gap : List Char} (blank : ∀ c ∈ gap, isBlank c = true) {fuel : ℕ} (enough : 3 * text.length ≤ fuel)
    {c : Char} (ends : isEnd c = true) (rest : List Char) :
    entries? .none (fuel + 1) (gap ++ (text ++ c :: rest)) =
      if c = ',' then (entries? .none fuel rest).map fun (entries, rest) => (entry :: entries, rest)
      else if c = '\x7d' then some ([entry], rest)
      else none := by
  have stops : ∀ d ∈ (c :: rest).head?, isEnd d = true := by simpa using ends
  obtain ⟨key, item⟩ := entry
  obtain ⟨name, gap', value, rfl, blank', rfl, reads⟩ := reads
  simp only [List.length_append, List.length_cons] at enough
  obtain ⟨fuel, rfl⟩ := Nat.exists_eq_add_of_le' (show 1 ≤ fuel by omega)
  have quoted := value?_literal fuel (literal?_quoted name (':' :: (gap' ++ (value ++ c :: rest))))
  have found := reads.reads (fuel + 1) (c :: rest) (by omega) stops
  have start := reads.skipBlank?_eq (c :: rest)
  have opened := (Reads.quoted name).skipBlank?_eq (':' :: (gap' ++ (value ++ c :: rest)))
  obtain ⟨content, quote⟩ : ∃ content, Text.quoted true name = '"' :: content := ⟨_, rfl⟩
  rw [quote] at quoted opened ⊢
  simp only [List.append_assoc, List.cons_append] at quoted opened ⊢
  rw [entries?, skipBlank?_append blank, opened]
  simp only [Char.reduceEq, imp_self, quoted, skipBlank?_colon, skipBlank?_append blank', start,
    Option.bind_some, found, skipBlank?_of_ends stops]
  by_cases comma : c = ','
  · simp [comma]
  · by_cases closed : c = '\x7d' <;> simp [comma, closed]

theorem takesSeveral_entries : TakesSeveral '\x7d' ReadsEntry (entries? .none) where
  closing := by decide
  none blank fuel rest := by
    rw [entries?, skipBlank?_append blank, skipBlank?_closing (by decide)]
    rfl
  comma fuel gap text entry reads blank enough rest :=
    entries?_step reads blank enough (by decide) rest
  last fuel gap text entry reads blank enough rest :=
    entries?_step reads blank enough (by decide) rest

theorem ReadsMember.exists_value {text : List Char} {member : Word × Ron} (reads : ReadsMember text member)
    (after : List Char) : ∃ value : List Char, Reads value member.2 ∧ value.length ≤ text.length ∧
      skipBlank? (text ++ after) = some (text ++ after) ∧
        memberName? (text ++ after) = some (member.1, value ++ after) := by
  obtain ⟨name, gap, value, rfl, blank, word, key, reads⟩ := reads
  refine ⟨value, reads, by simp; omega, ?_, ?_⟩
  · obtain ⟨c, cs, chars, start, -⟩ := exists_of_isWord word
    rw [chars]
    refine skipBlank?_of_head ?_
    rintro d ⟨⟩
    exact token_of_isBeginning (isBeginning_of_isNameStart start)
  · rw [key, List.append_assoc, List.cons_append, List.append_assoc]
    exact memberName?_name word blank (reads.token after)

theorem ReadsMember.begins {text : List Char} {member : Word × Ron} (reads : ReadsMember text member) :
    ∃ c cs, text = c :: cs ∧ isBeginning c = true := by
  obtain ⟨name, gap, value, rfl, -, word, -⟩ := reads
  obtain ⟨c, cs, chars, start, -⟩ := exists_of_isWord word
  exact ⟨c, _, by rw [chars]; rfl, isBeginning_of_isNameStart start⟩

theorem members?_step {text : List Char} {member : Word × Ron} (reads : ReadsMember text member)
    {gap : List Char} (blank : ∀ c ∈ gap, isBlank c = true) {fuel : ℕ} (enough : 3 * text.length ≤ fuel)
    {c : Char} (ends : isEnd c = true) (rest : List Char) :
    members? .none (fuel + 1) (gap ++ (text ++ c :: rest)) =
      if c = ',' then (members? .none fuel rest).map fun (members, rest) => (member :: members, rest)
      else if c = ')' then some ([member], rest)
      else none := by
  have stops : ∀ d ∈ (c :: rest).head?, isEnd d = true := by simpa using ends
  obtain ⟨value, readsValue, shorter, opened, named⟩ := reads.exists_value (c :: rest)
  have found := readsValue.reads fuel (c :: rest) (by omega) stops
  obtain ⟨d, ds, rfl, begins⟩ := reads.begins
  have other := ne_of_isBeginning begins (show isClosing ')' = true by decide)
  rw [members?, skipBlank?_append blank, opened]
  rw [List.cons_append] at named ⊢
  simp only [named, found, skipBlank?_of_ends stops]
  by_cases comma : c = ','
  · simp [comma]
  · by_cases closed : c = ')' <;> simp [comma, closed]

theorem takesSeveral_members : TakesSeveral ')' ReadsMember (members? .none) where
  closing := by decide
  none blank fuel rest := by
    rw [members?, skipBlank?_append blank, skipBlank?_closing (by decide)]
    rfl
  comma fuel gap text member reads blank enough rest :=
    members?_step reads blank enough (by decide) rest
  last fuel gap text member reads blank enough rest :=
    members?_step reads blank enough (by decide) rest

theorem group?_items {gap : List Char} (blank : ∀ c ∈ gap, isBlank c = true) {texts : List (List Char)}
    {values : List Ron} (all : List.Forall₂ Reads texts values) {text : List Char} {value : Ron}
    (head : Reads text value) (name : Option Word) {fuel : ℕ} (rest : List Char)
    (enough : 3 * (text.length + (joined gap texts).length) + 3 ≤ fuel) :
    group? .none (fuel + 1) name (text ++ (joined gap texts ++ ')' :: rest)) =
      some (.tuple name (value :: values), rest) := by
  have taken : items? .none ')' fuel ([] ++ (text ++ (joined gap texts ++ ([] ++ ')' :: rest)))) =
      some (value :: values, rest) :=
    (takesSeveral_items (by decide)).joined blank (.inl rfl) all head (by simp) rest (by simpa using enough)
  have unnamed : memberName? (text ++ (joined gap texts ++ ')' :: rest)) = none :=
    head.noMember _ (ends_joined (by decide) gap texts rest)
  rw [group?, head.skipBlank?_eq]
  simp only [List.nil_append] at taken
  simp [unnamed, taken]

theorem group?_members {gap before tail : List Char} (blank : ∀ c ∈ gap, isBlank c = true)
    (blank' : ∀ c ∈ before, isBlank c = true) (isTail : IsTail tail) {texts : List (List Char)}
    {members : List (Word × Ron)} (all : List.Forall₂ ReadsMember texts members) {text : List Char}
    {member : Word × Ron} (head : ReadsMember text member) (name : Option Word) {fuel : ℕ} (rest : List Char)
    (enough : 3 * (text.length + (joined gap texts).length + tail.length) + 3 ≤ fuel) :
    group? .none (fuel + 1) name (before ++ (text ++ (joined gap texts ++ (tail ++ ')' :: rest)))) =
      some (.record name (member :: members), rest) := by
  have taken := takesSeveral_members.joined blank isTail all head blank' rest enough
  obtain ⟨value, -, -, opened, named⟩ := head.exists_value (joined gap texts ++ (tail ++ ')' :: rest))
  rw [group?, skipBlank?_append blank', opened]
  simp [named, taken]

theorem value?_list (fuel : ℕ) (inside : List Char) : value? .none (fuel + 1) ('[' :: inside) =
    (items? .none ']' fuel inside).map fun (items, rest) => (.list items, rest) := by
  simp [value?, literal?]

theorem value?_map (fuel : ℕ) (inside : List Char) : value? .none (fuel + 1) ('\x7b' :: inside) =
    (entries? .none fuel inside).map fun (entries, rest) => (.map entries, rest) := by
  simp [value?, literal?]

theorem value?_group (fuel : ℕ) {inside : List Char} (notClosed : inside.head? ≠ some ')') :
    value? .none (fuel + 1) ('(' :: inside) = group? .none fuel none inside := by
  cases inside with
  | nil => simp [value?, literal?]
  | cons c inside =>
      have other : c ≠ ')' := by simpa using notClosed
      simp [value?, literal?, other]

theorem value?_present (fuel : ℕ) {inside : List Char} (notClosed : (skipBlank? inside).bind List.head? ≠ some ')') :
    value? .none (fuel + 2) ('S' :: 'o' :: 'm' :: 'e' :: '(' :: inside) =
      (group? .none fuel none inside).map fun (group, rest) => (.present group .item, rest) := by
  have keyword : dropSome? ('S' :: 'o' :: 'm' :: 'e' :: '(' :: inside) = some ('(' :: inside) := by
    have ends : Text.isWordContinue '(' = false := by decide
    simp [dropSome?, Text.dropStart?, ends]
  have opened : skipBlank? ('(' :: inside) = some ('(' :: inside) :=
    skipBlank?_of_head (by rintro c ⟨⟩; decide)
  have number : isNumberStart 'S' = false := by decide
  have held : present? .none (fuel + 1) ('(' :: inside) =
      (group? .none fuel none inside).map fun (group, rest) => (.present group .item, rest) := by
    rw [present?]
    split
    · rename_i same
      rw [same] at notClosed
      exact absurd rfl notClosed
    · rfl
  simp [value?, literal?, keyword, opened, number, held]

namespace Reads

theorem emptyList : Reads ['[', ']'] (.list []) where
  reads fuel rest enough _ := by
    obtain ⟨fuel, rfl⟩ := Nat.exists_eq_add_of_le' (show 2 ≤ fuel by simp at enough; omega)
    have closed : items? .none ']' (fuel + 1) ([] ++ ']' :: rest) = some ([], rest) :=
      (takesSeveral_items (by decide)).none (by simp) fuel rest
    change value? .none (fuel + 2) ('[' :: ([] ++ ']' :: rest)) = _
    rw [value?_list, closed]
    rfl
  begins := ⟨_, _, rfl, by decide⟩
  noMember _ _ := memberName?_eq_none (by decide) _

theorem emptyMap : Reads ['\x7b', '\x7d'] (.map []) where
  reads fuel rest enough _ := by
    obtain ⟨fuel, rfl⟩ := Nat.exists_eq_add_of_le' (show 2 ≤ fuel by simp at enough; omega)
    have closed : entries? .none (fuel + 1) ([] ++ '\x7d' :: rest) = some ([], rest) :=
      takesSeveral_entries.none (by simp) fuel rest
    change value? .none (fuel + 2) ('\x7b' :: ([] ++ '\x7d' :: rest)) = _
    rw [value?_map, closed]
    rfl
  begins := ⟨_, _, rfl, by decide⟩
  noMember _ _ := memberName?_eq_none (by decide) _

theorem unit : Reads ['(', ')'] .unit where
  reads fuel rest enough _ := by
    obtain ⟨fuel, rfl⟩ := Nat.exists_eq_add_of_le' (show 1 ≤ fuel by simp at enough; omega)
    simp [value?, literal?]
  begins := ⟨_, _, rfl, by decide⟩
  noMember _ _ := memberName?_eq_none (by decide) _

section

variable {gap before tail : List Char} (blank : ∀ c ∈ gap, isBlank c = true)
  (blank' : ∀ c ∈ before, isBlank c = true) (isTail : IsTail tail)

include blank blank' isTail in
theorem list {texts : List (List Char)} {values : List Ron} (all : List.Forall₂ Reads texts values)
    {text : List Char} {value : Ron} (head : Reads text value) :
    Reads ('[' :: (before ++ (text ++ (joined gap texts ++ (tail ++ [']']))))) (.list (value :: values)) where
  reads fuel rest enough _ := by
    simp only [List.length_cons, List.length_append] at enough
    obtain ⟨fuel, rfl⟩ := Nat.exists_eq_add_of_le' (show 1 ≤ fuel by omega)
    have taken := (takesSeveral_items (show isClosing ']' = true by decide)).joined blank isTail all head
      blank' rest (show _ ≤ fuel by omega)
    simp only [List.cons_append, List.append_assoc, List.nil_append]
    rw [value?_list, taken]
    rfl
  begins := ⟨_, _, rfl, by decide⟩
  noMember _ _ := memberName?_eq_none (by decide) _

include blank blank' isTail in
theorem map {texts : List (List Char)} {entries : List (Ron × Ron)} (all : List.Forall₂ ReadsEntry texts entries)
    {text : List Char} {entry : Ron × Ron} (head : ReadsEntry text entry) :
    Reads ('\x7b' :: (before ++ (text ++ (joined gap texts ++ (tail ++ ['\x7d'])))))
      (.map (entry :: entries)) where
  reads fuel rest enough _ := by
    simp only [List.length_cons, List.length_append] at enough
    obtain ⟨fuel, rfl⟩ := Nat.exists_eq_add_of_le' (show 1 ≤ fuel by omega)
    have taken := takesSeveral_entries.joined blank isTail all head blank' rest (show _ ≤ fuel by omega)
    simp only [List.cons_append, List.append_assoc, List.nil_append]
    rw [value?_map, taken]
    rfl
  begins := ⟨_, _, rfl, by decide⟩
  noMember _ _ := memberName?_eq_none (by decide) _

include blank in
theorem tuple {texts : List (List Char)} {values : List Ron} (all : List.Forall₂ Reads texts values)
    {text : List Char} {value : Ron} (head : Reads text value) :
    Reads ('(' :: (text ++ (joined gap texts ++ [')']))) (.tuple none (value :: values)) where
  reads fuel rest enough _ := by
    simp only [List.length_cons, List.length_append] at enough
    obtain ⟨fuel, rfl⟩ := Nat.exists_eq_add_of_le' (show 2 ≤ fuel by omega)
    have taken := group?_items blank all head none rest (show _ ≤ fuel by omega)
    have notClosed : (text ++ (joined gap texts ++ ')' :: rest)).head? ≠ some ')' := by
      obtain ⟨c, cs, rfl, begins⟩ := head.begins
      simpa using ne_of_isBeginning begins (show isClosing ')' = true by decide)
    simp only [List.cons_append, List.append_assoc, List.nil_append]
    rw [value?_group _ notClosed, taken]
  begins := ⟨_, _, rfl, by decide⟩
  noMember _ _ := memberName?_eq_none (by decide) _

include blank blank' isTail in
theorem record {texts : List (List Char)} {members : List (Word × Ron)}
    (all : List.Forall₂ ReadsMember texts members) {text : List Char} {member : Word × Ron}
    (head : ReadsMember text member) :
    Reads ('(' :: (before ++ (text ++ (joined gap texts ++ (tail ++ [')'])))))
      (.record none (member :: members)) where
  reads fuel rest enough _ := by
    simp only [List.length_cons, List.length_append] at enough
    obtain ⟨fuel, rfl⟩ := Nat.exists_eq_add_of_le' (show 2 ≤ fuel by omega)
    have taken := group?_members blank blank' isTail all head none rest (show _ ≤ fuel by omega)
    have notClosed : (before ++ (text ++ (joined gap texts ++ (tail ++ ')' :: rest)))).head? ≠ some ')' := by
      obtain ⟨c, cs, rfl, begins⟩ := head.begins
      cases before with
      | nil => simpa using ne_of_isBeginning begins (show isClosing ')' = true by decide)
      | cons d before =>
          rintro ⟨⟩
          cases blank' ')' List.mem_cons_self
    simp only [List.cons_append, List.append_assoc, List.nil_append]
    rw [value?_group _ notClosed, taken]
  begins := ⟨_, _, rfl, by decide⟩
  noMember _ _ := memberName?_eq_none (by decide) _

theorem present {text : List Char} {value : Ron} (reads : Reads text value) :
    Reads ('S' :: 'o' :: 'm' :: 'e' :: '(' :: (text ++ [')'])) (.present (.single value) .item) where
  reads fuel rest enough _ := by
    simp only [List.length_cons, List.length_append] at enough
    obtain ⟨fuel, rfl⟩ := Nat.exists_eq_add_of_le' (show 3 ≤ fuel by omega)
    have taken : group? .none (fuel + 1) none (text ++ ')' :: rest) = some (.tuple none [value], rest) :=
      group?_items (show ∀ c ∈ [], isBlank c = true by simp) .nil reads none rest (by simp [joined]; omega)
    have notClosed : (skipBlank? (text ++ ')' :: rest)).bind List.head? ≠ some ')' := by
      rw [reads.skipBlank?_eq]
      obtain ⟨c, cs, rfl, begins⟩ := reads.begins
      simpa using ne_of_isBeginning begins (show isClosing ')' = true by decide)
    simp only [List.cons_append, List.append_assoc, List.nil_append]
    refine (value?_present (fuel + 1) notClosed).trans ?_
    rw [taken]
    rfl
  begins := ⟨_, _, rfl, by decide⟩
  noMember rest ends := memberName?_eq_none_of_isWord (show isWord "Some" = true by decide)
    (by rintro c ⟨⟩; decide)

end

section

variable {name : String} (word : isWord name = true) (other : name ≠ "Some")
include word other

theorem named {content : List Char} {value : Ron} (reads : ∀ (fuel : ℕ) (rest : List Char),
    3 * content.length + 5 ≤ fuel →
      group? .none fuel (some ⟨false, name⟩) (content ++ ')' :: rest) = some (value, rest)) :
    Reads (name.toList ++ '(' :: (content ++ [')'])) value where
  reads fuel rest enough _ := by
    simp only [List.length_cons, List.length_append] at enough
    obtain ⟨fuel, rfl⟩ := Nat.exists_eq_add_of_le' (show 1 ≤ fuel by omega)
    have letter : 1 ≤ name.toList.length := by
      obtain ⟨c, cs, chars, -⟩ := exists_of_isWord word
      simp [chars]
    have taken := reads fuel rest (by simp at enough; omega)
    simp only [List.cons_append, List.append_assoc, List.nil_append]
    rw [value?_named word other, taken]
  begins := by
    obtain ⟨c, cs, chars, start, -⟩ := exists_of_isWord word
    exact ⟨c, _, by rw [chars]; rfl, isBeginning_of_isNameStart start⟩
  noMember rest ends := by
    rw [List.append_assoc]
    exact memberName?_eq_none_of_isWord word (by rintro c ⟨⟩; decide)

theorem namedUnit : Reads (name.toList ++ ['(', ')']) (.tuple (some ⟨false, name⟩) []) := by
  refine @named name word other [] _ fun fuel rest enough => ?_
  obtain ⟨fuel, rfl⟩ := Nat.exists_eq_add_of_le' (show 2 ≤ fuel by simp at enough; omega)
  have closed : items? .none ')' (fuel + 1) ([] ++ ')' :: rest) = some ([], rest) :=
    (takesSeveral_items (by decide)).none (by simp) fuel rest
  have unnamed : memberName? (')' :: rest) = none := memberName?_eq_none (by decide) rest
  rw [group?, List.nil_append, skipBlank?_closing (by decide)]
  simp only [List.nil_append] at closed
  simp [unnamed, closed]

theorem variant {text : List Char} {value : Ron} (reads : Reads text value) :
    Reads (name.toList ++ '(' :: (text ++ [')'])) (.tuple (some ⟨false, name⟩) [value]) := by
  refine named word other fun fuel rest enough => ?_
  obtain ⟨fuel, rfl⟩ := Nat.exists_eq_add_of_le' (show 1 ≤ fuel by omega)
  exact group?_items (show ∀ c ∈ [], isBlank c = true by simp) .nil reads _ rest (by simp [joined]; omega)

theorem namedRecord {gap before tail : List Char} (blank : ∀ c ∈ gap, isBlank c = true)
    (blank' : ∀ c ∈ before, isBlank c = true) (isTail : IsTail tail) {texts : List (List Char)}
    {members : List (Word × Ron)} (all : List.Forall₂ ReadsMember texts members) {text : List Char}
    {member : Word × Ron} (head : ReadsMember text member) :
    Reads (name.toList ++ '(' :: ((before ++ (text ++ (joined gap texts ++ tail))) ++ [')']))
      (.record (some ⟨false, name⟩) (member :: members)) := by
  refine named word other fun fuel rest enough => ?_
  simp only [List.length_append] at enough
  obtain ⟨fuel, rfl⟩ := Nat.exists_eq_add_of_le' (show 1 ≤ fuel by omega)
  simp only [List.append_assoc]
  exact group?_members blank blank' isTail all head _ rest (by omega)

end

end Reads

/-- A text that reads as a value and begins no attributes is parsed as that value. -/
theorem Reads.parse?_eq {text : List Char} {value : Ron} (reads : Reads text value) :
    parse? (String.ofList text) = some (.none, value) := by
  have read := reads.reads (3 * text.length + 3) [] (by omega) (by simp)
  have start := reads.skipBlank?_eq []
  rw [List.append_nil] at read start
  have attributes : attributes? (text.length + 1) text = some (.none, text) := by
    obtain ⟨c, cs, rfl, begins⟩ := reads.begins
    have hash : c ≠ '#' := by
      rintro rfl
      cases begins
    rw [attributes?, start]
    simp [hash]
  have ended : skipBlank? [] = some [] := rfl
  rw [parse?, String.toList_ofList]
  simp [attributes, read, ended]

end ShadingGraph.Ron
