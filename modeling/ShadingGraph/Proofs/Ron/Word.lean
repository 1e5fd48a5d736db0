import ShadingGraph.Proofs.Scan
import ShadingGraph.Proofs.Split
import ShadingGraph.Ron.Parser

/-! # Words in RON

A name with the characters of a word is read back as that word where a mark follows. It
begins no other token, and it is not taken for the keyword `Some` unless it is that.
-/

namespace ShadingGraph

namespace Ron

/-- Whether the character is a mark that may follow a word. -/
def isMark (c : Char) : Bool :=
  c == ':' || c == ',' || c == '(' || isClosing c

theorem not_word_of_isMark {c : Char} (mark : isMark c = true) :
    Text.isWordContinue c = false ∧ isRawNameChar c = false ∧ isNameStart c = false ∧
      isBlank c = false ∧ c ≠ '/' ∧ c ≠ '"' ∧ c ≠ '\'' ∧ c ≠ '#' := by
  simp only [isMark, isClosing, Bool.or_eq_true, beq_iff_eq] at mark
  rcases mark with ((rfl | rfl) | rfl) | ((rfl | rfl) | rfl) <;> decide

def isWord (name : String) : Bool :=
  match name.toList with
  | [] => false
  | c :: cs => isNameStart c && cs.all Text.isWordContinue

theorem exists_of_isWord {name : String} (word : isWord name = true) :
    ∃ c cs, name.toList = c :: cs ∧ isNameStart c = true ∧
      ∀ d ∈ cs, Text.isWordContinue d = true := by
  unfold isWord at word
  split at word
  · cases word
  · rename_i c cs chars
    simp only [Bool.and_eq_true, List.all_eq_true] at word
    exact ⟨c, cs, chars, word⟩

theorem literal?_eq_none {c : Char} {text : List Char} (quote : c ≠ '"') (apostrophe : c ≠ '\'')
    (unmarked : ∀ mark ∈ literalMarks, ∀ after, c :: text ≠ mark ++ after) :
    literal? (c :: text) = none := by
  unfold literal?
  split
  case h_1 same => exact absurd (List.cons.inj same).1 quote
  case h_2 same => exact absurd (List.cons.inj same).1 apostrophe
  case h_3 same => exact absurd same (unmarked ['r', '"'] (by decide) _)
  case h_4 same => exact absurd same (unmarked ['r', '#', '"'] (by decide) _)
  case h_5 same => exact absurd same (unmarked ['r', '#', '#'] (by decide) _)
  case h_6 same => exact absurd same (unmarked ['b', '"'] (by decide) _)
  case h_7 same => exact absurd same (unmarked ['b', '\''] (by decide) _)
  case h_8 same => exact absurd same (unmarked ['b', 'r', '"'] (by decide) _)
  case h_9 same => exact absurd same (unmarked ['b', 'r', '#'] (by decide) _)
  case h_10 => rfl

section

variable {c : Char} {cs rest : List Char} (run : ∀ d ∈ cs, Text.isWordContinue d = true)
  (ends : ∀ d ∈ rest.head?, isMark d = true)
include run ends

theorem takeWhile_word : (cs ++ rest).takeWhile Text.isWordContinue = cs :=
  takeWhile_run run fun d first => (not_word_of_isMark (ends d first)).1

theorem dropWhile_word : (cs ++ rest).dropWhile Text.isWordContinue = rest :=
  dropWhile_run run fun d first => (not_word_of_isMark (ends d first)).1

/-- No character that is neither in a word nor a mark ends the run of a word. -/
theorem word_append_ne (start after : List Char) (d : Char)
    (letters : start.all Text.isWordContinue = true) (outside : Text.isWordContinue d = false)
    (unmarked : isMark d = false) : cs ++ rest ≠ start ++ d :: after := by
  intro same
  have taken := takeWhile_word run ends
  have dropped := dropWhile_word run ends
  rw [List.all_eq_true] at letters
  rw [same, takeWhile_run letters (by simpa using outside)] at taken
  rw [same, dropWhile_run letters (by simpa using outside)] at dropped
  have mark := ends d (by rw [← dropped]; rfl)
  rw [unmarked] at mark
  cases mark

theorem ne_literalMark : ∀ mark ∈ literalMarks, ∀ after, c :: (cs ++ rest) ≠ mark ++ after := by
  intro mark listed after found
  simp only [literalMarks, List.mem_cons, List.not_mem_nil, or_false] at listed
  have outside := fun start => word_append_ne run ends start
  rcases listed with rfl | rfl | rfl | rfl | rfl | rfl | rfl
  all_goals have same := (List.cons.inj found).2
  · exact outside [] _ '"' (by decide) (by decide) (by decide) same
  · exact outside [] _ '\'' (by decide) (by decide) (by decide) same
  · exact outside ['r'] _ '#' (by decide) (by decide) (by decide) same
  · exact outside ['r'] _ '"' (by decide) (by decide) (by decide) same
  · exact outside [] _ '"' (by decide) (by decide) (by decide) same
  · exact outside [] _ '#' (by decide) (by decide) (by decide) same
  · exact outside [] _ '#' (by decide) (by decide) (by decide) same

end

section

variable {name : String} (word : isWord name = true) {rest : List Char}
  (ends : ∀ d ∈ rest.head?, isMark d = true)
include word ends

theorem word?_name : word? (name.toList ++ rest) = some (⟨false, name⟩, rest) := by
  obtain ⟨c, cs, chars, start, run⟩ := exists_of_isWord word
  have same : String.ofList (c :: cs) = name := by rw [← chars, String.ofList_toList]
  have unmarked : (literalMarks.any fun mark =>
      (Text.dropStart? mark (c :: (cs ++ rest))).isSome) = false := by
    rw [List.any_eq_false]
    intro mark listed
    rw [Option.isSome_iff_exists]
    rintro ⟨after, found⟩
    exact ne_literalMark run ends mark listed after (Text.dropStart?_eq_some.mp found)
  have notRaw : ∀ after, c = 'r' → cs ++ rest = '#' :: after → False := fun after _ =>
    word_append_ne run ends [] after '#' (by decide) (by decide) (by decide)
  rw [chars, List.cons_append, word?, if_neg (by simp [unmarked]), if_pos start, takeWhile_word run ends,
    dropWhile_word run ends, same]
  · cases rest with
    | nil => rfl
    | cons d after => exact if_neg (by simp [(not_word_of_isMark (ends d rfl)).2.1])
  · exact notRaw

theorem literal?_name : literal? (name.toList ++ rest) = none := by
  obtain ⟨c, cs, chars, start, run⟩ := exists_of_isWord word
  rw [chars, List.cons_append]
  refine literal?_eq_none ?_ ?_ (ne_literalMark run ends)
  · rintro rfl
    cases start
  · rintro rfl
    cases start

theorem dropSome?_name (other : name ≠ "Some") : dropSome? (name.toList ++ rest) = none := by
  obtain ⟨c, cs, chars, start, run⟩ := exists_of_isWord word
  -- The keyword would have to be the whole name, because no character of a word follows it.
  have goesOn : ∀ after, name.toList ++ rest = ['S', 'o', 'm', 'e'] ++ after →
      ¬∀ d ∈ after.head?, Text.isWordContinue d = false := by
    intro after found stops
    rw [chars, List.cons_append, List.cons_append] at found
    obtain ⟨rfl, same⟩ := List.cons.inj found
    have taken := takeWhile_word run ends
    rw [same] at taken
    change (['o', 'm', 'e'] ++ after).takeWhile _ = cs at taken
    rw [takeWhile_run (List.all_eq_true.mp rfl) stops] at taken
    refine other ?_
    rw [← String.ofList_toList (s := name), chars, ← taken]
  unfold dropSome?
  cases found : Text.dropStart? ['S', 'o', 'm', 'e'] (name.toList ++ rest) with
  | none => rfl
  | some after =>
      have goesOn := goesOn after (Text.dropStart?_eq_some.mp found)
      cases after with
      | nil => simp at goesOn
      | cons d after =>
          have letter : Text.isWordContinue d = true := by simpa using goesOn
          simp [letter]

end

end Ron

end ShadingGraph
