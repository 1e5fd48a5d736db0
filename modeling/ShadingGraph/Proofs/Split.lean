import Mathlib.Tactic.SplitIfs
import ShadingGraph.Text.Split

/-! # Laws of splitting

A text is cut at all its separators, at the first or at the last one, or behind a beginning
that it has. Each cut is told by what the pieces were joined to, and by the pieces that hold
no separator.
-/

namespace ShadingGraph.Text

variable {separator : Char}

theorem splitOn_eq_splitOn (separator : Char) (text : List Char) :
    splitOn separator text = text.splitOn separator := by
  induction text with
  | nil => rw [splitOn, List.splitOn_nil]
  | cons c rest ih =>
      obtain ⟨piece, pieces, split⟩ : ∃ piece pieces, rest.splitOn separator = piece :: pieces :=
        List.exists_cons_of_ne_nil (List.splitOnP_ne_nil _ rest)
      rw [splitOn, ih, List.splitOn_cons_eq_if_modifyHead, split]
      by_cases same : c = separator <;> simp [same]

theorem exists_splitOn (separator : Char) (text : List Char) :
    ∃ piece pieces, splitOn separator text = piece :: pieces := by
  rw [splitOn_eq_splitOn]
  exact List.exists_cons_of_ne_nil (List.splitOnP_ne_nil _ text)

theorem splitLast?_eq_none {text : List Char} : splitLast? separator text = none ↔ separator ∉ text := by
  induction text with
  | nil => exact iff_of_true rfl List.not_mem_nil
  | cons c rest ih =>
      rw [splitLast?, List.mem_cons, not_or, ← ih]
      cases splitLast? separator rest with
      | some parts => simp
      | none => simp [eq_comm]

theorem splitLast?_eq_some {text before after : List Char}
    (split : splitLast? separator text = some (before, after)) :
    text = before ++ separator :: after ∧ separator ∉ after := by
  induction text generalizing before with
  | nil => cases split
  | cons c rest ih =>
      rw [splitLast?] at split
      split at split
      · rename_i front back later
        cases split
        obtain ⟨rfl, plain⟩ := ih later
        exact ⟨rfl, plain⟩
      · rename_i none
        split at split
        · rename_i same
          cases split
          exact ⟨same ▸ rfl, splitLast?_eq_none.mp none⟩
        · cases split

theorem splitOn_append (before after : List Char) :
    splitOn separator (before ++ separator :: after) =
      splitOn separator before ++ splitOn separator after := by
  induction before with
  | nil => simp [splitOn]
  | cons c rest ih =>
      obtain ⟨piece, pieces, split⟩ := exists_splitOn separator rest
      rw [List.cons_append, splitOn, splitOn, ih, split]
      by_cases same : c = separator <;> simp [same]

theorem splitOn_of_not_mem {text : List Char} (plain : separator ∉ text) :
    splitOn separator text = [text] := by
  rw [splitOn_eq_splitOn, List.splitOn_eq_singleton plain]

theorem not_mem_of_mem_splitOn {text : List Char} :
    ∀ piece ∈ splitOn separator text, separator ∉ piece := by
  induction text with
  | nil => simp [splitOn]
  | cons c rest ih =>
      obtain ⟨piece, pieces, split⟩ := exists_splitOn separator rest
      rw [split, List.forall_mem_cons] at ih
      rw [splitOn, split]
      split_ifs with same
      · exact List.forall_mem_cons.mpr ⟨List.not_mem_nil, List.forall_mem_cons.mpr ih⟩
      · have apart : separator ∉ c :: piece := by simp [Ne.symm same, ih.1]
        exact List.forall_mem_cons.mpr ⟨apart, ih.2⟩

theorem length_splitOn (separator : Char) (text : List Char) :
    (splitOn separator text).length = text.count separator + 1 := by
  induction text with
  | nil => rfl
  | cons c rest ih =>
      obtain ⟨piece, pieces, split⟩ := exists_splitOn separator rest
      rw [split] at ih
      rw [splitOn, split, List.count_cons, Nat.add_right_comm, ← ih]
      by_cases same : c = separator <;> simp [same]

theorem splitFirst?_eq_some {text before after : List Char} :
    splitFirst? separator text = some (before, after) ↔
      text = before ++ separator :: after ∧ separator ∉ before := by
  induction text generalizing before after with
  | nil => simp [splitFirst?]
  | cons c rest ih =>
      rw [splitFirst?]
      split_ifs with same
      · subst same
        cases before with
        | nil => simp
        | cons first before =>
            simp only [Option.some.injEq, Prod.mk.injEq, reduceCtorEq, false_and, false_iff, not_and]
            intro whole plain
            exact plain ((List.cons.inj whole).1 ▸ List.mem_cons_self)
      · cases before with
        | nil => simp [same]
        | cons first before =>
            simp only [Option.map_eq_some_iff, Prod.exists, Prod.mk.injEq, List.cons.injEq, ih,
              List.cons_append, List.mem_cons, not_or]
            constructor
            · rintro ⟨front, back, ⟨rfl, plain⟩, ⟨rfl, rfl⟩, rfl⟩
              exact ⟨⟨rfl, rfl⟩, Ne.symm same, plain⟩
            · rintro ⟨⟨rfl, rfl⟩, -, plain⟩
              exact ⟨before, after, ⟨rfl, plain⟩, ⟨rfl, rfl⟩, rfl⟩

theorem dropStart?_eq_some {start text rest : List Char} :
    dropStart? start text = some rest ↔ text = start ++ rest := by
  induction start generalizing text with
  | nil => simp [dropStart?, eq_comm]
  | cons a start ih =>
      cases text with
      | nil => simp [dropStart?]
      | cons c text =>
          rw [dropStart?]
          split_ifs with same
          · simp [ih, same]
          · simp [Ne.symm same]

theorem dropStart?_eq_none {start text : List Char} {c : Char} (inside : c ∈ start)
    (outside : c ∉ text) : dropStart? start text = none := by
  induction start generalizing text with
  | nil => cases inside
  | cons a start ih =>
      cases text with
      | nil => rfl
      | cons b text =>
          simp only [List.mem_cons, not_or] at inside outside
          rw [dropStart?]
          split_ifs with same
          · rcases inside with rfl | inside
            · exact absurd same outside.1
            · exact ih inside outside.2
          · rfl

end ShadingGraph.Text
