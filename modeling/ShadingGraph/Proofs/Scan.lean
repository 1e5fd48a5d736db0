import Mathlib.Data.Nat.Digits.Defs
import ShadingGraph.Text.Character

/-! # Scanning characters

A scan with `takeWhile` and `dropWhile` takes a run apart from the text that follows, if
the run does not go on there. Hexadecimal digits are read as the number they were written
for.
-/

namespace ShadingGraph

section

variable {p : Char → Bool} {run rest : List Char}

theorem takeWhile_run (all : ∀ c ∈ run, p c = true) (stops : ∀ c ∈ rest.head?, p c = false) :
    (run ++ rest).takeWhile p = run := by
  rw [List.takeWhile_append_of_pos all]
  cases rest with
  | nil => simp
  | cons c rest => simp [stops c rfl]

theorem dropWhile_run (all : ∀ c ∈ run, p c = true) (stops : ∀ c ∈ rest.head?, p c = false) :
    (run ++ rest).dropWhile p = rest := by
  rw [List.dropWhile_append_of_pos all]
  cases rest with
  | nil => simp
  | cons c rest => simp [stops c rfl]

end

theorem length_le_flatMap {f : Char → List Char} (nonempty : ∀ c, f c ≠ []) (cs : List Char) :
    cs.length ≤ (cs.flatMap f).length := by
  induction cs with
  | nil => simp
  | cons c cs ih =>
      have := List.length_pos_iff.mpr (nonempty c)
      rw [List.flatMap_cons, List.length_append, List.length_cons]
      omega

theorem hexValue?_digitChar : ∀ d < 16, hexValue? (Nat.digitChar d) = some d := by
  decide

theorem hexDigitsValue?_toDigits (n : ℕ) : hexDigitsValue? (Nat.toDigits 16 n) = some n := by
  induction n using Nat.strong_induction_on with
  | _ n ih =>
      rw [Nat.toDigits_eq_if (by omega)]
      split_ifs with single
      · simp [hexDigitsValue?, hexValue?_digitChar n single]
      · have high : hexDigitsValue? (Nat.toDigits 16 (n / 16)) = some (n / 16) := ih _ (by omega)
        have low := hexValue?_digitChar (n % 16) (by omega)
        unfold hexDigitsValue? at high ⊢
        rw [List.foldlM_append, high]
        simp [low]
        omega

theorem isSome_hexValue?_of_mem_toDigits {n : ℕ} {c : Char} (inside : c ∈ Nat.toDigits 16 n) :
    (hexValue? c).isSome := by
  induction n using Nat.strong_induction_on with
  | _ n ih =>
      rw [Nat.toDigits_eq_if (by omega)] at inside
      split_ifs at inside with single
      · rw [List.mem_singleton.mp inside, hexValue?_digitChar n single]
        rfl
      · rcases List.mem_append.mp inside with inside | inside
        · exact ih _ (by omega) inside
        · rw [List.mem_singleton.mp inside, hexValue?_digitChar _ (by omega)]
          rfl

end ShadingGraph
