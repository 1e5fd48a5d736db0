import ShadingGraph.Json.Parser
import ShadingGraph.Json.Writer
import ShadingGraph.Proofs.Scan

/-! # Strings in JSON

A string is read back up to its closing quote. Quotes and backslashes do not stand for
themselves in it, and neither do controls, some of which are written by their number.
-/

namespace ShadingGraph

namespace Json

open Datum (jsonChar jsonString)

theorem hex4?_control {n : ℕ} (control : n < 0x20) (rest : List Char) :
    hex4? ('0' :: '0' :: Datum.hexDigit (n / 16) :: Datum.hexDigit (n % 16) :: rest) = some (n, rest) := by
  have high := hexValue?_digitChar (n / 16) (by omega)
  have low := hexValue?_digitChar (n % 16) (by omega)
  have value : hexDigitsValue? ['0', '0', Datum.hexDigit (n / 16), Datum.hexDigit (n % 16)] = some n := by
    have zero : hexValue? '0' = some 0 := rfl
    simp only [hexDigitsValue?, Datum.hexDigit, List.foldlM_cons, List.foldlM_nil, zero, high, low,
      Option.map_some, Option.bind_eq_bind, Option.bind_some, Option.pure_def, Option.some.injEq]
    omega
  rw [hex4?, value]
  rfl

theorem stringBody?_jsonChar (c : Char) (fuel : ℕ) (text : List Char) :
    stringBody? (fuel + 1) (jsonChar c ++ text) = (stringBody? fuel text).map (prepend (some c)) := by
  unfold jsonChar
  split_ifs with quote slash backspace feed line return' tab control
  case pos => rw [quote]; rfl
  case pos => rw [slash]; rfl
  case pos => rw [backspace]; rfl
  case pos => rw [feed]; rfl
  case pos => rw [line]; rfl
  case pos => rw [return']; rfl
  case pos => rw [tab]; rfl
  case pos =>
    have unit := hex4?_control control text
    have high : isHighSurrogate c.toNat = false := by
      simp only [isHighSurrogate, Bool.and_eq_false_iff, decide_eq_false_iff_not]
      omega
    have low : isLowSurrogate c.toNat = false := by
      simp only [isLowSurrogate, Bool.and_eq_false_iff, decide_eq_false_iff_not]
      omega
    simp [stringBody?, unit, high, low]
  case neg => simp [stringBody?, quote, slash, control]

theorem stringBody?_escaped (cs rest : List Char) {fuel : ℕ} (enough : cs.length < fuel) :
    stringBody? fuel (cs.flatMap jsonChar ++ '"' :: rest) = some (some cs, rest) := by
  induction cs generalizing fuel with
  | nil =>
      obtain ⟨fuel, rfl⟩ := Nat.exists_eq_succ_of_ne_zero (by omega : fuel ≠ 0)
      rfl
  | cons c cs ih =>
      obtain ⟨fuel, rfl⟩ := Nat.exists_eq_succ_of_ne_zero (by omega : fuel ≠ 0)
      have tail : stringBody? fuel (cs.flatMap jsonChar ++ '"' :: rest) = some (some cs, rest) :=
        ih (by simpa using enough)
      rw [List.flatMap_cons, List.append_assoc, stringBody?_jsonChar, tail]
      rfl

theorem jsonChar_ne_nil (c : Char) : jsonChar c ≠ [] := by
  unfold jsonChar
  split_ifs <;> simp

theorem string?_jsonString (text : String) (rest : List Char) :
    ∃ inside, jsonString text.toList ++ rest = '"' :: inside ∧ string? inside = some (some text, rest) := by
  have long := length_le_flatMap jsonChar_ne_nil text.toList
  refine ⟨text.toList.flatMap jsonChar ++ '"' :: rest, by simp [jsonString], ?_⟩
  rw [string?, stringBody?_escaped _ _ (by rw [List.length_append]; omega)]
  simp

end Json

end ShadingGraph
