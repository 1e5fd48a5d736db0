import ShadingGraph.Proofs.Scan
import ShadingGraph.Ron.Token
import ShadingGraph.Ron.Writer

/-! # Texts and characters in RON

A text in quotes is read back up to its closing quote, and so is a character between
apostrophes. What follows may be any text.
-/

namespace ShadingGraph

namespace Ron

theorem charOf?_toNat (c : Char) : charOf? c.toNat = some c := by
  have valid : c.toNat.isValidChar := c.valid
  rw [charOf?, if_pos valid, Char.ofNat_toNat]

theorem bracedChar?_toDigits (c : Char) (rest : List Char) :
    bracedChar? ('\x7b' :: (Nat.toDigits 16 c.toNat ++ '\x7d' :: rest)) = some (c, rest) := by
  have run : ∀ d ∈ Nat.toDigits 16 c.toNat, decide (d ≠ '\x7d') = true := by
    intro d inside
    have digit := isSome_hexValue?_of_mem_toDigits inside
    refine decide_eq_true fun same => ?_
    rw [same] at digit
    cases digit
  have stops : ∀ d ∈ ('\x7d' :: rest).head?, decide (d ≠ '\x7d') = false := by simp
  have nonempty : (Nat.toDigits 16 c.toNat).isEmpty = false := by
    simp [Nat.toDigits_ne_nil]
  have short : ¬6 < (Nat.toDigits 16 c.toNat).length := by
    rw [not_lt, Nat.length_toDigits_le_iff (by omega) (by omega)]
    rcases c.valid with low | high
    · exact low.trans (by decide)
    · exact high.2.trans (by decide)
  rw [bracedChar?, takeWhile_run run stops, dropWhile_run run stops]
  simp only [nonempty, short, decide_false, Bool.or_self, Bool.false_eq_true, if_false,
    hexDigitsValue?_toDigits, Option.pure_def, Option.bind_eq_bind, Option.bind_some, charOf?_toNat]

/-- A character in quotes stands for itself or is an escape. -/
theorem escapeChar_cases (c : Char) :
    (Text.escapeChar true c = [c] ∧ c ≠ '"' ∧ c ≠ '\\') ∨
      ∃ escaped, Text.escapeChar true c = '\\' :: escaped ∧
        ∀ rest, escape? .string (escaped ++ rest) = some (c, rest) := by
  have codePoint : ∃ escaped, Text.codePointEscape c = '\\' :: escaped ∧
      ∀ rest, escape? .string (escaped ++ rest) = some (c, rest) :=
    ⟨'u' :: '\x7b' :: (Nat.toDigits 16 c.toNat ++ ['\x7d']), rfl, fun rest => by
      simpa only [escape?, List.cons_append, List.append_assoc, List.nil_append] using
        bracedChar?_toDigits c rest⟩
  rw [Text.escapeChar, if_pos rfl]
  by_cases null : c = '\x00'
  · exact .inr ⟨['0'], if_pos null, fun rest => by rw [null]; rfl⟩
  by_cases tab : c = '\t'
  · exact .inr ⟨['t'], by rw [if_neg null, if_pos tab], fun rest => by rw [tab]; rfl⟩
  by_cases return' : c = '\r'
  · exact .inr ⟨['r'], by rw [if_neg null, if_neg tab, if_pos return'], fun rest => by rw [return']; rfl⟩
  rw [if_neg null, if_neg tab, if_neg return']
  by_cases feed : c = '\n'
  · exact .inr ⟨['n'], if_pos feed, fun rest => by rw [feed]; rfl⟩
  by_cases quote : c = '"'
  · exact .inr ⟨['"'], by rw [if_neg feed, if_pos quote], fun rest => by rw [quote]; rfl⟩
  by_cases slash : c = '\\'
  · exact .inr ⟨['\\'], by rw [if_neg feed, if_neg quote, if_pos slash], fun rest => by rw [slash]; rfl⟩
  rw [if_neg feed, if_neg quote, if_neg slash]
  by_cases apostrophe : c = '\''
  · exact .inr ⟨['\''], if_pos apostrophe, fun rest => by rw [apostrophe]; rfl⟩
  rw [if_neg apostrophe]
  split_ifs with combining printable
  · exact .inr codePoint
  · exact .inl ⟨rfl, quote, slash⟩
  · exact .inr codePoint

theorem stringBody?_escaped (cs rest : List Char) {fuel : ℕ} (enough : cs.length < fuel) :
    stringBody? .string fuel (cs.flatMap (Text.escapeChar true) ++ '"' :: rest) = some (cs, rest) := by
  induction cs generalizing fuel with
  | nil =>
      obtain ⟨fuel, rfl⟩ := Nat.exists_eq_succ_of_ne_zero (by omega : fuel ≠ 0)
      rfl
  | cons c cs ih =>
      obtain ⟨fuel, rfl⟩ := Nat.exists_eq_succ_of_ne_zero (by omega : fuel ≠ 0)
      have tail : stringBody? .string fuel (cs.flatMap (Text.escapeChar true) ++ '"' :: rest) =
          some (cs, rest) := ih (by simpa using enough)
      rw [List.flatMap_cons, List.append_assoc]
      rcases escapeChar_cases c with ⟨plain, quote, slash⟩ | ⟨escaped, text, read⟩
      · rw [plain, List.singleton_append, stringBody?, if_neg quote, if_neg slash, tail]
        rfl
      · rw [text, List.cons_append, stringBody?, if_neg (by decide), if_pos rfl, read]
        simp only [Option.pure_def, Option.bind_eq_bind, Option.bind_some, tail]

theorem literal?_quoted (text : String) (rest : List Char) :
    literal? (Text.quoted true text ++ rest) = some (some (.string text, rest)) := by
  have long := length_le_flatMap (f := Text.escapeChar true) (fun c => by
    rcases escapeChar_cases c with ⟨written, -⟩ | ⟨escaped, written, -⟩ <;> simp [written]) text.toList
  have enough : text.toList.length < (text.toList.flatMap (Text.escapeChar true) ++ '"' :: rest).length + 1 := by
    rw [List.length_append]
    omega
  have body := stringBody?_escaped text.toList rest enough
  rw [Text.quoted, List.append_assoc, List.cons_append, List.singleton_append, literal?, string?, body]
  simp

theorem literal?_charText (c : Char) (rest : List Char) :
    literal? (charText c ++ rest) = some (some (.char c, rest)) := by
  unfold charText
  split_ifs with special
  · rcases special with rfl | rfl <;> rfl
  · have slash : c ≠ '\\' := fun same => special (.inr same)
    have read : char? .char (c :: '\'' :: rest) = some (c, rest) := by
      unfold char?
      split
      · rename_i same
        exact absurd (List.cons.inj same).1 slash
      · rename_i same
        simp_all
      · rename_i none
        exact absurd rfl (none c rest)
    simp only [literal?, List.cons_append, List.nil_append, read, Option.map_some]

end Ron

end ShadingGraph
