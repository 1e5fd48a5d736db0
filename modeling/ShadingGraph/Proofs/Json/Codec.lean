import ShadingGraph.Json.Source
import ShadingGraph.Proofs.Json.Reading
import ShadingGraph.Proofs.Table

/-! # Reading values from JSON values

A value is read back from what the text of its datum is read as, but a number that is not
finite is not.
-/

namespace ShadingGraph

def Binary32.isFinite : Binary32 → Bool
  | .finite .. => true
  | _ => false

namespace Datum

open Json

/-- The value of a datum as a source, with the objects and arrays that may be around its
content. -/
def jsonCursor (levels : ℕ) (datum : Datum) : Cursor :=
  ⟨datum.jsonValue, levels⟩

variable (levels : ℕ)

theorem integer?_jsonCursor {i : ℤ} (small : i.natAbs ≤ maxSignificand) :
    (jsonCursor levels (.int i)).integer? = some i := by
  rw [jsonCursor, jsonValue, integerNumeral_eq small]
  rcases lt_or_ge i 0 with negative | nonneg
  · have nonzero : i.natAbs ≠ 0 := by omega
    have value : -(i.natAbs : ℤ) = i := by omega
    simp only [Cursor.integer?, decide_eq_true negative, if_true, if_neg nonzero, value]
  · have value : (i.natAbs : ℤ) = i := by omega
    simp only [Cursor.integer?, decide_eq_false (not_lt.mpr nonneg), Bool.false_eq_true, if_false, value]

theorem int32?_jsonCursor (value : Int32) :
    Source.int32? (jsonCursor levels (.int value.toInt)) = some value := by
  have least := Int32.le_toInt value
  have greatest := Int32.toInt_lt value
  have read := integer?_jsonCursor levels (i := value.toInt) (by rw [maxSignificand]; omega)
  refine (congrArg (Option.bind · _) read).trans ?_
  rw [Option.bind_some, if_pos (by omega)]
  simp

theorem uint32?_jsonCursor (value : UInt32) :
    Source.uint32? (jsonCursor levels (.int value.toNat)) = some value := by
  have greatest := value.toNat_lt
  have read := integer?_jsonCursor levels (i := value.toNat) (by rw [maxSignificand]; omega)
  refine (congrArg (Option.bind · _) read).trans ?_
  rw [Option.bind_some, if_pos (by omega)]
  simp

theorem float?_jsonCursor (value : Binary32) :
    Source.float? (jsonCursor levels (.float value)) = if value.isFinite then some value else none := by
  cases value with
  | nan => rfl
  | infinity => rfl
  | finite negative exponent fraction =>
      obtain ⟨decimal, value, read⟩ := exists_numeral negative exponent fraction
      have alone := read [] (by simp)
      rw [List.append_nil] at alone
      have written : floatValue (.finite negative exponent fraction) = .number ⟨decimal, false⟩ := by
        rw [floatValue, Datum.jsonFloat, alone]
      rw [jsonCursor, jsonValue, written]
      exact value

theorem knownMembers?_jsonCursor {known : List (String × Presence)} {members : List (String × Datum)}
    (all : ∀ member ∈ members, Table.contains known member.1 = true) (distinct : (Table.keys members).Nodup) :
    Cursor.knownMembers? known (members.map fun member => (member.1, jsonCursor levels member.2)) =
      some (members.map fun member => (member.1, jsonCursor levels member.2)) := by
  induction members with
  | nil => rfl
  | cons member members ih =>
      obtain ⟨name, datum⟩ := member
      obtain ⟨fresh, distinct⟩ := List.nodup_cons.mp distinct
      have fresh : ¬Table.contains (members.map fun member => (member.1, jsonCursor levels member.2)) name = true := by
        rw [Table.not_contains]
        simpa [Table.keys] using fresh
      have rest := ih (fun member inside => all member (List.mem_cons_of_mem _ inside)) distinct
      have listed : Table.contains known name = true := all _ List.mem_cons_self
      rw [List.map_cons, Cursor.knownMembers?, rest, Option.bind_eq_bind, Option.bind_some, if_pos listed,
        if_neg fresh]
      rfl

theorem members?_jsonCursor (name : String) (members : List (String × Datum)) :
    (jsonCursor (levels + 1) (.record name members)).members? =
      some (members.map fun member => (member.1, jsonCursor levels member.2)) := by
  change List.mapM _ (memberValues members) = _
  induction members with
  | nil => rfl
  | cons member members ih =>
      rw [memberValues, List.mapM_cons, ih]
      rfl

theorem record?_jsonCursor (name : String) (known : List (String × Presence))
    (members : List (String × Datum)) (same : Table.keys members = Table.keys known)
    (distinct : (Table.keys known).Nodup) :
    Source.record? name known (jsonCursor (levels + 1) (.record name members)) =
      some (members.map fun member => (member.1, jsonCursor levels member.2)) := by
  have all : ∀ member ∈ members, Table.contains known member.1 = true := by
    intro member inside
    rw [Table.contains_iff, ← same]
    exact List.mem_map_of_mem inside
  have found : Presence.complete Presence.byName known
      (members.map fun member => (member.1, jsonCursor levels member.2)) = true :=
    Presence.complete_of_keys _ (by simpa [Table.keys, Function.comp_def] using same)
  have read := knownMembers?_jsonCursor levels all (same ▸ distinct)
  change Cursor.record? known _ = _
  unfold Cursor.record?
  split
  · rename_i object
    cases object
  · rw [members?_jsonCursor, Option.bind_eq_bind, Option.bind_some, read]
    simp [found]

end Datum

end ShadingGraph
