import ShadingGraph.Codec.Graph
import ShadingGraph.Proofs.Ron.Shape
import ShadingGraph.Proofs.Table
import ShadingGraph.Ron.Source

/-! # Reading values from shapes

A value is read back from the shape of its datum if enough steps may still lead further
in. Numbers and texts need none; a list, a map, an alternative or a record needs one for
itself and one for what it holds.
-/

namespace ShadingGraph

namespace Datum

open Ron

/-- The shape of a datum as a source, with the steps that may still lead into it. -/
def cursor (names : Bool) (levels : ℕ) (datum : Datum) : Cursor :=
  ⟨datum.shape names, levels, .none⟩

variable (names : Bool) (levels : ℕ)

theorem bool?_cursor (value : Bool) : Source.bool? (cursor names levels (.bool value)) = some value := by
  cases value <;> rfl

theorem int32?_cursor (value : Int32) :
    Source.int32? (cursor names levels (.int value.toInt)) = some value := by
  have inside : IntegerType.int32.contains value.toInt = true := by
    have least := Int32.le_toInt value
    have greatest := Int32.toInt_lt value
    simp only [IntegerType.contains, IntegerType.int32, Bool.and_eq_true]
    exact ⟨decide_eq_true (by omega), decide_eq_true (by omega)⟩
  change ((integerOf? .int32 (integerChars value.toInt)).map Int32.ofInt) = some value
  rw [integerOf?_integerChars inside]
  simp

theorem uint32?_cursor (value : UInt32) :
    Source.uint32? (cursor names levels (.int value.toNat)) = some value := by
  have inside : IntegerType.uint32.contains value.toNat = true := by
    have greatest := value.toNat_lt
    simp [IntegerType.contains, IntegerType.uint32]
    omega
  change ((integerOf? .uint32 (integerChars value.toNat)).map fun i => UInt32.ofNat i.toNat) = some value
  rw [integerOf?_integerChars inside]
  simp

theorem float?_cursor (value : Binary32) : Source.float? (cursor names levels (.float value)) = some value := by
  have read := float?_chars value
  cases value with
  | nan negative => cases negative <;> exact read
  | infinity negative => cases negative <;> exact read
  | finite negative exponent fraction => exact read

theorem char?_cursor (value : Char) : Source.char? (cursor names levels (.char value)) = some value :=
  rfl

theorem text?_cursor (value : String) : Source.text? (cursor names levels (.text value)) = some value :=
  rfl

theorem list?_cursor (items : List Datum) :
    Source.list? (cursor names (levels + 2) (.list items)) = some (items.map (cursor names levels)) := by
  change (itemShapes names items).mapM (Cursor.inner? ⟨.list (itemShapes names items), levels + 1, .none⟩) = _
  generalize Ron.list (itemShapes names items) = value
  induction items with
  | nil => rfl
  | cons item items ih =>
      rw [itemShapes, List.mapM_cons, ih]
      rfl

theorem map?_cursor (entries : List (String × Datum)) :
    Source.map? (cursor names (levels + 2) (.map entries)) =
      some (entries.map fun entry => (entry.1, cursor names levels entry.2)) := by
  change List.mapM _ (entryShapes names entries) = _
  dsimp only [cursor]
  generalize shape names (.map entries) = value
  induction entries with
  | nil => rfl
  | cons entry entries ih =>
      rw [entryShapes, List.mapM_cons, ih]
      rfl

theorem variant?_cursor (name : String) (payload : Datum) :
    Source.variant? (cursor names (levels + 2) (.variant name payload)) =
      some (name, cursor names levels payload) :=
  rfl

theorem knownMembers?_memberShapes {known : List (String × Presence)} {members : List (String × Datum)}
    (all : ∀ member ∈ members, Table.contains known member.1 = true) (distinct : (Table.keys members).Nodup)
    (value : Ron) : Cursor.knownMembers? ⟨value, levels + 1, .none⟩ known (memberShapes names members) =
      some (members.map fun member => (member.1, cursor names levels member.2)) := by
  induction members with
  | nil => rfl
  | cons member members ih =>
      obtain ⟨name, datum⟩ := member
      obtain ⟨fresh, distinct⟩ := List.nodup_cons.mp distinct
      have fresh : ¬Table.contains (members.map fun member => (member.1, cursor names levels member.2)) name = true := by
        rw [Table.not_contains]
        simpa [Table.keys] using fresh
      have rest := ih (fun member inside => all member (List.mem_cons_of_mem _ inside)) distinct
      have listed : Table.contains known name = true := all _ List.mem_cons_self
      rw [memberShapes, Cursor.knownMembers?, rest]
      change (if Table.contains known name = true then if Table.contains _ name = true then none else _ else _) = _
      rw [if_pos listed, if_neg fresh]
      rfl

/-- Members are taken from the shape of a record, in any order, where those that are left out may
be. A record without members is as good as any other. -/
theorem record?_cursor_of_complete (name : String) {known : List (String × Presence)}
    {members : List (String × Datum)} (all : ∀ member ∈ members, Table.contains known member.1 = true)
    (distinct : (Table.keys members).Nodup)
    (found : Presence.complete Presence.byName known
      (members.map fun member => (member.1, cursor names levels member.2)) = true) :
    Source.record? name known (cursor names (levels + 2) (.record name members)) =
      some (members.map fun member => (member.1, cursor names levels member.2)) := by
  have read := knownMembers?_memberShapes names levels all distinct (shape names (.record name members))
  have named : Cursor.named (cursor names (levels + 2) (.record name members)) name
      (if names then some ⟨false, name⟩ else none) = true := by
    cases names <;> simp [Cursor.named, cursor, Extensions.none]
  change Cursor.record? name known _ = _
  unfold Cursor.record?
  cases members with
  | nil => cases names <;> simp_all [cursor, shape, memberShapes, Cursor.enter?, Cursor.inner?]
  | cons member members =>
      simp only [cursor, shape] at named read ⊢
      rw [memberShapes] at read
      simp [named, Cursor.enter?, Cursor.inner?, read]
      exact found

theorem record?_cursor (name : String) (known : List (String × Presence)) (members : List (String × Datum))
    (same : Table.keys members = Table.keys known) (distinct : (Table.keys known).Nodup) :
    Source.record? name known (cursor names (levels + 2) (.record name members)) =
      some (members.map fun member => (member.1, cursor names levels member.2)) := by
  refine record?_cursor_of_complete names levels name (fun member inside => ?_) (same ▸ distinct)
    (Presence.complete_of_keys _ (by simpa [Table.keys, Function.comp_def] using same))
  rw [Table.contains_iff, ← same]
  exact List.mem_map_of_mem inside

end Datum

end ShadingGraph
