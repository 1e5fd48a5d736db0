import ShadingGraph.Proofs.FieldAgreement
import ShadingGraph.Proofs.Ron.Codec

/-! # Fields in RON

A field may be nested more deeply when it is written than when it is read: each list or
composite takes four of the steps that may lead into a text, and its end gives the writer
some of them back. A field is read back if its height fits, and else not at all.
-/

namespace ShadingGraph

theorem mapM_ite {α : Type} {f : α → Option α} {p : α → Prop} [DecidablePred p] {items : List α}
    (each : ∀ item ∈ items, f item = if p item then some item else none) :
    items.mapM f = if ∀ item ∈ items, p item then some items else none := by
  induction items with
  | nil => simp
  | cons item rest ih =>
      rw [List.mapM_cons, each item List.mem_cons_self, ih fun item inside =>
        each item (List.mem_cons_of_mem _ inside)]
      simp only [List.forall_mem_cons]
      split_ifs <;> simp_all

namespace Field

mutual

/-- Lists and composites around the innermost field, itself counted. -/
def height : Field → ℕ
  | .list items => heightItems items + 1
  | .composite members => heightMembers members + 1
  | _ => 1

def heightItems : List Field → ℕ
  | [] => 0
  | item :: rest => max (height item) (heightItems rest)

def heightMembers : List (String × Field) → ℕ
  | [] => 0
  | (_, field) :: rest => max (height field) (heightMembers rest)

end

theorem one_le_height (field : Field) : 1 ≤ field.height := by
  cases field <;> simp [height]

mutual

theorem wellNamed_datum (names : Bool) : ∀ field : Field, Datum.wellNamed names (datum field) = true
  | .float _ => show (Datum.isName "Float" && true) = true by decide
  | .int _ => show (Datum.isName "Int" && true) = true by decide
  | .bool _ => show (Datum.isName "Bool" && true) = true by decide
  | .tag _ => show (Datum.isName "Enum" && true) = true by decide
  | .text _ => show (Datum.isName "Text" && true) = true by decide
  | .list items => by
      have word : Datum.isName "List" = true := by decide
      simp [datum, Datum.wellNamed, word, wellNamed_itemData names items]
  | .composite members => by
      have word : Datum.isName "Composite" = true := by decide
      simp [datum, Datum.wellNamed, word, wellNamed_memberData names members]

theorem wellNamed_itemData (names : Bool) : ∀ items : List Field,
    Datum.itemsWellNamed names (itemData items) = true
  | [] => rfl
  | item :: rest => by
      simp [itemData, Datum.itemsWellNamed, wellNamed_datum names item, wellNamed_itemData names rest]

theorem wellNamed_memberData (names : Bool) : ∀ members : List (String × Field),
    Datum.entriesWellNamed names (memberData members) = true
  | [] => rfl
  | (_, field) :: rest => by
      simp [memberData, Datum.entriesWellNamed, wellNamed_datum names field, wellNamed_memberData names rest]

end

theorem itemData_eq (items : List Field) : itemData items = items.map datum := by
  induction items with
  | nil => rfl
  | cons item rest ih => rw [itemData, ih, List.map_cons]

theorem memberData_eq (members : List (String × Field)) :
    memberData members = members.map fun member => (member.1, datum member.2) := by
  induction members with
  | nil => rfl
  | cons member rest ih => rw [memberData, ih, List.map_cons]

theorem heightItems_le {items : List Field} {k : ℕ} :
    heightItems items ≤ k ↔ ∀ item ∈ items, item.height ≤ k := by
  induction items with
  | nil => simp [heightItems]
  | cons item rest ih => rw [heightItems, max_le_iff, ih, List.forall_mem_cons]

theorem heightMembers_le {members : List (String × Field)} {k : ℕ} :
    heightMembers members ≤ k ↔ ∀ member ∈ members, member.2.height ≤ k := by
  induction members with
  | nil => simp [heightMembers]
  | cons member rest ih => rw [heightMembers, max_le_iff, ih, List.forall_mem_cons]

theorem distinctItems_iff {items : List Field} :
    distinctItems items = true ↔ ∀ item ∈ items, item.distinct = true := by
  induction items with
  | nil => simp [distinctItems]
  | cons item rest ih => rw [distinctItems, Bool.and_eq_true, ih, List.forall_mem_cons]

theorem distinctMembers_iff {members : List (String × Field)} :
    distinctMembers members = true ↔ ∀ member ∈ members, member.2.distinct = true := by
  induction members with
  | nil => simp [distinctMembers]
  | cons member rest ih => rw [distinctMembers, Bool.and_eq_true, ih, List.forall_mem_cons]

section

variable {ν : Type} [Source ν] {source payload : ν} (fuel : ℕ)

theorem readWith?_list (found : Source.variant? source = some ("List", payload)) :
    readWith? (fuel + 1) source =
      (Source.list? payload).bind fun items => (items.mapM (readWith? fuel)).map .list := by
  simp [readWith?, found, Option.map_eq_bind]

theorem readWith?_composite (found : Source.variant? source = some ("Composite", payload)) :
    readWith? (fuel + 1) source =
      (Source.map? payload).bind fun entries => (entries.mapM fun (entry : String × ν) => do
        return (entry.1, ← readWith? fuel entry.2)).map fun members => .composite (Table.ofList members) := by
  simp [readWith?, found, Option.map_eq_bind]

theorem readMembers?_eq : readMembers? source =
    (Source.map? source).bind fun entries => (entries.mapM fun (entry : String × ν) => do
      return (entry.1, ← read? entry.2)).map Table.ofList := by
  simp [readMembers?, Option.map_eq_bind]

end

open Datum

section

variable (names : Bool)

theorem mapM_memberData {read : Ron.Cursor → Option Field} {levels k : ℕ} {members : List (String × Field)}
    (each : ∀ member ∈ members, read (cursor names levels (datum member.2)) =
      if member.2.height ≤ k then some member.2 else none) :
    ((memberData members).map fun entry => (entry.1, cursor names levels entry.2)).mapM
        (fun entry => do return (entry.1, ← read entry.2)) =
      if heightMembers members ≤ k then some members else none := by
  rw [memberData_eq, List.map_map, List.mapM_map]
  simp only [heightMembers_le]
  refine mapM_ite fun member inside => ?_
  simp only [Function.comp_apply, each member inside]
  split_ifs <;> rfl

/-- A field is read back from its shape exactly if its height is no more than a quarter of the
steps that may lead into it. -/
theorem readWith?_cursor {k fuel : ℕ} (enough : k < fuel) {field : Field} (distinct : field.distinct = true) :
    readWith? fuel (cursor names (4 * k) (datum field)) = if field.height ≤ k then some field else none := by
  obtain ⟨fuel, rfl⟩ := Nat.exists_eq_add_of_le' (show 1 ≤ fuel by omega)
  induction k generalizing fuel field with
  | zero =>
      have high := one_le_height field
      rw [if_neg (by omega)]
      cases field <;> rfl
  | succ k ih =>
      rw [show 4 * (k + 1) = 4 * k + 2 + 2 by ring]
      obtain ⟨fuel, rfl⟩ := Nat.exists_eq_add_of_le' (show 1 ≤ fuel by omega)
      cases field with
      | float value => simp [datum, readWith?, variant?_cursor, Codec.read?, float?_cursor, height]
      | int value => simp [datum, readWith?, variant?_cursor, Codec.read?, int32?_cursor, height]
      | bool value => simp [datum, readWith?, variant?_cursor, Codec.read?, bool?_cursor, height]
      | tag name => simp [datum, readWith?, variant?_cursor, Codec.read?, text?_cursor, height]
      | text value => simp [datum, readWith?, variant?_cursor, Codec.read?, text?_cursor, height]
      | list items =>
          rw [Field.distinct, distinctItems_iff] at distinct
          have inside : ((itemData items).map (cursor names (4 * k))).mapM (readWith? (fuel + 1)) =
              if heightItems items ≤ k then some items else none := by
            rw [itemData_eq, List.map_map, List.mapM_map]
            simp only [heightItems_le]
            exact mapM_ite fun item inside => ih (distinct item inside) fuel (by omega)
          rw [datum, readWith?_list (fuel + 1) (variant?_cursor names (4 * k + 2) "List" _), list?_cursor,
            Option.bind_some, inside, height]
          simp only [Nat.add_le_add_iff_right]
          split_ifs <;> rfl
      | composite members =>
          rw [Field.distinct, Bool.and_eq_true, decide_eq_true_eq, distinctMembers_iff] at distinct
          have inside := mapM_memberData names fun member inside =>
            ih (distinct.2 member inside) fuel (by omega)
          rw [datum, readWith?_composite (fuel + 1) (variant?_cursor names (4 * k + 2) "Composite" _), map?_cursor,
            Option.bind_some, inside, height]
          simp only [Nat.add_le_add_iff_right]
          split_ifs
          · rw [Option.map_some, Table.ofList_eq_self distinct.1]
          · rfl

theorem readMembers?_cursor {k : ℕ} {members : List (String × Field)}
    (distinct : (composite members).distinct = true) :
    readMembers? (cursor names (4 * k + 2) (.map (memberData members))) =
      if ∀ member ∈ members, member.2.height ≤ k then some members else none := by
  rw [Field.distinct, Bool.and_eq_true, decide_eq_true_eq, distinctMembers_iff] at distinct
  have each : ∀ member ∈ members, read? (cursor names (4 * k) (datum member.2)) =
      if member.2.height ≤ k then some member.2 else none := fun member inside =>
    readWith?_cursor names (show k < 4 * k + 1 by omega) (distinct.2 member inside)
  rw [readMembers?_eq, map?_cursor, Option.bind_some, mapM_memberData names each]
  simp only [heightMembers_le]
  split_ifs
  · rw [Option.map_some, Table.ofList_eq_self distinct.1]
  · rfl

end

end Field

end ShadingGraph
