import Mathlib.Data.List.Nodup
import ShadingGraph.Codec.Source

/-! # Laws of tables

Look-up after insertion, and the tables that insertion leaves in the order of the
given pairs: those in which no key is repeated. Items that are added to a list only if they
are new are there once. In a list of items with distinct keys a search by key finds the only
item of that key.
-/

namespace ShadingGraph.Table

variable {κ ν : Type} [DecidableEq κ]

theorem find?_append (entries more : List (κ × ν)) (key : κ) :
    find? (entries ++ more) key = (find? entries key).or (find? more key) := by
  induction entries with
  | nil => rfl
  | cons entry rest ih =>
      simp only [List.cons_append, find?]
      split
      · rfl
      · exact ih

theorem find?_eq_none {entries : List (κ × ν)} {key : κ} :
    find? entries key = none ↔ key ∉ keys entries := by
  induction entries with
  | nil => simp [find?, keys]
  | cons entry rest ih =>
      obtain ⟨k, v⟩ := entry
      simp only [find?, keys, List.map_cons, List.mem_cons] at ih ⊢
      by_cases same : k = key
      · simp [same]
      · simp only [same, if_false, ih, eq_comm (a := key), false_or]

theorem contains_iff {entries : List (κ × ν)} {key : κ} :
    contains entries key = true ↔ key ∈ keys entries := by
  rw [contains, Option.isSome_iff_ne_none, ne_eq, find?_eq_none, Decidable.not_not]

theorem not_contains {entries : List (κ × ν)} {key : κ} :
    ¬contains entries key = true ↔ key ∉ keys entries :=
  contains_iff.not

theorem find?_of_mem {entries : List (κ × ν)} (distinct : (keys entries).Nodup) {entry : κ × ν}
    (inside : entry ∈ entries) : find? entries entry.1 = some entry.2 := by
  induction entries with
  | nil => cases inside
  | cons first rest ih =>
      obtain ⟨k, v⟩ := first
      obtain ⟨fresh, distinct⟩ := List.nodup_cons.mp distinct
      rw [find?]
      rcases List.mem_cons.mp inside with rfl | later
      · exact if_pos rfl
      · have different : k ≠ entry.1 := by
          rintro rfl
          exact fresh (List.mem_map.mpr ⟨entry, later, rfl⟩)
        rw [if_neg different]
        exact ih distinct later

theorem find?_of_prefix {entries more : List (κ × ν)} (grown : entries <+: more) {key : κ} {value : ν}
    (found : find? entries key = some value) : find? more key = some value := by
  obtain ⟨added, rfl⟩ := grown
  rw [find?_append, found, Option.some_or]

omit [DecidableEq κ] in
theorem nodup_keys_concat {entries : List (κ × ν)} (distinct : (keys entries).Nodup) {key : κ}
    (fresh : key ∉ keys entries) (value : ν) : (keys (entries ++ [(key, value)])).Nodup := by
  rw [keys, List.map_append, List.map_singleton, ← List.concat_eq_append]
  exact List.Nodup.concat fresh distinct

theorem mem_of_find?_eq_some {entries : List (κ × ν)} {key : κ} {value : ν}
    (found : find? entries key = some value) : (key, value) ∈ entries := by
  induction entries with
  | nil => cases found
  | cons entry rest ih =>
      obtain ⟨k, v⟩ := entry
      rw [find?] at found
      split at found
      · rename_i same
        cases found
        exact same ▸ List.mem_cons_self
      · exact List.mem_cons_of_mem _ (ih found)

theorem find?_insert_self (entries : List (κ × ν)) (key : κ) (value : ν) :
    find? (insert entries key value) key = some value := by
  induction entries with
  | nil => simp [insert, find?]
  | cons entry rest ih =>
      obtain ⟨k, v⟩ := entry
      by_cases same : k = key <;> simp [insert, find?, same, ih]

theorem find?_insert_of_ne (entries : List (κ × ν)) (value : ν) {key other : κ}
    (different : other ≠ key) : find? (insert entries key value) other = find? entries other := by
  induction entries with
  | nil => simp [insert, find?, different.symm]
  | cons entry rest ih =>
      obtain ⟨k, v⟩ := entry
      by_cases same : k = key
      · subst same
        simp [insert, find?, different.symm]
      · simp [insert, find?, same, ih]

theorem contains_append {entries : List (κ × ν)} {name : κ} (present : contains entries name = true)
    (more : List (κ × ν)) : contains (entries ++ more) name = true := by
  rw [contains] at present ⊢
  rw [find?_append, Option.isSome_or, present, Bool.true_or]

theorem contains_insert {entries : List (κ × ν)} {name : κ} (present : contains entries name = true)
    (key : κ) (value : ν) : contains (insert entries key value) name = true := by
  by_cases same : name = key
  · rw [contains, same, find?_insert_self, Option.isSome_some]
  · rwa [contains, find?_insert_of_ne entries value same]

theorem insert_eq_append {entries : List (κ × ν)} {key : κ} (value : ν)
    (fresh : key ∉ keys entries) : insert entries key value = entries ++ [(key, value)] := by
  induction entries with
  | nil => rfl
  | cons entry rest ih =>
      obtain ⟨k, v⟩ := entry
      simp only [keys, List.map_cons, List.mem_cons, not_or] at fresh
      simp only [insert, List.cons_append, Ne.symm fresh.1, if_false]
      rw [ih fresh.2]

theorem insert_eq_self {entries : List (κ × ν)} {key : κ} {value : ν}
    (found : find? entries key = some value) : insert entries key value = entries := by
  induction entries with
  | nil => cases found
  | cons entry rest ih =>
      obtain ⟨k, v⟩ := entry
      rw [find?] at found
      rw [insert]
      split at found
      · rename_i same
        cases found
        exact if_pos same
      · rename_i different
        rw [if_neg different, ih found]

theorem insert_insert (entries : List (κ × ν)) (key : κ) (value other : ν) :
    insert (insert entries key value) key other = insert entries key other := by
  induction entries with
  | nil => simp [insert]
  | cons entry rest ih =>
      obtain ⟨k, v⟩ := entry
      by_cases same : k = key <;> simp [insert, same, ih]

/-- A key that is there is replaced in its place, whatever was put in after it. -/
theorem insert_insert_of_mem {entries : List (κ × ν)} {key other : κ} (present : key ∈ keys entries)
    (different : key ≠ other) (value added : ν) :
    insert (insert entries other added) key value = insert (insert entries key value) other added := by
  induction entries with
  | nil => cases present
  | cons entry rest ih =>
      obtain ⟨k, v⟩ := entry
      by_cases same : k = key
      · subst same
        simp [insert, different]
      · have later : key ∈ keys rest := (List.mem_cons.mp present).resolve_left (Ne.symm same)
        by_cases replaced : k = other
        · simp [insert, replaced, replaced ▸ same]
        · simp [insert, same, replaced, ih later]

theorem filter_insert {p : κ → Bool} {key : κ} (kept : p key = true) (entries : List (κ × ν)) (value : ν) :
    (insert entries key value).filter (p ·.1) = insert (entries.filter (p ·.1)) key value := by
  induction entries with
  | nil => simp [insert, kept]
  | cons entry rest ih =>
      obtain ⟨k, v⟩ := entry
      by_cases same : k = key
      · subst same
        simp [insert, kept]
      · cases found : p k <;> simp [insert, same, found, ih]

theorem keys_insert (entries : List (κ × ν)) (key : κ) (value : ν) :
    keys (insert entries key value) = addNew (keys entries) key := by
  by_cases inside : key ∈ keys entries
  · rw [addNew, if_pos inside]
    induction entries with
    | nil => cases inside
    | cons entry rest ih =>
        obtain ⟨k, v⟩ := entry
        rw [insert]
        split
        · rfl
        · rename_i different
          have later : key ∈ keys rest := (List.mem_cons.mp inside).resolve_left (Ne.symm different)
          simp only [keys, List.map_cons] at ih ⊢
          rw [ih later]
  · rw [insert_eq_append value inside, addNew, if_neg inside, keys, List.map_append,
      List.map_singleton, keys]

theorem keys_prefix_insert (entries : List (κ × ν)) (key : κ) (value : ν) :
    keys entries <+: keys (insert entries key value) := by
  rw [keys_insert, addNew]
  split
  · exact List.prefix_rfl
  · exact List.prefix_append _ _

private theorem foldl_insert_eq_append (entries pairs : List (κ × ν))
    (distinct : (keys (entries ++ pairs)).Nodup) :
    pairs.foldl (fun table pair => insert table pair.1 pair.2) entries = entries ++ pairs := by
  induction pairs generalizing entries with
  | nil => simp
  | cons pair rest ih =>
      have fresh : pair.1 ∉ keys entries := by
        simp only [keys, List.map_append, List.map_cons, List.nodup_append] at distinct
        exact fun inside => distinct.2.2 _ inside _ List.mem_cons_self rfl
      rw [List.foldl_cons, insert_eq_append _ fresh, ih]
      · simp
      · simpa using distinct

theorem ofList_eq_self {pairs : List (κ × ν)} (distinct : (keys pairs).Nodup) :
    ofList pairs = pairs :=
  foldl_insert_eq_append [] pairs distinct

theorem addNew_of_not_mem {items : List κ} {item : κ} (fresh : item ∉ items) :
    addNew items item = items ++ [item] :=
  if_neg fresh

theorem mem_addNew {items : List κ} {item other : κ} :
    other ∈ addNew items item ↔ other ∈ items ∨ other = item := by
  by_cases inside : item ∈ items
  · rw [addNew, if_pos inside]
    exact (or_iff_left_of_imp fun same => same ▸ inside).symm
  · rw [addNew_of_not_mem inside, List.mem_append, List.mem_singleton]

theorem nodup_addNew {items : List κ} (distinct : items.Nodup) (item : κ) :
    (addNew items item).Nodup := by
  by_cases inside : item ∈ items
  · rwa [addNew, if_pos inside]
  · rw [addNew_of_not_mem inside, ← List.concat_eq_append]
    exact distinct.concat inside

theorem foldl_addNew (added : List κ) {items : List κ} (distinct : items.Nodup) :
    (added.foldl addNew items).Nodup ∧ ∀ item, item ∈ added.foldl addNew items ↔
      item ∈ items ∨ item ∈ added := by
  induction added generalizing items with
  | nil => simpa using distinct
  | cons first rest ih =>
      obtain ⟨distinct', members⟩ := ih (nodup_addNew distinct first)
      refine ⟨distinct', fun item => ?_⟩
      rw [List.foldl_cons, members, mem_addNew, List.mem_cons, or_assoc]

theorem find?_key_eq_some {α : Type} {items : List α} {key : α → κ}
    (distinct : (items.map key).Nodup) {k : κ} {item : α} :
    items.find? (key · = k) = some item ↔ item ∈ items ∧ key item = k := by
  constructor
  · intro found
    exact ⟨List.mem_of_find?_eq_some found, by simpa using List.find?_some found⟩
  · rintro ⟨inside, rfl⟩
    cases found : items.find? (key · = key item) with
    | none => exact absurd (decide_eq_true rfl) (List.find?_eq_none.mp found item inside)
    | some other =>
        have same : key other = key item := by simpa using List.find?_some found
        rw [List.inj_on_of_nodup_map distinct (List.mem_of_find?_eq_some found) inside same]

theorem find?_key_eraseP {α : Type} (items : List α) (key : α → κ) {k other : κ}
    (different : other ≠ k) :
    (items.eraseP (key · = k)).find? (key · = other) = items.find? (key · = other) := by
  induction items with
  | nil => rfl
  | cons item rest ih =>
      rw [List.eraseP_cons]
      by_cases erased : key item = k
      · simp [erased, Ne.symm different]
      · simp only [erased, decide_false, cond_false, List.find?_cons, ih]

theorem find?_key_perm {α : Type} {items others : List α} {key : α → κ}
    (distinct : (items.map key).Nodup) (perm : items.Perm others) (k : κ) :
    items.find? (key · = k) = others.find? (key · = k) := by
  have distinct' : (others.map key).Nodup := (perm.map key).nodup_iff.mp distinct
  ext item
  rw [find?_key_eq_some distinct, find?_key_eq_some distinct', perm.mem_iff]

end ShadingGraph.Table

namespace ShadingGraph.Presence

theorem complete_of_keys {ν : Type} (allowed : Presence → Bool)
    {known : List (String × Presence)} {found : List (String × ν)}
    (same : Table.keys found = Table.keys known) : Presence.complete allowed known found = true := by
  simp only [Presence.complete, List.all_eq_true, Bool.or_eq_true]
  rintro ⟨key, presence⟩ inside
  refine .inr (Table.contains_iff.mpr ?_)
  rw [same]
  exact List.mem_map_of_mem inside

end ShadingGraph.Presence
