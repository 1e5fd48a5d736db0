import ShadingGraph.Proofs.Ron.Number
import ShadingGraph.Proofs.Ron.Reading

/-! # The shape of written data

What the parser makes of the RON text of a datum depends on the datum alone: its shape.
All that a shape leaves out of a datum is the names of records in a style that does not
write them.
-/

namespace ShadingGraph

namespace Ron.Style

variable (style : Style)

def space : List Char :=
  if style.lines then [' '] else []

theorem blank_space : ∀ c ∈ style.space, isBlank c = true := by
  unfold space
  split_ifs <;> exact List.all_eq_true.mp rfl

theorem blank_lineBreak (level : ℕ) : ∀ c ∈ style.lineBreak level, isBlank c = true := by
  unfold lineBreak
  split_ifs
  · intro c inside
    rcases List.mem_cons.mp inside with rfl | inside
    · decide
    · rw [List.eq_of_mem_replicate inside]
      decide
  · simp

theorem isTail_lastBreak (level : ℕ) : IsTail (style.lastBreak level) := by
  have blank := style.blank_lineBreak level
  unfold lastBreak
  split_ifs
  · exact .inr ⟨_, rfl, blank⟩
  · exact .inl rfl

theorem colon_eq : style.colon = ':' :: style.space := by
  unfold colon space
  split_ifs <;> rfl

theorem comma_eq : style.comma = ',' :: style.space := by
  unfold comma space
  split_ifs <;> rfl

end Ron.Style

namespace Datum

open Ron

/-- Whether a name stands for itself by itself or before parentheses. -/
def isName (name : String) : Bool :=
  isWord name && name != "Some"

mutual

/-- Whether the names that are written as words are such. -/
def wellNamed (names : Bool) : Datum → Bool
  | .present value => wellNamed names value
  | .list items => itemsWellNamed names items
  | .tuple items => itemsWellNamed names items
  | .map entries => entriesWellNamed names entries
  | .record name members => (!names || isName name) && membersWellNamed names members
  | .unit name => isName name
  | .variant name payload => isName name && wellNamed names payload
  | _ => true

def itemsWellNamed (names : Bool) : List Datum → Bool
  | [] => true
  | item :: rest => wellNamed names item && itemsWellNamed names rest

/-- Whether the names in all values of a map are words; its keys are texts. -/
def entriesWellNamed (names : Bool) : List (String × Datum) → Bool
  | [] => true
  | (_, value) :: rest => wellNamed names value && entriesWellNamed names rest

def membersWellNamed (names : Bool) : List (String × Datum) → Bool
  | [] => true
  | (name, value) :: rest => isWord name && wellNamed names value && membersWellNamed names rest

end

def floatShape (x : Binary32) : Ron :=
  match x with
  | .nan false => .symbol ⟨false, "NaN"⟩
  | .infinity false => .symbol ⟨false, "inf"⟩
  | x => .number (FloatLayout.ron.chars x)

mutual

/-- What the parser makes of a datum. -/
def shape (names : Bool) : Datum → Ron
  | .bool true => .symbol ⟨false, "true"⟩
  | .bool false => .symbol ⟨false, "false"⟩
  | .int value => .number (integerChars value)
  | .float value => floatShape value
  | .char value => .char value
  | .text value => .string value
  | .absent => .symbol ⟨false, "None"⟩
  | .present value => .present (.single (shape names value)) .item
  | .list items => .list (itemShapes names items)
  | .tuple [] => .unit
  | .tuple (item :: rest) => .tuple none (shape names item :: itemShapes names rest)
  | .map entries => .map (entryShapes names entries)
  | .record name [] => if names then .tuple (some ⟨false, name⟩) [] else .unit
  | .record name (member :: rest) =>
    .record (if names then some ⟨false, name⟩ else none)
      ((⟨false, member.1⟩, shape names member.2) :: memberShapes names rest)
  | .unit name => .symbol ⟨false, name⟩
  | .variant name payload => .tuple (some ⟨false, name⟩) [shape names payload]

def itemShapes (names : Bool) : List Datum → List Ron
  | [] => []
  | item :: rest => shape names item :: itemShapes names rest

def entryShapes (names : Bool) : List (String × Datum) → List (Ron × Ron)
  | [] => []
  | (name, value) :: rest => (.string name, shape names value) :: entryShapes names rest

def memberShapes (names : Bool) : List (String × Datum) → List (Word × Ron)
  | [] => []
  | (name, value) :: rest => (⟨false, name⟩, shape names value) :: memberShapes names rest

end

variable (style : Style)

theorem ronItems_eq (level : ℕ) (items : List Datum) :
    ronItems style level items = joined (style.lineBreak level) (items.map (ron style level)) := by
  induction items with
  | nil => simp [ronItems, joined]
  | cons item items ih => simp [ronItems, joined, ih]

theorem ronTuple_eq (level : ℕ) (items : List Datum) :
    ronTuple style level items = joined style.space (items.map (ron style level)) := by
  induction items with
  | nil => simp [ronTuple, joined]
  | cons item items ih => simp [ronTuple, joined, ih, style.comma_eq]

def entryText (level : ℕ) (entry : String × Datum) : List Char :=
  Text.quoted true entry.1 ++ ':' :: (style.space ++ ron style level entry.2)

def memberText (level : ℕ) (member : String × Datum) : List Char :=
  member.1.toList ++ ':' :: (style.space ++ ron style level member.2)

theorem ronEntries_eq (level : ℕ) (entries : List (String × Datum)) :
    ronEntries style level entries = joined (style.lineBreak level) (entries.map (entryText style level)) := by
  induction entries with
  | nil => simp [ronEntries, joined]
  | cons entry entries ih => simp [ronEntries, joined, ih, entryText, style.colon_eq]

theorem ronMembers_eq (level : ℕ) (members : List (String × Datum)) :
    ronMembers style level members = joined (style.lineBreak level) (members.map (memberText style level)) := by
  induction members with
  | nil => simp [ronMembers, joined]
  | cons member members ih => simp [ronMembers, joined, ih, memberText, style.colon_eq]

theorem reads_withSign (negative : Bool) {magnitude : List Char} (nonempty : magnitude ≠ [])
    (first : ∀ c ∈ magnitude.head?, isDigit c = true) (run : ∀ c ∈ magnitude, isNumberChar c = true) :
    Reads (withSign negative magnitude) (.number (withSign negative magnitude)) := by
  cases negative with
  | true =>
      refine Reads.number (by decide) fun c inside => ?_
      rcases List.mem_cons.mp inside with rfl | inside
      · decide
      · exact run c inside
  | false =>
      obtain ⟨c, magnitude, rfl⟩ := List.exists_cons_of_ne_nil nonempty
      exact Reads.number (by simp [isNumberStart, first c rfl]) run

theorem isNumberChar_of_isDigit {c : Char} (digit : isDigit c = true) : isNumberChar c = true := by
  simp [isNumberChar, digit]

theorem reads_integerChars (i : ℤ) : Reads (integerChars i) (.number (integerChars i)) := by
  have digits : ∀ c ∈ Nat.toDigits 10 i.natAbs, isDigit c := fun c inside => isDigit_of_mem_toDigits inside
  rw [integerChars_eq]
  exact reads_withSign _ Nat.toDigits_ne_nil (fun c first => digits c (List.mem_of_head? first))
    fun c inside => isNumberChar_of_isDigit (digits c inside)

theorem reads_float (x : Binary32) : Reads (FloatLayout.ron.chars x) (floatShape x) := by
  cases x with
  | nan negative =>
      cases negative with
      | true => exact Reads.number rfl (List.all_eq_true.mp rfl)
      | false => exact Reads.symbol (show isWord "NaN" = true by decide) (by decide)
  | infinity negative =>
      cases negative with
      | true => exact Reads.number rfl (List.all_eq_true.mp rfl)
      | false => exact Reads.symbol (show isWord "inf" = true by decide) (by decide)
  | finite negative exponent fraction =>
      obtain ⟨whole, part, text, digits, digits', nonempty, -⟩ :=
        FloatLayout.exists_point FloatLayout.ron rfl negative exponent fraction
      have written : FloatLayout.ron.chars (.finite negative exponent fraction) =
          withSign negative (whole ++ '.' :: part) := by
        rw [← text]
        rfl
      change Reads _ (.number (FloatLayout.ron.chars (.finite negative exponent fraction)))
      rw [written]
      refine reads_withSign negative (by simp) (fun c first => ?_) fun c inside => ?_
      · obtain ⟨d, whole, rfl⟩ := List.exists_cons_of_ne_nil nonempty
        cases first
        exact digits _ List.mem_cons_self
      · rcases List.mem_append.mp inside with inside | inside
        · exact isNumberChar_of_isDigit (digits c inside)
        · rcases List.mem_cons.mp inside with rfl | inside
          · decide
          · exact isNumberChar_of_isDigit (digits' c inside)

theorem of_isName {name : String} (named : isName name = true) : isWord name = true ∧ name ≠ "Some" := by
  simpa [isName] using named

mutual

/-- The text of a datum reads as its shape. -/
theorem reads_ron (level : ℕ) : ∀ {datum : Datum}, wellNamed style.names datum = true →
    Reads (ron style level datum) (shape style.names datum)
  | .bool true, _ => Reads.symbol (show isWord "true" = true by decide) (by decide)
  | .bool false, _ => Reads.symbol (show isWord "false" = true by decide) (by decide)
  | .int value, _ => reads_integerChars value
  | .float value, _ => reads_float value
  | .char value, _ => Reads.char value
  | .text value, _ => Reads.quoted value
  | .absent, _ => Reads.symbol (show isWord "None" = true by decide) (by decide)
  | .present value, named => by
      rw [wellNamed] at named
      exact Reads.present (reads_ron level named)
  | .list [], _ => Reads.emptyList
  | .list (item :: rest), named => by
      simp only [wellNamed, itemsWellNamed, Bool.and_eq_true] at named
      have read := Reads.list (style.blank_lineBreak (level + 1)) (style.blank_lineBreak (level + 1))
        (style.isTail_lastBreak level) (reads_items (level + 1) named.2) (reads_ron (level + 1) named.1)
      simpa [ron, shape, itemShapes, ronItems_eq] using read
  | .tuple [], _ => Reads.unit
  | .tuple (item :: rest), named => by
      simp only [wellNamed, itemsWellNamed, Bool.and_eq_true] at named
      have read := Reads.tuple style.blank_space (reads_items level named.2) (reads_ron level named.1)
      simpa [ron, shape, itemShapes, ronTuple_eq] using read
  | .map [], _ => Reads.emptyMap
  | .map ((name, value) :: rest), named => by
      simp only [wellNamed, entriesWellNamed, Bool.and_eq_true] at named
      have head : ReadsEntry (entryText style (level + 1) (name, value)) (.string name, shape style.names value) :=
        ⟨name, _, _, rfl, style.blank_space, rfl, reads_ron (level + 1) named.1⟩
      have read := Reads.map (style.blank_lineBreak (level + 1)) (style.blank_lineBreak (level + 1))
        (style.isTail_lastBreak level) (reads_entries (level + 1) named.2) head
      simpa [ron, shape, entryShapes, ronEntries_eq, entryText, style.colon_eq] using read
  | .record name [], named => by
      simp only [wellNamed, Bool.and_eq_true, Bool.or_eq_true, Bool.not_eq_true'] at named
      rw [ron, shape]
      split_ifs with names
      · have named := of_isName (named.1.resolve_left (by simp [names]))
        exact Reads.namedUnit named.1 named.2
      · exact Reads.unit
  | .record name ((member, value) :: rest), named => by
      simp only [wellNamed, membersWellNamed, Bool.and_eq_true, Bool.or_eq_true, Bool.not_eq_true'] at named
      obtain ⟨name', ⟨word, first⟩, others⟩ := named
      have head : ReadsMember (memberText style (level + 1) (member, value))
          (⟨false, member⟩, shape style.names value) :=
        ⟨member, _, _, rfl, style.blank_space, word, rfl, reads_ron (level + 1) first⟩
      have others := reads_members (level + 1) others
      have gap := style.blank_lineBreak (level + 1)
      have tail := style.isTail_lastBreak level
      cases names : style.names with
      | true =>
          have named := of_isName (name'.resolve_left (by simp [names]))
          have read := Reads.namedRecord named.1 named.2 gap gap tail others head
          simpa [ron, shape, ronMembers_eq, memberText, style.colon_eq, names] using read
      | false =>
          have read := Reads.record gap gap tail others head
          simpa [ron, shape, ronMembers_eq, memberText, style.colon_eq, names] using read
  | .unit name, named => by
      rw [wellNamed] at named
      exact Reads.symbol (of_isName named).1 (of_isName named).2
  | .variant name payload, named => by
      simp only [wellNamed, Bool.and_eq_true] at named
      have name' := of_isName named.1
      have read := Reads.variant name'.1 name'.2 (reads_ron level named.2)
      simpa [ron, shape] using read

theorem reads_items (level : ℕ) : ∀ {items : List Datum}, itemsWellNamed style.names items = true →
    List.Forall₂ Reads (items.map (ron style level)) (itemShapes style.names items)
  | [], _ => .nil
  | item :: rest, named => by
      simp only [itemsWellNamed, Bool.and_eq_true] at named
      exact .cons (reads_ron level named.1) (reads_items level named.2)

theorem reads_entries (level : ℕ) : ∀ {entries : List (String × Datum)},
    entriesWellNamed style.names entries = true →
      List.Forall₂ ReadsEntry (entries.map (entryText style level)) (entryShapes style.names entries)
  | [], _ => .nil
  | (name, value) :: rest, named => by
      simp only [entriesWellNamed, Bool.and_eq_true] at named
      exact .cons ⟨name, _, _, rfl, style.blank_space, rfl, reads_ron level named.1⟩ (reads_entries level named.2)

theorem reads_members (level : ℕ) : ∀ {members : List (String × Datum)},
    membersWellNamed style.names members = true →
      List.Forall₂ ReadsMember (members.map (memberText style level)) (memberShapes style.names members)
  | [], _ => .nil
  | (name, value) :: rest, named => by
      simp only [membersWellNamed, Bool.and_eq_true] at named
      exact .cons ⟨name, _, _, rfl, style.blank_space, named.1.1, rfl, reads_ron level named.1.2⟩
        (reads_members level named.2)

end

end Datum

end ShadingGraph
