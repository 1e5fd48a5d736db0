import Mathlib.Data.List.Forall2

/-! # Lists paired item by item

Partners in two lists that `List.Forall₂` relates, and in two options that `Option.Rel`
relates.
-/

namespace Option.Rel

variable {α β γ : Type} {R : α → β → Prop} {S : β → γ → Prop} {T : α → γ → Prop}

theorem exists_right {a : α} {b : Option β} (related : Option.Rel R (Option.some a) b) :
    ∃ b', b = Option.some b' ∧ R a b' := by
  cases related with
  | some related => exact ⟨_, rfl, related⟩

theorem isSome_eq {a : Option α} {b : Option β} (related : Option.Rel R a b) :
    a.isSome = b.isSome := by
  cases related <;> rfl

theorem refl {R : α → α → Prop} (each : ∀ a, R a a) : ∀ a : Option α, Option.Rel R a a
  | .none => .none
  | .some a => .some (each a)

theorem imp {R' : α → β → Prop} {a : Option α} {b : Option β} (related : Option.Rel R a b)
    (weaken : ∀ a b, R a b → R' a b) : Option.Rel R' a b := by
  cases related with
  | none => exact .none
  | some related => exact .some (weaken _ _ related)

theorem flip {a : Option α} {b : Option β} (related : Option.Rel R a b) :
    Option.Rel (fun b a => R a b) b a := by
  cases related with
  | none => exact .none
  | some related => exact .some related

theorem trans {a : Option α} {b : Option β} {c : Option γ} (first : Option.Rel R a b)
    (second : Option.Rel S b c) (compose : ∀ a b c, R a b → S b c → T a c) : Option.Rel T a c := by
  cases first with
  | none =>
      cases second
      exact .none
  | some related =>
      obtain ⟨c', rfl, related'⟩ := second.exists_right
      exact .some (compose _ _ _ related related')

end Option.Rel

namespace List.Forall₂

variable {α β : Type} {R : α → β → Prop} {as : List α} {bs : List β}

theorem exists_mem_right (paired : Forall₂ R as bs) {a : α} (inside : a ∈ as) :
    ∃ b ∈ bs, R a b := by
  induction paired with
  | nil => cases inside
  | @cons x y xs ys related rest ih =>
      rcases List.mem_cons.mp inside with rfl | inside
      · exact ⟨y, List.mem_cons_self, related⟩
      · obtain ⟨b, member, relatedToB⟩ := ih inside
        exact ⟨b, List.mem_cons_of_mem _ member, relatedToB⟩

theorem exists_mem_left (paired : Forall₂ R as bs) {b : β} (inside : b ∈ bs) :
    ∃ a ∈ as, R a b :=
  paired.flip.exists_mem_right inside

theorem with_mem (paired : Forall₂ R as bs) : Forall₂ (fun a b => a ∈ as ∧ b ∈ bs ∧ R a b) as bs := by
  have right : Forall₂ (fun b a => b ∈ bs ∧ R a b) bs as :=
    (forall₂_and_left _ _).mpr ⟨fun _ inside => inside, paired.flip⟩
  exact (forall₂_and_left _ _).mpr ⟨fun _ inside => inside, right.flip⟩

theorem exists_of_forall (each : ∀ a ∈ as, ∃ b, R a b) : ∃ bs, Forall₂ R as bs := by
  induction as with
  | nil => exact ⟨[], .nil⟩
  | cons a rest ih =>
      obtain ⟨here, later⟩ := List.forall_mem_cons.mp each
      obtain ⟨b, related⟩ := here
      obtain ⟨bs, paired⟩ := ih later
      exact ⟨b :: bs, .cons related paired⟩

theorem trans {γ : Type} {S : β → γ → Prop} {T : α → γ → Prop} {cs : List γ} (first : Forall₂ R as bs)
    (second : Forall₂ S bs cs) (compose : ∀ a b c, R a b → S b c → T a c) : Forall₂ T as cs := by
  induction first generalizing cs with
  | nil =>
      cases second
      exact .nil
  | cons related _ ih =>
      cases second with
      | cons related' rest => exact .cons (compose _ _ _ related related') (ih rest)

theorem exists_split_left (paired : Forall₂ R as bs) {before after : List β} {b : β}
    (split : bs = before ++ b :: after) :
    ∃ before' a after', as = before' ++ a :: after' ∧ Forall₂ R before' before ∧ R a b := by
  subst split
  induction before generalizing as with
  | nil =>
      cases paired with
      | @cons a _ rest _ related _ => exact ⟨[], a, rest, rfl, .nil, related⟩
  | cons first before ih =>
      cases paired with
      | @cons a _ rest _ related remaining =>
          obtain ⟨before', partner, after', rfl, earlier, last⟩ := ih remaining
          exact ⟨a :: before', partner, after', rfl, .cons related earlier, last⟩

theorem getElem?_rel (paired : Forall₂ R as bs) (i : Nat) : Option.Rel R as[i]? bs[i]? := by
  induction paired generalizing i with
  | nil => exact .none
  | cons related _ ih =>
      cases i with
      | zero => exact .some related
      | succ i => exact ih i

theorem exists_getElem? (paired : Forall₂ R as bs) {i : Nat} {a : α} (at_i : as[i]? = some a) :
    ∃ b, bs[i]? = some b ∧ R a b :=
  (at_i ▸ paired.getElem?_rel i).exists_right

theorem map_eq_map {γ : Type} (paired : Forall₂ R as bs) {f : α → γ} {g : β → γ}
    (agree : ∀ a b, R a b → f a = g b) : as.map f = bs.map g := by
  induction paired with
  | nil => rfl
  | cons related _ ih => rw [List.map_cons, List.map_cons, agree _ _ related, ih]

theorem zipWith {γ : Type} {S : α → γ → Prop} {f : α → β → γ} (paired : Forall₂ R as bs)
    (compose : ∀ a b, R a b → S a (f a b)) : Forall₂ S as (List.zipWith f as bs) := by
  induction paired with
  | nil => exact .nil
  | cons related _ ih => exact .cons (compose _ _ related) ih

theorem forall_mem_iff {p : α → Prop} {q : β → Prop} (paired : Forall₂ R as bs)
    (agree : ∀ a b, R a b → (p a ↔ q b)) : (∀ a ∈ as, p a) ↔ ∀ b ∈ bs, q b := by
  induction paired with
  | nil => exact iff_of_true nofun nofun
  | cons related _ ih => rw [forall_mem_cons, forall_mem_cons, agree _ _ related, ih]

theorem of_map_eq_map {γ : Type} {f : α → γ} {g : β → γ} (same : as.map f = bs.map g) :
    Forall₂ (fun a b => f a = g b) as bs :=
  forall₂_map_left_iff.mp (forall₂_map_right_iff.mp (forall₂_eq_eq_eq ▸ same))

theorem filterMap_eq_filterMap {γ : Type} (paired : Forall₂ R as bs) {f : α → Option γ}
    {g : β → Option γ} (agree : ∀ a b, R a b → f a = g b) : as.filterMap f = bs.filterMap g := by
  induction paired with
  | nil => rfl
  | cons related _ ih => rw [List.filterMap_cons, List.filterMap_cons, agree _ _ related, ih]

theorem find? (paired : Forall₂ R as bs) {p : α → Bool} {q : β → Bool}
    (agree : ∀ a b, R a b → p a = q b) : Option.Rel R (as.find? p) (bs.find? q) := by
  induction paired with
  | nil => exact .none
  | @cons x y xs ys related rest ih =>
      rw [List.find?_cons, List.find?_cons, agree x y related]
      cases q y with
      | true => exact .some related
      | false => exact ih

theorem bind_find?_eq {γ : Type} (paired : Forall₂ R as bs) {p : α → Bool} {q : β → Bool}
    {f : α → Option γ} {g : β → Option γ} (agree : ∀ a b, R a b → p a = q b)
    (same : ∀ a b, R a b → f a = g b) : (as.find? p).bind f = (bs.find? q).bind g := by
  have found := paired.find? agree
  generalize as.find? p = a at found ⊢
  generalize bs.find? q = b at found ⊢
  cases found with
  | none => rfl
  | some related => exact same _ _ related

end List.Forall₂
