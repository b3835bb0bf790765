import Mathlib.Data.List.Forall2

/-! Lists related item by item. -/
namespace Syllabus

variable {α β γ : Type} {R : α → β → Prop}

theorem memRelated {as : List α} {bs : List β} (related : List.Forall₂ R as bs) {b : β} (member : b ∈ bs) :
    ∃ a ∈ as, R a b := by
  induction related with
  | nil => cases member
  | cons here more ih =>
    rcases List.mem_cons.mp member with rfl | later
    · exact ⟨_, List.mem_cons_self, here⟩
    · obtain ⟨a, inside, there⟩ := ih later
      exact ⟨a, List.mem_cons_of_mem _ inside, there⟩

theorem relatedApart {before : List α} {a : α} {after : List α} {bs : List β}
    (related : List.Forall₂ R (before ++ a :: after) bs) :
    ∃ first b last, bs = first ++ b :: last ∧ R a b ∧ List.Forall₂ R after last := by
  induction before generalizing bs with
  | nil =>
    cases related with
    | cons here later => exact ⟨[], _, _, rfl, here, later⟩
  | cons other more ih =>
    cases related with
    | @cons _ c _ _ here later =>
      obtain ⟨first, b, last, rfl, same, rest⟩ := ih later
      exact ⟨c :: first, b, last, rfl, same, rest⟩

theorem relatedInside {a a' : α} {b b' : β} {as : List α} {bs : List β}
    (related : List.Forall₂ R (a :: as ++ [a']) (b :: bs ++ [b'])) : List.Forall₂ R as bs := by
  have tails : List.Forall₂ R (as ++ [a']) (bs ++ [b']) := (List.forall₂_cons.mp related).2
  have long : as.length = bs.length := by simpa using tails.length_eq
  have cut := List.forall₂_take_append _ _ _ tails
  rwa [← long, List.take_left] at cut

theorem filterMapRelated {f : α → Option γ} {g : β → Option γ} {as : List α} {bs : List β}
    (related : List.Forall₂ R as bs) (same : ∀ a b, R a b → f a = g b) : as.filterMap f = bs.filterMap g := by
  induction related with
  | nil => rfl
  | cons here more ih => simp only [List.filterMap_cons, same _ _ here, ih]

theorem flatMapRelated {f : α → List γ} {g : β → List γ} {as : List α} {bs : List β}
    (related : List.Forall₂ R as bs) (same : ∀ a b, R a b → f a = g b) : as.flatMap f = bs.flatMap g := by
  induction related with
  | nil => rfl
  | cons here more ih => simp only [List.flatMap_cons, same _ _ here, ih]

theorem mapRelated {f : α → γ} {g : β → γ} {as : List α} {bs : List β}
    (related : List.Forall₂ R as bs) (same : ∀ a b, R a b → f a = g b) : as.map f = bs.map g := by
  induction related with
  | nil => rfl
  | cons here more ih => simp only [List.map_cons, same _ _ here, ih]

theorem flatMapRelatedIff {f : α → List γ} {g : β → List γ} {as : List α} {bs : List β} (related : List.Forall₂ R as bs)
    (long : ∀ a b, R a b → (f a).length = (g b).length) :
    as.flatMap f = bs.flatMap g ↔ List.Forall₂ (fun a b => f a = g b) as bs := by
  induction related with
  | nil => simp
  | @cons a b _ _ here more ih =>
    rw [List.flatMap_cons, List.flatMap_cons, List.forall₂_cons, ← ih]
    constructor
    · intro same
      exact List.append_inj same (long a b here)
    · rintro ⟨here, more⟩
      rw [here, more]

theorem filterMapOfChosen {p : α → Bool} {f : α → Option β} {items : List α}
    (made : ∀ a ∈ items, p a = true → ∃ b, f a = some b ∧ R a b) (none : ∀ a ∈ items, p a = false → f a = none) :
    List.Forall₂ R (items.filter p) (items.filterMap f) := by
  induction items with
  | nil => exact .nil
  | cons a more ih =>
    have later := ih (fun b member => made b (List.mem_cons_of_mem _ member))
      (fun b member => none b (List.mem_cons_of_mem _ member))
    cases chosen : p a with
    | true =>
      obtain ⟨b, here, related⟩ := made a List.mem_cons_self chosen
      rw [List.filter_cons_of_pos chosen, List.filterMap_cons_some here]
      exact .cons related later
    | false =>
      rw [List.filter_cons_of_neg (by simp [chosen]), List.filterMap_cons_none (none a List.mem_cons_self chosen)]
      exact later

end Syllabus
