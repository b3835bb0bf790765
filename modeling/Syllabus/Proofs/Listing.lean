import Mathlib.Data.List.Basic
import Syllabus.Proofs.FileMap

/-! Lists in the order of keys. A relation between keys and items is listed by the items alone when they
stand in the order of their keys and there is one for every key that has one. What trees give from top to
bottom is listed by the places of the leaves, as the places of the branches come first. -/
namespace Syllabus

variable {κ α β : Type}

/-- The items are those that the relation has, each once, in the order of their keys. -/
def Listing [LT κ] (R : κ → β → Prop) (items : List β) : Prop :=
  ∃ entries : List (κ × β), entries.map Prod.snd = items ∧ (entries.map Prod.fst).Pairwise (· < ·) ∧
    ∀ key b, (key, b) ∈ entries ↔ R key b

namespace Listing

theorem nothing [LT κ] {R : κ → β → Prop} (none : ∀ key b, ¬R key b) : Listing R [] :=
  ⟨[], rfl, .nil, by simpa using none⟩

theorem single [LT κ] {R : κ → β → Prop} (key : κ) {b : β} (only : ∀ key' b', R key' b' ↔ key' = key ∧ b' = b) :
    Listing R [b] :=
  ⟨[(key, b)], rfl, List.pairwise_singleton .., by simp [only]⟩

theorem member [LT κ] {R : κ → β → Prop} {items : List β} (listing : Listing R items) {b : β} :
    b ∈ items ↔ ∃ key, R key b := by
  obtain ⟨entries, rfl, _, same⟩ := listing
  simp [same]

theorem congr [LT κ] {R S : κ → β → Prop} {items : List β} (same : ∀ key b, R key b ↔ S key b)
    (listing : Listing R items) : Listing S items := by
  obtain ⟨entries, shown, ordered, all⟩ := listing
  exact ⟨entries, shown, ordered, fun key b => (all key b).trans (same key b)⟩

theorem map [LT κ] {R : κ → β → Prop} {items : List β} (listing : Listing R items) (f : β → α) :
    Listing (fun key a => ∃ b, R key b ∧ f b = a) (items.map f) := by
  obtain ⟨entries, rfl, ordered, same⟩ := listing
  refine ⟨entries.map fun entry => (entry.1, f entry.2), ?_, ?_, fun key a => ?_⟩
  · rw [List.map_map, List.map_map]
    rfl
  · rwa [List.map_map]
  · simp [← same, Prod.ext_iff]

theorem mapNodup [LT κ] {R : κ → β → Prop} {items : List β} (listing : Listing R items) {f : β → α}
    (apart : ∀ {key b later c}, R key b → R later c → key < later → f b ≠ f c) : (items.map f).Nodup := by
  obtain ⟨entries, rfl, ordered, same⟩ := listing
  rw [List.map_map, List.Nodup, List.pairwise_map]
  rw [List.pairwise_map] at ordered
  refine ordered.imp_of_mem fun {left right} inLeft inRight less => ?_
  exact apart ((same left.1 left.2).mp inLeft) ((same right.1 right.2).mp inRight) less

theorem append [LT κ] {R S : κ → β → Prop} {items others : List β} (left : Listing R items) (right : Listing S others)
    (before : ∀ {key b later c}, R key b → S later c → key < later) :
    Listing (fun key b => R key b ∨ S key b) (items ++ others) := by
  obtain ⟨entries, rfl, orderedLeft, sameLeft⟩ := left
  obtain ⟨entries', rfl, orderedRight, sameRight⟩ := right
  refine ⟨entries ++ entries', List.map_append, ?_, fun key b => by rw [List.mem_append, sameLeft, sameRight]⟩
  rw [List.map_append, List.pairwise_append]
  refine ⟨orderedLeft, orderedRight, fun key inLeft later inRight => ?_⟩
  obtain ⟨⟨key, b⟩, member, rfl⟩ := List.mem_map.mp inLeft
  obtain ⟨⟨later, c⟩, member', rfl⟩ := List.mem_map.mp inRight
  exact before ((sameLeft key b).mp member) ((sameRight later c).mp member')

theorem optional [LT κ] (key : κ) (b? : Option β) : Listing (fun k b => k = key ∧ b? = some b) b?.toList := by
  cases b? with
  | none => exact nothing fun _ _ => nofun
  | some b => exact single key fun k c => by rw [Option.some.injEq, eq_comm (a := b)]

/-- What stands below the items of a list; a place tells the item first. -/
def Below (R : α → List Nat → β → Prop) (items : List α) : List Nat → β → Prop
  | [], _ => False
  | i :: place, b => ∃ a, items[i]? = some a ∧ R a place b

theorem flatMapFrom {R : α → List Nat → β → Prop} {f : α → List β} {items : List α}
    (each : ∀ a ∈ items, Listing (R a) (f a)) (start : Nat) :
    ∃ entries : List (List Nat × β), entries.map Prod.snd = items.flatMap f ∧
      (entries.map Prod.fst).Pairwise (· < ·) ∧
      ∀ place b, (place, b) ∈ entries ↔ ∃ i rest, place = (start + i) :: rest ∧ Below R items (i :: rest) b := by
  -- The numbers of the items go up with the induction, so that it starts anywhere.
  induction items generalizing start with
  | nil => exact ⟨[], rfl, .nil, by simp [Below]⟩
  | cons a more ih =>
    obtain ⟨here, shownHere, orderedHere, sameHere⟩ := each a List.mem_cons_self
    obtain ⟨later, shownLater, orderedLater, sameLater⟩ :=
      ih (fun b member => each b (List.mem_cons_of_mem _ member)) (start + 1)
    refine ⟨here.map (fun entry => (start :: entry.1, entry.2)) ++ later, ?_, ?_, ?_⟩
    · rw [List.map_append, List.map_map, List.flatMap_cons, shownLater, ← shownHere]
      rfl
    · rw [List.map_append, List.map_map, List.pairwise_append]
      refine ⟨?_, orderedLater, ?_⟩
      · rw [List.pairwise_map] at orderedHere ⊢
        exact orderedHere.imp fun less => List.cons_lt_cons_iff.mpr (.inr ⟨rfl, less⟩)
      · intro left inHere right inLater
        obtain ⟨⟨place, b⟩, _, rfl⟩ := List.mem_map.mp inHere
        obtain ⟨⟨place', b'⟩, member, rfl⟩ := List.mem_map.mp inLater
        obtain ⟨i, rest, rfl, _⟩ := (sameLater place' b').mp member
        exact List.cons_lt_cons_iff.mpr (.inl (by omega))
    · intro place b
      rw [List.mem_append, sameLater]
      constructor
      · rintro (inHere | ⟨i, rest, rfl, a', found, inside⟩)
        · obtain ⟨⟨rest, b'⟩, member, same⟩ := List.mem_map.mp inHere
          cases same
          exact ⟨0, rest, rfl, a, rfl, (sameHere rest b').mp member⟩
        · exact ⟨i + 1, rest, by congr 1; omega, a', found, inside⟩
      · rintro ⟨i, rest, rfl, a', found, inside⟩
        cases i with
        | zero =>
          cases found
          exact .inl (List.mem_map.mpr ⟨(rest, b), (sameHere rest b).mpr inside, rfl⟩)
        | succ i => exact .inr ⟨i, rest, by congr 1; omega, a', found, inside⟩

theorem flatMap {R : α → List Nat → β → Prop} {f : α → List β} {items : List α}
    (each : ∀ a ∈ items, Listing (R a) (f a)) : Listing (Below R items) (items.flatMap f) := by
  obtain ⟨entries, shown, ordered, same⟩ := flatMapFrom each 0
  refine ⟨entries, shown, ordered, fun place b => (same place b).trans ?_⟩
  cases place with
  | nil => simp [Below]
  | cons i rest => simp [Below]

theorem filterMap (f : α → Option β) (items : List α) :
    Listing (fun place b => ∃ (i : Nat) (a : α), place = [i] ∧ items[i]? = some a ∧ f a = some b) (items.filterMap f) := by
  rw [List.filterMap_eq_flatMap_toList]
  refine (flatMap fun a _ => optional [] (f a)).congr fun place b => ?_
  cases place with
  | nil => simp [Below]
  | cons i rest =>
    constructor
    · rintro ⟨a, found, rfl, made⟩
      exact ⟨i, a, rfl, found, made⟩
    · rintro ⟨_, a, same, found, made⟩
      cases same
      exact ⟨a, found, rfl, made⟩

theorem under {R : List Nat → β → Prop} {items : List β} (i : Nat) (listing : Listing R items) :
    Listing (fun place b => ∃ rest, place = i :: rest ∧ R rest b) items := by
  obtain ⟨entries, rfl, ordered, same⟩ := listing
  refine ⟨entries.map fun entry => (i :: entry.1, entry.2), ?_, ?_, fun place b => ?_⟩
  · rw [List.map_map]
    rfl
  · rw [List.pairwise_map] at ordered
    rw [List.map_map, List.pairwise_map]
    exact ordered.imp fun less => List.cons_lt_cons_iff.mpr (.inr ⟨rfl, less⟩)
  · simp only [List.mem_map, Prod.exists, Prod.mk.injEq]
    constructor
    · rintro ⟨rest, c, member, rfl, rfl⟩
      exact ⟨rest, rfl, (same ..).mp member⟩
    · rintro ⟨rest, rfl, here⟩
      exact ⟨rest, b, (same ..).mpr here, rfl, rfl⟩

theorem ofEntries (f : String → α → Option β) (m : FileMap α) :
    Listing (fun path b => ∃ a, (path, a) ∈ m.entries ∧ f path a = some b)
      (m.entries.filterMap fun entry => f entry.1 entry.2) := by
  refine ⟨(m.filterMap f).entries, ?_, (m.filterMap f).ordered, fun path b => FileMap.memFilterMap⟩
  simp [FileMap.filterMap, FileMap.filterMapEntries, List.map_filterMap, Function.comp_def]

end Listing
end Syllabus
