import Mathlib.Data.Finset.Card
import Mathlib.Data.Finset.Dedup
import Mathlib.Data.List.Basic
import Syllabus.Proofs.FileMap
import Syllabus.Proofs.Listing
import Syllabus.Uniqueness

/-! First uses and repetitions. Every use of a key after the first one is told with the first one, and
nothing else is told. Where the uses stand in the order of their places, a use is repeated when there is
an earlier one of its key. -/
namespace Syllabus

theorem eraseDupsNodup {α : Type} [BEq α] [LawfulBEq α] : ∀ items : List α, items.eraseDups.Nodup
  | [] => by simp
  | a :: more => by
    rw [List.eraseDups_cons, List.nodup_cons, List.mem_eraseDups]
    exact ⟨by simp, eraseDupsNodup _⟩
termination_by items => items.length
decreasing_by simpa [Nat.lt_succ_iff] using List.length_filter_le ..

theorem eraseDupsSublist {α : Type} [BEq α] [LawfulBEq α] : ∀ items : List α, items.eraseDups.Sublist items
  | [] => by simp
  | a :: more => by
    rw [List.eraseDups_cons]
    exact ((eraseDupsSublist _).trans List.filter_sublist).cons_cons a
termination_by items => items.length
decreasing_by simpa [Nat.lt_succ_iff] using List.length_filter_le ..

theorem eraseDupsFilter {α : Type} [BEq α] [LawfulBEq α] (p : α → Bool) :
    ∀ items : List α, items.eraseDups.filter p = (items.filter p).eraseDups
  | [] => by simp
  | a :: more => by
    rw [List.eraseDups_cons, List.filter_cons, eraseDupsFilter p, List.filter_comm, List.filter_cons]
    split
    · rw [List.eraseDups_cons]
    · rename_i out
      congr 1
      refine List.filter_eq_self.mpr fun b member => ?_
      have kept := (List.mem_filter.mp member).2
      simp only [Bool.not_eq_eq_eq_not, Bool.not_true, beq_eq_false_iff_ne]
      rintro rfl
      exact out kept
termination_by items => items.length
decreasing_by simpa [Nat.lt_succ_iff] using List.length_filter_le ..

theorem eraseDupsMap {α β : Type} [BEq α] [LawfulBEq α] [BEq β] [LawfulBEq β] {f : α → β} :
    ∀ {items : List α}, (∀ a ∈ items, ∀ b ∈ items, f a = f b → a = b) → (items.map f).eraseDups = items.eraseDups.map f
  | [], _ => by simp
  | a :: more, apart => by
    have told : (more.map f).filter (fun b => !b == f a) = (more.filter fun b => !b == a).map f := by
      rw [List.filter_map]
      congr 1
      refine List.filter_congr fun b member => ?_
      have same : f b = f a ↔ b = a :=
        ⟨apart b (List.mem_cons_of_mem _ member) a List.mem_cons_self, congrArg f⟩
      simp only [Function.comp_apply, beq_eq_beq.mpr same]
    rw [List.map_cons, List.eraseDups_cons, List.eraseDups_cons, List.map_cons, told]
    congr 1
    refine eraseDupsMap fun b left c right => ?_
    exact apart b (List.mem_cons_of_mem _ (List.mem_filter.mp left).1) c (List.mem_cons_of_mem _ (List.mem_filter.mp right).1)
termination_by items => items.length
decreasing_by simpa [Nat.lt_succ_iff] using List.length_filter_le ..

namespace Uniqueness

variable {κ κ' α β : Type} [BEq κ] [BEq κ'] {key : α → κ}

theorem repeatsMap (f : β → α) (earlier items : List β) : repeats key (earlier.map f) (items.map f) =
    (repeats (fun b => key (f b)) earlier items).map (Prod.map f f) := by
  induction items generalizing earlier with
  | nil => rfl
  | cons b more ih =>
    have seen : (earlier.map f).find? (fun other => key other == key (f b)) =
        (earlier.find? fun other => key (f other) == key (f b)).map f := by
      rw [List.find?_map]
      rfl
    rw [List.map_cons, repeats, repeats, seen]
    cases earlier.find? fun other => key (f other) == key (f b) with
    | some first =>
      simp only [Option.map_some, List.map_cons, Prod.map_apply, ih]
    | none =>
      have later := ih (earlier ++ [b])
      rw [List.map_append] at later
      exact later

theorem repeatsSublist (earlier items : List α) : ((repeats key earlier items).map Prod.fst).Sublist items := by
  induction items generalizing earlier with
  | nil => exact .slnil
  | cons a more ih =>
    rw [repeats]
    split
    · exact (ih earlier).cons_cons a
    · exact (ih (earlier ++ [a])).cons a

variable [LawfulBEq κ] [LawfulBEq κ']

theorem repeatsCongr {other : α → κ'} {earlier items : List α}
    (alike : ∀ a ∈ earlier ++ items, ∀ b ∈ earlier ++ items, key a = key b ↔ other a = other b) :
    repeats key earlier items = repeats other earlier items := by
  induction items generalizing earlier with
  | nil => rfl
  | cons a more ih =>
    have seen : (earlier.find? fun b => key b == key a) = earlier.find? fun b => other b == other a := by
      have each : ∀ b ∈ earlier, (key b == key a) = (other b == other a) := by
        intro b member
        rw [Bool.eq_iff_iff, beq_iff_eq, beq_iff_eq]
        exact alike b (List.mem_append_left _ member) a (by simp)
      rw [← List.head?_filter, ← List.head?_filter, List.filter_congr each]
    rw [repeats, repeats, seen, ih fun b left c right => alike b (by grind) c (by grind),
      ih fun b left c right => alike b (by simpa using left) c (by simpa using right)]

theorem findSkips {earlier : List α} {a first : α} (found : (earlier.find? fun other => key other == key a) = some first)
    (more : List α) (k : κ) :
    ((earlier ++ a :: more).find? fun other => key other == k) = (earlier ++ more).find? fun other => key other == k := by
  rw [List.find?_append, List.find?_append, List.find?_cons]
  cases same : key a == k with
  | false => rfl
  | true =>
    rw [eq_of_beq same] at found
    rw [found]
    rfl

theorem memRepeats {earlier items : List α} {again first : α} :
    (again, first) ∈ repeats key earlier items ↔ ∃ before after, items = before ++ again :: after ∧
      ((earlier ++ before).find? fun other => key other == key again) = some first := by
  -- The earlier ones may leave repetitions out, as these are never the first of their key.
  induction items generalizing earlier with
  | nil => simp [repeats]
  | cons a more ih =>
    rw [repeats]
    cases seen : earlier.find? fun other => key other == key a with
    | some f =>
      simp only [List.mem_cons, Prod.mk.injEq, ih]
      constructor
      · rintro (⟨rfl, rfl⟩ | ⟨before, after, rfl, found⟩)
        · exact ⟨[], more, rfl, by rw [List.append_nil, seen]⟩
        · exact ⟨a :: before, after, rfl, by rw [findSkips seen, found]⟩
      · rintro ⟨before, after, split, found⟩
        cases before with
        | nil =>
          cases split
          rw [List.append_nil, seen] at found
          exact .inl ⟨rfl, (Option.some.inj found).symm⟩
        | cons b before =>
          cases split
          rw [findSkips seen] at found
          exact .inr ⟨before, after, rfl, found⟩
    | none =>
      simp only [ih]
      constructor
      · rintro ⟨before, after, rfl, found⟩
        exact ⟨a :: before, after, rfl, by simpa using found⟩
      · rintro ⟨before, after, split, found⟩
        cases before with
        | nil =>
          cases split
          rw [List.append_nil, seen] at found
          cases found
        | cons b before =>
          cases split
          exact ⟨before, after, rfl, by simpa using found⟩

theorem repeatsLength [DecidableEq κ] (earlier items : List α) : (repeats key earlier items).length +
    ((items.map key).toFinset \ (earlier.map key).toFinset).card = items.length := by
  induction items generalizing earlier with
  | nil => simp [repeats]
  | cons a more ih =>
    rw [repeats, List.map_cons, List.toFinset_cons, List.length_cons]
    cases seen : earlier.find? fun other => key other == key a with
    | some first =>
      have known : key a ∈ (earlier.map key).toFinset := by
        rw [List.mem_toFinset, List.mem_map]
        exact ⟨first, List.mem_of_find?_eq_some seen, by simpa using List.find?_some seen⟩
      rw [Finset.insert_sdiff_of_mem _ known, ← ih earlier, List.length_cons]
      omega
    | none =>
      have fresh : key a ∉ (earlier.map key).toFinset := by
        simpa using seen
      have whole : ((earlier ++ [a]).map key).toFinset = insert (key a) (earlier.map key).toFinset := by
        rw [List.map_append, List.map_singleton, List.toFinset_append, Finset.union_comm]
        rfl
      have apart : key a ∉ (more.map key).toFinset \ insert (key a) (earlier.map key).toFinset := by simp
      rw [← ih (earlier ++ [a]), whole, Nat.add_assoc, ← Finset.card_insert_of_notMem apart]
      congr 2
      ext k
      simp only [Finset.mem_sdiff, Finset.mem_insert]
      grind

theorem repeatsCount [DecidableEq κ] (items : List α) :
    (repeats key [] items).length + (items.map key).toFinset.card = items.length := by
  have length : (repeats key [] items).length + ((items.map key).toFinset \ (([] : List α).map key).toFinset).card =
    items.length := repeatsLength [] items
  rwa [List.map_nil, List.toFinset_nil, Finset.sdiff_empty] at length

theorem repeatsNil [DecidableEq κ] {items : List α} : repeats key [] items = [] ↔ (items.map key).Nodup := by
  have count : (repeats key [] items).length + (items.map key).toFinset.card = items.length := repeatsCount items
  have distinct : (items.map key).toFinset.card = (items.map key).length ↔ (items.map key).Nodup :=
    Multiset.toFinset_card_eq_card_iff_nodup
  rw [← distinct, ← List.length_eq_zero_iff, List.length_map]
  omega

variable {ι : Type} [LT ι] [Std.Irrefl fun a b : ι => a < b] [IsTrans ι (· < ·)] {place : α → ι}

theorem beforeIff {items before after : List α} {a b : α} (ordered : (items.map place).Pairwise (· < ·))
    (split : items = before ++ a :: after) (member : b ∈ items) : place b < place a ↔ b ∈ before := by
  subst split
  simp only [List.map_append, List.map_cons, List.pairwise_append, List.pairwise_cons] at ordered
  obtain ⟨_, ⟨behind, _⟩, ahead⟩ := ordered
  constructor
  · intro less
    rcases List.mem_append.mp member with inside | later
    · exact inside
    · rcases List.mem_cons.mp later with rfl | later
      · exact absurd less (Std.Irrefl.irrefl _)
      · exact absurd (trans_of (· < ·) less (behind _ (List.mem_map_of_mem later))) (Std.Irrefl.irrefl _)
  · intro inside
    exact ahead _ (List.mem_map_of_mem inside) _ List.mem_cons_self

theorem memRepeatsOrdered {items : List α} (ordered : (items.map place).Pairwise (· < ·)) {again first : α} :
    (again, first) ∈ repeats key [] items ↔ again ∈ items ∧ first ∈ items ∧ place first < place again ∧
      key first = key again ∧ ∀ other ∈ items, place other < place first → key other ≠ key again := by
  rw [memRepeats]
  constructor
  · rintro ⟨before, after, split, found⟩
    rw [List.nil_append, List.find?_eq_some_iff_append] at found
    obtain ⟨same, ahead, between, inside, others⟩ := found
    have member : first ∈ items := by simp [split, inside]
    refine ⟨by simp [split], member, (beforeIff ordered split member).mpr (by simp [inside]), by simpa using same, ?_⟩
    intro other present less
    have whole : items = ahead ++ first :: (between ++ again :: after) := by simp [split, inside]
    simpa using others other ((beforeIff ordered whole present).mp less)
  · rintro ⟨present, member, less, same, others⟩
    obtain ⟨before, after, split⟩ := List.append_of_mem present
    refine ⟨before, after, split, ?_⟩
    obtain ⟨ahead, between, inside⟩ := List.append_of_mem ((beforeIff ordered split member).mp less)
    rw [List.nil_append, List.find?_eq_some_iff_append]
    refine ⟨by simpa using same, ahead, between, inside, fun other ahead' => ?_⟩
    have whole : items = ahead ++ first :: (between ++ again :: after) := by simp [split, inside]
    have there : other ∈ items := by simp [whole, ahead']
    simpa using others other there ((beforeIff ordered whole there).mpr ahead')

theorem repeated {items : List α} (ordered : (items.map place).Pairwise (· < ·)) {again earlier : α}
    (present : again ∈ items) (other : earlier ∈ items) (less : place earlier < place again)
    (same : key earlier = key again) : ∃ first, (again, first) ∈ repeats key [] items := by
  obtain ⟨before, after, split⟩ := List.append_of_mem present
  have inside := (beforeIff ordered split other).mp less
  have hit : (before.find? fun other => key other == key again).isSome :=
    List.find?_isSome.mpr ⟨earlier, inside, by simpa using same⟩
  obtain ⟨first, found⟩ := Option.isSome_iff_exists.mp hit
  exact ⟨first, memRepeats.mpr ⟨before, after, split, by simpa using found⟩⟩

structure Repeats (R : ι → α → Prop) (key : α → κ) (place : ι) (again first : α) : Prop where
  here : R place again
  first : ∃ start, start < place ∧ R start first ∧ key first = key again ∧
    ∀ before other, before < start → R before other → key other ≠ key again

theorem repeatsListed {R : ι → α → Prop} {items : List α} (listing : Listing R items) :
    Listing (fun place (pair : α × α) => Repeats R key place pair.1 pair.2) (repeats key [] items) := by
  obtain ⟨entries, rfl, ordered, same⟩ := listing
  have told : repeats key [] (entries.map Prod.snd) =
      (repeats (fun entry : ι × α => key entry.2) [] entries).map (Prod.map Prod.snd Prod.snd) := repeatsMap Prod.snd [] entries
  have places : ((repeats (fun entry : ι × α => key entry.2) [] entries).map fun pair => pair.1.1).Sublist
      (entries.map Prod.fst) := by
    have inOrder : ((repeats (fun entry : ι × α => key entry.2) [] entries).map Prod.fst).Sublist entries :=
      repeatsSublist [] entries
    have places := inOrder.map Prod.fst
    rwa [List.map_map] at places
  refine ⟨(repeats (fun entry : ι × α => key entry.2) [] entries).map fun pair => (pair.1.1, pair.1.2, pair.2.2), ?_, ?_, ?_⟩
  · rw [told, List.map_map]
    rfl
  · rw [List.map_map]
    exact ordered.sublist places
  · rintro place ⟨again, first⟩
    simp only [List.mem_map, Prod.exists, memRepeatsOrdered ordered, Prod.mk.injEq]
    constructor
    · rintro ⟨_, _, start, _, ⟨here, there, less, alike, fresh⟩, rfl, rfl, rfl⟩
      refine ⟨(same ..).mp here, start, less, (same ..).mp there, alike, fun before other earlier declared => ?_⟩
      exact fresh (before, other) ((same ..).mpr declared) earlier
    · rintro ⟨here, start, less, there, alike, fresh⟩
      refine ⟨place, again, start, first, ⟨(same ..).mpr here, (same ..).mpr there, less, alike, ?_⟩, rfl, rfl, rfl⟩
      rintro ⟨before, other⟩ declared earlier
      exact fresh before other earlier ((same ..).mp declared)

theorem Repeats.ofEarlier {R : ι → α → Prop} {items : List α} (listing : Listing R items) {start place : ι}
    {earlier again : α} (here : R place again) (there : R start earlier) (less : start < place)
    (alike : key earlier = key again) : ∃ first, Repeats R key place again first := by
  obtain ⟨entries, rfl, ordered, same⟩ := listing
  have told : ∃ first, ((place, again), first) ∈ repeats (fun entry : ι × α => key entry.2) [] entries :=
    repeated ordered ((same ..).mpr here) ((same ..).mpr there) less alike
  obtain ⟨⟨start, first⟩, told⟩ := told
  obtain ⟨_, there, less, alike, fresh⟩ := (memRepeatsOrdered ordered).mp told
  refine ⟨first, here, start, less, (same ..).mp there, alike, fun before other earlier declared => ?_⟩
  exact fresh (before, other) ((same ..).mpr declared) earlier

variable {documents : List (String × Document)}

theorem memSlugPlaces {use : SlugPlace} : use ∈ slugPlaces documents ↔
    ∃ d, (use.file, d) ∈ documents ∧ d.kind = use.kind ∧ d.slug? = some (use.slug, use.line) := by
  simp only [slugPlaces, List.mem_filterMap, Option.map_eq_some_iff, Prod.exists]
  constructor
  · rintro ⟨file, d, member, slug, line, found, rfl⟩
    exact ⟨d, member, rfl, found⟩
  · rintro ⟨d, member, kind, found⟩
    refine ⟨use.file, d, member, use.slug, use.line, found, ?_⟩
    rw [kind]

theorem slugPlacesOrdered (ordered : (documents.map Prod.fst).Pairwise (· < ·)) :
    ((slugPlaces documents).map SlugPlace.file).Pairwise (· < ·) := by
  refine ordered.sublist ?_
  have paths := FileMap.filterMapPaths (fun _ (d : Document) => d.slug?) documents
  have same : (slugPlaces documents).map SlugPlace.file =
      (FileMap.filterMapEntries (fun _ (d : Document) => d.slug?) documents).map Prod.fst := by
    simp only [slugPlaces, FileMap.filterMapEntries, List.map_filterMap, Option.map_map]
    rfl
  rwa [same]

end Uniqueness
end Syllabus
