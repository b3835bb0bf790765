import Syllabus.Proofs.Document.WellFormed
import Syllabus.Proofs.Listing
import Syllabus.Proofs.Uniqueness
import Syllabus.Proofs.Uuid

/-! UUIDs across documents. Modules, learning outcomes, lenses and the pages in them declare UUIDs, each at
its place, and documents are read in the order given. A UUID that some earlier place declares is told with
the first place of it, and nothing else is told; two texts are the same UUID when they denote one number. -/
namespace Syllabus

inductive Document.Declares : Document → List Nat → IdentityUse → Prop
  | contentId {m : Module} {id : Identity} (declared : m.contentId = some id) : Declares (.module m) [0] ⟨"contentId", id⟩
  | moduleId {m : Module} {id : Identity} (declared : m.id = some id) : Declares (.module m) [1] ⟨"id", id⟩
  | modulePage {m : Module} {i : Nat} {page : Page} {id : Identity} (item : m.items[i]? = some (.page page))
      (declared : page.id = some id) : Declares (.module m) [2, i] ⟨"Page id", id⟩
  | outcomeId {outcome : LearningOutcome} : Declares (.learningOutcome outcome) [0] ⟨"id", outcome.id⟩
  | lensId {lens : Lens} : Declares (.lens lens) [0] ⟨"id", lens.id⟩
  | lensPage {lens : Lens} {i : Nat} {page : Page} {id : Identity} (part : lens.sections[i]? = some (.page page))
      (declared : page.id = some id) : Declares (.lens lens) [1, i] ⟨"Page id", id⟩

def Document.Accepted [Library] (d : Document) : Prop :=
  ∃ kind most file text, (parse kind most file text).value = some d

namespace Uniqueness

def IdentityPlace.bits (use : IdentityPlace) : Nat := Uuid.bits use.use.identity.value

def DeclaredAt (documents : List (String × Document)) : List Nat → IdentityPlace → Prop :=
  Listing.Below (fun entry place use => use.file = entry.1 ∧ entry.2.Declares place use.use) documents

def ToldAt (documents : List (String × Document)) (place : List Nat) (error : Diagnostic) : Prop :=
  ∃ again first, Repeats (DeclaredAt documents) IdentityPlace.bits place again first ∧
    error = ⟨again.file, some again.use.identity.line,
      "Duplicate id '" ++ again.use.identity.value ++ "' in " ++ again.use.field ++ ": already used as "
        ++ first.use.field ++ " in " ++ first.file,
      some "Generate a new UUID for one of them", .error⟩

structure IdentitiesSettled (documents : List (String × Document)) (told : List Diagnostic) : Prop where
  declared : Listing (DeclaredAt documents) (identityPlaces documents)
  bounded : ∀ use ∈ identityPlaces documents, use.bits < 2 ^ 128
  reported : Listing (ToldAt documents) told
  complete : ∀ start place earlier again, DeclaredAt documents start earlier → DeclaredAt documents place again →
    start < place → earlier.bits = again.bits → ∃ error, ToldAt documents place error
  count : told.length + ((identityPlaces documents).map IdentityPlace.bits).toFinset.card =
    (identityPlaces documents).length
  silent : told = [] ↔ ((identityPlaces documents).map IdentityPlace.bits).Nodup

theorem pageUses {α : Type} (page? : α → Option Page) (items : List α) :
    Listing (fun place use => ∃ (i : Nat) (item : α) (page : Page) (id : Identity), place = [i] ∧ items[i]? = some item ∧
      page? item = some page ∧ page.id = some id ∧ use = ⟨"Page id", id⟩)
      (Document.pageIdentities (items.filterMap page?)) := by
  rw [Document.pageIdentities, List.filterMap_filterMap]
  refine (Listing.filterMap _ items).congr fun place use => ?_
  simp only [Option.bind_eq_some_iff, Option.map_eq_some_iff]
  constructor
  · rintro ⟨i, item, there, found, page, has, id, declared, rfl⟩
    exact ⟨i, item, page, id, there, found, has, declared, rfl⟩
  · rintro ⟨i, item, page, id, there, found, has, declared, rfl⟩
    exact ⟨i, item, there, found, page, has, id, declared, rfl⟩

theorem moduleDeclares (m : Module) : Listing (Document.module m).Declares (Document.module m).identities := by
  have contentId := Listing.optional [0] (m.contentId.map (IdentityUse.mk "contentId"))
  have moduleId := Listing.optional [1] (m.id.map (IdentityUse.mk "id"))
  have pages (page? : ModuleItem → Option Page) := (pageUses page? m.items).under 2
  have header := contentId.append moduleId (by
    rintro _ _ _ _ ⟨rfl, _⟩ ⟨rfl, _⟩
    decide)
  refine (header.append (pages _) ?_).congr fun place use => ?_
  · rintro _ _ _ _ (⟨rfl, _⟩ | ⟨rfl, _⟩) ⟨rest, rfl, _⟩
    · exact List.cons_lt_cons_iff.mpr (.inl (by decide))
    · exact List.cons_lt_cons_iff.mpr (.inl (by decide))
  · simp only [Option.map_eq_some_iff]
    constructor
    · rintro ((⟨rfl, id, declared, rfl⟩ | ⟨rfl, id, declared, rfl⟩) | ⟨_, rfl, i, item, page, id, rfl, found, has, declared, rfl⟩)
      · exact .contentId declared
      · exact .moduleId declared
      · cases item with
        | page _ =>
          cases has
          exact .modulePage found declared
        | outcome _ => cases has
    · intro declares
      cases declares with
      | contentId declared => exact .inl (.inl ⟨rfl, _, declared, rfl⟩)
      | moduleId declared => exact .inl (.inr ⟨rfl, _, declared, rfl⟩)
      | modulePage item declared => exact .inr ⟨_, rfl, _, _, _, _, rfl, item, rfl, declared, rfl⟩

theorem lensDeclares (lens : Lens) : Listing (Document.lens lens).Declares (Document.lens lens).identities := by
  have lensId := Listing.optional [0] (some (IdentityUse.mk "id" lens.id))
  have pages (page? : LensSection → Option Page) := (pageUses page? lens.sections).under 1
  refine (lensId.append (pages _) ?_).congr fun place use => ?_
  · rintro _ _ _ _ ⟨rfl, _⟩ ⟨rest, rfl, _⟩
    exact List.cons_lt_cons_iff.mpr (.inl (by decide))
  · constructor
    · rintro (⟨rfl, same⟩ | ⟨_, rfl, i, part, page, id, rfl, found, has, declared, rfl⟩)
      · cases same
        exact .lensId
      · cases part with
        | page _ =>
          cases has
          exact .lensPage found declared
        | _ => cases has
    · intro declares
      cases declares with
      | lensId => exact .inl ⟨rfl, rfl⟩
      | lensPage part declared => exact .inr ⟨_, rfl, _, _, _, _, rfl, part, rfl, declared, rfl⟩

theorem identitiesDeclared (d : Document) : Listing d.Declares d.identities := by
  cases d with
  | module m => exact moduleDeclares m
  | learningOutcome outcome =>
    refine Listing.single [0] fun place use => ?_
    constructor
    · rintro ⟨⟩
      exact ⟨rfl, rfl⟩
    · rintro ⟨rfl, rfl⟩
      exact .outcomeId
  | lens lens => exact lensDeclares lens
  | _ => exact Listing.nothing fun _ _ => nofun

variable {documents : List (String × Document)}

theorem placesDeclared (documents : List (String × Document)) : Listing (DeclaredAt documents) (identityPlaces documents) := by
  refine Listing.flatMap fun entry _ => ?_
  refine ((identitiesDeclared entry.2).map (IdentityPlace.mk entry.1)).congr fun place use => ?_
  constructor
  · rintro ⟨inner, declares, rfl⟩
    exact ⟨rfl, declares⟩
  · rintro ⟨named, declares⟩
    exact ⟨use.use, declares, by rw [← named]⟩

theorem placeForm [Library] (accepted : ∀ entry ∈ documents, entry.2.Accepted) {use : IdentityPlace}
    (member : use ∈ identityPlaces documents) : Uuid.Form use.use.identity.value.toList := by
  obtain ⟨entry, among, inside⟩ := List.mem_flatMap.mp member
  obtain ⟨inner, declared, rfl⟩ := List.mem_map.mp inside
  obtain ⟨kind, most, file, text, read⟩ := accepted entry among
  obtain ⟨_, _, formed⟩ := Document.parsedWellFormed read
  exact formed.identities inner declared

theorem identitiesByBits [Library] (accepted : ∀ entry ∈ documents, entry.2.Accepted) : identities documents =
    (repeats IdentityPlace.bits [] (identityPlaces documents)).map fun pair => identityError pair.1 pair.2 := by
  rw [identities]
  congr 1
  refine repeatsCongr fun a left b right => ?_
  rw [List.nil_append] at left right
  exact Uuid.keyIffBits (placeForm accepted left) (placeForm accepted right)

theorem identitiesSettled [Library] (accepted : ∀ entry ∈ documents, entry.2.Accepted) :
    IdentitiesSettled documents (identities documents) := by
  have declared := placesDeclared documents
  rw [identitiesByBits accepted]
  refine ⟨declared, fun use member => Uuid.bitsBound (placeForm accepted member), ?_, ?_, ?_, ?_⟩
  · refine ((repeatsListed declared).map fun pair => identityError pair.1 pair.2).congr fun place error => ?_
    constructor
    · rintro ⟨⟨again, first⟩, told, rfl⟩
      exact ⟨again, first, told, rfl⟩
    · rintro ⟨again, first, told, rfl⟩
      exact ⟨(again, first), told, rfl⟩
  · intro start place earlier again there here less alike
    obtain ⟨first, told⟩ := Repeats.ofEarlier declared here there less alike
    exact ⟨_, again, first, told, rfl⟩
  · rw [List.length_map]
    exact repeatsCount _
  · rw [List.map_eq_nil_iff]
    exact repeatsNil

def sharedLensText : String :=
  "---\nid: 550e8400-e29b-41d4-a716-446655440000\n---\n### Page: P\nid:: 550E8400-E29B-41D4-A716-446655440000\n#### Text\ncontent:: Hi\n"

def sharedOutcomeText : String := "---\nid: 550e8400-E29B-41d4-a716-446655440000\n---\n## Lens:\nsource:: [[l]]\n"

def sharedLens : Lens where
  id := ⟨"550e8400-e29b-41d4-a716-446655440000", 2⟩
  tier := .production
  sections :=
    [.page ⟨"P", some ⟨"550E8400-E29B-41D4-A716-446655440000", 5⟩, false, [⟨.text "Hi", false, 6⟩], 4⟩]

def sharedOutcome : LearningOutcome :=
  ⟨⟨"550e8400-E29B-41d4-a716-446655440000", 2⟩, none, .production, [⟨⟨"l", none, none⟩, false, 5⟩]⟩

def sharedDocuments : List (String × Document) :=
  [("lenses/l.md", .lens sharedLens), ("learning outcomes/o.md", .learningOutcome sharedOutcome)]

theorem sharedAccepted : ∀ entry ∈ sharedDocuments, entry.2.Accepted := by
  have lens : (Document.parse .lens 3 "lenses/l.md" sharedLensText).value = some (.lens sharedLens) := by decide +kernel
  have outcome : (Document.parse .learningOutcome 3 "learning outcomes/o.md" sharedOutcomeText).value =
      some (.learningOutcome sharedOutcome) := by
    decide +kernel
  intro entry member
  simp only [sharedDocuments, List.mem_cons, List.not_mem_nil, or_false] at member
  rcases member with rfl | rfl
  · exact ⟨_, _, _, _, lens⟩
  · exact ⟨_, _, _, _, outcome⟩

theorem sharedIdentitySettled : IdentitiesSettled sharedDocuments (identities sharedDocuments) ∧
    identities sharedDocuments =
      [⟨"lenses/l.md", some 5,
          "Duplicate id '550E8400-E29B-41D4-A716-446655440000' in Page id: already used as id in lenses/l.md",
          some "Generate a new UUID for one of them", .error⟩,
        ⟨"learning outcomes/o.md", some 2,
          "Duplicate id '550e8400-E29B-41d4-a716-446655440000' in id: already used as id in lenses/l.md",
          some "Generate a new UUID for one of them", .error⟩] :=
  ⟨identitiesSettled sharedAccepted, (identitiesByBits sharedAccepted).trans (by decide +kernel)⟩

end Uniqueness
end Syllabus
