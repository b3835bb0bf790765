import Syllabus.Proofs.Expansion.Account
import Syllabus.Proofs.Listing

/-! The sections of a module by the ways that lead to them. A way goes from an item of the module over
references that are granted, and its place tells which item, which lens and which part it takes. The
expansion is the list of all that is reached, in the order of the places: what becomes of one way does
not depend on any other. -/
namespace Syllabus

structure Page.Makes (page : Page) (s : Artifact.Section) : Prop where
  kind : s.kind = .page
  title : s.title = page.title
  contentId : s.contentId = page.id.map Identity.value
  source : s.source = none
  segments : s.segments = page.segments.filterMap Expansion.plainSegment?

structure SourceSection.Makes (part : SourceSection) (kind : Artifact.SectionKind) (source : Artifact.Source)
    (segments : List Artifact.Segment) (s : Artifact.Section) : Prop where
  kind : s.kind = kind
  title : s.title = part.title
  contentId : s.contentId = none
  source : s.source = some source
  segments : s.segments = segments

structure Artifact.Section.Carries (s : Artifact.Section) (outcomeId lensId : Option String) (skippable : Prop) :
    Prop where
  outcomeId : s.outcomeId = outcomeId
  lensId : s.lensId = lensId
  optional : s.optional = true ↔ skippable

def LensSection.optional : LensSection → Bool
  | .page p => p.optional
  | .article part => part.source.optional
  | .video part => part.source.optional

namespace Expansion

inductive PartMakes (x : Expansion) (origin : Referrer) : LensSection → Artifact.Section → Prop where
  | page {page s} (makes : page.Makes s) : PartMakes x origin (.page page) s
  | article {part path a s} (granted : x.granted? origin part.source .article = some (path, .article a))
      (makes : part.Makes .article (articleSource a) (made (articleSegments origin.path a.body part.segments)) s) :
      PartMakes x origin (.article part) s
  | video {part path v s} (granted : x.granted? origin part.source .videoTranscript = some (path, .videoTranscript v))
      (makes : part.Makes .video (videoSource v)
        (made (videoSegments origin.path v.body (x.wordsOf path).1 part.segments)) s) :
      PartMakes x origin (.video part) s

inductive Reached (x : Expansion) (path : String) (m : Module) : List Nat → Artifact.Section → Prop where
  | page {i page s} (item : m.items[i]? = some (.page page)) (makes : page.Makes s)
      (carries : s.Carries none none (page.optional = true)) : Reached x path m [i] s
  | part {i j k reference outcomePath outcome lensReference lensPath lens part s}
      (item : m.items[i]? = some (.outcome reference))
      (outcomeGranted : x.granted? (.root path .module m.tier) reference .learningOutcome =
        some (outcomePath, .learningOutcome outcome))
      (lensItem : outcome.lenses[j]? = some lensReference)
      (lensGranted : x.granted? ((Referrer.root path .module m.tier).enter outcomePath .learningOutcome outcome.tier)
        lensReference .lens = some (lensPath, .lens lens))
      (partItem : lens.sections[k]? = some part)
      (makes : x.PartMakes (((Referrer.root path .module m.tier).enter outcomePath .learningOutcome outcome.tier).enter
        lensPath .lens lens.tier) part s)
      (carries : s.Carries (some outcome.id.value) (some lens.id.value)
        (reference.optional = true ∨ lensReference.optional = true ∨ part.optional = true)) :
      Reached x path m [i, j, k] s

variable {x : Expansion} {origin : Referrer} {reference : Reference} {expected : Kind}

theorem carriesEither {s : Artifact.Section} {outcomeId lensId : Option String} {a b : Bool} :
    s.Carries outcomeId lensId (a = true ∨ b = true) ↔
      s.outcomeId = outcomeId ∧ s.lensId = lensId ∧ s.optional = (a || b) := by
  have flags : (s.optional = true ↔ a = true ∨ b = true) ↔ s.optional = (a || b) := by
    rw [← Bool.or_eq_true, ← Bool.eq_iff_iff]
  constructor
  · intro carries
    exact ⟨carries.outcomeId, carries.lensId, flags.mp carries.optional⟩
  · rintro ⟨outcome, lens, optional⟩
    exact ⟨outcome, lens, flags.mpr optional⟩

theorem pageOnly {page : Page} {lineage : Lineage} {s : Artifact.Section} :
    (page.Makes s ∧ s.Carries lineage.outcomeId lineage.lensId (lineage.optional = true ∨ page.optional = true)) ↔
      s = pageSection page lineage := by
  rw [carriesEither]
  constructor
  · rintro ⟨makes, outcomeId, lensId, optional⟩
    cases s
    simp only [pageSection, Artifact.Section.mk.injEq]
    exact ⟨makes.kind, makes.title, makes.contentId, outcomeId, lensId, optional, makes.source, makes.segments⟩
  · rintro rfl
    exact ⟨⟨rfl, rfl, rfl, rfl, rfl⟩, rfl, rfl, rfl⟩

theorem sourceOnly {part : SourceSection} {kind : Artifact.SectionKind} {source : Artifact.Source}
    {segments : List Artifact.Segment} {lineage : Lineage} {s : Artifact.Section} :
    (part.Makes kind source segments s ∧
        s.Carries lineage.outcomeId lineage.lensId (lineage.optional = true ∨ part.source.optional = true)) ↔
      s = sourceSection kind source part lineage segments := by
  rw [carriesEither]
  constructor
  · rintro ⟨makes, outcomeId, lensId, optional⟩
    cases s
    simp only [sourceSection, Artifact.Section.mk.injEq]
    exact ⟨makes.kind, makes.title, makes.contentId, outcomeId, lensId, optional, makes.source, makes.segments⟩
  · rintro rfl
    exact ⟨⟨rfl, rfl, rfl, rfl, rfl⟩, rfl, rfl, rfl⟩

def PartAt (x : Expansion) (origin : Referrer) (lineage : Lineage) (part : LensSection) (place : List Nat)
    (s : Artifact.Section) : Prop :=
  place = [] ∧ x.PartMakes origin part s ∧
    s.Carries lineage.outcomeId lineage.lensId (lineage.optional = true ∨ part.optional = true)

theorem followListing {R : String → Document → List Nat → Artifact.Section → Prop}
    {next : String → Document → List Step}
    (each : ∀ path d, x.granted? origin reference expected = some (path, d) →
      Listing (R path d) ((next path d).filterMap Step.section?)) :
    Listing (fun place s => ∃ path d, x.granted? origin reference expected = some (path, d) ∧ R path d place s)
      ((x.follow origin reference expected next).filterMap Step.section?) := by
  rw [followEq, List.filterMap_cons_none rfl]
  cases granted : x.granted? origin reference expected with
  | none => exact .nothing (by simp)
  | some document =>
    obtain ⟨path, d⟩ := document
    refine (each path d granted).congr fun place s => ?_
    simp

def SourceAt (part : SourceSection) (lineage : Lineage) (kind : Artifact.SectionKind) (source : Artifact.Source)
    (segments : List Artifact.Segment) (place : List Nat) (s : Artifact.Section) : Prop :=
  place = [] ∧ part.Makes kind source segments s ∧
    s.Carries lineage.outcomeId lineage.lensId (lineage.optional = true ∨ part.source.optional = true)

theorem sourceListing (part : SourceSection) (lineage : Lineage) (kind : Artifact.SectionKind)
    (source : Artifact.Source) (segments : List Artifact.Segment) :
    Listing (SourceAt part lineage kind source segments) [sourceSection kind source part lineage segments] :=
  .single [] fun _ _ => and_congr_right fun _ => sourceOnly

theorem partListing (origin : Referrer) (lineage : Lineage) (part : LensSection) :
    Listing (x.PartAt origin lineage part) ((x.partSteps origin lineage part).filterMap Step.section?) := by
  cases part with
  | page page =>
    refine .single [] fun place s => and_congr_right fun _ => ?_
    rw [← pageOnly]
    refine and_congr_left fun _ => ⟨fun makes => ?_, .page⟩
    cases makes with
    | page makes => exact makes
  | article part =>
    refine (followListing (R := fun _ d place s => ∃ a, d = .article a ∧ SourceAt part lineage .article
      (articleSource a) (made (articleSegments origin.path a.body part.segments)) place s) ?_).congr ?_
    · intro path d granted
      cases d with
      | article a =>
        rw [problemsPass]
        exact (sourceListing ..).congr (by simp)
      | _ => exact .nothing (by simp)
    · intro place s
      constructor
      · rintro ⟨path, _, granted, a, rfl, ends, makes, carries⟩
        exact ⟨ends, .article granted makes, carries⟩
      · rintro ⟨ends, makes, carries⟩
        cases makes with
        | article granted makes => exact ⟨_, _, granted, _, rfl, ends, makes, carries⟩
  | video part =>
    refine (followListing (R := fun path d place s => ∃ v, d = .videoTranscript v ∧ SourceAt part lineage .video
      (videoSource v) (made (videoSegments origin.path v.body (x.wordsOf path).1 part.segments)) place s) ?_).congr ?_
    · intro path d granted
      cases d with
      | videoTranscript v =>
        dsimp only
        rw [problemsPass]
        exact (sourceListing ..).congr (by simp)
      | _ => exact .nothing (by simp)
    · intro place s
      constructor
      · rintro ⟨path, _, granted, v, rfl, ends, makes, carries⟩
        exact ⟨ends, .video granted makes, carries⟩
      · rintro ⟨ends, makes, carries⟩
        cases makes with
        | video granted makes => exact ⟨_, _, granted, _, rfl, ends, makes, carries⟩

def LensAt (x : Expansion) (origin : Referrer) (lineage : Lineage) (reference : Reference) (place : List Nat)
    (s : Artifact.Section) : Prop :=
  ∃ path d, x.granted? origin reference .lens = some (path, d) ∧ ∃ lens : Lens, d = .lens lens ∧
    Listing.Below (x.PartAt (origin.enter path .lens lens.tier) { lineage with lensId := some lens.id.value })
      lens.sections place s

theorem lensListing (origin : Referrer) (lineage : Lineage) (reference : Reference) :
    Listing (x.LensAt origin lineage reference) ((x.lensSteps origin lineage reference).filterMap Step.section?) := by
  refine followListing fun path d granted => ?_
  cases d with
  | lens lens =>
    rw [List.filterMap_flatMap]
    exact (Listing.flatMap fun part _ => partListing _ _ part).congr (by simp)
  | _ => exact .nothing (by simp)

def OutcomeAt (x : Expansion) (origin : Referrer) (reference : Reference) (place : List Nat)
    (s : Artifact.Section) : Prop :=
  ∃ path d, x.granted? origin reference .learningOutcome = some (path, d) ∧
    ∃ outcome : LearningOutcome, d = .learningOutcome outcome ∧
      Listing.Below (fun lens => x.LensAt (origin.enter path .learningOutcome outcome.tier)
        ⟨some outcome.id.value, none, reference.optional || lens.optional⟩ lens) outcome.lenses place s

theorem outcomeListing (origin : Referrer) (reference : Reference) :
    Listing (x.OutcomeAt origin reference) ((x.outcomeSteps origin reference).filterMap Step.section?) := by
  refine followListing fun path d granted => ?_
  cases d with
  | learningOutcome outcome =>
    rw [List.filterMap_flatMap]
    exact (Listing.flatMap fun lens _ => lensListing _ _ lens).congr (by simp)
  | _ => exact .nothing (by simp)

def ItemAt (x : Expansion) (origin : Referrer) : ModuleItem → List Nat → Artifact.Section → Prop
  | .page page, place, s => place = [] ∧ page.Makes s ∧ s.Carries none none (page.optional = true)
  | .outcome reference, place, s => x.OutcomeAt origin reference place s

theorem itemListing (origin : Referrer) (item : ModuleItem) :
    Listing (x.ItemAt origin item) ((x.itemSteps origin item).filterMap Step.section?) := by
  cases item with
  | page page =>
    refine .single [] fun place s => and_congr_right fun _ => ?_
    simpa [Lineage.none] using @pageOnly page .none s
  | outcome reference => exact outcomeListing origin reference

theorem reachedIff {path : String} {m : Module} {place : List Nat} {s : Artifact.Section} :
    Listing.Below (x.ItemAt (.root path .module m.tier)) m.items place s ↔ x.Reached path m place s := by
  constructor
  · intro below
    cases place with
    | nil => exact below.elim
    | cons i place =>
    obtain ⟨item, found, below⟩ := below
    cases item with
    | page page =>
      obtain ⟨rfl, makes, carries⟩ := below
      exact .page found makes carries
    | outcome reference =>
    obtain ⟨outcomePath, _, outcomeGranted, outcome, rfl, below⟩ := below
    cases place with
    | nil => exact below.elim
    | cons j place =>
    obtain ⟨lensReference, lensItem, lensPath, _, lensGranted, lens, rfl, below⟩ := below
    cases place with
    | nil => exact below.elim
    | cons k place =>
    obtain ⟨part, partItem, rfl, makes, carries⟩ := below
    refine .part found outcomeGranted lensItem lensGranted partItem makes ?_
    simpa [or_assoc] using carries
  · intro reached
    cases reached with
    | page item makes carries => exact ⟨_, item, rfl, makes, carries⟩
    | part item outcomeGranted lensItem lensGranted partItem makes carries =>
      refine ⟨_, item, _, _, outcomeGranted, _, rfl, _, lensItem, _, _, lensGranted, _, rfl, _, partItem, rfl, makes, ?_⟩
      simpa [or_assoc] using carries

theorem moduleAppended (x : Expansion) (path : String) (m : Module) (xs ys : List ModuleItem) :
    x.moduleSteps path { m with items := xs ++ ys } =
      x.moduleSteps path { m with items := xs } ++ x.moduleSteps path { m with items := ys } :=
  List.flatMap_append

theorem articleMakes (filed : x.index.Filed) {part : SourceSection}
    (granted : (x.granted? origin part.source .article).isSome) : ∃ s, x.PartMakes origin (.article part) s := by
  obtain ⟨⟨path, d⟩, granted⟩ := Option.isSome_iff_exists.mp granted
  have kind := (grantedFiled filed granted).1
  cases d with
  | article a => exact ⟨sourceSection .article (articleSource a) part .none _, .article granted ⟨rfl, rfl, rfl, rfl, rfl⟩⟩
  | _ => cases kind

theorem videoMakes (filed : x.index.Filed) {part : SourceSection}
    (granted : (x.granted? origin part.source .videoTranscript).isSome) : ∃ s, x.PartMakes origin (.video part) s := by
  obtain ⟨⟨path, d⟩, granted⟩ := Option.isSome_iff_exists.mp granted
  have kind := (grantedFiled filed granted).1
  cases d with
  | videoTranscript v =>
    exact ⟨sourceSection .video (videoSource v) part .none _, .video granted ⟨rfl, rfl, rfl, rfl, rfl⟩⟩
  | _ => cases kind

theorem sectionsReached (x : Expansion) (path : String) (m : Module) :
    Listing (x.Reached path m) (x.expandModule path m).1.sections ∧
    (x.index.Filed → ∀ (origin : Referrer) (part : SourceSection),
      ((x.granted? origin part.source .article).isSome → ∃ s, x.PartMakes origin (.article part) s) ∧
      ((x.granted? origin part.source .videoTranscript).isSome → ∃ s, x.PartMakes origin (.video part) s)) ∧
    ∀ xs ys : List ModuleItem,
      (x.expandModule path { m with items := xs ++ ys }).1.sections =
        (x.expandModule path { m with items := xs }).1.sections ++
          (x.expandModule path { m with items := ys }).1.sections ∧
      (x.expandModule path { m with items := xs ++ ys }).2 =
        (x.expandModule path { m with items := xs }).2 ++ (x.expandModule path { m with items := ys }).2 := by
  refine ⟨?_, fun filed origin part => ?_, fun xs ys => ?_⟩
  · have listing : Listing (Listing.Below (x.ItemAt (.root path .module m.tier)) m.items)
        (m.items.flatMap fun item => (x.itemSteps (.root path .module m.tier) item).filterMap Step.section?) :=
      .flatMap fun item _ => itemListing _ item
    rw [← List.filterMap_flatMap] at listing
    exact listing.congr fun _ _ => reachedIff
  · exact ⟨articleMakes filed, videoMakes filed⟩
  · simp only [expandModule, moduleAppended, List.filterMap_append, findingsOf, List.flatMap_append, and_self]

def readingLens : Lens :=
  ⟨⟨"550e8400-e29b-41d4-a716-446655440000", 2⟩, .production,
    [.article ⟨"Reading", ⟨⟨"articles/a", none, none⟩, false, 5⟩, [⟨.text "Hello", false, 6⟩], 4⟩]⟩

def misfiledSource : Expansion where
  index :=
    { files :=
        ⟨[("articles/a.md", ⟨.article, .production, some (.lens (overviewLens .production))⟩),
          ("learning outcomes/core.md", ⟨.learningOutcome, .production, some (.learningOutcome coreOutcome)⟩),
          ("lenses/overview.md", ⟨.lens, .production, some (.lens readingLens)⟩)],
          by simp only [List.map_cons, List.map_nil]; decide⟩
      sidecars := .empty }
  most := 3

theorem misfiledSourceMakesNothing :
    let root := Referrer.root "modules/intro.md" .module .production
    let outcome := root.enter "learning outcomes/core.md" .learningOutcome .production
    let lens := outcome.enter "lenses/overview.md" .lens .production
    misfiledSource.granted? root ⟨⟨"learning outcomes/core", none, none⟩, false, 6⟩ .learningOutcome =
        some ("learning outcomes/core.md", .learningOutcome coreOutcome) ∧
      misfiledSource.granted? outcome ⟨⟨"lenses/overview", none, none⟩, false, 5⟩ .lens =
        some ("lenses/overview.md", .lens readingLens) ∧
      (misfiledSource.granted? lens ⟨⟨"articles/a", none, none⟩, false, 5⟩ .article).isSome = true ∧
      (misfiledSource.expandModule "modules/intro.md" introModule).1.sections = [] := by
  decide +kernel

end Expansion
end Syllabus
