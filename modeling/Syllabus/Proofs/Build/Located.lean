import Syllabus.Proofs.Build.Slugs
import Syllabus.Proofs.Document.Recorded
import Syllabus.Proofs.Expansion.Steps

/-! Where the findings of a build stand. Each names a file of the vault that is not ignored, and perhaps a line of
it: the readers name the file they read, the checks of names and the walk the file that declares or refers, and a
file of words is named as a whole. -/
namespace Syllabus.Build
open Text (Within)

variable [Library]

/-- The finding names a file that is there and not ignored, and at most the line below its last one. -/
def Located (files : FileMap String) (d : Diagnostic) : Prop :=
  ∃ text, files.get? d.file = some text ∧ (VaultPath.isMarkdown d.file = true → tierOfText text ≠ .ignored) ∧
    ∀ n, d.line = some n → 1 ≤ n ∧ n ≤ (Text.lines text).length + 1

structure Site (files : FileMap String) (path text : String) : Prop where
  present : files.get? path = some text
  active : tierOfText text ≠ .ignored

def StepLocated (files : FileMap String) (step : Step) : Prop := ∀ d ∈ step.findings, Located files d

variable {files : FileMap String} {config : Config} {path text : String}

theorem Site.located (site : Site files path text) {d : Diagnostic} (here : d.file = path)
    (within : ∀ n, d.line = some n → Within text n) : Located files d := by
  subst here
  exact ⟨text, site.present, fun _ => site.active, within⟩

theorem partakesSite {d : Document} (partakes : Partakes files config path d) :
    ∃ text, Site files path text ∧ d.Recorded (Within text) := by
  obtain ⟨text, kind, present, _, read, active⟩ := partakes
  refine ⟨text, ⟨present, ?_⟩, Document.recordedWithin read⟩
  rw [← parseTier read]
  simpa [Tier.isIgnored] using active

theorem readFindingsLocated : ∀ d ∈ readFindings (readFiles files config), Located files d := by
  intro d member
  rw [readFindingsEntries] at member
  obtain ⟨⟨path, text⟩, inside, found⟩ := List.mem_flatMap.mp member
  unfold entryFindings at found
  split at found
  · cases found
  · split at found
    · cases found
    · rename_i kind _ active
      obtain ⟨r, remark, rfl⟩ := List.mem_map.mp found
      have site : Site files path text := ⟨FileMap.get?Iff.mpr inside, by simpa [Tier.isIgnored] using active⟩
      exact site.located rfl fun n same => Document.readPlaced kind config.reach.fields text r remark n same

theorem identitiesLocated : ∀ d ∈ Uniqueness.identities (active (expansion files config).index), Located files d := by
  intro d member
  obtain ⟨⟨again, first⟩, told, rfl⟩ := List.mem_map.mp member
  obtain ⟨before, after, split, _⟩ := Uniqueness.memRepeats.mp told
  have present : again ∈ Uniqueness.identityPlaces (active (expansion files config).index) := by simp [split]
  obtain ⟨⟨path, document⟩, taking, declared⟩ := List.mem_flatMap.mp present
  obtain ⟨use, inside, rfl⟩ := List.mem_map.mp declared
  obtain ⟨text, site, recorded⟩ := partakesSite (memActive.mp taking)
  refine site.located rfl fun n same => ?_
  cases same
  exact recorded.identities use inside

theorem slugsLocated : ∀ d ∈ Uniqueness.slugs (active (expansion files config).index), Located files d := by
  intro d member
  obtain ⟨⟨again, first⟩, told, rfl⟩ := List.mem_map.mp member
  obtain ⟨document, taking, _, found⟩ := Uniqueness.memSlugPlaces.mp (repeatsFirst told).1
  obtain ⟨text, site, recorded⟩ := partakesSite (memActive.mp taking)
  refine site.located rfl fun n same => ?_
  cases same
  exact recorded.slug _ _ found

theorem visitLocated {v : Visit} (site : Site files v.origin.path text) (within : Within text v.reference.line) :
    ∀ d ∈ v.findings, Located files d := by
  have error : ∀ message suggestion, Located files (v.error message suggestion) := by
    intro message suggestion
    refine site.located rfl fun n same => ?_
    cases same
    exact within
  intro d found
  unfold Visit.findings at found
  split at found
  · rw [List.mem_singleton.mp found]
    exact error _ _
  · cases found
  · split at found
    · rw [List.mem_singleton.mp found]
      exact error _ _
    · cases found

theorem followLocated {origin : Referrer} {reference : Reference} {expected : Kind}
    {next : String → Document → List Step} (site : Site files origin.path text) (within : Within text reference.line)
    (inside : ∀ path d, Partakes files config path d → ∀ step ∈ next path d, StepLocated files step) :
    ∀ step ∈ (expansion files config).follow origin reference expected next, StepLocated files step := by
  intro step member
  rw [Expansion.followEq] at member
  rcases List.mem_cons.mp member with same | later
  · rw [same]
    exact visitLocated site within
  · cases granted : (expansion files config).granted? origin reference expected with
    | none => simp [granted] at later
    | some document =>
      obtain ⟨path, d⟩ := document
      rw [granted] at later
      exact inside path d (grantedPartakes granted) step later

theorem sourceLocated {problems : List Diagnostic} (each : ∀ d ∈ problems, Located files d) (s : Artifact.Section) :
    ∀ step ∈ problems.map Step.problem ++ [.section s], StepLocated files step := by
  intro step member d found
  rcases List.mem_append.mp member with problem | last
  · obtain ⟨other, inside, rfl⟩ := List.mem_map.mp problem
    cases List.mem_singleton.mp found
    exact each d inside
  · cases List.mem_singleton.mp last
    cases found

theorem excerptLocated {origin : Referrer} {segments : List Segment} {d : Diagnostic}
    (site : Site files origin.path text) (within : ∀ s ∈ segments, Within text s.line)
    (failure : ∃ s ∈ segments, ∃ cause : ExcerptFailure, d = cause.inFile origin.path s.line) : Located files d := by
  obtain ⟨s, member, cause, rfl⟩ := failure
  refine site.located rfl fun n same => ?_
  cases same
  exact within s member

theorem wordsLocated {d : Diagnostic} (failure : d ∈ ((expansion files config).wordsOf path).2) : Located files d := by
  obtain ⟨⟨text, present⟩, here, none, _⟩ := Expansion.wordsProblem failure
  obtain ⟨text, there, kept⟩ := FileMap.get?FilterMap.mp present
  have sidecar : VaultPath.isSidecar (VaultPath.sidecar path) = true := by
    split at kept
    · assumption
    · cases kept
  refine ⟨text, by rw [here]; exact there, ?_, by simp [none]⟩
  simp [here, notMarkdown sidecar]

section Walk

variable {origin : Referrer} (site : Site files origin.path text)
include site

theorem articleStepsLocated {part : SourceSection} (recorded : part.Recorded (Within text)) (lineage : Lineage) :
    ∀ step ∈ (expansion files config).articleSteps origin part lineage, StepLocated files step := by
  refine followLocated site recorded.source fun path d _ step member => ?_
  cases d with
  | article article =>
    refine sourceLocated (fun d failure => ?_) _ step member
    exact excerptLocated site recorded.segments (Expansion.articleProblem (Expansion.memFailed.mp failure))
  | _ => cases member

theorem videoStepsLocated {part : SourceSection} (recorded : part.Recorded (Within text)) (lineage : Lineage) :
    ∀ step ∈ (expansion files config).videoSteps origin part lineage, StepLocated files step := by
  refine followLocated site recorded.source fun path d _ step member => ?_
  cases d with
  | videoTranscript video =>
    refine sourceLocated (fun d failure => ?_) _ step member
    rcases List.mem_append.mp failure with words | excerpt
    · exact wordsLocated words
    · exact excerptLocated site recorded.segments (Expansion.videoProblem (Expansion.memFailed.mp excerpt))
  | _ => cases member

theorem partStepsLocated {part : LensSection} (recorded : part.Recorded (Within text)) (lineage : Lineage) :
    ∀ step ∈ (expansion files config).partSteps origin lineage part, StepLocated files step := by
  cases part with
  | page page =>
    intro step member d found
    cases List.mem_singleton.mp member
    cases found
  | article part => exact articleStepsLocated site recorded lineage
  | video part => exact videoStepsLocated site recorded lineage

theorem lensStepsLocated {reference : Reference} (within : Within text reference.line) (lineage : Lineage) :
    ∀ step ∈ (expansion files config).lensSteps origin lineage reference, StepLocated files step := by
  refine followLocated site within fun path d partakes step member => ?_
  obtain ⟨_, there, recorded⟩ := partakesSite partakes
  cases d with
  | lens lens =>
    obtain ⟨part, inside, member⟩ := List.mem_flatMap.mp member
    exact partStepsLocated there (recorded.parts part inside) _ step member
  | _ => cases member

theorem outcomeStepsLocated {reference : Reference} (within : Within text reference.line) :
    ∀ step ∈ (expansion files config).outcomeSteps origin reference, StepLocated files step := by
  refine followLocated site within fun path d partakes step member => ?_
  obtain ⟨_, there, recorded⟩ := partakesSite partakes
  cases d with
  | learningOutcome outcome =>
    obtain ⟨lens, inside, member⟩ := List.mem_flatMap.mp member
    exact lensStepsLocated there (recorded.parts lens inside) _ step member
  | _ => cases member

theorem courseItemStepsLocated {reference : Reference} (within : Within text reference.line) :
    ∀ step ∈ (expansion files config).courseItemSteps origin reference, StepLocated files step := by
  refine followLocated site within fun path d _ step member => ?_
  cases d with
  | module m =>
    cases List.mem_singleton.mp member
    exact fun d found => nomatch found
  | _ => cases member

end Walk

theorem moduleStepsLocated {m : Module} (partakes : Partakes files config path (.module m)) :
    ∀ step ∈ (expansion files config).moduleSteps path m, StepLocated files step := by
  intro step member
  obtain ⟨_, site, recorded⟩ := partakesSite partakes
  obtain ⟨item, inside, member⟩ := List.mem_flatMap.mp member
  have here := recorded.parts item inside
  cases item with
  | page page =>
    cases List.mem_singleton.mp member
    exact fun d found => nomatch found
  | outcome reference => exact outcomeStepsLocated site here step member

theorem courseStepsLocated {c : Course} (partakes : Partakes files config path (.course c)) :
    ∀ step ∈ (expansion files config).courseSteps path c, StepLocated files step := by
  intro step member
  obtain ⟨_, site, recorded⟩ := partakesSite partakes
  obtain ⟨reference, inside, member⟩ := List.mem_flatMap.mp member
  exact courseItemStepsLocated site (recorded.parts reference inside) step member

theorem productLocated {d : Document} (partakes : Partakes files config path d) {product : Product × List Diagnostic}
    (made : product? (expansion files config) (path, d) = some product) : ∀ d ∈ product.2, Located files d := by
  intro finding found
  cases d with
  | module m =>
    cases made
    obtain ⟨step, member, here⟩ := List.mem_flatMap.mp found
    exact moduleStepsLocated partakes step member finding here
  | course c =>
    cases made
    obtain ⟨step, member, here⟩ := List.mem_flatMap.mp found
    exact courseStepsLocated partakes step member finding here
  | _ => cases made

theorem stagesLocated : ∀ d ∈ stages files config, Located files d := by
  intro d member
  simp only [stages, List.mem_append] at member
  rcases member with (read | identity | slug) | expanded
  · exact readFindingsLocated d read
  · exact identitiesLocated d identity
  · exact slugsLocated d slug
  · obtain ⟨product, inside, found⟩ := List.mem_flatMap.mp expanded
    obtain ⟨⟨path, document⟩, taking, made⟩ := List.mem_filterMap.mp inside
    exact productLocated (memKept.mp taking).1 made d found

theorem findingsLocated (files : FileMap String) (config : Config) :
    (run files config).found.Nodup ∧ ∀ d ∈ (run files config).found, Located files d := by
  rw [runFound]
  exact ⟨eraseDupsNodup _, fun d member => stagesLocated d (List.mem_eraseDups.mp member)⟩

end Syllabus.Build
