import Syllabus.Expansion

/-! Where the steps of an expansion come from. A visit carries the verdict on its reference, and a
problem tells of an excerpt that could not be taken or of a file of words that could not be read. All
findings of an expansion are errors, so that without errors there are none. -/
namespace Syllabus

structure ExcerptFailure.Reported (cause : ExcerptFailure) (d : Diagnostic) : Prop where
  message : d.message = cause.message
  severity : d.severity = .error

inductive Step.Made (x : Expansion) : Step → Prop where
  | visit {v : Visit} (looked : v.verdict = x.verdict v.origin v.reference v.expected) : Made x (.visit v)
  | section (s : Artifact.Section) : Made x (.section s)
  | slug (s : String) : Made x (.slug s)
  | problem {d : Diagnostic} {cause : ExcerptFailure} (reported : cause.Reported d) : Made x (.problem d)

theorem Visit.severe {v : Visit} {d : Diagnostic} (found : d ∈ v.findings) : d.severity = .error := by
  unfold findings at found
  split at found
  · cases List.mem_singleton.mp found
    rfl
  · cases found
  · split at found
    · cases List.mem_singleton.mp found
      rfl
    · cases found

theorem Step.Made.severe {x : Expansion} {step : Step} (made : step.Made x) {d : Diagnostic}
    (found : d ∈ step.findings) : d.severity = .error := by
  cases made with
  | visit looked => exact Visit.severe found
  | problem reported =>
    cases List.mem_singleton.mp found
    exact reported.severity
  | _ => cases found

namespace Expansion

theorem memFailed {results : List SegmentResult} {d : Diagnostic} :
    d ∈ failed results ↔ .inr d ∈ results := by
  unfold failed
  rw [List.mem_filterMap]
  constructor
  · rintro ⟨result, member, failure⟩
    cases result with
    | inl s => cases failure
    | inr other =>
      cases failure
      exact member
  · intro member
    exact ⟨.inr d, member, rfl⟩

theorem plainClean {s : Segment} {d : Diagnostic} : .inr d ∉ ((plainSegment? s).map Sum.inl).toList := by
  cases plainSegment? s <;> simp

theorem reportedInFile (cause : ExcerptFailure) (file : String) (line : Nat) :
    cause.Reported (cause.inFile file line) := ⟨rfl, rfl⟩

theorem articleProblem {file : String} {segments : List Segment} {d : Diagnostic}
    {results : List (Except ExcerptFailure BundledExcerpt)} (failure : .inr d ∈ articleResults file segments results) :
    ∃ s ∈ segments, ∃ cause : ExcerptFailure, d = cause.inFile file s.line := by
  induction segments generalizing results with
  | nil => cases failure
  | cons s more ih =>
    have further : (∃ s ∈ more, ∃ cause : ExcerptFailure, d = cause.inFile file s.line) →
        ∃ t ∈ s :: more, ∃ cause : ExcerptFailure, d = cause.inFile file t.line := by
      intro later
      obtain ⟨t, member, cause⟩ := later
      exact ⟨t, List.mem_cons_of_mem _ member, cause⟩
    unfold articleResults at failure
    split at failure
    · rcases List.mem_cons.mp failure with same | later
      · cases same
      · exact further (ih later)
    · rcases List.mem_cons.mp failure with same | later
      · cases same
        exact ⟨s, List.mem_cons_self, _, rfl⟩
      · exact further (ih later)
    · rcases List.mem_append.mp failure with here | later
      · exact absurd here plainClean
      · exact further (ih later)

theorem videoProblem {file body : String} {words : List (TimedWord Binary64)} {segments : List Segment}
    {d : Diagnostic} (failure : .inr d ∈ videoSegments file body words segments) :
    ∃ s ∈ segments, ∃ cause : ExcerptFailure, d = cause.inFile file s.line := by
  obtain ⟨s, member, failure⟩ := List.mem_flatMap.mp failure
  unfold videoSegment at failure
  split at failure
  · split at failure
    · cases List.mem_singleton.mp failure
    · rename_i cause _
      cases List.mem_singleton.mp failure
      exact ⟨s, member, cause, rfl⟩
  · exact absurd failure plainClean

theorem wordsProblem {x : Expansion} {path : String} {d : Diagnostic} (failure : d ∈ (x.wordsOf path).2) :
    (∃ text, x.index.sidecar? (VaultPath.sidecar path) = some text) ∧ d.file = VaultPath.sidecar path ∧
      d.line = none ∧ ∃ cause : ExcerptFailure, cause.Reported d := by
  unfold wordsOf at failure
  dsimp only at failure
  split at failure
  · cases failure
  · cases failure
  · rename_i cause parsed
    obtain ⟨text, present, _⟩ := Option.map_eq_some_iff.mp parsed
    cases List.mem_singleton.mp failure
    exact ⟨⟨text, present⟩, rfl, rfl, cause, rfl, rfl⟩

variable (x : Expansion)

theorem sourceMade {problems : List Diagnostic}
    (caused : ∀ d ∈ problems, ∃ cause : ExcerptFailure, cause.Reported d) (s : Artifact.Section) :
    ∀ step ∈ problems.map Step.problem ++ [.section s], step.Made x := by
  intro step member
  rcases List.mem_append.mp member with problem | last
  · obtain ⟨d, inside, rfl⟩ := List.mem_map.mp problem
    obtain ⟨cause, reported⟩ := caused d inside
    exact .problem reported
  · cases List.mem_singleton.mp last
    exact .section s

theorem followMade {origin : Referrer} {reference : Reference} {expected : Kind}
    {next : String → Document → List Step} (inside : ∀ path d, ∀ step ∈ next path d, step.Made x) :
    ∀ step ∈ x.follow origin reference expected next, step.Made x := by
  intro step member
  rcases List.mem_cons.mp member with rfl | later
  · exact .visit rfl
  · split at later
    · exact inside _ _ step later
    · cases later

theorem articleStepsMade (origin : Referrer) (part : SourceSection) (lineage : Lineage) :
    ∀ step ∈ x.articleSteps origin part lineage, step.Made x := by
  apply x.followMade
  intro path d step member
  cases d with
  | article article =>
    refine x.sourceMade (fun d failure => ?_) _ step member
    obtain ⟨s, _, cause, rfl⟩ := articleProblem (memFailed.mp failure)
    exact ⟨cause, reportedInFile cause _ _⟩
  | _ => cases member

theorem videoStepsMade (origin : Referrer) (part : SourceSection) (lineage : Lineage) :
    ∀ step ∈ x.videoSteps origin part lineage, step.Made x := by
  apply x.followMade
  intro path d step member
  cases d with
  | videoTranscript video =>
    refine x.sourceMade (fun d failure => ?_) _ step member
    rcases List.mem_append.mp failure with words | excerpt
    · exact (wordsProblem words).2.2.2
    · obtain ⟨s, _, cause, rfl⟩ := videoProblem (memFailed.mp excerpt)
      exact ⟨cause, reportedInFile cause _ _⟩
  | _ => cases member

theorem partStepsMade (origin : Referrer) (lineage : Lineage) (part : LensSection) :
    ∀ step ∈ x.partSteps origin lineage part, step.Made x := by
  cases part with
  | page page =>
    intro step member
    cases List.mem_singleton.mp member
    exact .section _
  | article part => exact x.articleStepsMade origin part lineage
  | video part => exact x.videoStepsMade origin part lineage

theorem lensStepsMade (origin : Referrer) (lineage : Lineage) (reference : Reference) :
    ∀ step ∈ x.lensSteps origin lineage reference, step.Made x := by
  apply x.followMade
  intro path d step member
  cases d with
  | lens lens =>
    obtain ⟨part, _, inside⟩ := List.mem_flatMap.mp member
    exact x.partStepsMade _ _ part step inside
  | _ => cases member

theorem outcomeStepsMade (origin : Referrer) (reference : Reference) :
    ∀ step ∈ x.outcomeSteps origin reference, step.Made x := by
  apply x.followMade
  intro path d step member
  cases d with
  | learningOutcome outcome =>
    obtain ⟨lens, _, inside⟩ := List.mem_flatMap.mp member
    exact x.lensStepsMade _ _ lens step inside
  | _ => cases member

theorem courseItemStepsMade (origin : Referrer) (reference : Reference) :
    ∀ step ∈ x.courseItemSteps origin reference, step.Made x := by
  apply x.followMade
  intro path d step member
  cases d with
  | module m =>
    cases List.mem_singleton.mp member
    exact .slug _
  | _ => cases member

theorem findingsQuiet {steps : List Step} (made : ∀ step ∈ steps, step.Made x)
    (quiet : Diagnostic.blocking (findingsOf steps) = false) : findingsOf steps = [] := by
  apply List.eq_nil_iff_forall_not_mem.mpr
  intro d found
  obtain ⟨step, member, inside⟩ := List.mem_flatMap.mp found
  have blocking := (Diagnostic.blockingIff _).mpr ⟨d, found, (made step member).severe inside⟩
  rw [quiet] at blocking
  cases blocking

theorem moduleStepsMade (path : String) (m : Module) : ∀ step ∈ x.moduleSteps path m, step.Made x := by
  intro step member
  obtain ⟨item, _, inside⟩ := List.mem_flatMap.mp member
  cases item with
  | page page =>
    cases List.mem_singleton.mp inside
    exact .section _
  | outcome reference => exact x.outcomeStepsMade _ reference step inside

theorem courseStepsMade (path : String) (c : Course) : ∀ step ∈ x.courseSteps path c, step.Made x := by
  intro step member
  obtain ⟨reference, _, inside⟩ := List.mem_flatMap.mp member
  exact x.courseItemStepsMade _ reference step inside

end Expansion
end Syllabus
