import Syllabus.Proofs.Expansion.Account
import Syllabus.Proofs.Wording

/-! Expansions under different reaches of the suggestions. How far a suggestion may reach is asked for a link that
leads to no file, and only for what comes near to it. So the steps of two expansions of one index are the same but
for such suggestions, and so are the findings; and the file and the link of a finding tell what it suggests. -/
namespace Syllabus

def LinkFailure.unlikened : LinkFailure → LinkFailure
  | .notFound target _ => .notFound target none
  | failure => failure

def Refusal.unlikened : Refusal → Refusal
  | .unresolved cause => .unresolved cause.unlikened
  | cause => cause

def Verdict.unlikened : Verdict → Verdict
  | .refused cause => .refused cause.unlikened
  | verdict => verdict

def Visit.unlikened (v : Visit) : Visit := { v with verdict := v.verdict.unlikened }

def Step.unlikened : Step → Step
  | .visit v => .visit v.unlikened
  | step => step

theorem Refusal.plain {cause : Refusal} (known : ∀ target nearest, cause ≠ .unresolved (.notFound target nearest)) :
    guesses cause.message = false := by
  open Text in
  cases cause with
  | unresolved failure =>
    cases failure with
    | notFound target nearest => exact (known target nearest rfl).elim
    | ambiguous =>
      exact otherwiseHeaded (c := 'A') (headOfAppend (headOfAppend (headOfAppend rfl))) (by decide) (by decide)
  | circular => exact otherwiseHeaded (c := 'C') (headOfAppend rfl) (by decide) (by decide)
  | wrongKind =>
    exact otherwiseHeaded (c := 'W') (headOfAppend (headOfAppend (headOfAppend (headOfAppend (headOfAppend rfl)))))
      (by decide) (by decide)
  | rejected =>
    -- Both wordings begin with "Referenced file".
    exact otherwiseWorded (notStarts (i := 0) (a := 'U') (b := 'R') rfl (letterOfAppend (letterOfAppend rfl)) (by decide))
      (notStarts (i := 16) (a := 'n') (b := 'h') rfl (letterOfAppend (letterOfAppend rfl)) (by decide))

theorem Visit.unfinishedPlain (v : Visit) (path : String) : guesses (v.unfinishedMessage path) = false := by
  show guesses ("Production " ++ v.origin.kind.label ++ " references WIP " ++ v.expected.label ++ " '" ++ path ++ "'") = false
  open Text in
  exact otherwiseHeaded (c := 'P') (headOfAppend (headOfAppend (headOfAppend (headOfAppend (headOfAppend
    (headOfAppend rfl)))))) (by decide) (by decide)

theorem ExcerptFailure.plain (cause : ExcerptFailure) : guesses cause.message = false := by
  obtain ⟨c, head, _, referenced, unknown, _⟩ := cause.worded
  exact otherwiseHeaded head unknown referenced

namespace Visit

theorem missingUnlikened (v : Visit) (target : String) (suggestion : Option String) :
    (v.error ("Referenced file not found: '" ++ target ++ "'") suggestion).unlikened =
      v.error ("Referenced file not found: '" ++ target ++ "'") none := if_pos (referencedGuesses target)

theorem unlikenedFindings (v : Visit) :
    v.unlikened.findings.map Diagnostic.unlikened = v.findings.map Diagnostic.unlikened := by
  obtain ⟨origin, reference, expected, verdict⟩ := v
  cases verdict with
  | refused cause =>
    cases cause with
    | unresolved failure =>
      cases failure with
      | notFound target nearest =>
        have bare := missingUnlikened ⟨origin, reference, expected, .refused (.unresolved (.notFound target nearest))⟩ target
        exact congrArg (fun d => [d]) ((bare _).trans (bare _).symm)
      | ambiguous => rfl
    | _ => rfl
  | _ => rfl

theorem followedUnlikened (v : Visit) : v.unlikened.followed? = v.followed? := by
  obtain ⟨origin, reference, expected, verdict⟩ := v
  cases verdict <;> rfl

end Visit

namespace Step

theorem unlikenedFindings (step : Step) :
    step.unlikened.findings.map Diagnostic.unlikened = step.findings.map Diagnostic.unlikened := by
  cases step with
  | visit v => exact v.unlikenedFindings
  | _ => rfl

theorem unlikenedSection (step : Step) : step.unlikened.section? = step.section? := by
  cases step <;> rfl

theorem unlikenedSlug (step : Step) : step.unlikened.slug? = step.slug? := by
  cases step <;> rfl

end Step

theorem Index.resolveEither (index : Index) (origin : String) (link : WikiLink) :
    (∃ answer, (∀ target nearest, answer ≠ .error (.notFound target nearest)) ∧
        ∀ most, index.resolve origin link most = answer) ∨
      ∀ most, index.resolve origin link most = .error (.notFound link.target (index.nearest? origin link.target most)) := by
  unfold resolve
  dsimp only
  split
  · exact .inl ⟨_, fun _ _ => by simp, fun _ => rfl⟩
  · split
    · exact .inl ⟨_, fun _ _ => by simp, fun _ => rfl⟩
    · split
      · exact .inr fun _ => rfl
      · exact .inl ⟨_, fun _ _ => by simp, fun _ => rfl⟩
      · exact .inl ⟨_, fun _ _ => by simp, fun _ => rfl⟩

namespace Expansion

theorem flatMapUnlikened {α : Type} {f f' : α → List Step}
    (each : ∀ a, (f a).map Step.unlikened = (f' a).map Step.unlikened) (items : List α) :
    (items.flatMap f).map Step.unlikened = (items.flatMap f').map Step.unlikened := by
  simp only [List.map_flatMap, each]

section Walk

variable [Library] (index : Index) (most most' : Nat)

theorem verdictUnlikened (origin : Referrer) (reference : Reference) (expected : Kind) :
    (verdict ⟨index, most⟩ origin reference expected).unlikened =
      (verdict ⟨index, most'⟩ origin reference expected).unlikened := by
  unfold verdict
  rcases index.resolveEither origin.path reference.link with ⟨answer, _, always⟩ | missing
  · rw [always, always]
  · rw [missing, missing]
    rfl

theorem visitUnlikened (origin : Referrer) (reference : Reference) (expected : Kind) :
    (visit ⟨index, most⟩ origin reference expected).unlikened =
      (visit ⟨index, most'⟩ origin reference expected).unlikened := by
  simp only [visit, Visit.unlikened, verdictUnlikened index most most']

theorem grantedReach (origin : Referrer) (reference : Reference) (expected : Kind) :
    granted? ⟨index, most⟩ origin reference expected = granted? ⟨index, most'⟩ origin reference expected := by
  rw [granted?, granted?, ← Visit.followedUnlikened, visitUnlikened index most most', Visit.followedUnlikened]

theorem followUnlikened (origin : Referrer) (reference : Reference) (expected : Kind)
    {next next' : String → Document → List Step}
    (inside : ∀ path d, (next path d).map Step.unlikened = (next' path d).map Step.unlikened) :
    (follow ⟨index, most⟩ origin reference expected next).map Step.unlikened =
      (follow ⟨index, most'⟩ origin reference expected next').map Step.unlikened := by
  rw [followEq, followEq, List.map_cons, List.map_cons, grantedReach index most most']
  congr 1
  · exact congrArg Step.visit (visitUnlikened ..)
  · cases granted? ⟨index, most'⟩ origin reference expected with
    | none => rfl
    | some document => exact inside document.1 document.2

theorem partStepsUnlikened (origin : Referrer) (lineage : Lineage) (part : LensSection) :
    (partSteps ⟨index, most⟩ origin lineage part).map Step.unlikened =
      (partSteps ⟨index, most'⟩ origin lineage part).map Step.unlikened := by
  cases part with
  | page page => rfl
  | article part => exact followUnlikened _ _ _ _ _ _ fun _ _ => rfl
  | video part => exact followUnlikened _ _ _ _ _ _ fun _ _ => rfl

theorem lensStepsUnlikened (origin : Referrer) (lineage : Lineage) (reference : Reference) :
    (lensSteps ⟨index, most⟩ origin lineage reference).map Step.unlikened =
      (lensSteps ⟨index, most'⟩ origin lineage reference).map Step.unlikened := by
  refine followUnlikened _ _ _ _ _ _ fun path d => ?_
  cases d with
  | lens lens => exact flatMapUnlikened (fun part => partStepsUnlikened index most most' _ _ part) _
  | _ => rfl

theorem outcomeStepsUnlikened (origin : Referrer) (reference : Reference) :
    (outcomeSteps ⟨index, most⟩ origin reference).map Step.unlikened =
      (outcomeSteps ⟨index, most'⟩ origin reference).map Step.unlikened := by
  refine followUnlikened _ _ _ _ _ _ fun path d => ?_
  cases d with
  | learningOutcome outcome => exact flatMapUnlikened (fun lens => lensStepsUnlikened index most most' _ _ lens) _
  | _ => rfl

theorem moduleStepsUnlikened (path : String) (m : Module) :
    (moduleSteps ⟨index, most⟩ path m).map Step.unlikened = (moduleSteps ⟨index, most'⟩ path m).map Step.unlikened := by
  refine flatMapUnlikened (fun item => ?_) m.items
  cases item with
  | page page => rfl
  | outcome reference => exact outcomeStepsUnlikened index most most' _ reference

theorem courseStepsUnlikened (path : String) (c : Course) :
    (courseSteps ⟨index, most⟩ path c).map Step.unlikened = (courseSteps ⟨index, most'⟩ path c).map Step.unlikened :=
  flatMapUnlikened (fun _ => followUnlikened _ _ _ _ _ _ fun _ _ => rfl) c.modules

end Walk

section Made

variable {steps steps' : List Step} (same : steps.map Step.unlikened = steps'.map Step.unlikened)
include same

theorem unlikenedFindings : (findingsOf steps).map Diagnostic.unlikened = (findingsOf steps').map Diagnostic.unlikened := by
  have shown (steps : List Step) : (findingsOf steps).map Diagnostic.unlikened =
      (steps.map Step.unlikened).flatMap fun step => step.findings.map Diagnostic.unlikened := by
    simp only [findingsOf, List.map_flatMap, List.flatMap_map, Step.unlikenedFindings]
  rw [shown, shown, same]

theorem unlikenedSections : steps.filterMap Step.section? = steps'.filterMap Step.section? := by
  have shown (steps : List Step) : steps.filterMap Step.section? = (steps.map Step.unlikened).filterMap Step.section? := by
    simp only [List.filterMap_map, Function.comp_def, Step.unlikenedSection]
  rw [shown, shown steps', same]

theorem unlikenedSlugs : steps.filterMap Step.slug? = steps'.filterMap Step.slug? := by
  have shown (steps : List Step) : steps.filterMap Step.slug? = (steps.map Step.unlikened).filterMap Step.slug? := by
    simp only [List.filterMap_map, Function.comp_def, Step.unlikenedSlug]
  rw [shown, shown steps', same]

end Made

def Misses (x : Expansion) (d : Diagnostic) : Prop :=
  ∃ target, d.message = "Referenced file not found: '" ++ target ++ "'" ∧
    d.suggestion = (LinkFailure.notFound target (x.index.nearest? d.file target x.most)).suggestion

theorem missesOnce {x : Expansion} {d d' : Diagnostic} (misses : x.Misses d) (misses' : x.Misses d')
    (file : d.file = d'.file) (message : d.message = d'.message) : d.suggestion = d'.suggestion := by
  obtain ⟨target, worded, suggested⟩ := misses
  obtain ⟨target', worded', suggested'⟩ := misses'
  rw [worded, worded'] at message
  rw [suggested, suggested', file, referencedOnce message]

end Expansion

open Expansion (Misses)

theorem Visit.misses {x : Expansion} {v : Visit} (looked : v.verdict = x.verdict v.origin v.reference v.expected)
    {d : Diagnostic} (found : d ∈ v.findings) (suggests : guesses d.message = true) : x.Misses d := by
  have plain {message : String} {suggestion : Option String} (told : d ∈ [v.error message suggestion])
      (known : guesses message = false) : x.Misses d := by
    cases List.mem_singleton.mp told
    cases known.symm.trans suggests
  rw [findings, looked] at found
  have judged := x.judged v.origin v.reference v.expected
  generalize x.verdict v.origin v.reference v.expected = verdict at judged found
  cases judged with
  | unresolved failed =>
    rcases x.index.resolveEither v.origin.path v.reference.link with ⟨answer, known, always⟩ | missing
    · refine plain found (Refusal.plain fun target nearest same => known target nearest ?_)
      cases same
      exact (always _).symm.trans failed
    · cases (missing _).symm.trans failed
      cases List.mem_singleton.mp found
      exact ⟨_, rfl, rfl⟩
  | skipped => cases found
  | accepted =>
    dsimp only at found
    split at found
    · exact plain found (v.unfinishedPlain _)
    · cases found
  | circular => exact plain found (Refusal.plain fun _ _ => by simp)
  | wrongKind => exact plain found (Refusal.plain fun _ _ => by simp)
  | rejected => exact plain found (Refusal.plain fun _ _ => by simp)

theorem Step.Made.misses {x : Expansion} {step : Step} (made : step.Made x) {d : Diagnostic}
    (found : d ∈ step.findings) (suggests : guesses d.message = true) : x.Misses d := by
  cases made with
  | visit looked => exact Visit.misses looked found suggests
  | @problem _ cause reported =>
    cases List.mem_singleton.mp found
    rw [reported.message, cause.plain] at suggests
    cases suggests
  | _ => cases found

theorem Expansion.findingsMiss {x : Expansion} {steps : List Step} (made : ∀ step ∈ steps, step.Made x) {d : Diagnostic}
    (found : d ∈ findingsOf steps) (suggests : guesses d.message = true) : x.Misses d := by
  obtain ⟨step, member, inside⟩ := List.mem_flatMap.mp found
  exact (made step member).misses inside suggests

end Syllabus
