import Syllabus.Proofs.Document.Accepted

/-! Readings under different reaches of the suggestions. How far a suggestion may reach decides which warnings about
unknown fields there are, and which of the expected names an unknown heading is likened to. It does not decide
whether there is an error, nor where: the errors of two readings of one text are the same but for the names that
they suggest, and so the value that is read is the same. -/
namespace Syllabus

def Problem.unlikened : Problem → Problem
  | .unknownHeading what heading _ expected => .unknownHeading what heading none expected
  | problem => problem

namespace Remark

def unlikened (r : Remark) : Remark := ⟨r.line, r.problem.unlikened⟩

def severe (rs : List Remark) : List Remark := (rs.filter isError).map unlikened

theorem severeAppend (rs ss : List Remark) : severe (rs ++ ss) = severe rs ++ severe ss := by
  rw [severe, List.filter_append, List.map_append, severe, severe]

theorem severeFlatMap {α : Type} (f : α → List Remark) (items : List α) :
    severe (items.flatMap f) = items.flatMap fun a => severe (f a) := by
  induction items with
  | nil => rfl
  | cons a more ih => rw [List.flatMap_cons, severeAppend, ih, List.flatMap_cons]

theorem blockingSevere (rs : List Remark) : blocking rs = !(severe rs).isEmpty := by
  induction rs with
  | nil => rfl
  | cons r more ih =>
    rw [blocking, List.any_cons, ← blocking, ih, severe, severe, List.filter_cons]
    cases r.isError <;> rfl

end Remark

open Remark (severe severeAppend)

structure Reading.Agree {α : Type} (r r' : Reading α) : Prop where
  value : r.value = r'.value
  errors : severe r.remarks = severe r'.remarks

namespace Reading

variable {α β : Type} {r r' : Reading α}

theorem Agree.map (agree : r.Agree r') (f : α → β) : (r.map f).Agree (r'.map f) :=
  ⟨congrArg (Option.map f) agree.value, agree.errors⟩

section Lists

variable {f f' : Section → Reading α} (agree : ∀ s, (f s).Agree (f' s)) (items : List Section)
include agree

theorem valuesAgree : values (items.map f) = values (items.map f') := by
  simp only [values, List.filterMap_map]
  congr 1
  funext s
  exact (agree s).value

theorem errorsAgree : severe (allRemarks (items.map f)) = severe (allRemarks (items.map f')) := by
  simp only [allRemarks, List.flatMap_map, Remark.severeFlatMap]
  congr 1
  funext s
  exact (agree s).errors

end Lists

theorem settleAgree {value value' : Option α} {rs rs' : List Remark} (same : value = value')
    (errors : severe rs = severe rs') : (settle value rs).Agree (settle value' rs') := by
  refine ⟨?_, errors⟩
  simp only [settle, Remark.blockingSevere, errors, same]

end Reading

variable (most most' : Nat)

namespace FieldCheck

theorem unknownSevere (s : Schema) (f : Field) : severe (unknown s most f) = [] := by
  unfold unknown
  split
  · split <;> rfl
  · split <;> rfl

theorem singleSevere (s : Schema) (f : Field) : severe (single s most f) = severe (single s most' f) := by
  unfold single
  split
  · rfl
  · rw [unknownSevere, unknownSevere]

theorem eachSevere (s : Schema) (seen : List String) (fs : List Field) :
    severe (each s most seen fs) = severe (each s most' seen fs) := by
  induction fs generalizing seen with
  | nil => rfl
  | cons f more ih =>
    rw [each, each]
    split
    · exact ih seen
    · rw [severeAppend, severeAppend, singleSevere most most' s f, ih]

theorem fieldsSevere (s : Schema) (line : Nat) (fs : List Field) :
    severe (fields s line most fs) = severe (fields s line most' fs) := by
  rw [fields, fields, severeAppend, severeAppend, eachSevere]

theorem blockSevere (s : Schema) (line : Nat) (b : FieldBlock) :
    severe (block s line most b) = severe (block s line most' b) := by
  rw [block, block, severeAppend, severeAppend, fieldsSevere]

end FieldCheck

theorem unlikenedSevere (line : Nat) (what heading : String) (nearest : Option String) (expected : List String) :
    severe [.onLine line (.unknownHeading what heading nearest expected)] =
      [.onLine line (.unknownHeading what heading none expected)] := rfl

theorem unknownHeadingSevere (what : String) (expected : List String) (s : Section) :
    severe [unknownHeading most what expected s] = severe [unknownHeading most' what expected s] := by
  rw [unknownHeading, unknownHeading]
  exact (unlikenedSevere ..).trans (unlikenedSevere ..).symm

theorem Segment.ofSectionAgree (rule : SegmentRule) (s : Section) :
    (ofSection rule most s).Agree (ofSection rule most' s) := by
  unfold ofSection
  split
  · exact ⟨rfl, unknownHeadingSevere ..⟩
  · split
    · exact ⟨rfl, FieldCheck.blockSevere ..⟩
    · exact ⟨rfl, rfl⟩

namespace SectionParts

variable (rule : SegmentRule) (level : Nat) (s : Section)

theorem segmentsAgree : (ofSection rule level most s).segments = (ofSection rule level most' s).segments :=
  Reading.valuesAgree (Segment.ofSectionAgree most most' rule) _

theorem remarksAgree : severe (ofSection rule level most s).remarks = severe (ofSection rule level most' s).remarks :=
  Reading.errorsAgree (Segment.ofSectionAgree most most' rule) _

theorem emptinessSevere (parts : SectionParts) : severe (parts.emptiness rule s) = [] := by
  unfold emptiness
  split <;> rfl

end SectionParts

theorem Page.ofSectionAgree (level : Nat) (s : Section) : (ofSection level most s).Agree (ofSection level most' s) := by
  have block : (SectionParts.ofSection .page level most s).block = (SectionParts.ofSection .page level most' s).block := rfl
  constructor
  · simp only [ofSection, block, SectionParts.segmentsAgree most most']
  · simp only [ofSection, severeAppend, block, SectionParts.emptinessSevere, SectionParts.remarksAgree most most']
    rw [FieldCheck.blockSevere]

namespace Reference

theorem ofBlockAgree (schema : Schema) (b : FieldBlock) (line : Nat) :
    (ofBlock schema most b line).Agree (ofBlock schema most' b line) := by
  refine ⟨rfl, ?_⟩
  simp only [ofBlock, severeAppend]
  rw [FieldCheck.blockSevere]

theorem ofSectionAgree (schema : Schema) (s : Section) :
    (ofSection schema most s).Agree (ofSection schema most' s) := ofBlockAgree ..

end Reference

namespace Lens

theorem sourceAgree (schema : Schema) (rule : SegmentRule) (s : Section) :
    (sourceOfSection schema rule most s).Agree (sourceOfSection schema rule most' s) := by
  have block : (SectionParts.ofSection rule segmentLevel most s).block =
    (SectionParts.ofSection rule segmentLevel most' s).block := rfl
  have source : (Reference.ofBlock schema most (SectionParts.ofSection rule segmentLevel most' s).block s.line).Agree
      (Reference.ofBlock schema most' (SectionParts.ofSection rule segmentLevel most' s).block s.line) :=
    Reference.ofBlockAgree ..
  have parts : severe (SectionParts.ofSection rule segmentLevel most s).remarks =
    severe (SectionParts.ofSection rule segmentLevel most' s).remarks := SectionParts.remarksAgree ..
  have segments : (SectionParts.ofSection rule segmentLevel most s).segments =
    (SectionParts.ofSection rule segmentLevel most' s).segments := SectionParts.segmentsAgree ..
  have empty (value : Option Reference) (parts : SectionParts) :
      severe (if value.isSome then parts.emptiness rule s else []) = [] := by
    split
    · exact SectionParts.emptinessSevere rule s parts
    · rfl
  unfold sourceOfSection
  dsimp only
  rw [block, segments]
  refine ⟨?_, ?_⟩
  · dsimp only
    rw [source.value]
  · dsimp only
    rw [severeAppend, severeAppend, severeAppend, severeAppend, parts, source.errors, empty, empty]

theorem partAgree (s : Section) : (partOfSection most s).Agree (partOfSection most' s) := by
  unfold partOfSection
  split
  · exact (Page.ofSectionAgree ..).map _
  · split
    · exact (sourceAgree ..).map _
    · split
      · exact (sourceAgree ..).map _
      · exact ⟨rfl, unknownHeadingSevere ..⟩

theorem bodyAgree (x : Frontmatter.Extracted) : (ofBody most x).Agree (ofBody most' x) := by
  unfold ofBody
  dsimp only
  split
  · exact ⟨rfl, rfl⟩
  · constructor
    · simp only [Reading.valuesAgree (partAgree most most')]
    · simp only [severeAppend, Reading.errorsAgree (partAgree most most')]

end Lens

namespace LearningOutcome

theorem lensAgree (s : Section) : (lensOfSection most s).Agree (lensOfSection most' s) := by
  unfold lensOfSection
  split
  · exact Reference.ofSectionAgree ..
  · exact ⟨rfl, unknownHeadingSevere ..⟩

theorem bodyAgree (x : Frontmatter.Extracted) : (ofBody most x).Agree (ofBody most' x) := by
  unfold ofBody
  dsimp only
  split
  · exact ⟨rfl, rfl⟩
  · constructor
    · simp only [Reading.valuesAgree (lensAgree most most')]
    · simp only [severeAppend, Reading.errorsAgree (lensAgree most most')]

end LearningOutcome

namespace Module

theorem itemAgree (s : Section) : (itemOfSection most s).Agree (itemOfSection most' s) := by
  unfold itemOfSection
  split
  · exact (Reference.ofSectionAgree ..).map _
  · split
    · exact (Page.ofSectionAgree ..).map _
    · exact ⟨rfl, unknownHeadingSevere ..⟩

theorem bodyAgree (x : Frontmatter.Extracted) : (ofBody most x).Agree (ofBody most' x) := by
  constructor
  · simp only [ofBody, Reading.valuesAgree (itemAgree most most')]
  · simp only [ofBody, severeAppend, Reading.errorsAgree (itemAgree most most')]

end Module

namespace Course

theorem moduleAgree (s : Section) : (moduleOfSection most s).Agree (moduleOfSection most' s) := by
  unfold moduleOfSection
  split
  · refine ⟨rfl, ?_⟩
    simp only [severeAppend]
    rw [FieldCheck.blockSevere]
  · exact ⟨rfl, unknownHeadingSevere ..⟩

theorem bodyAgree (x : Frontmatter.Extracted) : (ofBody most x).Agree (ofBody most' x) := by
  constructor
  · simp only [ofBody, Reading.valuesAgree (moduleAgree most most')]
  · simp only [ofBody, severeAppend, Remark.blockingSevere, Reading.valuesAgree (moduleAgree most most'),
      Reading.errorsAgree (moduleAgree most most')]

end Course

theorem Reading.ofTextAgree [Library] {α : Type} (schema : Schema) (text : String) {body body' : Frontmatter.Extracted → Reading α}
    (agree : ∀ x, (body x).Agree (body' x)) : (ofText schema most text body).Agree (ofText schema most' text body') := by
  unfold ofText
  cases Frontmatter.extract text with
  | error cause => exact ⟨rfl, rfl⟩
  | ok x =>
    have header : severe (FieldCheck.fields schema 1 most x.frontmatter.fields) =
      severe (FieldCheck.fields schema 1 most' x.frontmatter.fields) := FieldCheck.fieldsSevere ..
    dsimp only
    rw [Remark.blockingSevere, Remark.blockingSevere, header]
    split
    · exact ⟨rfl, header⟩
    · refine settleAgree (agree x).value ?_
      rw [severeAppend, severeAppend, header, (agree x).errors]

theorem Document.readAgree [Library] (kind : Kind) (most most' : Nat) (text : String) :
    (read kind most text).Agree (read kind most' text) := by
  rw [readOfText, readOfText]
  refine Reading.ofTextAgree _ _ _ _ fun x => ?_
  cases kind with
  | module => exact (Module.bodyAgree _ _ x).map _
  | course => exact (Course.bodyAgree _ _ x).map _
  | learningOutcome => exact (LearningOutcome.bodyAgree _ _ x).map _
  | lens => exact (Lens.bodyAgree _ _ x).map _
  | article => exact ⟨rfl, rfl⟩
  | videoTranscript => exact ⟨rfl, rfl⟩

end Syllabus
