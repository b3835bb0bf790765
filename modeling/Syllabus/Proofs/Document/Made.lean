import Mathlib.Data.List.Forall2
import Syllabus.Proofs.Document.Accepted
import Syllabus.Proofs.Related

/-! What the parts of a document are made of. Under the headings of each level there is one part after the
other: a heading that gives none is an error, and a document with an error is none. So the parts of a document
were read from the sections of its text, each without an error, and so were the segments of each part. In a
course alone a section may be passed over, when its source field is blank. -/
namespace Syllabus

namespace Reading

variable {α β γ : Type}

structure Made (r : Reading α) (a : α) : Prop where
  value : r.value = some a
  quiet : Remark.blocking r.remarks = false

theorem mapMade {f : α → β} {r : Reading α} {b : β} (made : (r.map f).Made b) : ∃ a, r.Made a ∧ f a = b := by
  obtain ⟨a, value, same⟩ := mapValue made.value
  exact ⟨a, ⟨value, made.quiet⟩, same⟩

theorem valuesEach {f : γ → Reading α} (loud : ∀ c, Remark.blocking (f c).remarks = false → (f c).value.isSome)
    {cs : List γ} (quiet : Remark.blocking (allRemarks (cs.map f)) = false) :
    List.Forall₂ (fun c a => (f c).Made a) cs (values (cs.map f)) := by
  induction cs with
  | nil => exact .nil
  | cons c more ih =>
    simp only [allRemarks, List.map_cons, List.flatMap_cons, Remark.blockingAppend, Bool.or_eq_false_iff] at quiet
    obtain ⟨a, value⟩ := Option.isSome_iff_exists.mp (loud c quiet.1)
    simp only [values, List.map_cons, List.filterMap_cons, value]
    exact .cons ⟨value, quiet.1⟩ (ih quiet.2)

theorem valuesSome {f : γ → Reading α} {cs : List γ} (quiet : Remark.blocking (allRemarks (cs.map f)) = false) :
    List.SublistForall₂ (fun a c => (f c).Made a) (values (cs.map f)) cs := by
  induction cs with
  | nil => exact .nil
  | cons c more ih =>
    simp only [allRemarks, List.map_cons, List.flatMap_cons, Remark.blockingAppend, Bool.or_eq_false_iff] at quiet
    cases value : (f c).value with
    | none =>
      simp only [values, List.map_cons, List.filterMap_cons, value]
      exact .cons_right (ih quiet.2)
    | some a =>
      simp only [values, List.map_cons, List.filterMap_cons, value]
      exact .cons ⟨value, quiet.1⟩ (ih quiet.2)

end Reading

namespace Section

def block (s : Section) : FieldBlock := FieldBlock.parse s.content s.contentLine

def parts (level : Nat) (s : Section) : List Section := (Sections.split s.content level s.contentLine).sections

def header (level : Nat) (s : Section) : FieldBlock :=
  FieldBlock.parse (Sections.split s.content level s.contentLine).preamble
    (Sections.split s.content level s.contentLine).preambleLine

end Section

namespace Segment

variable {rule : SegmentRule} {most : Nat} {part : Section}

theorem ofSectionMade {s : Segment} (made : (ofSection rule most part).Made s) :
    ∃ kind, SegmentKind.ofKeyword? part.keyword = some kind ∧ kind ∈ rule.allowed ∧
      s = ⟨SegmentBody.ofBlock part.block kind, part.block.flag "optional", part.line⟩ ∧
      Remark.blocking (FieldCheck.block kind.schema part.line most part.block) = false := by
  obtain ⟨value, quiet⟩ := made
  unfold ofSection at value quiet
  split at value
  · cases value
  · rename_i kind named
    rw [named] at quiet
    split at value
    · rename_i allowed
      dsimp only at quiet
      rw [if_pos allowed] at quiet
      cases value
      exact ⟨kind, named, by simpa using allowed, rfl, quiet⟩
    · cases value

theorem ofSectionLoud (part : Section) (quiet : Remark.blocking (ofSection rule most part).remarks = false) :
    (ofSection rule most part).value.isSome := by
  unfold ofSection at quiet ⊢
  split
  · rename_i unnamed
    simp only [unnamed] at quiet
    cases quiet
  · rename_i kind named
    simp only [named] at quiet
    split
    · rfl
    · rename_i forbidden
      rw [if_neg forbidden] at quiet
      cases quiet

end Segment

def Section.SegmentsMade (rule : SegmentRule) (level most : Nat) (s : Section) (segments : List Segment) : Prop :=
  List.Forall₂ (fun part segment => (Segment.ofSection rule most part).Made segment) (s.parts level) segments

namespace SectionParts

variable {rule : SegmentRule} {level most : Nat} {s : Section}

theorem ofSectionBlock : (ofSection rule level most s).block = s.header level := by
  simp only [ofSection, Section.header]

theorem ofSectionSegments (quiet : Remark.blocking (ofSection rule level most s).remarks = false) :
    s.SegmentsMade rule level most (ofSection rule level most s).segments := by
  simp only [ofSection] at quiet ⊢
  exact Reading.valuesEach Segment.ofSectionLoud quiet

end SectionParts

structure Page.Made (level most : Nat) (s : Section) (page : Page) : Prop where
  title : page.title = s.title
  id : page.id = (Page.identity (s.header level)).value
  optional : page.optional = (s.header level).flag "optional"
  segments : s.SegmentsMade .page level most page.segments
  line : page.line = s.line

theorem Page.ofSectionMade {level most : Nat} {s : Section} {page : Page}
    (made : (Page.ofSection level most s).Made page) : page.Made level most s := by
  obtain ⟨value, quiet⟩ := made
  simp only [Page.ofSection, Remark.blockingAppend, Bool.or_eq_false_iff] at value quiet
  have segments := SectionParts.ofSectionSegments quiet.1.1.1
  rw [SectionParts.ofSectionBlock] at value
  cases value
  refine ⟨?_, ?_, ?_, ?_, ?_⟩ <;> dsimp only
  exact segments

namespace Reference

variable {schema : Schema} {most line : Nat} {b : FieldBlock}

theorem ofBlockMade {reference : Reference} (made : (ofBlock schema most b line).Made reference) :
    (WikiLink.ofField b "source").value = some reference.link ∧ reference = ofLink reference.link b line ∧
      Remark.blocking (FieldCheck.block schema line most b) = false := by
  obtain ⟨value, quiet⟩ := made
  obtain ⟨link, read, rfl⟩ := Option.map_eq_some_iff.mp value
  simp only [ofBlock, Remark.blockingAppend, Bool.or_eq_false_iff] at quiet
  exact ⟨read, rfl, quiet.1⟩

theorem ofBlockLoud {content : String} {first : Nat} (required : "source" ∈ schema.required)
    (quiet : Remark.blocking (ofBlock schema most (FieldBlock.parse content first) line).remarks = false) :
    (ofBlock schema most (FieldBlock.parse content first) line).value.isSome := by
  simp only [ofBlock, Remark.blockingAppend, Bool.or_eq_false_iff, Option.isSome_map] at quiet ⊢
  exact WikiLink.ofFieldLoud required quiet.1 quiet.2

end Reference

structure SourceSection.Made (schema : Schema) (rule : SegmentRule) (level most : Nat) (s : Section)
    (part : SourceSection) : Prop where
  title : part.title = s.title
  source : (Reference.ofBlock schema most (s.header level) s.line).Made part.source
  segments : s.SegmentsMade rule level most part.segments
  line : part.line = s.line

namespace Lens

theorem sourceMade {schema : Schema} {rule : SegmentRule} {most : Nat} {s : Section} {part : SourceSection}
    (made : (sourceOfSection schema rule most s).Made part) : part.Made schema rule segmentLevel most s := by
  obtain ⟨value, quiet⟩ := made
  simp only [sourceOfSection, Option.map_eq_some_iff] at value
  obtain ⟨reference, read, rfl⟩ := value
  simp only [sourceOfSection, Remark.blockingAppend, Bool.or_eq_false_iff] at quiet
  have segments := SectionParts.ofSectionSegments quiet.1.1
  have source : (Reference.ofBlock schema most (s.header segmentLevel) s.line).Made reference := by
    rw [← SectionParts.ofSectionBlock]
    exact ⟨read, quiet.1.2⟩
  refine ⟨?_, ?_, ?_, ?_⟩ <;> dsimp only
  · exact source
  · exact segments

theorem sourceLoud {schema : Schema} {rule : SegmentRule} {most : Nat} (required : "source" ∈ schema.required)
    (s : Section) (quiet : Remark.blocking (sourceOfSection schema rule most s).remarks = false) :
    (sourceOfSection schema rule most s).value.isSome := by
  simp only [sourceOfSection, Remark.blockingAppend, Bool.or_eq_false_iff, Option.isSome_map] at quiet ⊢
  rw [SectionParts.ofSectionBlock, Section.header] at quiet ⊢
  exact Reference.ofBlockLoud required quiet.1.2

def PartMade (most : Nat) (s : Section) : LensSection → Prop
  | .page page => s.keyword = "page" ∧ page.Made segmentLevel most s
  | .article part => s.keyword = "article" ∧ part.Made .articleSection .article segmentLevel most s
  | .video part => s.keyword = "video" ∧ part.Made .videoSection .video segmentLevel most s

theorem partOfSectionMade {most : Nat} {s : Section} {part : LensSection} (made : (partOfSection most s).Made part) :
    PartMade most s part := by
  unfold partOfSection at made
  split at made
  · rename_i named
    obtain ⟨page, read, rfl⟩ := Reading.mapMade made
    exact ⟨by simpa using named, Page.ofSectionMade read⟩
  · split at made
    · rename_i named
      obtain ⟨source, read, rfl⟩ := Reading.mapMade made
      exact ⟨by simpa using named, sourceMade read⟩
    · split at made
      · rename_i named
        obtain ⟨source, read, rfl⟩ := Reading.mapMade made
        exact ⟨by simpa using named, sourceMade read⟩
      · cases made.value

theorem partOfSectionLoud {most : Nat} (s : Section) (quiet : Remark.blocking (partOfSection most s).remarks = false) :
    (partOfSection most s).value.isSome := by
  unfold partOfSection at quiet ⊢
  split
  · rfl
  · rename_i other
    rw [if_neg other] at quiet
    split
    · rename_i named
      rw [if_pos named, Reading.mapRemarks] at quiet
      exact Reading.mapLoud (sourceLoud (by decide) s quiet)
    · rename_i other
      rw [if_neg other] at quiet
      split
      · rename_i named
        rw [if_pos named, Reading.mapRemarks] at quiet
        exact Reading.mapLoud (sourceLoud (by decide) s quiet)
      · rename_i other
        rw [if_neg other] at quiet
        cases quiet

structure Made (most : Nat) (x : Frontmatter.Extracted) (d : Lens) : Prop where
  id : (x.frontmatter.identity "id").value = some d.id
  sections : List.Forall₂ (fun s part => (partOfSection most s).Made part)
    (Sections.split x.body sectionLevel x.bodyLine).sections d.sections

end Lens

namespace LearningOutcome

theorem lensOfSectionMade {most : Nat} {s : Section} {reference : Reference}
    (made : (lensOfSection most s).Made reference) :
    s.keyword = "lens" ∧ (Reference.ofBlock .lensReference most s.block s.line).Made reference := by
  unfold lensOfSection at made
  split at made
  · rename_i named
    exact ⟨by simpa using named, made⟩
  · cases made.value

theorem lensOfSectionLoud {most : Nat} (s : Section) (quiet : Remark.blocking (lensOfSection most s).remarks = false) :
    (lensOfSection most s).value.isSome := by
  unfold lensOfSection at quiet ⊢
  split
  · rename_i named
    rw [if_pos named, Reference.ofSection] at quiet
    exact Reference.ofBlockLoud (by decide) quiet
  · rename_i other
    rw [if_neg other] at quiet
    cases quiet

structure Made (most : Nat) (x : Frontmatter.Extracted) (d : LearningOutcome) : Prop where
  id : (x.frontmatter.identity "id").value = some d.id
  lenses : List.Forall₂ (fun s reference => (lensOfSection most s).Made reference)
    (Sections.split x.body sectionLevel x.bodyLine).sections d.lenses

end LearningOutcome

namespace Module

def ItemMade (most : Nat) (s : Section) : ModuleItem → Prop
  | .page page => s.keyword = "page" ∧ page.Made segmentLevel most s
  | .outcome reference =>
    s.keyword = "learning-outcome" ∧ (Reference.ofBlock .outcomeReference most s.block s.line).Made reference

theorem itemOfSectionMade {most : Nat} {s : Section} {item : ModuleItem} (made : (itemOfSection most s).Made item) :
    ItemMade most s item := by
  unfold itemOfSection at made
  split at made
  · rename_i named
    obtain ⟨reference, read, rfl⟩ := Reading.mapMade made
    exact ⟨by simpa using named, read⟩
  · split at made
    · rename_i named
      obtain ⟨page, read, rfl⟩ := Reading.mapMade made
      exact ⟨by simpa using named, Page.ofSectionMade read⟩
    · cases made.value

theorem itemOfSectionLoud {most : Nat} (s : Section) (quiet : Remark.blocking (itemOfSection most s).remarks = false) :
    (itemOfSection most s).value.isSome := by
  unfold itemOfSection at quiet ⊢
  split
  · rename_i named
    rw [if_pos named, Reading.mapRemarks, Reference.ofSection] at quiet
    exact Reading.mapLoud (Reference.ofBlockLoud (by decide) quiet)
  · rename_i other
    rw [if_neg other] at quiet
    split
    · rfl
    · rename_i other
      rw [if_neg other] at quiet
      cases quiet

structure Made (most : Nat) (x : Frontmatter.Extracted) (d : Module) : Prop where
  slug : x.frontmatter.slug.1 = (d.slug, d.slugLine)
  named : Remark.blocking x.frontmatter.slug.2 = false
  contentId : d.contentId = (x.frontmatter.identity "contentId").value
  id : d.id = (x.frontmatter.identity "id").value
  items : List.Forall₂ (fun s item => (itemOfSection most s).Made item)
    (Sections.split x.body sectionLevel x.bodyLine).sections d.items

end Module

structure Course.Made (most : Nat) (x : Frontmatter.Extracted) (d : Course) : Prop where
  slug : x.frontmatter.slug.1 = (d.slug, d.slugLine)
  named : Remark.blocking x.frontmatter.slug.2 = false
  modules : List.SublistForall₂ (fun reference s => (Course.moduleOfSection most s).Made reference) d.modules
    (Sections.split x.body Course.sectionLevel x.bodyLine).sections

namespace Document

def Made (most : Nat) (x : Frontmatter.Extracted) : Document → Prop
  | .module d => d.Made most x
  | .course d => d.Made most x
  | .learningOutcome d => d.Made most x
  | .lens d => d.Made most x
  | _ => True

theorem bodyMade {kind : Kind} {most : Nat} {x : Frontmatter.Extracted} {d : Document}
    (made : (bodyOf kind most x).Made d) : d.Made most x := by
  cases kind with
  | article => cases made.value; trivial
  | videoTranscript => cases made.value; trivial
  | module =>
    obtain ⟨m, ⟨value, quiet⟩, rfl⟩ := Reading.mapMade made
    cases value
    simp only [Module.ofBody, Remark.blockingAppend, Bool.or_eq_false_iff] at quiet
    have items := Reading.valuesEach Module.itemOfSectionLoud quiet.1.1.2
    refine ⟨?_, quiet.1.1.1.1.1.1, ?_, ?_, ?_⟩ <;> dsimp only
    · rfl
    · exact items
  | course =>
    obtain ⟨c, ⟨value, quiet⟩, rfl⟩ := Reading.mapMade made
    cases value
    simp only [Course.ofBody, Remark.blockingAppend, Bool.or_eq_false_iff] at quiet
    have modules := Reading.valuesSome quiet.1.2
    refine ⟨?_, quiet.1.1.1, ?_⟩ <;> dsimp only
    · rfl
    · exact modules
  | learningOutcome =>
    obtain ⟨outcome, ⟨value, quiet⟩, rfl⟩ := Reading.mapMade made
    simp only [LearningOutcome.ofBody] at value quiet
    split at value
    · cases value
    · rename_i identity found
      cases value
      simp only [found, Remark.blockingAppend, Bool.or_eq_false_iff] at quiet
      have lenses := Reading.valuesEach LearningOutcome.lensOfSectionLoud quiet.1.1.2
      refine ⟨found, ?_⟩
      dsimp only
      exact lenses
  | lens =>
    obtain ⟨lens, ⟨value, quiet⟩, rfl⟩ := Reading.mapMade made
    simp only [Lens.ofBody] at value quiet
    split at value
    · cases value
    · rename_i identity found
      cases value
      simp only [found, Remark.blockingAppend, Bool.or_eq_false_iff] at quiet
      have sections := Reading.valuesEach Lens.partOfSectionLoud quiet.1.1.2
      refine ⟨found, ?_⟩
      dsimp only
      exact sections

def HasPage (page : Page) : Document → Prop
  | .module d => .page page ∈ d.items
  | .lens d => .page page ∈ d.sections
  | _ => False

theorem pageMade {most : Nat} {x : Frontmatter.Extracted} {d : Document} (made : d.Made most x) {page : Page}
    (has : d.HasPage page) : ∃ level s, page.Made level most s := by
  cases d with
  | module d =>
    obtain ⟨s, _, each⟩ := memRelated (Module.Made.items made) has
    exact ⟨_, s, (Module.itemOfSectionMade each).2⟩
  | lens d =>
    obtain ⟨s, _, each⟩ := memRelated (Lens.Made.sections made) has
    exact ⟨_, s, (Lens.partOfSectionMade each).2⟩
  | _ => cases has

theorem identitySource {most : Nat} {x : Frontmatter.Extracted} {d : Document} (made : d.Made most x)
    {use : IdentityUse} (member : use ∈ d.identities) :
    (∃ key, (x.frontmatter.identity key).value = some use.identity) ∨
      ∃ page, d.HasPage page ∧ page.id = some use.identity := by
  cases d with
  | module d =>
    simp only [identities, pageIdentities, List.mem_append, Option.mem_toList, Option.map_eq_some_iff,
      List.mem_filterMap] at member
    rcases member with (⟨id, found, rfl⟩ | ⟨id, found, rfl⟩) | ⟨page, ⟨item, member, here⟩, id, found, rfl⟩
    · exact .inl ⟨"contentId", (Module.Made.contentId made).symm.trans found⟩
    · exact .inl ⟨"id", (Module.Made.id made).symm.trans found⟩
    · cases item with
      | page p =>
        cases here
        exact .inr ⟨page, member, found⟩
      | outcome reference => cases here
  | learningOutcome d =>
    cases List.mem_singleton.mp member
    exact .inl ⟨"id", LearningOutcome.Made.id made⟩
  | lens d =>
    simp only [identities, pageIdentities, List.mem_cons, List.mem_filterMap, Option.map_eq_some_iff] at member
    rcases member with rfl | ⟨page, ⟨part, member, here⟩, id, found, rfl⟩
    · exact .inl ⟨"id", Lens.Made.id made⟩
    · cases part with
      | page p =>
        cases here
        exact .inr ⟨page, member, found⟩
      | _ => cases here
  | _ => cases member

end Document
end Syllabus
