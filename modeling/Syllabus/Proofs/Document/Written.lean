import Syllabus.Proofs.Document.Made
import Syllabus.Proofs.Related

/-! Where the parts of a document stand in its text. The sections of a document are those of its text, each
with the segments written under it, in order. -/
namespace Syllabus

@[simp] theorem SegmentBody.ofBlockKind (b : FieldBlock) (kind : SegmentKind) : (ofBlock b kind).kind = kind := by
  cases kind <;> rfl

structure Segment.Written (rule : SegmentRule) (part : Section) (s : Segment) : Prop where
  named : SegmentKind.ofKeyword? part.keyword = some s.body.kind
  allowed : s.body.kind ∈ rule.allowed
  body : s.body = SegmentBody.ofBlock (FieldBlock.parse part.content part.contentLine) s.body.kind
  optional : s.optional = (FieldBlock.parse part.content part.contentLine).flag "optional"
  line : s.line = part.line

theorem Segment.writtenOfMade {rule : SegmentRule} {most : Nat} {part : Section} {s : Segment}
    (made : (ofSection rule most part).Made s) : Written rule part s := by
  obtain ⟨kind, named, allowed, rfl, _⟩ := ofSectionMade made
  exact ⟨by simpa using named, by simpa using allowed, by simp [Section.block], rfl, rfl⟩

def Section.Segments (rule : SegmentRule) (level : Nat) (s : Section) (segments : List Segment) : Prop :=
  List.Forall₂ (Segment.Written rule) (Sections.split s.content level s.contentLine).sections segments

theorem Section.SegmentsMade.written {rule : SegmentRule} {level most : Nat} {s : Section} {segments : List Segment}
    (made : s.SegmentsMade rule level most segments) : s.Segments rule level segments :=
  made.imp fun _ _ each => Segment.writtenOfMade each

def SegmentRule.Kept (rule : SegmentRule) (segments : List Segment) : Prop :=
  ∀ s ∈ segments, s.body.kind ∈ rule.allowed

def LensSection.Kept : LensSection → Prop
  | .page p => SegmentRule.page.Kept p.segments
  | .article part => SegmentRule.article.Kept part.segments
  | .video part => SegmentRule.video.Kept part.segments

def ModuleItem.Kept : ModuleItem → Prop
  | .page p => SegmentRule.page.Kept p.segments
  | .outcome _ => True

theorem Section.Segments.kept {rule : SegmentRule} {level : Nat} {s : Section} {segments : List Segment}
    (under : s.Segments rule level segments) : rule.Kept segments := by
  intro segment member
  obtain ⟨part, _, written⟩ := memRelated under member
  exact written.allowed

structure Page.Written (level : Nat) (s : Section) (page : Page) : Prop where
  named : s.keyword = "page"
  title : page.title = s.title
  line : page.line = s.line
  segments : s.Segments .page level page.segments

theorem Page.Made.written {level most : Nat} {s : Section} {page : Page} (named : s.keyword = "page")
    (made : page.Made level most s) : Page.Written level s page :=
  ⟨named, made.title, made.line, made.segments.written⟩

def Reference.Written (content : String) (first : Nat) (reference : Reference) : Prop :=
  (WikiLink.ofField (FieldBlock.parse content first) "source").value = some reference.link

structure SourceSection.Written (keyword : String) (rule : SegmentRule) (level : Nat) (s : Section)
    (part : SourceSection) : Prop where
  named : s.keyword = keyword
  title : part.title = s.title
  line : part.line = s.line
  source : part.source.Written (Sections.split s.content level s.contentLine).preamble
    (Sections.split s.content level s.contentLine).preambleLine
  segments : s.Segments rule level part.segments

theorem SourceSection.Made.written {schema : Schema} {rule : SegmentRule} {level most : Nat} {keyword : String}
    {s : Section} {part : SourceSection} (named : s.keyword = keyword) (made : part.Made schema rule level most s) :
    part.Written keyword rule level s :=
  ⟨named, made.title, made.line, (Reference.ofBlockMade made.source).1, made.segments.written⟩

namespace Lens

def PartWritten (s : Section) : LensSection → Prop
  | .page page => page.Written segmentLevel s
  | .article part => part.Written "article" .article segmentLevel s
  | .video part => part.Written "video" .video segmentLevel s

theorem partWritten {most : Nat} {s : Section} {part : LensSection} (made : PartMade most s part) :
    PartWritten s part := by
  cases part with
  | page page => exact made.2.written made.1
  | article part => exact made.2.written made.1
  | video part => exact made.2.written made.1

end Lens

namespace LearningOutcome

structure LensWritten (s : Section) (reference : Reference) : Prop where
  named : s.keyword = "lens"
  link : reference.Written s.content s.contentLine

theorem lensWritten {most : Nat} {s : Section} {reference : Reference} (made : (lensOfSection most s).Made reference) :
    LensWritten s reference := by
  obtain ⟨named, source⟩ := lensOfSectionMade made
  exact ⟨named, (Reference.ofBlockMade source).1⟩

end LearningOutcome

namespace Module

def ItemWritten (s : Section) : ModuleItem → Prop
  | .page page => page.Written segmentLevel s
  | .outcome reference => s.keyword = "learning-outcome" ∧ reference.Written s.content s.contentLine

theorem itemWritten {most : Nat} {s : Section} {item : ModuleItem} (made : ItemMade most s item) :
    ItemWritten s item := by
  cases item with
  | page page => exact made.2.written made.1
  | outcome reference => exact ⟨made.1, (Reference.ofBlockMade made.2).1⟩

end Module

namespace Document

/-- The parts of a document are, one after the other, those under the headings of its text. -/
def Written (x : Frontmatter.Extracted) : Document → Prop
  | .module d =>
    List.Forall₂ Module.ItemWritten (Sections.split x.body Module.sectionLevel x.bodyLine).sections d.items
  | .learningOutcome d =>
    List.Forall₂ LearningOutcome.LensWritten
      (Sections.split x.body LearningOutcome.sectionLevel x.bodyLine).sections d.lenses
  | .lens d =>
    List.Forall₂ Lens.PartWritten (Sections.split x.body Lens.sectionLevel x.bodyLine).sections d.sections
  | _ => True

def Kept : Document → Prop
  | .module d => ∀ item ∈ d.items, item.Kept
  | .lens d => ∀ part ∈ d.sections, part.Kept
  | _ => True

theorem keptOfWritten {x : Frontmatter.Extracted} {d : Document} (written : d.Written x) : d.Kept := by
  cases d with
  | module d =>
    intro item member
    obtain ⟨s, _, under⟩ := memRelated written member
    cases item with
    | outcome reference => trivial
    | page page => exact under.segments.kept
  | lens d =>
    intro part member
    obtain ⟨s, _, under⟩ := memRelated written member
    cases part with
    | page page => exact under.segments.kept
    | article part => exact under.segments.kept
    | video part => exact under.segments.kept
  | _ => trivial

theorem writtenOfMade {most : Nat} {x : Frontmatter.Extracted} {d : Document} (made : d.Made most x) : d.Written x := by
  cases d with
  | module d => exact made.items.imp fun _ _ each => Module.itemWritten (Module.itemOfSectionMade each)
  | learningOutcome d => exact made.lenses.imp fun _ _ each => LearningOutcome.lensWritten each
  | lens d => exact made.sections.imp fun _ _ each => Lens.partWritten (Lens.partOfSectionMade each)
  | _ => trivial

theorem bodyWritten {kind : Kind} {most : Nat} {x : Frontmatter.Extracted} {d : Document}
    (value : (bodyOf kind most x).value = some d)
    (quiet : Remark.blocking (bodyOf kind most x).remarks = false) : d.Written x :=
  writtenOfMade (bodyMade ⟨value, quiet⟩)

theorem parsedKept [Library] {kind : Kind} {most : Nat} {path text : String} {d : Document}
    (read : (parse kind most path text).value = some d) : d.Kept := by
  obtain ⟨x, source⟩ := readSource read
  exact keptOfWritten (bodyWritten source.value source.quiet)

end Document
end Syllabus
