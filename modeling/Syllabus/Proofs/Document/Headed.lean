import Syllabus.Proofs.Document.Made
import Syllabus.Proofs.FieldLines

/-! The headings of a document and what was made of them. Every heading of the structural level in the body gives a
part of the kind that its keyword names, and every heading of the segment level below it a segment, in the order
of the headings. -/
namespace Syllabus

def SegmentKind.keyword : SegmentKind → String
  | .text => "text"
  | .chat => "chat"
  | .articleExcerpt => "article-excerpt"
  | .videoExcerpt => "video-excerpt"

theorem SegmentKind.ofKeywordOnly {keyword : String} {kind : SegmentKind} (found : ofKeyword? keyword = some kind) :
    keyword = kind.keyword := by
  have same := List.find?_some found
  simp only [beq_iff_eq] at same
  rw [← same]
  cases kind <;> decide

namespace HeadingLine

def keyword (h : HeadingLine) : String := (Heading.label h.heading.text).1

def title (h : HeadingLine) : String := (Heading.label h.heading.text).2

end HeadingLine

structure Segment.Headed (h : HeadingLine) (s : Segment) : Prop where
  named : h.keyword = s.body.kind.keyword
  line : s.line = h.line

namespace Section

/-- A part with a title, a line and segments stands for a section: the segments are those of the headings of the
segment level below it. -/
structure Holds (level : Nat) (keyword : String) (s : Section) (title : String) (line : Nat)
    (segments : List Segment) : Prop where
  named : s.keyword = keyword
  title : title = s.title
  line : line = s.line
  segments : List.Forall₂ Segment.Headed (headingsAt level s.content s.contentLine) segments

structure Refers (keyword : String) (s : Section) (r : Reference) : Prop where
  named : s.keyword = keyword
  link : (WikiLink.ofField s.block "source").value = some r.link
  line : Text.Numbered s.content s.contentLine r.line

end Section

def ModuleItem.Headed (s : Section) : ModuleItem → Prop
  | .page p => s.Holds 2 "page" p.title p.line p.segments
  | .outcome r => s.Refers "learning-outcome" r

def LensSection.Headed (s : Section) : LensSection → Prop
  | .page p => s.Holds 4 "page" p.title p.line p.segments
  | .article part => s.Holds 4 "article" part.title part.line part.segments
  | .video part => s.Holds 4 "video" part.title part.line part.segments

def Document.Headed (x : Frontmatter.Extracted) : Document → Prop
  | .module d =>
    List.Forall₂ (fun h => ModuleItem.Headed (sectionOf 1 x.body x.bodyLine h)) (headingsAt 1 x.body x.bodyLine) d.items
  | .learningOutcome d =>
    List.Forall₂ (fun h => Section.Refers "lens" (sectionOf 2 x.body x.bodyLine h)) (headingsAt 2 x.body x.bodyLine)
      d.lenses
  | .lens d =>
    List.Forall₂ (fun h => LensSection.Headed (sectionOf 3 x.body x.bodyLine h)) (headingsAt 3 x.body x.bodyLine)
      d.sections
  | _ => True

variable {rule : SegmentRule} {schema : Schema} {level most : Nat} {s : Section}

theorem Segment.headedOfMade {content : String} {first : Nat} {h : HeadingLine} {segment : Segment}
    (made : (ofSection rule most (sectionOf level content first h)).Made segment) : Headed h segment := by
  obtain ⟨kind, named, _, rfl, _⟩ := ofSectionMade made
  refine ⟨?_, rfl⟩
  have keyword := SegmentKind.ofKeywordOnly named
  cases kind <;> exact keyword

theorem Section.SegmentsMade.headed {segments : List Segment} (made : s.SegmentsMade rule level most segments) :
    List.Forall₂ Segment.Headed (headingsAt level s.content s.contentLine) segments := by
  rw [SegmentsMade, parts, splitSections, List.forall₂_map_left_iff] at made
  exact made.imp fun _ _ each => Segment.headedOfMade each

theorem Page.Made.headed {page : Page} (named : s.keyword = "page") (made : page.Made level most s) :
    s.Holds level "page" page.title page.line page.segments :=
  ⟨named, made.title, made.line, made.segments.headed⟩

theorem SourceSection.Made.headed {keyword : String} {part : SourceSection} (named : s.keyword = keyword)
    (made : part.Made schema rule level most s) : s.Holds level keyword part.title part.line part.segments :=
  ⟨named, made.title, made.line, made.segments.headed⟩

theorem Reference.lineOfMade {b : FieldBlock} {line : Nat} {r : Reference} (made : (ofBlock schema most b line).Made r) :
    ∃ f, b.get? "source" = some f ∧ r.line = f.line := by
  obtain ⟨link, same, _⟩ := ofBlockMade made
  cases found : b.get? "source" with
  | none => simp [WikiLink.ofField, found] at link
  | some f =>
    refine ⟨f, rfl, ?_⟩
    rw [same]
    simp [ofLink, found]

theorem Reference.headedOfMade {keyword : String} {r : Reference} (named : s.keyword = keyword)
    (made : (ofBlock schema most s.block s.line).Made r) : s.Refers keyword r := by
  obtain ⟨f, found, same⟩ := lineOfMade made
  obtain ⟨_, ⟨line, stands, _⟩, _⟩ := FieldBlock.firstLine (by decide) found
  refine ⟨named, (ofBlockMade made).1, ?_⟩
  rw [same]
  exact Text.numberedIff.mpr ⟨line, stands⟩

namespace Document

theorem headedOfMade {x : Frontmatter.Extracted} {d : Document} (made : d.Made most x) : d.Headed x := by
  cases d with
  | module d =>
    have items := made.items
    rw [splitSections, List.forall₂_map_left_iff] at items
    refine items.imp fun h item each => ?_
    cases item with
    | page page =>
      obtain ⟨named, page⟩ := Module.itemOfSectionMade each
      exact page.headed named
    | outcome reference =>
      obtain ⟨named, source⟩ := Module.itemOfSectionMade each
      exact Reference.headedOfMade named source
  | learningOutcome d =>
    have lenses := made.lenses
    rw [splitSections, List.forall₂_map_left_iff] at lenses
    refine lenses.imp fun h reference each => ?_
    obtain ⟨named, source⟩ := LearningOutcome.lensOfSectionMade each
    exact Reference.headedOfMade named source
  | lens d =>
    have sections := made.sections
    rw [splitSections, List.forall₂_map_left_iff] at sections
    refine sections.imp fun h part each => ?_
    cases part with
    | page page =>
      obtain ⟨named, page⟩ := Lens.partOfSectionMade each
      exact page.headed named
    | article part =>
      obtain ⟨named, part⟩ := Lens.partOfSectionMade each
      exact part.headed named
    | video part =>
      obtain ⟨named, part⟩ := Lens.partOfSectionMade each
      exact part.headed named
  | _ => trivial

theorem headingsKept [Library] {kind : Kind} {most : Nat} {file text : String} {d : Document}
    (read : (parse kind most file text).value = some d) :
    ∃ x, Frontmatter.extract text = .ok x ∧ d.kind = kind ∧ d.Headed x := by
  obtain ⟨x, source⟩ := readSource read
  have made := bodyMade ⟨source.value, source.quiet⟩
  exact ⟨x, source.extracted, (bodyValue source.value).1, headedOfMade made⟩

def fencedText : String :=
  "---\nslug: a\ntitle: A\n---\n# Page: P\n## Text\ncontent:: a\n~~~\n# Page: Q\n~~~\n# Learning Outcome:\nsource:: [[o]]\n"

def fencedModule : Module where
  slug := "a"
  slugLine := 2
  title := "A"
  contentId := none
  id := none
  discussion := none
  tier := .production
  items := [.page ⟨"P", none, false, [⟨.text "a\n~~~\n# Page: Q\n~~~", false, 6⟩], 5⟩, .outcome ⟨⟨"o", none, none⟩, false, 12⟩]

theorem fencedModuleHeaded :
    (parse .module 3 "modules/a.md" fencedText).value = some (.module fencedModule) ∧
      ∃ x, Frontmatter.extract fencedText = .ok x ∧ (Document.module fencedModule).kind = .module ∧
        (Document.module fencedModule).Headed x :=
  have read : (parse .module 3 "modules/a.md" fencedText).value = some (.module fencedModule) := by decide +kernel
  ⟨read, headingsKept read⟩

end Document
end Syllabus
