import Syllabus.Proofs.Document.Headed
import Syllabus.Proofs.Document.Written
import Syllabus.Proofs.Frontmatter
import Syllabus.Proofs.Heading

/-! The numbers of lines in a document. Each is the number of a line of the file: the body starts below the
frontmatter, a section below its heading, and the fields and segments of a section inside it. A number of a part
or a segment is that of its heading, and a number of a field that of the first line below the heading that starts
with its key. -/
namespace Syllabus
open Text (LineAt Numbered Shows FirstFrom)

def Text.HeadingAt (text : String) (level n : Nat) (label : String × String) : Prop :=
  ∃ line h, LineAt text 1 n line ∧ Heading.ofLine? line = some h ∧ h.level = level ∧ Heading.label h.text = label

structure Under (level : Nat) (text : String) (first : Nat) (h : HeadingLine) (n : Nat) : Prop where
  below : h.line < n
  above : ∀ next ∈ headingsAt level text first, h.line < next.line → n < next.line

section Stands

variable (text : String) (x : Frontmatter.Extracted) (level inner : Nat) (h : HeadingLine)

structure FieldStands (head : String) (n : Nat) : Prop where
  first : FirstFrom text 1 (h.line + 1) head n
  under : Under level x.body x.bodyLine h n

structure Segment.Stands (g : HeadingLine) (s : Segment) : Prop where
  line : s.line = g.line
  under : Under level x.body x.bodyLine h g.line
  heading : Text.HeadingAt text inner g.line (s.body.kind.keyword, g.title)

def SegmentsStand (segments : List Segment) : Prop :=
  List.Forall₂ (Segment.Stands text x level inner h)
    (headingsAt inner (contentBelow level x.body x.bodyLine h) (h.line + 1)) segments

structure Page.Stands (page : Page) : Prop where
  line : page.line = h.line
  heading : Text.HeadingAt text level h.line ("page", page.title)
  segments : SegmentsStand text x level inner h page.segments
  id : ∀ id, page.id = some id → FieldStands text x level h "id::" id.line
  ahead : ∀ id, page.id = some id → ∀ s ∈ page.segments, id.line < s.line

structure SourceSection.Stands (keyword : String) (part : SourceSection) : Prop where
  line : part.line = h.line
  heading : Text.HeadingAt text level h.line (keyword, part.title)
  segments : SegmentsStand text x level inner h part.segments
  source : FieldStands text x level h "source::" part.source.line
  ahead : ∀ s ∈ part.segments, part.source.line < s.line

structure Reference.Stands (keyword : String) (r : Reference) : Prop where
  heading : Text.HeadingAt text level h.line (keyword, h.title)
  source : FieldStands text x level h "source::" r.line

def ModuleItem.Stands : ModuleItem → Prop
  | .page p => p.Stands text x 1 2 h
  | .outcome r => r.Stands text x 1 h "learning-outcome"

def LensSection.Stands : LensSection → Prop
  | .page p => p.Stands text x 3 4 h
  | .article part => part.Stands text x 3 4 h "article"
  | .video part => part.Stands text x 3 4 h "video"

/-- The part at each place has its numbers from the heading at that place and from the lines of its section. -/
def Document.Stands : Document → Prop
  | .module d => List.Forall₂ (ModuleItem.Stands text x) (headingsAt 1 x.body x.bodyLine) d.items
  | .learningOutcome d =>
    List.Forall₂ (fun h r => r.Stands text x 2 h "lens") (headingsAt 2 x.body x.bodyLine) d.lenses
  | .lens d => List.Forall₂ (LensSection.Stands text x) (headingsAt 3 x.body x.bodyLine) d.sections
  | _ => True

end Stands

variable {text : String} {x : Frontmatter.Extracted} {level inner most : Nat} {rule : SegmentRule} {schema : Schema}
variable {s : Section} {h : HeadingLine}

structure Section.Stands (text : String) (level : Nat) (s : Section) : Prop where
  heading : Text.HeadingAt text level s.line (s.keyword, s.title)
  content : Shows text 1 s.content s.contentLine

theorem Section.standsOfSplit {part : String} {start : Nat} (shows : Shows text 1 part start)
    (member : s ∈ (Sections.split part level start).sections) (named : s.keyword ≠ "") : s.Stands text level := by
  have content := shows.trans (sectionShows member)
  rw [splitSections] at member
  obtain ⟨h, inside, rfl⟩ := List.mem_map.mp member
  obtain ⟨⟨line, found, heading⟩, level⟩ := headingsAtStand inside
  obtain ⟨written, stands, trails⟩ := shows found
  have solid : Text.blank h.heading.text = false := by
    by_contra blank
    rw [Bool.not_eq_false] at blank
    exact named (Heading.labelBlank blank)
  exact ⟨⟨written, h.heading, stands, Heading.ofLineTrails heading solid trails, level, rfl⟩, content⟩

theorem SegmentKind.keywordFilled (kind : SegmentKind) : kind.keyword ≠ "" := by
  cases kind <;> decide

theorem Section.Stands.fieldLine (stands : s.Stands text level) {key : String} {f : Field}
    (word : Field.Word key.toList) (inside : '\r' ∉ (key ++ "::").toList) (found : s.block.get? key = some f) :
    FirstFrom text 1 (s.line + 1) (key ++ "::") f.line :=
  (FieldBlock.firstLine word found).shown stands.content inside

theorem Section.Stands.headerLine (stands : s.Stands text level) {key : String} {f : Field}
    (word : Field.Word key.toList) (inside : '\r' ∉ (key ++ "::").toList) (found : (s.header inner).get? key = some f) :
    FirstFrom text 1 (s.line + 1) (key ++ "::") f.line :=
  (FieldBlock.firstLine word found).shown (stands.content.trans preambleShows) inside

theorem Text.FirstFrom.numbered {first start n : Nat} {head : String} (found : FirstFrom text first start head n) :
    Numbered text first n := by
  obtain ⟨line, stands, _⟩ := found.starts
  exact numberedIff.mpr ⟨line, stands⟩

theorem sectionAmong {part : String} {first : Nat} (member : h ∈ headingsAt level part first) :
    sectionOf level part first h ∈ (Sections.split part level first).sections := by
  rw [splitSections]
  exact List.mem_map_of_mem member

theorem underContent {part : String} {first n : Nat} (member : h ∈ headingsAt level part first)
    (inside : Numbered (contentBelow level part first h) (h.line + 1) n) : Under level part first h n where
  below := inside.1
  above _ there later := (contentSpanned (sectionAmong member) inside).2 _ (sectionAmong there) later

theorem splitRelated {β : Type} {R : Section → β → Prop} {part : String} {first : Nat} {bs : List β}
    (related : List.Forall₂ R (Sections.split part level first).sections bs) :
    List.Forall₂ (fun h b => h ∈ headingsAt level part first ∧ R (sectionOf level part first h) b)
      (headingsAt level part first) bs := by
  rw [splitSections, List.forall₂_map_left_iff] at related
  exact (List.forall₂_and_left _ _).mpr ⟨fun _ member => member, related⟩

section Parts

variable (shows : Shows text 1 x.body x.bodyLine) (member : h ∈ headingsAt level x.body x.bodyLine)
  (named : (sectionOf level x.body x.bodyLine h).keyword ≠ "")
include shows member named

theorem partStands : (sectionOf level x.body x.bodyLine h).Stands text level :=
  Section.standsOfSplit shows (sectionAmong member) named

theorem blockStands {key : String} {f : Field} (word : Field.Word key.toList) (inside : '\r' ∉ (key ++ "::").toList)
    (found : (sectionOf level x.body x.bodyLine h).block.get? key = some f) :
    FieldStands text x level h (key ++ "::") f.line :=
  ⟨(partStands shows member named).fieldLine word inside found,
    underContent member (FieldBlock.firstLine word found).numbered⟩

theorem headerStands {key : String} {f : Field} (word : Field.Word key.toList) (inside : '\r' ∉ (key ++ "::").toList)
    (found : ((sectionOf level x.body x.bodyLine h).header inner).get? key = some f) :
    FieldStands text x level h (key ++ "::") f.line :=
  ⟨(partStands shows member named).headerLine word inside found,
    underContent member (preambleShows.numbered (FieldBlock.firstLine word found).numbered)⟩

theorem segmentsStand {segments : List Segment}
    (made : (sectionOf level x.body x.bodyLine h).SegmentsMade rule inner most segments) :
    SegmentsStand text x level inner h segments := by
  refine (splitRelated made).imp fun g segment each => ?_
  obtain ⟨inside, each⟩ := each
  obtain ⟨kind, found, _, rfl, _⟩ := Segment.ofSectionMade each
  have keyword := SegmentKind.ofKeywordOnly found
  have stands := Section.standsOfSplit (partStands shows member named).content (sectionAmong inside)
    (by rw [keyword]; exact kind.keywordFilled)
  refine ⟨rfl, underContent member (headingsAtStand inside).1.numbered, ?_⟩
  dsimp only
  rw [SegmentBody.ofBlockKind, ← keyword]
  exact stands.heading

end Parts

theorem SegmentsStand.ahead {segments : List Segment} (stand : SegmentsStand text x level inner h segments) {key : String}
    {f : Field} (word : Field.Word key.toList)
    (found : ((sectionOf level x.body x.bodyLine h).header inner).get? key = some f) : ∀ s ∈ segments, f.line < s.line := by
  intro segment member
  obtain ⟨g, inside, stands⟩ := memRelated stand member
  rw [stands.line]
  exact preambleAbove (FieldBlock.firstLine word found).numbered inside

theorem Page.identityLine {b : FieldBlock} {id : Identity} (read : (identity b).value = some id) :
    ∃ f, b.get? "id" = some f ∧ id.line = f.line := by
  unfold identity at read
  split at read
  · cases read
  · rename_i field found
    have first := (Option.filter_eq_some_iff.mp found).1
    split at read
    · cases read
      exact ⟨field, first, rfl⟩
    · cases read

section Made

variable (shows : Shows text 1 x.body x.bodyLine) (member : h ∈ headingsAt level x.body x.bodyLine)
include shows member

theorem Page.Made.stands {page : Page} (named : (sectionOf level x.body x.bodyLine h).keyword = "page")
    (made : page.Made inner most (sectionOf level x.body x.bodyLine h)) : page.Stands text x level inner h := by
  have filled : (sectionOf level x.body x.bodyLine h).keyword ≠ "" := by simp [named]
  have segments := segmentsStand shows member filled made.segments
  refine ⟨made.line, ?_, segments, fun id found => ?_, fun id found => ?_⟩
  · rw [made.title, ← named]
    exact (partStands shows member filled).heading
  all_goals
    obtain ⟨f, first, same⟩ := Page.identityLine (made.id.symm.trans found)
    rw [same]
  · exact headerStands shows member filled (by decide) (by decide) first
  · exact segments.ahead (by decide) first

theorem SourceSection.Made.stands {keyword : String} {part : SourceSection}
    (named : (sectionOf level x.body x.bodyLine h).keyword = keyword) (filled : keyword ≠ "")
    (made : part.Made schema rule inner most (sectionOf level x.body x.bodyLine h)) :
    part.Stands text x level inner h keyword := by
  have solid := named.symm ▸ filled
  have segments := segmentsStand shows member solid made.segments
  obtain ⟨f, first, same⟩ := Reference.lineOfMade made.source
  refine ⟨made.line, ?_, segments, ?_, ?_⟩
  · rw [made.title, ← named]
    exact (partStands shows member solid).heading
  · rw [same]
    exact headerStands shows member solid (by decide) (by decide) first
  · rw [same]
    exact segments.ahead (by decide) first

theorem Reference.standsOfMade {keyword : String} {r : Reference}
    (named : (sectionOf level x.body x.bodyLine h).keyword = keyword) (filled : keyword ≠ "")
    (made : (ofBlock schema most (sectionOf level x.body x.bodyLine h).block h.line).Made r) :
    r.Stands text x level h keyword := by
  have solid := named.symm ▸ filled
  obtain ⟨f, first, same⟩ := lineOfMade made
  refine ⟨?_, ?_⟩
  · rw [← named]
    exact (partStands shows member solid).heading
  · rw [same]
    exact blockStands shows member solid (by decide) (by decide) first

end Made

namespace Document

theorem bodyShown [Library] (extracted : Frontmatter.extract text = .ok x) : Shows text 1 x.body x.bodyLine := by
  intro n line found
  exact ⟨line, Frontmatter.bodyLineAt extracted found, Chars.Trails.refl _⟩

theorem standsOfMade {d : Document} (shows : Shows text 1 x.body x.bodyLine) (made : d.Made most x) : d.Stands text x := by
  cases d with
  | module d =>
    refine (splitRelated made.items).imp fun h item each => ?_
    obtain ⟨member, each⟩ := each
    cases item with
    | page page =>
      obtain ⟨named, page⟩ := Module.itemOfSectionMade each
      exact page.stands shows member named
    | outcome reference =>
      obtain ⟨named, source⟩ := Module.itemOfSectionMade each
      exact Reference.standsOfMade shows member named (by decide) source
  | learningOutcome d =>
    refine (splitRelated made.lenses).imp fun h reference each => ?_
    obtain ⟨member, each⟩ := each
    obtain ⟨named, source⟩ := LearningOutcome.lensOfSectionMade each
    exact Reference.standsOfMade shows member named (by decide) source
  | lens d =>
    refine (splitRelated made.sections).imp fun h part each => ?_
    obtain ⟨member, each⟩ := each
    cases part with
    | page page =>
      obtain ⟨named, page⟩ := Lens.partOfSectionMade each
      exact page.stands shows member named
    | article part =>
      obtain ⟨named, part⟩ := Lens.partOfSectionMade each
      exact part.stands shows member named (by decide)
    | video part =>
      obtain ⟨named, part⟩ := Lens.partOfSectionMade each
      exact part.stands shows member named (by decide)
  | _ => trivial

theorem linesAbsolute [Library] {kind : Kind} {file : String} {d : Document} (read : (parse kind most file text).value = some d) :
    ∃ x, Frontmatter.extract text = .ok x ∧ d.kind = kind ∧ d.Stands text x := by
  obtain ⟨x, source⟩ := readSource read
  have made := bodyMade ⟨source.value, source.quiet⟩
  exact ⟨x, source.extracted, (bodyValue source.value).1, standsOfMade (bodyShown source.extracted) made⟩

def returnedText : String :=
  "---\r\nslug: a\r\ntitle: A\r\n---\r\n# Page: P\r\nid:: 550e8400-e29b-41d4-a716-446655440000\r\n"
    ++ "## Text\r\ncontent:: a\r\n\r\n## Text\r\ncontent:: b\r\n# Learning Outcome:\r\nsource:: [[o]]\r\n"

def returnedPage : Page where
  title := "P"
  id := some ⟨"550e8400-e29b-41d4-a716-446655440000", 6⟩
  optional := false
  segments := [⟨.text "a", false, 7⟩, ⟨.text "b", false, 10⟩]
  line := 5

def returnedModule : Module where
  slug := "a"
  slugLine := 2
  title := "A"
  contentId := none
  id := none
  discussion := none
  tier := .production
  items := [.page returnedPage, .outcome ⟨⟨"o", none, none⟩, false, 13⟩]

theorem returnedModuleStands :
    (parse .module 3 "modules/a.md" returnedText).value = some (.module returnedModule) ∧
      ∃ x, Frontmatter.extract returnedText = .ok x ∧ (Document.module returnedModule).kind = .module ∧
        (Document.module returnedModule).Stands returnedText x :=
  have read : (parse .module 3 "modules/a.md" returnedText).value = some (.module returnedModule) := by decide +kernel
  ⟨read, linesAbsolute read⟩

end Document
end Syllabus
