import Syllabus.Document.Segment

/-! Lenses: level-three sections that are pages or stand over an article or a video. -/
namespace Syllabus.Lens

def sectionLevel : Nat := 3

def segmentLevel : Nat := 4

def sectionNames : List String := ["Page", "Article", "Video"]

def sourceOfSection (schema : Schema) (rule : SegmentRule) (most : Nat) (s : Section) : Reading SourceSection :=
  let parts := SectionParts.ofSection rule segmentLevel most s
  let source := Reference.ofBlock schema most parts.block s.line
  ⟨source.value.map fun reference => ⟨s.title, reference, parts.segments, s.line⟩,
    parts.remarks ++ source.remarks ++ if source.value.isSome then parts.emptiness rule s else []⟩

def partOfSection (most : Nat) (s : Section) : Reading LensSection :=
  if s.keyword == "page" then (Page.ofSection segmentLevel most s).map .page
  else if s.keyword == "article" then (sourceOfSection .articleSection .article most s).map .article
  else if s.keyword == "video" then (sourceOfSection .videoSection .video most s).map .video
  else ⟨none, [unknownHeading most "section" sectionNames s]⟩

def levels : List (String × Nat) :=
  (sectionNames.map fun name => (name, sectionLevel)) ++ SegmentKind.all.map fun kind => (kind.heading, segmentLevel)

def ofBody (most : Nat) (x : Frontmatter.Extracted) : Reading Lens :=
  let f := x.frontmatter
  let id := f.identity "id"
  match id.value with
  | none => ⟨none, id.remarks⟩
  | some identity =>
    let split := Sections.split x.body sectionLevel x.bodyLine
    let parts := split.sections.map (partOfSection most)
    ⟨some ⟨identity, f.tier, Reading.values parts⟩,
      id.remarks ++ textBefore "'###' section" split ++ Reading.allRemarks parts
        ++ misplacedHeadings levels x.body x.bodyLine
        ++ if split.sections.isEmpty then [.onLine x.bodyLine .noLensSections] else []⟩

def parse [Library] (most : Nat) (text : String) : Reading Lens := .ofText .lens most text (ofBody most)

end Syllabus.Lens
