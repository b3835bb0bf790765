import Syllabus.Document.Reading

/-! Segments and the pages that hold them. The segments of a section follow its own fields, each
under a heading one level deeper that names its kind. -/
namespace Syllabus

namespace SegmentBody

def standardStart : String := "0:00"

def ofBlock (b : FieldBlock) : SegmentKind → SegmentBody
  | .text => .text ((b.filled? "content").getD "")
  | .chat => .chat ((b.filled? "instructions").getD "") (b.flag Schema.hideFromUser) (b.flag Schema.hideFromTutor)
  | .articleExcerpt => .articleExcerpt (b.filled? "from") (b.filled? "to")
  | .videoExcerpt => .videoExcerpt ((b.filled? "from").getD standardStart) ((b.filled? "to").getD "")

end SegmentBody

structure SegmentRule where
  sectionName : String
  allowed : List SegmentKind
  deriving DecidableEq, Repr

namespace SegmentRule

def page : SegmentRule := ⟨"Page", [.text, .chat]⟩

def article : SegmentRule := ⟨"Article", [.text, .chat, .articleExcerpt]⟩

def video : SegmentRule := ⟨"Video", [.text, .chat, .videoExcerpt]⟩

end SegmentRule

def Segment.ofSection (rule : SegmentRule) (most : Nat) (s : Section) : Reading Segment :=
  match SegmentKind.ofKeyword? s.keyword with
  | none => ⟨none, [unknownHeading most "segment" (rule.allowed.map SegmentKind.heading) s]⟩
  | some kind =>
    if rule.allowed.contains kind then
      let b := FieldBlock.parse s.content s.contentLine
      ⟨some ⟨SegmentBody.ofBlock b kind, b.flag "optional", s.line⟩, FieldCheck.block kind.schema s.line most b⟩
    else ⟨none, [.onLine s.line (.forbiddenSegment kind.heading rule.sectionName)]⟩

structure SectionParts where
  block : FieldBlock
  segments : List Segment
  remarks : List Remark
  deriving Repr

def SectionParts.ofSection (rule : SegmentRule) (level most : Nat) (s : Section) : SectionParts :=
  let split := Sections.split s.content level s.contentLine
  let readings := split.sections.map (Segment.ofSection rule most)
  ⟨FieldBlock.parse split.preamble split.preambleLine, Reading.values readings, Reading.allRemarks readings⟩

def SectionParts.emptiness (parts : SectionParts) (rule : SegmentRule) (s : Section) : List Remark :=
  if parts.segments.isEmpty then [.onLine s.line (.noSegments rule.sectionName s.title)] else []

namespace Page

def identity (b : FieldBlock) : Reading Identity :=
  match (b.get? "id").filter fun f => !Text.blank f.value with
  | none => ⟨none, []⟩
  | some field =>
    match FieldCheck.uuid "id" field.value with
    | .ok value => ⟨some ⟨value, field.line⟩, []⟩
    | .error problem => ⟨none, [.onLine field.line problem]⟩

def ofSection (level most : Nat) (s : Section) : Reading Page :=
  let parts := SectionParts.ofSection .page level most s
  let id := identity parts.block
  ⟨some ⟨s.title, id.value, parts.block.flag "optional", parts.segments, s.line⟩,
    parts.remarks ++ FieldCheck.block .pageSection s.line most parts.block ++ id.remarks
      ++ parts.emptiness .page s⟩

end Page
end Syllabus
