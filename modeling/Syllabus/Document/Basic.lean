import Syllabus.Heading
import Syllabus.Markdown.Inline
import Syllabus.Schema
import Syllabus.Tier
import Syllabus.WikiLink

/-! The documents of a vault. A course lists modules; a module lists learning outcomes and pages; a
learning outcome lists lenses; a lens lists pages and sections over a source; the sources are
articles and video transcripts. Segments are the leaves. -/
namespace Syllabus

structure Identity where
  value : String
  line : Nat
  deriving DecidableEq, Repr

structure Reference where
  link : WikiLink
  optional : Bool
  line : Nat
  deriving DecidableEq, Repr

inductive SegmentKind where
  | text
  | chat
  | articleExcerpt
  | videoExcerpt
  deriving DecidableEq, Repr

namespace SegmentKind

def all : List SegmentKind := [.text, .chat, .articleExcerpt, .videoExcerpt]

def heading : SegmentKind → String
  | .text => "Text"
  | .chat => "Chat"
  | .articleExcerpt => "Article-excerpt"
  | .videoExcerpt => "Video-excerpt"

def ofKeyword? (keyword : String) : Option SegmentKind :=
  all.find? fun kind => Keyword.ofText kind.heading == keyword

def schema : SegmentKind → Schema
  | .text => .textSegment
  | .chat => .chatSegment
  | .articleExcerpt => .articleExcerptSegment
  | .videoExcerpt => .videoExcerptSegment

end SegmentKind

inductive SegmentBody where
  | text (content : String)
  | chat (instructions : String) (hideFromUser hideFromTutor : Bool)
  | articleExcerpt (start stop : Option String)
  | videoExcerpt (start stop : String)
  deriving DecidableEq, Repr

def SegmentBody.kind : SegmentBody → SegmentKind
  | .text _ => .text
  | .chat .. => .chat
  | .articleExcerpt .. => .articleExcerpt
  | .videoExcerpt .. => .videoExcerpt

structure Segment where
  body : SegmentBody
  optional : Bool
  line : Nat
  deriving DecidableEq, Repr

structure Page where
  title : String
  id : Option Identity
  optional : Bool
  segments : List Segment
  line : Nat
  deriving DecidableEq, Repr

inductive ModuleItem where
  | outcome (reference : Reference)
  | page (page : Page)
  deriving DecidableEq, Repr

structure Module where
  slug : String
  slugLine : Nat
  title : String
  contentId : Option Identity
  id : Option Identity
  discussion : Option String
  tier : Tier
  items : List ModuleItem
  deriving DecidableEq, Repr

structure Course where
  slug : String
  slugLine : Nat
  title : String
  tier : Tier
  modules : List Reference
  deriving DecidableEq, Repr

structure LearningOutcome where
  id : Identity
  discussion : Option String
  tier : Tier
  lenses : List Reference
  deriving DecidableEq, Repr

structure SourceSection where
  title : String
  source : Reference
  segments : List Segment
  line : Nat
  deriving DecidableEq, Repr

inductive LensSection where
  | page (page : Page)
  | article (part : SourceSection)
  | video (part : SourceSection)
  deriving DecidableEq, Repr

structure Lens where
  id : Identity
  tier : Tier
  sections : List LensSection
  deriving DecidableEq, Repr

structure Article where
  title : String
  author : String
  sourceUrl : String
  date : Option String
  tier : Tier
  body : String
  bodyLine : Nat
  images : List Image
  deriving DecidableEq, Repr

structure VideoTranscript where
  title : String
  channel : String
  url : String
  tier : Tier
  body : String
  bodyLine : Nat
  deriving DecidableEq, Repr

inductive Document where
  | module (document : Module)
  | course (document : Course)
  | learningOutcome (document : LearningOutcome)
  | lens (document : Lens)
  | article (document : Article)
  | videoTranscript (document : VideoTranscript)
  deriving DecidableEq, Repr

structure IdentityUse where
  field : String
  identity : Identity
  deriving DecidableEq, Repr

namespace Document

def kind : Document → Kind
  | .module _ => .module
  | .course _ => .course
  | .learningOutcome _ => .learningOutcome
  | .lens _ => .lens
  | .article _ => .article
  | .videoTranscript _ => .videoTranscript

def tier : Document → Tier
  | .module d => d.tier
  | .course d => d.tier
  | .learningOutcome d => d.tier
  | .lens d => d.tier
  | .article d => d.tier
  | .videoTranscript d => d.tier

def slug? : Document → Option (String × Nat)
  | .module d => some (d.slug, d.slugLine)
  | .course d => some (d.slug, d.slugLine)
  | _ => none

def pageIdentities (pages : List Page) : List IdentityUse :=
  pages.filterMap fun page => page.id.map (IdentityUse.mk "Page id")

def identities : Document → List IdentityUse
  | .module d =>
    (d.contentId.map (IdentityUse.mk "contentId")).toList ++ (d.id.map (IdentityUse.mk "id")).toList
      ++ pageIdentities (d.items.filterMap fun item => match item with
        | .page page => some page
        | .outcome _ => none)
  | .learningOutcome d => [⟨"id", d.id⟩]
  | .lens d =>
    ⟨"id", d.id⟩ :: pageIdentities (d.sections.filterMap fun part => match part with
      | .page page => some page
      | _ => none)
  | _ => []

end Document
end Syllabus
