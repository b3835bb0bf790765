import Syllabus.Kind

/-! Which fields a block of fields may carry. Schemas come in three families: the frontmatter of
documents, the fields of sections and the fields of segments. A field that one schema does not know
may belong to another of its family, or be a slip of one. -/
namespace Syllabus

inductive Family where
  | frontmatter
  | section
  | segment
  deriving DecidableEq, Repr

structure Schema where
  name : String
  family : Family
  required : List String
  optional : List String
  boolean : List String
  deriving DecidableEq, Repr

namespace Schema

def fields (s : Schema) : List String := s.required ++ s.optional

def knows (s : Schema) (key : String) : Bool := s.fields.contains key

def isBoolean (s : Schema) (key : String) : Bool := s.boolean.contains key

def module : Schema where
  name := "module frontmatter"
  family := .frontmatter
  required := ["slug", "title"]
  optional := ["contentId", "id", "discussion", "tags"]
  boolean := []

def course : Schema where
  name := "course frontmatter"
  family := .frontmatter
  required := ["slug", "title"]
  optional := ["tags"]
  boolean := []

def learningOutcome : Schema where
  name := "learning outcome frontmatter"
  family := .frontmatter
  required := ["id"]
  optional := ["discussion", "tags"]
  boolean := []

def lens : Schema where
  name := "lens frontmatter"
  family := .frontmatter
  required := ["id"]
  optional := ["tags"]
  boolean := []

def article : Schema where
  name := "article frontmatter"
  family := .frontmatter
  required := ["title", "author", "source_url"]
  optional := ["date", "tags"]
  boolean := []

def videoTranscript : Schema where
  name := "video transcript frontmatter"
  family := .frontmatter
  required := ["title", "channel", "url"]
  optional := ["tags"]
  boolean := []

def outcomeReference : Schema where
  name := "Learning Outcome section"
  family := .section
  required := ["source"]
  optional := ["optional"]
  boolean := ["optional"]

def moduleReference : Schema where
  name := "Module section"
  family := .section
  required := []
  optional := ["source", "optional"]
  boolean := ["optional"]

def lensReference : Schema where
  name := "Lens section"
  family := .section
  required := ["source"]
  optional := ["optional"]
  boolean := ["optional"]

def pageSection : Schema where
  name := "Page section"
  family := .section
  required := []
  optional := ["id", "optional"]
  boolean := ["optional"]

def articleSection : Schema where
  name := "Article section"
  family := .section
  required := ["source"]
  optional := ["optional"]
  boolean := ["optional"]

def videoSection : Schema where
  name := "Video section"
  family := .section
  required := ["source"]
  optional := ["optional"]
  boolean := ["optional"]

def textSegment : Schema where
  name := "Text segment"
  family := .segment
  required := ["content"]
  optional := ["optional"]
  boolean := ["optional"]

def hideFromUser : String := "hidePreviousContentFromUser"

def hideFromTutor : String := "hidePreviousContentFromTutor"

def chatSegment : Schema where
  name := "Chat segment"
  family := .segment
  required := ["instructions"]
  optional := [hideFromUser, hideFromTutor, "optional"]
  boolean := [hideFromUser, hideFromTutor, "optional"]

def articleExcerptSegment : Schema where
  name := "Article-excerpt segment"
  family := .segment
  required := []
  optional := ["from", "to", "optional"]
  boolean := ["optional"]

def videoExcerptSegment : Schema where
  name := "Video-excerpt segment"
  family := .segment
  required := ["to"]
  optional := ["from", "optional"]
  boolean := ["optional"]

def ofKind : Kind → Schema
  | .module => module
  | .course => course
  | .learningOutcome => learningOutcome
  | .lens => lens
  | .article => article
  | .videoTranscript => videoTranscript

end Schema

namespace Family

def schemas : Family → List Schema
  | .frontmatter => [.module, .course, .learningOutcome, .lens, .article, .videoTranscript]
  | .section =>
    [.outcomeReference, .moduleReference, .lensReference, .pageSection, .articleSection, .videoSection]
  | .segment => [.textSegment, .chatSegment, .articleExcerptSegment, .videoExcerptSegment]

def fields (f : Family) : List String :=
  (f.schemas.flatMap Schema.fields).foldl (fun known key => if known.contains key then known else known ++ [key]) []

def ownerOf? (s : Schema) (key : String) : Option Schema :=
  s.family.schemas.find? fun other => other.name != s.name && other.knows key

end Family

def Schema.all : List Schema := Family.frontmatter.schemas ++ Family.section.schemas ++ Family.segment.schemas

end Syllabus
