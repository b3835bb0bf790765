import Syllabus.Diagnostic
import Syllabus.Number.Binary64
import Syllabus.Tier

/-! What a build makes of a vault: modules with all their references followed and all their excerpts
taken, courses as lists of module slugs, and the findings. -/
namespace Syllabus

namespace Artifact

inductive Segment where
  | text (content : String) (optional : Bool)
  | chat (instructions : String) (hideFromUser hideFromTutor optional : Bool)
  | articleExcerpt (content : String) (before after : Option String) (optional : Bool)
  | videoExcerpt (start stop : Binary64) (transcript : String) (optional : Bool)
  deriving DecidableEq, Repr

def Segment.shown : Segment → String
  | .text content _ => content
  | .chat instructions _ _ _ => instructions
  | .articleExcerpt content _ _ _ => content
  | .videoExcerpt _ _ transcript _ => transcript

inductive Source where
  | article (title author sourceUrl : String) (date : Option String)
  | video (title channel url : String)
  deriving DecidableEq, Repr

inductive SectionKind where
  | page
  | article
  | video
  deriving DecidableEq, Repr

def SectionKind.label : SectionKind → String
  | .page => "page"
  | .article => "article"
  | .video => "video"

structure Section where
  kind : SectionKind
  title : String
  contentId : Option String
  outcomeId : Option String
  lensId : Option String
  optional : Bool
  source : Option Source
  segments : List Segment
  deriving DecidableEq, Repr

structure Module where
  slug : String
  title : String
  contentId : Option String
  discussion : Option String
  tier : Tier
  sections : List Section
  deriving DecidableEq, Repr

structure Course where
  slug : String
  title : String
  progression : List String
  deriving DecidableEq, Repr

end Artifact

structure Artifact where
  modules : List Artifact.Module
  courses : List Artifact.Course
  found : List Diagnostic
  deriving DecidableEq, Repr

namespace Artifact

def blocking (a : Artifact) : Bool := Diagnostic.blocking a.found

def summary (a : Artifact) : String :=
  toString a.modules.length ++ " module(s), " ++ toString a.courses.length ++ " course(s): "
    ++ toString (Diagnostic.errorCount a.found) ++ " error(s), "
    ++ toString (Diagnostic.warningCount a.found) ++ " warning(s)"

def shown (a : Artifact) : List String :=
  a.modules.flatMap fun m => m.sections.flatMap fun s => s.segments.map Segment.shown

end Artifact
end Syllabus
