/-! The six kinds of documents of a vault. -/
namespace Syllabus

inductive Kind where
  | module
  | course
  | learningOutcome
  | lens
  | article
  | videoTranscript
  deriving DecidableEq, Repr, Inhabited

namespace Kind

def all : List Kind := [.course, .module, .learningOutcome, .lens, .article, .videoTranscript]

def label : Kind → String
  | .module => "module"
  | .course => "course"
  | .learningOutcome => "learning outcome"
  | .lens => "lens"
  | .article => "article"
  | .videoTranscript => "video transcript"

end Kind
end Syllabus
