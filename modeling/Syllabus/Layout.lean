import Syllabus.Kind
import Syllabus.VaultPath

/-! Where a vault keeps its documents, and how far suggestions reach. The top directory of a path,
without regard to case, tells the kind of its document. -/
namespace Syllabus

structure Layout where
  modules : List String
  courses : List String
  learningOutcomes : List String
  lenses : List String
  articles : List String
  videoTranscripts : List String
  deriving DecidableEq, Repr

namespace Layout

def standard : Layout where
  modules := ["modules"]
  courses := ["courses"]
  learningOutcomes := ["learning outcomes", "learning_outcomes", "learning-outcomes"]
  lenses := ["lenses"]
  articles := ["articles"]
  videoTranscripts := ["video_transcripts", "video-transcripts", "transcripts"]

def directories (l : Layout) : Kind → List String
  | .module => l.modules
  | .course => l.courses
  | .learningOutcome => l.learningOutcomes
  | .lens => l.lenses
  | .article => l.articles
  | .videoTranscript => l.videoTranscripts

def kindOf? (l : Layout) (path : String) : Option Kind := do
  if !VaultPath.isMarkdown path then none
  let (top, _) ← Text.cut? "/" path
  let top := Text.lower top
  Kind.all.find? fun kind => (l.directories kind).any fun dir => Text.lower dir == top

end Layout

structure Reach where
  fields : Nat
  files : Nat
  deriving DecidableEq, Repr

def Reach.standard : Reach := ⟨2, 3⟩

structure Config where
  layout : Layout
  reach : Reach
  deriving DecidableEq, Repr

def Config.standard : Config := ⟨.standard, .standard⟩

end Syllabus
