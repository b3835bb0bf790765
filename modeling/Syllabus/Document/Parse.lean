import Syllabus.Document.Course
import Syllabus.Document.LearningOutcome
import Syllabus.Document.Lens
import Syllabus.Document.Module
import Syllabus.Embed

/-! Reading a document of a given kind. Articles and video transcripts are the sources that lenses take excerpts from. Their
bodies are kept as they are; an article may not embed files by double brackets. -/
namespace Syllabus

variable [Library]

namespace Article

def ofBody (x : Frontmatter.Extracted) : Reading Article :=
  let f := x.frontmatter
  ⟨some ⟨f.trimmed "title", f.trimmed "author", f.trimmed "source_url", f.filled? "date", f.tier,
      x.body, x.bodyLine, Image.find x.body x.bodyLine⟩,
    (Embed.find x.body x.bodyLine).map fun (line, raw) => .onLine line (.wikiEmbed raw)⟩

def parse (most : Nat) (text : String) : Reading Article := .ofText .article most text ofBody

end Article

namespace VideoTranscript

def ofBody (x : Frontmatter.Extracted) : Reading VideoTranscript :=
  let f := x.frontmatter
  ⟨some ⟨f.trimmed "title", f.trimmed "channel", f.trimmed "url", f.tier, x.body, x.bodyLine⟩,
    if Text.blank x.body then [.onLine x.bodyLine .emptyTranscript] else []⟩

def parse (most : Nat) (text : String) : Reading VideoTranscript := .ofText .videoTranscript most text ofBody

end VideoTranscript
namespace Document

def read (kind : Kind) (most : Nat) (text : String) : Reading Document :=
  match kind with
  | .module => (Module.parse most text).map .module
  | .course => (Course.parse most text).map .course
  | .learningOutcome => (LearningOutcome.parse most text).map .learningOutcome
  | .lens => (Lens.parse most text).map .lens
  | .article => (Article.parse most text).map .article
  | .videoTranscript => (VideoTranscript.parse most text).map .videoTranscript

def parse (kind : Kind) (most : Nat) (file text : String) : Outcome Document :=
  let reading := read kind most text
  ⟨reading.value, reading.remarks.map (Remark.inFile file)⟩

end Document
end Syllabus
