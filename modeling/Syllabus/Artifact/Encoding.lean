import Syllabus.Artifact
import Syllabus.Json.Printer
import Syllabus.Json.Reader
import Syllabus.Json.Record

/-! Artifacts as JSON. Members come in a fixed order, and those that are absent are left out. A
segment names its type first; a source does not, its members tell. Reading is more generous: members
may come in any order, records may be lists of their values, and unknown members do not matter. -/
namespace Syllabus

def Json.member? (name : String) (encode : α → Json) : Option α → List (String × Json)
  | some a => [(name, encode a)]
  | none => []

def Diagnostic.toJson (d : Diagnostic) : Json :=
  .object ([("file", .text d.file)] ++ Json.member? "line" Json.natural d.line ++ [("message", .text d.message)]
    ++ Json.member? "suggestion" Json.text d.suggestion ++ [("severity", .text d.severity.label)])

namespace Artifact

def Segment.toJson : Segment → Json
  | .text content optional =>
    .object [("type", .text "text"), ("content", .text content), ("optional", .bool optional)]
  | .chat instructions user tutor optional =>
    .object [("type", .text "chat"), ("instructions", .text instructions),
      ("hide_previous_content_from_user", .bool user), ("hide_previous_content_from_tutor", .bool tutor),
      ("optional", .bool optional)]
  | .articleExcerpt content before after optional =>
    .object ([("type", .text "article-excerpt"), ("content", .text content)]
      ++ Json.member? "collapsed_before" Json.text before ++ Json.member? "collapsed_after" Json.text after
      ++ [("optional", .bool optional)])
  | .videoExcerpt start stop transcript optional =>
    .object [("type", .text "video-excerpt"), ("from", .real start), ("to", .real stop),
      ("transcript", .text transcript), ("optional", .bool optional)]

def Source.toJson : Source → Json
  | .article title author sourceUrl date =>
    .object ([("title", .text title), ("author", .text author), ("source_url", .text sourceUrl)]
      ++ Json.member? "date" Json.text date)
  | .video title channel url =>
    .object [("title", .text title), ("channel", .text channel), ("url", .text url)]

def Section.toJson (s : Section) : Json :=
  .object ([("kind", .text s.kind.label), ("title", .text s.title)]
    ++ Json.member? "content_id" Json.text s.contentId
    ++ Json.member? "learning_outcome_id" Json.text s.outcomeId
    ++ Json.member? "lens_id" Json.text s.lensId
    ++ [("optional", .bool s.optional)]
    ++ Json.member? "source" Source.toJson s.source
    ++ [("segments", .list (s.segments.map Segment.toJson))])

def Module.toJson (m : Module) : Json :=
  .object ([("slug", .text m.slug), ("title", .text m.title)]
    ++ Json.member? "content_id" Json.text m.contentId
    ++ Json.member? "discussion" Json.text m.discussion
    ++ [("tier", .text m.tier.label), ("sections", .list (m.sections.map Section.toJson))])

def Course.toJson (c : Course) : Json :=
  .object [("slug", .text c.slug), ("title", .text c.title), ("progression", .list (c.progression.map .text))]

def toJson (a : Artifact) : Json :=
  .object [("modules", .list (a.modules.map Module.toJson)), ("courses", .list (a.courses.map Course.toJson)),
    ("errors", .list (a.found.map Diagnostic.toJson))]

def render (a : Artifact) (pretty : Bool) : String :=
  if pretty then a.toJson.pretty 0 else a.toJson.compact

def severities : List (String × Severity) := [("error", .error), ("warning", .warning)]

def tiers : List (String × Tier) := [("production", .production), ("wip", .wip), ("ignored", .ignored)]

def sectionKinds : List (String × SectionKind) := [("page", .page), ("article", .article), ("video", .video)]

def natural? : Json → Option Nat
  | .number (.integer n) => if 0 ≤ n ∧ n.toNat < UInt64.size then some n.toNat else none
  | _ => none

def number? : Json → Option Binary64
  | .number (.integer n) => some (.ofInt n)
  | .number (.real x) => some x
  | _ => none

def diagnostic? (j : Json) : Option Diagnostic := do
  match ← j.record? [⟨"file", true⟩, ⟨"line", false⟩, ⟨"message", true⟩, ⟨"suggestion", false⟩, ⟨"severity", true⟩] with
  | [some file, line, some message, suggestion, some severity] =>
    some ⟨← file.text?, ← Json.absent? natural? line, ← message.text?, ← Json.absent? Json.text? suggestion,
      ← Json.name? severities severity⟩
  | _ => none

def deepest : Nat := 127

def objectOnly? : Json → Option Json
  | .object members => some (.object members)
  | _ => none

def source? (j : Json) : Option Source :=
  let article : Option Source := do
    match ← j.record? [⟨"title", true⟩, ⟨"author", true⟩, ⟨"source_url", true⟩, ⟨"date", false⟩] with
    | [some title, some author, some url, date] =>
      some (.article (← title.text?) (← author.text?) (← url.text?) (← Json.absent? Json.text? date))
    | _ => none
  let video : Option Source := do
    match ← j.record? [⟨"title", true⟩, ⟨"channel", true⟩, ⟨"url", true⟩] with
    | [some title, some channel, some url] => some (.video (← title.text?) (← channel.text?) (← url.text?))
    | _ => none
  if j.holdable (deepest - 5) then (objectOnly? j).bind fun _ => article.or video else none

def tagged? : Json → Option (String × Json)
  | .object members =>
    match Json.valuesOf "type" members with
    | [.text tag] => some (tag, .object (members.filter fun member => member.1 != "type"))
    | _ => none
  | .list (.text tag :: values) => some (tag, .list values)
  | _ => none

def segment? (j : Json) : Option Segment := do
  let (tag, rest) ← tagged? j
  if !rest.holdable (deepest - 6) then none
  match tag with
  | "text" =>
    match ← rest.record? [⟨"content", true⟩, ⟨"optional", true⟩] with
    | [some content, some optional] => some (.text (← content.text?) (← optional.bool?))
    | _ => none
  | "chat" =>
    match ← rest.record? [⟨"instructions", true⟩, ⟨"hide_previous_content_from_user", true⟩,
        ⟨"hide_previous_content_from_tutor", true⟩, ⟨"optional", true⟩] with
    | [some instructions, some user, some tutor, some optional] =>
      some (.chat (← instructions.text?) (← user.bool?) (← tutor.bool?) (← optional.bool?))
    | _ => none
  | "article-excerpt" =>
    match ← rest.record? [⟨"content", true⟩, ⟨"collapsed_before", false⟩, ⟨"collapsed_after", false⟩,
        ⟨"optional", true⟩] with
    | [some content, before, after, some optional] =>
      some (.articleExcerpt (← content.text?) (← Json.absent? Json.text? before)
        (← Json.absent? Json.text? after) (← optional.bool?))
    | _ => none
  | "video-excerpt" =>
    match ← rest.record? [⟨"from", true⟩, ⟨"to", true⟩, ⟨"transcript", true⟩, ⟨"optional", true⟩] with
    | [some start, some stop, some transcript, some optional] =>
      some (.videoExcerpt (← number? start) (← number? stop) (← transcript.text?) (← optional.bool?))
    | _ => none
  | _ => none

def section? (j : Json) : Option Section := do
  match ← j.record? [⟨"kind", true⟩, ⟨"title", true⟩, ⟨"content_id", false⟩, ⟨"learning_outcome_id", false⟩,
      ⟨"lens_id", false⟩, ⟨"optional", true⟩, ⟨"source", false⟩, ⟨"segments", true⟩] with
  | [some kind, some title, contentId, outcomeId, lensId, some optional, source, some segments] =>
    some ⟨← Json.name? sectionKinds kind, ← title.text?, ← Json.absent? Json.text? contentId,
      ← Json.absent? Json.text? outcomeId, ← Json.absent? Json.text? lensId, ← optional.bool?,
      ← Json.absent? source? source, ← segments.list? segment?⟩
  | _ => none

def module? (j : Json) : Option Module := do
  match ← j.record? [⟨"slug", true⟩, ⟨"title", true⟩, ⟨"content_id", false⟩, ⟨"discussion", false⟩,
      ⟨"tier", true⟩, ⟨"sections", true⟩] with
  | [some slug, some title, contentId, discussion, some tier, some sections] =>
    some ⟨← slug.text?, ← title.text?, ← Json.absent? Json.text? contentId, ← Json.absent? Json.text? discussion,
      ← Json.name? tiers tier, ← sections.list? section?⟩
  | _ => none

def course? (j : Json) : Option Course := do
  match ← j.record? [⟨"slug", true⟩, ⟨"title", true⟩, ⟨"progression", true⟩] with
  | [some slug, some title, some progression] =>
    some ⟨← slug.text?, ← title.text?, ← progression.list? Json.text?⟩
  | _ => none

def ofJson? (j : Json) : Option Artifact := do
  match ← j.record? [⟨"modules", true⟩, ⟨"courses", true⟩, ⟨"errors", true⟩] with
  | [some modules, some courses, some found] =>
    some ⟨← modules.list? module?, ← courses.list? course?, ← found.list? diagnostic?⟩
  | _ => none

def parse? (text : String) : Option Artifact := (Json.read? text).bind ofJson?

end Artifact
end Syllabus
