import Syllabus.Proofs.Json.Same

/-! The written artifact tells the artifact. A section's source has no type but names its author only when it is an
article; every other record tells itself member by member. -/
namespace Syllabus

open Json (Told toldText toldBool toldNatural toldReal toldList)

theorem Severity.labelOnce {s t : Severity} (same : s.label = t.label) : s = t := by
  cases s <;> cases t <;> first | rfl | exact absurd same (by decide)

theorem Tier.labelOnce {s t : Tier} (same : s.label = t.label) : s = t := by
  cases s <;> cases t <;> first | rfl | exact absurd same (by decide)

theorem Artifact.SectionKind.labelOnce {s t : SectionKind} (same : s.label = t.label) : s = t := by
  cases s <;> cases t <;> first | rfl | exact absurd same (by decide)

theorem Diagnostic.told : Told Diagnostic.toJson := by
  rintro ⟨file, line, message, suggestion, severity⟩ ⟨file', line', message', suggestion', severity'⟩ same
  have file : file = file' := toldText.here (by simpa [toJson] using same.member "file")
  have line : line = line' := toldNatural.given (by simpa [toJson] using same.member "line")
  have message : message = message' := toldText.here (by simpa [toJson] using same.member "message")
  have suggestion : suggestion = suggestion' := toldText.given (by simpa [toJson] using same.member "suggestion")
  have severity : severity = severity' :=
    Severity.labelOnce (toldText.here (by simpa [toJson] using same.member "severity"))
  rw [file, line, message, suggestion, severity]

namespace Artifact

def Segment.tag : Segment → String
  | .text .. => "text"
  | .chat .. => "chat"
  | .articleExcerpt .. => "article-excerpt"
  | .videoExcerpt .. => "video-excerpt"

theorem Segment.tagOnce {s t : Segment} (same : s.toJson.Same t.toJson) : s.tag = t.tag := by
  have tagged (s : Segment) : s.toJson.get? "type" = some (.text s.tag) := by cases s <;> simp [toJson, tag]
  refine toldText.here ?_
  rw [← tagged s, ← tagged t]
  exact same.member "type"

theorem Segment.told : Told Segment.toJson := by
  intro s t same
  have tags := tagOnce same
  cases s with
  | text content optional =>
    cases t with
    | text content' optional' =>
      have content : content = content' := toldText.here (by simpa [toJson] using same.member "content")
      have optional : optional = optional' := toldBool.here (by simpa [toJson] using same.member "optional")
      rw [content, optional]
    | _ => exact absurd tags (by simp [tag])
  | chat instructions user tutor optional =>
    cases t with
    | chat instructions' user' tutor' optional' =>
      have instructions : instructions = instructions' :=
        toldText.here (by simpa [toJson] using same.member "instructions")
      have user : user = user' := toldBool.here (by simpa [toJson] using same.member "hide_previous_content_from_user")
      have tutor : tutor = tutor' :=
        toldBool.here (by simpa [toJson] using same.member "hide_previous_content_from_tutor")
      have optional : optional = optional' := toldBool.here (by simpa [toJson] using same.member "optional")
      rw [instructions, user, tutor, optional]
    | _ => exact absurd tags (by simp [tag])
  | articleExcerpt content before after optional =>
    cases t with
    | articleExcerpt content' before' after' optional' =>
      have content : content = content' := toldText.here (by simpa [toJson] using same.member "content")
      have before : before = before' := toldText.given (by simpa [toJson] using same.member "collapsed_before")
      have after : after = after' := toldText.given (by simpa [toJson] using same.member "collapsed_after")
      have optional : optional = optional' := toldBool.here (by simpa [toJson] using same.member "optional")
      rw [content, before, after, optional]
    | _ => exact absurd tags (by simp [tag])
  | videoExcerpt start stop transcript optional =>
    cases t with
    | videoExcerpt start' stop' transcript' optional' =>
      have start : start = start' := toldReal.here (by simpa [toJson] using same.member "from")
      have stop : stop = stop' := toldReal.here (by simpa [toJson] using same.member "to")
      have transcript : transcript = transcript' := toldText.here (by simpa [toJson] using same.member "transcript")
      have optional : optional = optional' := toldBool.here (by simpa [toJson] using same.member "optional")
      rw [start, stop, transcript, optional]
    | _ => exact absurd tags (by simp [tag])

def Source.author? : Source → Option String
  | .article _ author _ _ => some author
  | .video .. => none

theorem Source.told : Told Source.toJson := by
  intro s t same
  -- No type is written; the two forms are told by the author, which an article always has and a video never.
  have authored (s : Source) : s.toJson.get? "author" = s.author?.map .text := by cases s <;> simp [toJson, author?]
  have authors : s.author? = t.author? := toldText.given (by simpa only [authored] using same.member "author")
  cases s with
  | article title author url date =>
    cases t with
    | article title' author' url' date' =>
      have title : title = title' := toldText.here (by simpa [toJson] using same.member "title")
      have url : url = url' := toldText.here (by simpa [toJson] using same.member "source_url")
      have date : date = date' := toldText.given (by simpa [toJson] using same.member "date")
      rw [title, Option.some.inj authors, url, date]
    | video => cases authors
  | video title channel url =>
    cases t with
    | article => cases authors
    | video title' channel' url' =>
      have title : title = title' := toldText.here (by simpa [toJson] using same.member "title")
      have channel : channel = channel' := toldText.here (by simpa [toJson] using same.member "channel")
      have url : url = url' := toldText.here (by simpa [toJson] using same.member "url")
      rw [title, channel, url]

theorem Section.told : Told Section.toJson := by
  rintro ⟨kind, title, contentId, outcomeId, lensId, optional, source, segments⟩
    ⟨kind', title', contentId', outcomeId', lensId', optional', source', segments'⟩ same
  have kind : kind = kind' := SectionKind.labelOnce (toldText.here (by simpa [toJson] using same.member "kind"))
  have title : title = title' := toldText.here (by simpa [toJson] using same.member "title")
  have contentId : contentId = contentId' := toldText.given (by simpa [toJson] using same.member "content_id")
  have outcomeId : outcomeId = outcomeId' := toldText.given (by simpa [toJson] using same.member "learning_outcome_id")
  have lensId : lensId = lensId' := toldText.given (by simpa [toJson] using same.member "lens_id")
  have optional : optional = optional' := toldBool.here (by simpa [toJson] using same.member "optional")
  have source : source = source' := Source.told.given (by simpa [toJson] using same.member "source")
  have segments : segments = segments' :=
    (toldList Segment.told).here (by simpa [toJson] using same.member "segments")
  rw [kind, title, contentId, outcomeId, lensId, optional, source, segments]

theorem Module.told : Told Module.toJson := by
  rintro ⟨slug, title, contentId, discussion, tier, sections⟩ ⟨slug', title', contentId', discussion', tier', sections'⟩ same
  have slug : slug = slug' := toldText.here (by simpa [toJson] using same.member "slug")
  have title : title = title' := toldText.here (by simpa [toJson] using same.member "title")
  have contentId : contentId = contentId' := toldText.given (by simpa [toJson] using same.member "content_id")
  have discussion : discussion = discussion' := toldText.given (by simpa [toJson] using same.member "discussion")
  have tier : tier = tier' := Tier.labelOnce (toldText.here (by simpa [toJson] using same.member "tier"))
  have sections : sections = sections' := (toldList Section.told).here (by simpa [toJson] using same.member "sections")
  rw [slug, title, contentId, discussion, tier, sections]

theorem Course.told : Told Course.toJson := by
  rintro ⟨slug, title, progression⟩ ⟨slug', title', progression'⟩ same
  have slug : slug = slug' := toldText.here (by simpa [toJson] using same.member "slug")
  have title : title = title' := toldText.here (by simpa [toJson] using same.member "title")
  have progression : progression = progression' :=
    (toldList toldText).here (by simpa [toJson] using same.member "progression")
  rw [slug, title, progression]

theorem told : Told Artifact.toJson := by
  rintro ⟨modules, courses, found⟩ ⟨modules', courses', found'⟩ same
  have modules : modules = modules' := (toldList Module.told).here (by simpa [toJson] using same.member "modules")
  have courses : courses = courses' := (toldList Course.told).here (by simpa [toJson] using same.member "courses")
  have found : found = found' := (toldList Diagnostic.told).here (by simpa [toJson] using same.member "errors")
  rw [modules, courses, found]

def Segment.TimesFinite : Segment → Prop
  | .videoExcerpt start stop _ _ => start.Representable ∧ stop.Representable
  | _ => True

instance (s : Segment) : Decidable s.TimesFinite := by
  cases s <;> unfold Segment.TimesFinite <;> infer_instance

def TimesFinite (a : Artifact) : Prop := ∀ m ∈ a.modules, ∀ s ∈ m.sections, ∀ segment ∈ s.segments, segment.TimesFinite

instance (a : Artifact) : Decidable a.TimesFinite := by
  unfold TimesFinite
  infer_instance

theorem plain {a : Artifact} (finite : a.TimesFinite) : a.toJson.Plain := by
  have finding (d : Diagnostic) : d.toJson.Plain := by simp [Diagnostic.toJson]
  have course (c : Course) : c.toJson.Plain := by simp [Course.toJson]
  have source (s : Source) : s.toJson.Plain := by cases s <;> simp [Source.toJson]
  have segment (s : Segment) (finite : s.TimesFinite) : s.toJson.Plain := by
    cases s with
    | videoExcerpt =>
      obtain ⟨start, stop⟩ := finite
      simp [Segment.toJson, start, stop]
    | _ => simp [Segment.toJson]
  have part (s : Section) (finite : ∀ segment ∈ s.segments, segment.TimesFinite) : s.toJson.Plain := by
    simpa [Section.toJson, source] using fun t member => segment t (finite t member)
  have module (m : Module) (finite : ∀ s ∈ m.sections, ∀ segment ∈ s.segments, segment.TimesFinite) : m.toJson.Plain := by
    simpa [Module.toJson] using fun s member => part s (finite s member)
  simpa [toJson, course, finding] using fun m member => module m (finite m member)

theorem renderOnce {a b : Artifact} (finite : a.TimesFinite) (finite' : b.TimesFinite) (indented indented' : Bool) :
    Json.SameValue (a.render indented) (b.render indented') ↔ a = b := by
  have spells {a : Artifact} (finite : a.TimesFinite) (indented : Bool) : a.toJson.Spells (a.render indented) := by
    cases indented with
    | true => exact Json.spellsPretty (plain finite) 0
    | false => exact Json.spellsCompact (plain finite)
  rw [(spells finite indented).sameValue (spells finite' indented')]
  constructor
  · exact told a b
  · rintro rfl
    exact Json.sameRefl (plain finite)

def lecture (source : Source) : Artifact where
  modules := [{
    slug := "intro", title := "Intro", contentId := none, discussion := none, tier := .wip,
    sections := [{
      kind := .video, title := "Talk", contentId := none, outcomeId := none, lensId := none, optional := false,
      source := some source, segments := [.videoExcerpt (.ofInt 0) (.ofInt 30) "Welcome." false] }] }]
  courses := []
  found := []

theorem lectureSourcesApart : ¬Json.SameValue ((lecture (.article "Talk" "Ada" "https://talk.example" none)).render false)
    ((lecture (.video "Talk" "Ada" "https://talk.example")).render true) := by
  rw [renderOnce (by decide +kernel) (by decide +kernel)]
  decide +kernel

end Artifact
end Syllabus
