import Syllabus.Artifact
import Syllabus.Excerpt.Article
import Syllabus.Excerpt.Transcript
import Syllabus.Index

/-! Following references. A module is expanded depth first into the sections that its pages, its
learning outcomes and their lenses make; a course into the slugs of its modules. The expansion is
written down as steps in order: every reference that was looked up with what came of it, every
section made, and every excerpt that could not be taken. Sections and findings are read off the
steps. A chain of references is at most four files long, so the expansion needs no bound. -/
namespace Syllabus

structure Referrer where
  chain : List String
  path : String
  kind : Kind
  tier : Tier
  deriving DecidableEq, Repr

namespace Referrer

def root (path : String) (kind : Kind) (tier : Tier) : Referrer := ⟨[path], path, kind, tier⟩

def enter (r : Referrer) (path : String) (kind : Kind) (tier : Tier) : Referrer :=
  ⟨r.chain ++ [path], path, kind, tier⟩

end Referrer

inductive Refusal where
  | unresolved (cause : LinkFailure)
  | circular (chain : List String) (path : String)
  | wrongKind (path : String) (expected found : Kind)
  | rejected (path : String)
  deriving DecidableEq, Repr

inductive Verdict where
  | refused (cause : Refusal)
  | skipped (path : String)
  | accepted (path : String) (document : Document) (unfinished : Bool)
  deriving DecidableEq, Repr

structure Visit where
  origin : Referrer
  reference : Reference
  expected : Kind
  verdict : Verdict
  deriving DecidableEq, Repr

namespace Refusal

def message : Refusal → String
  | .unresolved cause => cause.message
  | .circular chain path => "Circular reference detected: " ++ Text.joinWith " -> " (chain ++ [path])
  | .wrongKind path expected found =>
    "Wrong content type for '" ++ path ++ "': expected " ++ expected.label ++ ", found " ++ found.label
  | .rejected path => "Referenced file has errors: '" ++ path ++ "'"

def suggestion : Refusal → Option String
  | .unresolved cause => cause.suggestion
  | .rejected path => some ("Fix the errors reported for '" ++ path ++ "'")
  | _ => none

end Refusal

namespace Visit

def error (v : Visit) (message : String) (suggestion : Option String) : Diagnostic :=
  ⟨v.origin.path, some v.reference.line, message, suggestion, .error⟩

def unfinishedMessage (v : Visit) (path : String) : String :=
  "Production " ++ v.origin.kind.label ++ " references WIP " ++ v.expected.label ++ " '" ++ path ++ "'"

def unfinishedSuggestion (v : Visit) (path : String) : String :=
  "Promote '" ++ path ++ "' to production or tag this " ++ v.origin.kind.label ++ " as wip"

def findings (v : Visit) : List Diagnostic :=
  match v.verdict with
  | .refused cause => [v.error cause.message cause.suggestion]
  | .skipped _ => []
  | .accepted path _ unfinished =>
    if unfinished then [v.error (v.unfinishedMessage path) (some (v.unfinishedSuggestion path))] else []

end Visit

inductive Step where
  | visit (v : Visit)
  | section (s : Artifact.Section)
  | problem (d : Diagnostic)
  | slug (s : String)
  deriving DecidableEq, Repr

namespace Step

def findings : Step → List Diagnostic
  | .visit v => v.findings
  | .problem d => [d]
  | _ => []

def section? : Step → Option Artifact.Section
  | .section s => some s
  | _ => none

def slug? : Step → Option String
  | .slug s => some s
  | _ => none

end Step

structure Lineage where
  outcomeId : Option String
  lensId : Option String
  optional : Bool
  deriving DecidableEq, Repr

namespace Lineage

def none : Lineage := ⟨.none, .none, false⟩

end Lineage

structure Expansion where
  index : Index
  most : Nat
  [library : Library]

namespace Expansion

/-- The checks of a reference, in order: it leads to one file; the file is not on the chain; it is
of the right kind; it is not ignored; it is a document. -/
def verdict (x : Expansion) (origin : Referrer) (reference : Reference) (expected : Kind) : Verdict :=
  match x.index.resolve origin.path reference.link x.most with
  | .error cause => .refused (.unresolved cause)
  | .ok path =>
    if origin.chain.contains path then .refused (.circular origin.chain path)
    else match x.index.get? path with
      | none => .skipped path
      | some file =>
        if file.kind ≠ expected then .refused (.wrongKind path expected file.kind)
        else if file.tier.isIgnored then .skipped path
        else match file.document with
          | none => .refused (.rejected path)
          | some document => .accepted path document (origin.tier.violatedBy file.tier)

def visit (x : Expansion) (origin : Referrer) (reference : Reference) (expected : Kind) : Visit :=
  ⟨origin, reference, expected, x.verdict origin reference expected⟩

def follow (x : Expansion) (origin : Referrer) (reference : Reference) (expected : Kind)
    (next : String → Document → List Step) : List Step :=
  let visit := x.visit origin reference expected
  .visit visit :: match visit.verdict with
    | .accepted path document _ => next path document
    | _ => []

def plainSegment? (s : Segment) : Option Artifact.Segment :=
  match s.body with
  | .text content => some (.text content s.optional)
  | .chat instructions user tutor => some (.chat instructions user tutor s.optional)
  | _ => none

abbrev SegmentResult := Artifact.Segment ⊕ Diagnostic

def requestOf? (s : Segment) : Option ExcerptRequest :=
  match s.body with
  | .articleExcerpt start stop => some ⟨start, stop⟩
  | _ => none

def articleResults (file : String) :
    List Segment → List (Except ExcerptFailure BundledExcerpt) → List SegmentResult
  | [], _ => []
  | s :: more, results =>
    match s.body, results with
    | .articleExcerpt .., .ok e :: rest =>
      .inl (.articleExcerpt e.content e.before e.after s.optional) :: articleResults file more rest
    | .articleExcerpt .., .error e :: rest => .inr (e.inFile file s.line) :: articleResults file more rest
    | _, results => ((plainSegment? s).map .inl).toList ++ articleResults file more results

def articleSegments (file body : String) (segments : List Segment) : List SegmentResult :=
  articleResults file segments (BundledExcerpt.ofRequests body (segments.filterMap requestOf?))

def videoSegment (file body : String) (words : List (TimedWord Binary64)) (s : Segment) : List SegmentResult :=
  match s.body with
  | .videoExcerpt start stop =>
    match VideoExcerpt.extract Clock.binary body start stop words with
    | .ok e => [.inl (.videoExcerpt e.start e.stop e.transcript s.optional)]
    | .error e => [.inr (e.inFile file s.line)]
  | _ => ((plainSegment? s).map .inl).toList

def videoSegments (file body : String) (words : List (TimedWord Binary64)) (segments : List Segment) :
    List SegmentResult :=
  segments.flatMap (videoSegment file body words)

def made (results : List SegmentResult) : List Artifact.Segment :=
  results.filterMap fun r => match r with
    | .inl s => some s
    | .inr _ => none

def failed (results : List SegmentResult) : List Diagnostic :=
  results.filterMap fun r => match r with
    | .inl _ => none
    | .inr d => some d

def pageSection (page : Page) (lineage : Lineage) : Artifact.Section where
  kind := .page
  title := page.title
  contentId := page.id.map Identity.value
  outcomeId := lineage.outcomeId
  lensId := lineage.lensId
  optional := lineage.optional || page.optional
  source := none
  segments := page.segments.filterMap plainSegment?

def sourceSection (kind : Artifact.SectionKind) (source : Artifact.Source) (part : SourceSection)
    (lineage : Lineage) (segments : List Artifact.Segment) : Artifact.Section where
  kind := kind
  title := part.title
  contentId := none
  outcomeId := lineage.outcomeId
  lensId := lineage.lensId
  optional := lineage.optional || part.source.optional
  source := some source
  segments := segments

def articleSource (a : Article) : Artifact.Source := .article a.title a.author a.sourceUrl a.date

def videoSource (v : VideoTranscript) : Artifact.Source := .video v.title v.channel v.url

def articleSteps (x : Expansion) (origin : Referrer) (part : SourceSection) (lineage : Lineage) : List Step :=
  x.follow origin part.source .article fun _ document => match document with
    | .article article =>
      let results := articleSegments origin.path article.body part.segments
      (failed results).map .problem
        ++ [.section (sourceSection .article (articleSource article) part lineage (made results))]
    | _ => []

def wordsOf (x : Expansion) (path : String) : List (TimedWord Binary64) × List Diagnostic :=
  let sidecar := VaultPath.sidecar path
  match (x.index.sidecar? sidecar).map (@TimedWord.parse x.library) with
  | none => ([], [])
  | some (.ok words) => (words, [])
  | some (.error e) =>
    ([], [⟨sidecar, none, e.message,
      some "Expected a JSON array of \x7b\"text\", \"start\"\x7d objects", .error⟩])

def videoSteps (x : Expansion) (origin : Referrer) (part : SourceSection) (lineage : Lineage) : List Step :=
  x.follow origin part.source .videoTranscript fun path document => match document with
    | .videoTranscript video =>
      let (words, found) := x.wordsOf path
      let results := videoSegments origin.path video.body words part.segments
      (found ++ failed results).map .problem
        ++ [.section (sourceSection .video (videoSource video) part lineage (made results))]
    | _ => []

def partSteps (x : Expansion) (origin : Referrer) (lineage : Lineage) : LensSection → List Step
  | .page page => [.section (pageSection page lineage)]
  | .article part => x.articleSteps origin part lineage
  | .video part => x.videoSteps origin part lineage

def lensSteps (x : Expansion) (origin : Referrer) (lineage : Lineage) (reference : Reference) : List Step :=
  x.follow origin reference .lens fun path document => match document with
    | .lens lens =>
      lens.sections.flatMap
        (x.partSteps (origin.enter path .lens lens.tier) { lineage with lensId := some lens.id.value })
    | _ => []

def outcomeSteps (x : Expansion) (origin : Referrer) (reference : Reference) : List Step :=
  x.follow origin reference .learningOutcome fun path document => match document with
    | .learningOutcome outcome =>
      outcome.lenses.flatMap fun lens =>
        x.lensSteps (origin.enter path .learningOutcome outcome.tier)
          ⟨some outcome.id.value, none, reference.optional || lens.optional⟩ lens
    | _ => []

def itemSteps (x : Expansion) (origin : Referrer) : ModuleItem → List Step
  | .page page => [.section (pageSection page .none)]
  | .outcome reference => x.outcomeSteps origin reference

def moduleSteps (x : Expansion) (path : String) (m : Module) : List Step :=
  m.items.flatMap (x.itemSteps (.root path .module m.tier))

def courseItemSteps (x : Expansion) (origin : Referrer) (reference : Reference) : List Step :=
  x.follow origin reference .module fun _ document => match document with
    | .module m => [.slug m.slug]
    | _ => []

def courseSteps (x : Expansion) (path : String) (c : Course) : List Step :=
  c.modules.flatMap (x.courseItemSteps (.root path .course c.tier))

def findingsOf (steps : List Step) : List Diagnostic := steps.flatMap Step.findings

def expandModule (x : Expansion) (path : String) (m : Module) : Artifact.Module × List Diagnostic :=
  let steps := x.moduleSteps path m
  (⟨m.slug, m.title, m.contentId.map Identity.value, m.discussion, m.tier, steps.filterMap Step.section?⟩,
    findingsOf steps)

def expandCourse (x : Expansion) (path : String) (c : Course) : Artifact.Course × List Diagnostic :=
  let steps := x.courseSteps path c
  (⟨c.slug, c.title, steps.filterMap Step.slug?⟩, findingsOf steps)

end Expansion
end Syllabus
