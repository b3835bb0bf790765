import Syllabus.Proofs.Document.Written
import Syllabus.Proofs.Excerpt.Failures
import Syllabus.Proofs.Expansion.Steps
import Syllabus.Proofs.Expansion.Verdict

/-! What an expansion without findings holds. Every reference led to a document that stands expanded
in its place, or to an ignored file of the kind it expects; no finished document rests on an unfinished
file; and every section shows the segments written for it, one for one and in order. -/
namespace Syllabus

inductive Pieces {α β : Type} (R : α → List β → Prop) : List α → List β → Prop where
  | nil : Pieces R [] []
  | cons {a more out rest} (head : R a out) (tail : Pieces R more rest) : Pieces R (a :: more) (out ++ rest)

inductive Ground where
  | page
  | article (body : String)
  | video (body : String) (words : List (TimedWord Binary64))

inductive Segment.Shown : Ground → Segment → Artifact.Segment → Prop where
  | text {ground content optional line} :
      Shown ground ⟨.text content, optional, line⟩ (.text content optional)
  | chat {ground instructions user tutor optional line} :
      Shown ground ⟨.chat instructions user tutor, optional, line⟩ (.chat instructions user tutor optional)
  | article {body start stop optional line excerpt before after}
      (taken : ArticleExcerpt.extract body ⟨start, stop⟩ = .ok excerpt) :
      Shown (.article body) ⟨.articleExcerpt start stop, optional, line⟩
        (.articleExcerpt excerpt.content before after optional)
  | video {body words start stop optional line excerpt}
      (taken : VideoExcerpt.extract Clock.binary body start stop words = .ok excerpt) :
      Shown (.video body words) ⟨.videoExcerpt start stop, optional, line⟩
        (.videoExcerpt excerpt.start excerpt.stop excerpt.transcript optional)

structure Page.Shown (lineage : Lineage) (page : Page) (s : Artifact.Section) : Prop where
  kind : s.kind = .page
  title : s.title = page.title
  contentId : s.contentId = page.id.map Identity.value
  outcomeId : s.outcomeId = lineage.outcomeId
  lensId : s.lensId = lineage.lensId
  optional : s.optional = (lineage.optional || page.optional)
  source : s.source = none
  segments : List.Forall₂ (Segment.Shown .page) page.segments s.segments

structure SourceSection.Shown (kind : Artifact.SectionKind) (source : Artifact.Source) (ground : Ground)
    (lineage : Lineage) (part : SourceSection) (s : Artifact.Section) : Prop where
  kind : s.kind = kind
  title : s.title = part.title
  contentId : s.contentId = none
  outcomeId : s.outcomeId = lineage.outcomeId
  lensId : s.lensId = lineage.lensId
  optional : s.optional = (lineage.optional || part.source.optional)
  source : s.source = some source
  segments : List.Forall₂ (Segment.Shown ground) part.segments s.segments

namespace Expansion

/-- A reference whose document stands in its place, or whose file is ignored. -/
inductive Settled (x : Expansion) (origin : Referrer) (reference : Reference) (expected : Kind) {β : Type}
    (Inside : String → Document → List β → Prop) : List β → Prop where
  | skipped {path file} (leads : x.Leads origin reference expected path file)
      (ignored : file.tier.isIgnored = true) : Settled x origin reference expected Inside []
  | inlined {path file document out} (leads : x.Leads origin reference expected path file)
      (active : file.tier.isIgnored = false) (read : file.document = some document)
      (finished : ¬(origin.tier = .production ∧ file.tier = .wip)) (inside : Inside path document out) :
      Settled x origin reference expected Inside out

def WordsBeside (x : Expansion) (path : String) (words : List (TimedWord Binary64)) : Prop :=
  match x.index.sidecar? (VaultPath.sidecar path) with
  | none => words = []
  | some text => @TimedWord.parse x.library text = .ok words

def ArticleShown (lineage : Lineage) (part : SourceSection) (_ : String) (document : Document)
    (out : List Artifact.Section) : Prop :=
  ∃ (a : Article) (s : Artifact.Section), document = .article a ∧ out = [s] ∧
    part.Shown .article (.article a.title a.author a.sourceUrl a.date) (.article a.body) lineage s

def VideoShown (x : Expansion) (lineage : Lineage) (part : SourceSection) (path : String) (document : Document)
    (out : List Artifact.Section) : Prop :=
  ∃ (v : VideoTranscript) (words : List (TimedWord Binary64)) (s : Artifact.Section),
    document = .videoTranscript v ∧ out = [s] ∧ x.WordsBeside path words ∧
    part.Shown .video (.video v.title v.channel v.url) (.video v.body words) lineage s

inductive PartShown (x : Expansion) (origin : Referrer) (lineage : Lineage) :
    LensSection → List Artifact.Section → Prop where
  | page {page s} (shown : page.Shown lineage s) : PartShown x origin lineage (.page page) [s]
  | article {part out} (settled : x.Settled origin part.source .article (ArticleShown lineage part) out) :
      PartShown x origin lineage (.article part) out
  | video {part out} (settled : x.Settled origin part.source .videoTranscript (x.VideoShown lineage part) out) :
      PartShown x origin lineage (.video part) out

def LensShown (x : Expansion) (lineage : Lineage) (origin : Referrer) (path : String) (document : Document)
    (out : List Artifact.Section) : Prop :=
  ∃ lens : Lens, document = .lens lens ∧
    Pieces (x.PartShown (origin.enter path .lens lens.tier) { lineage with lensId := some lens.id.value })
      lens.sections out

def OutcomeShown (x : Expansion) (optional : Bool) (origin : Referrer) (path : String) (document : Document)
    (out : List Artifact.Section) : Prop :=
  ∃ outcome : LearningOutcome, document = .learningOutcome outcome ∧
    Pieces (fun lens => x.Settled (origin.enter path .learningOutcome outcome.tier) lens .lens
      (x.LensShown ⟨some outcome.id.value, none, optional || lens.optional⟩
        (origin.enter path .learningOutcome outcome.tier))) outcome.lenses out

inductive ItemShown (x : Expansion) (origin : Referrer) : ModuleItem → List Artifact.Section → Prop where
  | page {page s} (shown : page.Shown .none s) : ItemShown x origin (.page page) [s]
  | outcome {reference out}
      (settled : x.Settled origin reference .learningOutcome (x.OutcomeShown reference.optional origin) out) :
      ItemShown x origin (.outcome reference) out

def ModuleShown (x : Expansion) (path : String) (m : Module) (out : List Artifact.Section) : Prop :=
  Pieces (x.ItemShown (.root path .module m.tier)) m.items out

def CourseShown (x : Expansion) (path : String) (c : Course) (out : List String) : Prop :=
  Pieces (fun reference => x.Settled (.root path .course c.tier) reference .module
    fun _ document out => ∃ m : Module, document = .module m ∧ out = [m.slug]) c.modules out

end Expansion

structure Module.Shown (x : Expansion) (path : String) (m : Module) (made : Artifact.Module) : Prop where
  slug : made.slug = m.slug
  title : made.title = m.title
  contentId : made.contentId = m.contentId.map Identity.value
  discussion : made.discussion = m.discussion
  tier : made.tier = m.tier
  sections : x.ModuleShown path m made.sections

structure Course.Shown (x : Expansion) (path : String) (c : Course) (made : Artifact.Course) : Prop where
  slug : made.slug = c.slug
  title : made.title = c.title
  progression : x.CourseShown path c made.progression

namespace Expansion

theorem plainShown {ground : Ground} {s : Segment} (plain : s.body.kind = .text ∨ s.body.kind = .chat) :
    ∃ out, plainSegment? s = some out ∧ s.Shown ground out := by
  obtain ⟨body, optional, line⟩ := s
  cases body with
  | text content => exact ⟨_, rfl, .text⟩
  | chat instructions user tutor => exact ⟨_, rfl, .chat⟩
  | articleExcerpt start stop => simp [SegmentBody.kind] at plain
  | videoExcerpt start stop => simp [SegmentBody.kind] at plain

theorem pageSegmentsShown {segments : List Segment} (kept : SegmentRule.page.Kept segments) :
    List.Forall₂ (Segment.Shown .page) segments (segments.filterMap plainSegment?) := by
  induction segments with
  | nil => exact .nil
  | cons s more ih =>
    have plain : s.body.kind = .text ∨ s.body.kind = .chat := by
      simpa [SegmentRule.page] using kept s List.mem_cons_self
    obtain ⟨out, made, shown⟩ := plainShown plain
    rw [List.filterMap_cons, made]
    exact .cons shown (ih (List.forall_mem_of_forall_mem_cons kept))

def Answered (body : String) (request : ExcerptRequest) (result : Except ExcerptFailure BundledExcerpt) : Prop :=
  match result with
  | .ok bundled => ∃ excerpt, ArticleExcerpt.extract body request = .ok excerpt ∧ bundled.content = excerpt.content
  | .error cause => ArticleExcerpt.extract body request = .error cause

theorem requestsAnswered (body : String) (requests : List ExcerptRequest) :
    List.Forall₂ (Answered body) requests (BundledExcerpt.ofRequests body requests) := by
  refine (BundledExcerpt.requestsAnswered body requests).imp fun request result answers => ?_
  cases extracted : ArticleExcerpt.extract body request with
  | error cause =>
    rw [extracted] at answers
    cases answers
    exact extracted
  | ok excerpt =>
    rw [extracted] at answers
    cases answers
    exact ⟨excerpt, extracted, rfl⟩

theorem articleSegmentsShown {file body : String} {segments : List Segment}
    {results : List (Except ExcerptFailure BundledExcerpt)} (kept : SegmentRule.article.Kept segments)
    (answers : List.Forall₂ (Answered body) (segments.filterMap requestOf?) results)
    (clean : failed (articleResults file segments results) = []) :
    List.Forall₂ (Segment.Shown (.article body)) segments (made (articleResults file segments results)) := by
  -- Only excerpts use up results; texts and chats hand them on.
  induction segments generalizing results with
  | nil => exact .nil
  | cons s more ih =>
    have later : SegmentRule.article.Kept more := List.forall_mem_of_forall_mem_cons kept
    have here := kept s List.mem_cons_self
    obtain ⟨segment, optional, line⟩ := s
    cases segment with
    | text content => exact .cons .text (ih later answers clean)
    | chat instructions user tutor => exact .cons .chat (ih later answers clean)
    | videoExcerpt start stop => simp [SegmentRule.article, SegmentBody.kind] at here
    | articleExcerpt start stop =>
      cases answers with
      | @cons _ result _ rest answer answers =>
        cases result with
        | error cause => simp [articleResults, failed] at clean
        | ok bundled =>
          obtain ⟨excerpt, taken, content⟩ := answer
          have shown := ih later answers clean
          simp only [articleResults, made, List.filterMap_cons, content] at shown ⊢
          exact .cons (.article taken) shown

theorem videoSegmentsShown {file body : String} {words : List (TimedWord Binary64)} {segments : List Segment}
    (kept : SegmentRule.video.Kept segments) (clean : failed (videoSegments file body words segments) = []) :
    List.Forall₂ (Segment.Shown (.video body words)) segments (made (videoSegments file body words segments)) := by
  induction segments with
  | nil => exact .nil
  | cons s more ih =>
    have later : SegmentRule.video.Kept more := List.forall_mem_of_forall_mem_cons kept
    have here := kept s List.mem_cons_self
    simp only [videoSegments, failed, made, List.flatMap_cons, List.filterMap_append,
      List.append_eq_nil_iff] at clean ih ⊢
    have shown := ih later clean.2
    obtain ⟨segment, optional, line⟩ := s
    cases segment with
    | text content => exact .cons .text shown
    | chat instructions user tutor => exact .cons .chat shown
    | articleExcerpt start stop => simp [SegmentRule.video, SegmentBody.kind] at here
    | videoExcerpt start stop =>
      cases taken : VideoExcerpt.extract Clock.binary body start stop words with
      | error cause => simp [videoSegment, taken] at clean
      | ok excerpt =>
        simp only [videoSegment, taken, List.filterMap_cons, List.filterMap_nil, List.singleton_append]
        exact .cons (.video taken) shown

structure Proper (x : Expansion) : Prop where
  filed : x.index.Filed
  kept : ∀ path file document, x.index.get? path = some file → file.document = some document → document.Kept

variable {x : Expansion} {α β : Type}

theorem piecesOfFlatMap {R : α → List β → Prop} {f : α → List Step} {pick : Step → Option β} {items : List α}
    (each : ∀ a ∈ items, R a ((f a).filterMap pick)) : Pieces R items ((items.flatMap f).filterMap pick) := by
  induction items with
  | nil => exact .nil
  | cons a more ih =>
    rw [List.flatMap_cons, List.filterMap_append]
    exact .cons (each a List.mem_cons_self) (ih fun other member => each other (List.mem_cons_of_mem _ member))

theorem cleanOfMem {f : α → List Step} {items : List α} (clean : findingsOf (items.flatMap f) = []) {a : α}
    (member : a ∈ items) : findingsOf (f a) = [] := by
  rw [findingsOf, List.flatMap_eq_nil_iff] at clean ⊢
  intro step inside
  exact clean step (List.mem_flatMap.mpr ⟨a, member, inside⟩)

theorem followSettled {origin : Referrer} {reference : Reference} {expected : Kind}
    {next : String → Document → List Step} {Inside : String → Document → List β → Prop} {pick : Step → Option β}
    (passing : ∀ v, pick (.visit v) = none) (clean : findingsOf (x.follow origin reference expected next) = [])
    (inside : ∀ path file d, x.index.get? path = some file → file.kind = expected → file.document = some d →
      findingsOf (next path d) = [] → Inside path d ((next path d).filterMap pick)) :
    x.Settled origin reference expected Inside ((x.follow origin reference expected next).filterMap pick) := by
  have judged := x.judged origin reference expected
  rw [follow, findingsOf, List.flatMap_cons, List.append_eq_nil_iff] at clean
  rw [follow, List.filterMap_cons_none (passing _)]
  have looked : (x.visit origin reference expected).verdict = x.verdict origin reference expected := rfl
  obtain ⟨quiet, clean⟩ := clean
  rw [Step.findings, Visit.findings] at quiet
  rw [looked] at clean quiet ⊢
  generalize x.verdict origin reference expected = verdict at judged clean quiet ⊢
  -- All refusals are reported, so that only the two cases of the conclusion are left.
  cases judged with
  | unresolved => cases quiet
  | circular => cases quiet
  | wrongKind => cases quiet
  | rejected => cases quiet
  | skipped leads ignored => exact .skipped leads ignored
  | @accepted path file document leads active read =>
    refine .inlined leads active read ?_ (inside path file document leads.found leads.kind read clean)
    rw [← Tier.violatedByIff]
    intro unfinished
    simp [unfinished] at quiet

theorem problemsClean {problems : List Diagnostic} {s : Artifact.Section}
    (clean : findingsOf (problems.map Step.problem ++ [Step.section s]) = []) :
    problems = [] ∧ (problems.map Step.problem ++ [Step.section s]).filterMap Step.section? = [s] := by
  cases problems with
  | nil => exact ⟨rfl, rfl⟩
  | cons d more => simp [findingsOf, Step.findings] at clean

theorem articleStepsShown (proper : x.Proper) {origin : Referrer} {part : SourceSection} {lineage : Lineage}
    (kept : SegmentRule.article.Kept part.segments) (clean : findingsOf (x.articleSteps origin part lineage) = []) :
    x.Settled origin part.source .article (ArticleShown lineage part)
      ((x.articleSteps origin part lineage).filterMap Step.section?) := by
  refine followSettled (fun _ => rfl) clean ?_
  intro path file d found kind read clean
  have kind := (proper.filed path file d found read).trans kind
  cases d with
  | article a =>
    obtain ⟨none, made⟩ := problemsClean clean
    refine ⟨a, _, rfl, made, ?_⟩
    refine ⟨rfl, rfl, rfl, rfl, rfl, rfl, rfl, ?_⟩
    exact articleSegmentsShown kept (requestsAnswered a.body _) none
  | _ => cases kind

theorem wordsBeside {path : String} {words : List (TimedWord Binary64)} (read : x.wordsOf path = (words, [])) :
    x.WordsBeside path words := by
  unfold WordsBeside
  unfold wordsOf at read
  cases present : x.index.sidecar? (VaultPath.sidecar path) with
  | none =>
    simp only [present, Option.map_none, Prod.mk.injEq] at read
    exact read.1.symm
  | some text =>
    simp only [present, Option.map_some] at read
    cases parsed : @TimedWord.parse x.library text with
    | ok other =>
      simp only [parsed, Prod.mk.injEq] at read
      simp only [parsed, read.1]
    | error cause => simp [parsed] at read

theorem videoStepsShown (proper : x.Proper) {origin : Referrer} {part : SourceSection} {lineage : Lineage}
    (kept : SegmentRule.video.Kept part.segments) (clean : findingsOf (x.videoSteps origin part lineage) = []) :
    x.Settled origin part.source .videoTranscript (x.VideoShown lineage part)
      ((x.videoSteps origin part lineage).filterMap Step.section?) := by
  refine followSettled (fun _ => rfl) clean ?_
  intro path file d found kind read clean
  have kind := (proper.filed path file d found read).trans kind
  cases d with
  | videoTranscript v =>
    dsimp only at clean ⊢
    cases beside : x.wordsOf path with
    | mk words problems =>
    rw [beside] at clean
    obtain ⟨none, made⟩ := problemsClean clean
    obtain ⟨rfl, excerpts⟩ := List.append_eq_nil_iff.mp none
    refine ⟨v, words, _, rfl, made, wordsBeside beside, ?_⟩
    refine ⟨rfl, rfl, rfl, rfl, rfl, rfl, rfl, ?_⟩
    exact videoSegmentsShown kept excerpts
  | _ => cases kind

theorem pageSectionShown {page : Page} (kept : SegmentRule.page.Kept page.segments) (lineage : Lineage) :
    page.Shown lineage (pageSection page lineage) :=
  ⟨rfl, rfl, rfl, rfl, rfl, rfl, rfl, pageSegmentsShown kept⟩

theorem partStepsShown (proper : x.Proper) {origin : Referrer} {lineage : Lineage} {part : LensSection}
    (kept : part.Kept) (clean : findingsOf (x.partSteps origin lineage part) = []) :
    x.PartShown origin lineage part ((x.partSteps origin lineage part).filterMap Step.section?) := by
  cases part with
  | page page => exact .page (pageSectionShown kept lineage)
  | article part => exact .article (articleStepsShown proper kept clean)
  | video part => exact .video (videoStepsShown proper kept clean)

theorem lensStepsShown (proper : x.Proper) {origin : Referrer} {lineage : Lineage} {reference : Reference}
    (clean : findingsOf (x.lensSteps origin lineage reference) = []) :
    x.Settled origin reference .lens (x.LensShown lineage origin)
      ((x.lensSteps origin lineage reference).filterMap Step.section?) := by
  refine followSettled (fun _ => rfl) clean ?_
  intro path file d found kind read clean
  have kept := proper.kept path file d found read
  have kind := (proper.filed path file d found read).trans kind
  cases d with
  | lens lens =>
    refine ⟨lens, rfl, piecesOfFlatMap fun part member => ?_⟩
    exact partStepsShown proper (kept part member) (cleanOfMem clean member)
  | _ => cases kind

theorem outcomeStepsShown (proper : x.Proper) {origin : Referrer} {reference : Reference}
    (clean : findingsOf (x.outcomeSteps origin reference) = []) :
    x.Settled origin reference .learningOutcome (x.OutcomeShown reference.optional origin)
      ((x.outcomeSteps origin reference).filterMap Step.section?) := by
  refine followSettled (fun _ => rfl) clean ?_
  intro path file d found kind read clean
  have kind := (proper.filed path file d found read).trans kind
  cases d with
  | learningOutcome outcome =>
    refine ⟨outcome, rfl, piecesOfFlatMap fun lens member => ?_⟩
    exact lensStepsShown proper (cleanOfMem clean member)
  | _ => cases kind

theorem moduleShown (proper : x.Proper) {path : String} {m : Module} (kept : (Document.module m).Kept)
    (quiet : Diagnostic.blocking (x.expandModule path m).2 = false) : m.Shown x path (x.expandModule path m).1 := by
  have clean := x.findingsQuiet (x.moduleStepsMade path m) quiet
  refine ⟨rfl, rfl, rfl, rfl, rfl, piecesOfFlatMap fun item member => ?_⟩
  have clean := cleanOfMem clean member
  cases item with
  | page page => exact .page (pageSectionShown (kept _ member) .none)
  | outcome reference => exact .outcome (outcomeStepsShown proper clean)

theorem courseShown (proper : x.Proper) {path : String} {c : Course}
    (quiet : Diagnostic.blocking (x.expandCourse path c).2 = false) : c.Shown x path (x.expandCourse path c).1 := by
  have clean := x.findingsQuiet (x.courseStepsMade path c) quiet
  refine ⟨rfl, rfl, piecesOfFlatMap fun reference member => ?_⟩
  refine followSettled (fun _ => rfl) (cleanOfMem clean member) ?_
  intro path file d found kind read _
  have kind := (proper.filed path file d found read).trans kind
  cases d with
  | module m => exact ⟨m, rfl, rfl⟩
  | _ => cases kind

end Expansion
end Syllabus
