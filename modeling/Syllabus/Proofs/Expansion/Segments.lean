import Syllabus.Proofs.Document.Written
import Syllabus.Proofs.Excerpt.Failures
import Syllabus.Proofs.Expansion.Places

/-! The segments over a source. Each authored one is in the output in its place, or, if it asks for an excerpt that
cannot be taken, one error stands for it. The excerpts of an article are taken all at once and handed back to the
segments that ask for them. That none is left over and none is missing rests on the parser, which lets no excerpt of a
recording into a section over an article, nor the other way round. -/
namespace Syllabus

inductive Segment.Arrives (lens : String) : Segment → Expansion.SegmentResult → Prop where
  | text {content optional line} : Arrives lens ⟨.text content, optional, line⟩ (.inl (.text content optional))
  | chat {instructions user tutor optional line} :
      Arrives lens ⟨.chat instructions user tutor, optional, line⟩ (.inl (.chat instructions user tutor optional))
  | article {start stop optional line content before after} :
      Arrives lens ⟨.articleExcerpt start stop, optional, line⟩ (.inl (.articleExcerpt content before after optional))
  | video {start stop optional line first last transcript} :
      Arrives lens ⟨.videoExcerpt start stop, optional, line⟩ (.inl (.videoExcerpt first last transcript optional))
  | missing {s} (excerpt : s.body.kind = .articleExcerpt ∨ s.body.kind = .videoExcerpt) (cause : ExcerptFailure) :
      Arrives lens s (.inr ⟨lens, some s.line, cause.message, cause.suggestion, .error⟩)

namespace Expansion

def requests (segments : List Segment) : List ExcerptRequest := segments.filterMap requestOf?

def ofAnswer (lens : String) (s : Segment) : Except ExcerptFailure BundledExcerpt → SegmentResult
  | .ok e => .inl (.articleExcerpt e.content e.before e.after s.optional)
  | .error cause => .inr (cause.inFile lens s.line)

def ofClip (lens : String) (s : Segment) : Except ExcerptFailure (VideoExcerpt Binary64) → SegmentResult
  | .ok e => .inl (.videoExcerpt e.start e.stop e.transcript s.optional)
  | .error cause => .inr (cause.inFile lens s.line)

/-- A part of a lens over a source that was granted: what comes of its segments, one for one and in order, is all that
its section shows and, behind a report on the tiers and `beside`, all that is found. -/
structure Delivers (x : Expansion) (origin : Referrer) (lineage : Lineage) (part : LensSection) (source : SourceSection)
    (expected : Kind) (there : String) (beside : List Diagnostic) (results : List SegmentResult) : Prop where
  each : List.Forall₂ (Segment.Arrives origin.path) source.segments results
  shown : ∃ s : Artifact.Section, (x.partSteps origin lineage part).filterMap Step.section? = [s] ∧
    s.segments = results.filterMap Sum.getLeft?
  found : ∃ file, x.index.get? there = some file ∧ findingsOf (x.partSteps origin lineage part) =
    (if origin.tier = .production ∧ file.tier = .wip then [tierGate origin source.source expected there] else [])
      ++ beside ++ results.filterMap Sum.getRight?

structure ArticleDelivers (x : Expansion) (origin : Referrer) (lineage : Lineage) (part : SourceSection)
    (there : String) (a : Article) (results : List SegmentResult) : Prop where
  delivers : x.Delivers origin lineage (.article part) part .article there [] results
  answers : ∀ k s request, part.segments[k]? = some s → requestOf? s = some request →
    let i := (requests (part.segments.take k)).length
    (requests part.segments)[i]? = some request ∧
      ∃ answer, (BundledExcerpt.ofRequests a.body (requests part.segments))[i]? = some answer ∧
        results[k]? = some (ofAnswer origin.path s answer)

structure VideoDelivers (x : Expansion) (origin : Referrer) (lineage : Lineage) (part : SourceSection)
    (there : String) (v : VideoTranscript) (beside : List Diagnostic) (results : List SegmentResult) : Prop where
  delivers : x.Delivers origin lineage (.video part) part .videoTranscript there beside results
  beside : beside = [] ∨ ∃ d : Diagnostic, beside = [d] ∧ d.file = VaultPath.sidecar there
  clips : List.Forall₂ (fun s result => ∀ start stop, s.body = .videoExcerpt start stop →
    result = ofClip origin.path s (VideoExcerpt.extract Clock.binary v.body start stop (x.wordsOf there).1))
    part.segments results

structure LensDelivers (x : Expansion) (origin : Referrer) (lineage : Lineage) (lens : Lens) : Prop where
  article : ∀ part, .article part ∈ lens.sections → ∀ there a,
    x.granted? origin part.source .article = some (there, .article a) →
    ∃ results, x.ArticleDelivers origin lineage part there a results
  video : ∀ part, .video part ∈ lens.sections → ∀ there v,
    x.granted? origin part.source .videoTranscript = some (there, .videoTranscript v) →
    ∃ beside results, x.VideoDelivers origin lineage part there v beside results
  filed : x.index.Filed → ∀ part : SourceSection,
    (∀ there d, x.granted? origin part.source .article = some (there, d) → ∃ a, d = .article a) ∧
    (∀ there d, x.granted? origin part.source .videoTranscript = some (there, d) → ∃ v, d = .videoTranscript v)

variable {x : Expansion} {origin : Referrer} {lineage : Lineage}

inductive Handed (file : String) :
    List Segment → List (Except ExcerptFailure BundledExcerpt) → List SegmentResult → Prop where
  | nil : Handed file [] [] []
  | plain {s out segments answers results} (silent : requestOf? s = none) (arrives : s.Arrives file out)
      (tail : Handed file segments answers results) : Handed file (s :: segments) answers (out :: results)
  | excerpt {s request answer segments answers results} (asks : requestOf? s = some request)
      (tail : Handed file segments answers results) :
      Handed file (s :: segments) (answer :: answers) (ofAnswer file s answer :: results)

theorem articleHanded {file : String} {segments : List Segment} {answers : List (Except ExcerptFailure BundledExcerpt)}
    (kept : SegmentRule.article.Kept segments) (answered : answers.length = (requests segments).length) :
    Handed file segments answers (articleResults file segments answers) := by
  induction segments generalizing answers with
  | nil =>
    cases List.length_eq_zero_iff.mp answered
    exact .nil
  | cons s more ih =>
    have later : SegmentRule.article.Kept more := List.forall_mem_of_forall_mem_cons kept
    have here := kept s List.mem_cons_self
    obtain ⟨segment, optional, line⟩ := s
    cases segment with
    | text content => exact .plain rfl .text (ih later answered)
    | chat instructions user tutor => exact .plain rfl .chat (ih later answered)
    | videoExcerpt start stop => simp [SegmentRule.article, SegmentBody.kind] at here
    | articleExcerpt start stop =>
      cases answers with
      | nil => cases answered
      | cons answer rest =>
        have tail := ih later (Nat.succ.inj answered)
        cases answer with
        | ok bundled => exact .excerpt rfl tail
        | error cause => exact .excerpt rfl tail

theorem answerArrives {file : String} {s : Segment} {request : ExcerptRequest} (asks : requestOf? s = some request)
    (answer : Except ExcerptFailure BundledExcerpt) : s.Arrives file (ofAnswer file s answer) := by
  obtain ⟨segment, optional, line⟩ := s
  cases segment with
  | articleExcerpt start stop =>
    cases answer with
    | ok bundled => exact .article
    | error cause => exact .missing (.inl rfl) cause
  | _ => cases asks

theorem Handed.each {file : String} {segments : List Segment} {answers : List (Except ExcerptFailure BundledExcerpt)}
    {results : List SegmentResult} (handed : Handed file segments answers results) :
    List.Forall₂ (Segment.Arrives file) segments results := by
  induction handed with
  | nil => exact .nil
  | plain silent arrives _ ih => exact .cons arrives ih
  | excerpt asks _ ih => exact .cons (answerArrives asks _) ih

theorem Handed.answers {file : String} {segments : List Segment}
    {answers : List (Except ExcerptFailure BundledExcerpt)} {results : List SegmentResult}
    (handed : Handed file segments answers results) {k : Nat} {s : Segment} {request : ExcerptRequest}
    (found : segments[k]? = some s) (asks : requestOf? s = some request) :
    (requests segments)[(requests (segments.take k)).length]? = some request ∧
      ∃ answer, answers[(requests (segments.take k)).length]? = some answer ∧
        results[k]? = some (ofAnswer file s answer) := by
  induction handed generalizing k with
  | nil => cases found
  | plain silent _ _ ih =>
    cases k with
    | zero =>
      cases found
      cases silent.symm.trans asks
    | succ k => simpa [requests, silent] using ih found
  | excerpt other _ ih =>
    cases k with
    | zero =>
      cases found
      cases other.symm.trans asks
      simp [requests, asks]
    | succ k => simpa [requests, other] using ih found

theorem videoArrives (file body : String) (words : List (TimedWord Binary64)) {s : Segment}
    (allowed : s.body.kind ∈ SegmentRule.video.allowed) :
    ∃ result, videoSegment file body words s = [result] ∧ s.Arrives file result ∧
      ∀ start stop, s.body = .videoExcerpt start stop →
        result = ofClip file s (VideoExcerpt.extract Clock.binary body start stop words) := by
  obtain ⟨segment, optional, line⟩ := s
  cases segment with
  | text content => exact ⟨_, rfl, .text, nofun⟩
  | chat instructions user tutor => exact ⟨_, rfl, .chat, nofun⟩
  | articleExcerpt start stop => simp [SegmentRule.video, SegmentBody.kind] at allowed
  | videoExcerpt start stop =>
    cases taken : VideoExcerpt.extract Clock.binary body start stop words with
    | ok clip =>
      refine ⟨.inl (.videoExcerpt clip.start clip.stop clip.transcript optional), ?_, .video, fun _ _ same => ?_⟩
      · simp only [videoSegment, taken]
      · cases same
        rw [taken]
        rfl
    | error cause =>
      refine ⟨.inr (cause.inFile file line), ?_, .missing (.inr rfl) cause, fun _ _ same => ?_⟩
      · simp only [videoSegment, taken]
      · cases same
        rw [taken]
        rfl

theorem videosArrive (file body : String) (words : List (TimedWord Binary64)) {segments : List Segment}
    (kept : SegmentRule.video.Kept segments) :
    List.Forall₂ (fun s result => s.Arrives file result ∧ ∀ start stop, s.body = .videoExcerpt start stop →
        result = ofClip file s (VideoExcerpt.extract Clock.binary body start stop words))
      segments (videoSegments file body words segments) := by
  induction segments with
  | nil => exact .nil
  | cons s more ih =>
    obtain ⟨result, only, arrives⟩ := videoArrives file body words (kept s List.mem_cons_self)
    rw [videoSegments, List.flatMap_cons, only]
    exact .cons arrives (ih (List.forall_mem_of_forall_mem_cons kept))

theorem madeLeft (results : List SegmentResult) : made results = results.filterMap Sum.getLeft? := by
  unfold made
  congr
  funext result
  cases result <;> rfl

theorem failedRight (results : List SegmentResult) : failed results = results.filterMap Sum.getRight? := by
  unfold failed
  congr
  funext result
  cases result <;> rfl

theorem problemsFound (problems : List Diagnostic) (s : Artifact.Section) :
    findingsOf (problems.map Step.problem ++ [.section s]) = problems := by
  induction problems with
  | nil => rfl
  | cons d more ih => exact congrArg (d :: ·) ih

theorem wordsFound (x : Expansion) (there : String) :
    (x.wordsOf there).2 = [] ∨ ∃ d : Diagnostic, (x.wordsOf there).2 = [d] ∧ d.file = VaultPath.sidecar there := by
  unfold wordsOf
  dsimp only
  split
  · exact .inl rfl
  · exact .inl rfl
  · exact .inr ⟨_, rfl, rfl⟩

theorem articleDelivers {part : SourceSection} (kept : SegmentRule.article.Kept part.segments) {there : String}
    {a : Article} (granted : x.granted? origin part.source .article = some (there, .article a)) (lineage : Lineage) :
    x.ArticleDelivers origin lineage part there a (articleSegments origin.path a.body part.segments) := by
  have answered := (BundledExcerpt.requestsAnswered a.body (requests part.segments)).length_eq.symm
  have handed : Handed origin.path part.segments _ (articleSegments origin.path a.body part.segments) :=
    articleHanded kept answered
  obtain ⟨file, found, tiers⟩ := grantedFound granted
  refine ⟨⟨handed.each, ⟨_, articleSections granted lineage, madeLeft _⟩, file, found, ?_⟩, ?_⟩
  · rw [partSteps, articleSteps, followGranted granted, findingsOf, List.flatMap_cons, ← findingsOf, problemsFound,
      failedRight, List.append_nil, ← tiers]
    rfl
  · intro k s request inside asks
    exact handed.answers inside asks

theorem videoDelivers {part : SourceSection} (kept : SegmentRule.video.Kept part.segments) {there : String}
    {v : VideoTranscript} (granted : x.granted? origin part.source .videoTranscript = some (there, .videoTranscript v))
    (lineage : Lineage) :
    x.VideoDelivers origin lineage part there v (x.wordsOf there).2
      (videoSegments origin.path v.body (x.wordsOf there).1 part.segments) := by
  have arrive := videosArrive origin.path v.body (x.wordsOf there).1 kept
  obtain ⟨file, found, tiers⟩ := grantedFound granted
  refine ⟨⟨arrive.imp fun _ _ both => both.1, ⟨_, videoSections granted lineage, madeLeft _⟩, file, found, ?_⟩,
    wordsFound x there, arrive.imp fun _ _ both => both.2⟩
  rw [partSteps, videoSteps, followGranted granted, findingsOf, List.flatMap_cons, ← findingsOf, problemsFound,
    failedRight, ← tiers, List.append_assoc]
  rfl

theorem segmentsDelivered [Library] {most : Nat} {file text : String} {lens : Lens}
    (read : (Document.parse .lens most file text).value = some (.lens lens)) (x : Expansion) (above : Referrer)
    (path : String) (lineage : Lineage) : x.LensDelivers (above.enter path .lens lens.tier) lineage lens := by
  have kept : ∀ part ∈ lens.sections, part.Kept := Document.parsedKept read
  refine ⟨fun part inside there a granted => ?_, fun part inside there v granted => ?_, fun filed part => ⟨?_, ?_⟩⟩
  · exact ⟨_, articleDelivers (kept _ inside) granted lineage⟩
  · exact ⟨_, _, videoDelivers (kept _ inside) granted lineage⟩
  · intro there d granted
    have kind := (grantedFiled filed granted).1
    cases d with
    | article a => exact ⟨a, rfl⟩
    | _ => cases kind
  · intro there d granted
    have kind := (grantedFiled filed granted).1
    cases d with
    | videoTranscript v => exact ⟨v, rfl⟩
    | _ => cases kind

def quotingPart : SourceSection :=
  ⟨"Reading", ⟨⟨"articles/a", none, none⟩, false, 5⟩,
    [⟨.text "Hello", false, 6⟩, ⟨.articleExcerpt (some "here") none, false, 8⟩], 4⟩

def quotingLens : Lens :=
  ⟨⟨"550e8400-e29b-41d4-a716-446655440000", 2⟩, .production, [.article quotingPart]⟩

def quotingText : String :=
  "---\nid: 550e8400-e29b-41d4-a716-446655440000\n---\n### Article: Reading\nsource:: [[articles/a]]\n#### Text\ncontent:: Hello\n#### Article-excerpt\nfrom:: here\n"

theorem quotingRead : (Document.parse .lens 3 "lenses/l.md" quotingText).value = some (.lens quotingLens) := by
  decide +kernel

def quotingOrigin : Referrer := (Referrer.root "modules/m.md" .module .production).enter "lenses/l.md" .lens .production

def quotedArticle (tier : Tier) : Article := ⟨"A", "B", "https://example.org/a", none, tier, "Start here now.", 6, []⟩

def quotedVault (file : IndexedFile) : Expansion where
  index :=
    { files := ⟨[("articles/a.md", file)], List.pairwise_singleton _ _⟩
      sidecars := .empty }
  most := 3

theorem quotingDelivered :
    (Document.parse .lens 3 "lenses/l.md" quotingText).value = some (.lens quotingLens) ∧
      ∃ results, (quotedVault ⟨.article, .production, some (.article (quotedArticle .production))⟩).ArticleDelivers
        quotingOrigin .none quotingPart "articles/a.md" (quotedArticle .production) results := by
  have delivers := segmentsDelivered quotingRead
    (quotedVault ⟨.article, .production, some (.article (quotedArticle .production))⟩)
    (.root "modules/m.md" .module .production) "lenses/l.md" .none
  exact ⟨quotingRead, delivers.article quotingPart List.mem_cons_self "articles/a.md" (quotedArticle .production)
    (by decide +kernel)⟩

theorem quotingNotOnlyDelivered :
    (Document.parse .lens 3 "lenses/l.md" quotingText).value = some (.lens quotingLens) ∧
      quotingLens.sections = [.article quotingPart] ∧
      ((quotedVault ⟨.article, .production, some (.lens quotingLens)⟩).granted? quotingOrigin quotingPart.source .article =
          some ("articles/a.md", .lens quotingLens) ∧
        ((quotedVault ⟨.article, .production, some (.lens quotingLens)⟩).partSteps quotingOrigin .none
          (.article quotingPart)).filterMap Step.section? = [] ∧
        findingsOf ((quotedVault ⟨.article, .production, some (.lens quotingLens)⟩).partSteps quotingOrigin .none
          (.article quotingPart)) = []) ∧
      (quotedVault ⟨.article, .wip, some (.article (quotedArticle .wip))⟩).granted? quotingOrigin quotingPart.source
          .article = some ("articles/a.md", .article (quotedArticle .wip)) ∧
        findingsOf ((quotedVault ⟨.article, .wip, some (.article (quotedArticle .wip))⟩).partSteps quotingOrigin .none
          (.article quotingPart)) =
        [⟨"lenses/l.md", some 5, "Production lens references WIP article 'articles/a.md'",
          some "Promote 'articles/a.md' to production or tag this lens as wip", .error⟩] :=
  ⟨quotingRead, rfl, by decide +kernel, by decide +kernel, by decide +kernel⟩

end Expansion
end Syllabus
