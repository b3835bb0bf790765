import Syllabus.Proofs.Expansion.TierGate

/-! What a reference comes to. It is granted, refused with one error, or skipped without a word, and
the checks on it tell which, in their order. Where the documents of an index are of the kinds of their
files, the walk goes on in every document that is granted to it. -/
namespace Syllabus.Expansion

def granted? (x : Expansion) (origin : Referrer) (reference : Reference) (expected : Kind) :
    Option (String × Document) := (x.visit origin reference expected).followed?

def tierGate (origin : Referrer) (reference : Reference) (expected : Kind) (path : String) : Diagnostic where
  file := origin.path
  line := some reference.line
  message := "Production " ++ origin.kind.label ++ " references WIP " ++ expected.label ++ " '" ++ path ++ "'"
  suggestion := some ("Promote '" ++ path ++ "' to production or tag this " ++ origin.kind.label ++ " as wip")
  severity := .error

inductive Accounted (x : Expansion) (origin : Referrer) (reference : Reference) (expected : Kind) :
    Option (String × Document) → List Diagnostic → Prop where
  | granted {path file document} (leads : x.Leads origin reference expected path file)
      (active : file.tier.isIgnored = false) (read : file.document = some document)
      (kind : document.kind = expected) :
      Accounted x origin reference expected (some (path, document))
        (if origin.tier = .production ∧ file.tier = .wip then [tierGate origin reference expected path] else [])
  | refused {cause} (judged : x.Judged origin reference expected (.refused cause)) :
      Accounted x origin reference expected none
        [⟨origin.path, some reference.line, cause.message, cause.suggestion, .error⟩]
  | skipped {path file} (leads : x.Leads origin reference expected path file)
      (ignored : file.tier.isIgnored = true) :
      Accounted x origin reference expected none []

structure GoesOn (x : Expansion) (origin : Referrer) : Prop where
  module : ∀ reference path d, x.granted? origin reference .module = some (path, d) →
    ∃ m, d = .module m ∧ (x.courseItemSteps origin reference).filterMap Step.slug? = [m.slug]
  outcome : ∀ reference path d, x.granted? origin reference .learningOutcome = some (path, d) →
    ∃ outcome, d = .learningOutcome outcome ∧ (x.outcomeSteps origin reference).tail =
      outcome.lenses.flatMap fun lens => x.lensSteps (origin.enter path .learningOutcome outcome.tier)
        ⟨some outcome.id.value, none, reference.optional || lens.optional⟩ lens
  lens : ∀ lineage reference path d, x.granted? origin reference .lens = some (path, d) →
    ∃ lens, d = .lens lens ∧ (x.lensSteps origin lineage reference).tail =
      lens.sections.flatMap
        (x.partSteps (origin.enter path .lens lens.tier) { lineage with lensId := some lens.id.value })
  article : ∀ part lineage path d, x.granted? origin part.source .article = some (path, d) →
    ∃ a s, d = .article a ∧ s.source = some (articleSource a) ∧
      (x.articleSteps origin part lineage).filterMap Step.section? = [s]
  video : ∀ part lineage path d, x.granted? origin part.source .videoTranscript = some (path, d) →
    ∃ v s, d = .videoTranscript v ∧ s.source = some (videoSource v) ∧
      (x.videoSteps origin part lineage).filterMap Step.section? = [s]

variable {x : Expansion} {origin : Referrer} {reference : Reference} {expected : Kind}

theorem judgedOnly {v : Verdict} (judged : x.Judged origin reference expected v) :
    x.verdict origin reference expected = v := by
  unfold verdict
  cases judged with
  | unresolved failed => simp only [failed]
  | circular resolved closed => simp [resolved, closed]
  | wrongKind resolved fresh found other => simp [resolved, fresh, found, other]
  | skipped leads ignored => simp [leads.resolved, leads.fresh, leads.found, leads.kind, ignored]
  | rejected leads active broken => simp [leads.resolved, leads.fresh, leads.found, leads.kind, active, broken]
  | accepted leads active read => simp [leads.resolved, leads.fresh, leads.found, leads.kind, active, read]

theorem grantedLeads {path : String} {d : Document}
    (granted : x.granted? origin reference expected = some (path, d)) :
    ∃ file, x.Leads origin reference expected path file ∧ file.tier.isIgnored = false ∧ file.document = some d := by
  have judged := x.judged origin reference expected
  unfold granted? Visit.followed? visit at granted
  dsimp only at granted
  generalize x.verdict origin reference expected = verdict at judged granted
  cases judged with
  | @accepted path file document leads active read =>
    cases granted
    exact ⟨file, leads, active, read⟩
  | _ => cases granted

theorem grantedFiled (filed : x.index.Filed) {path : String} {d : Document}
    (granted : x.granted? origin reference expected = some (path, d)) :
    d.kind = expected ∧ ∃ file, x.Leads origin reference expected path file ∧ file.tier.isIgnored = false ∧
      file.document = some d := by
  obtain ⟨file, leads, active, read⟩ := grantedLeads granted
  exact ⟨(filed path file d leads.found read).trans leads.kind, file, leads, active, read⟩

theorem grantedFound {path : String} {d : Document} (granted : x.granted? origin reference expected = some (path, d)) :
    ∃ file, x.index.get? path = some file ∧ (x.visit origin reference expected).findings =
      if origin.tier = .production ∧ file.tier = .wip then [tierGate origin reference expected path] else [] := by
  obtain ⟨file, leads, active, read⟩ := grantedLeads granted
  refine ⟨file, leads.found, ?_⟩
  unfold Visit.findings visit
  simp only [judgedOnly (.accepted leads active read), Tier.violatedByIff]
  rfl

theorem accountedOnly {granted : Option (String × Document)} {found : List Diagnostic}
    (accounted : x.Accounted origin reference expected granted found) :
    x.granted? origin reference expected = granted ∧ (x.visit origin reference expected).findings = found := by
  unfold granted? Visit.followed? Visit.findings visit
  cases accounted with
  | refused judged => rw [judgedOnly judged]; exact ⟨rfl, rfl⟩
  | skipped leads ignored => rw [judgedOnly (.skipped leads ignored)]; exact ⟨rfl, rfl⟩
  | @granted path file document leads active read kind =>
    rw [judgedOnly (.accepted leads active read)]
    refine ⟨rfl, ?_⟩
    simp only [Tier.violatedByIff]
    rfl

theorem accounted (filed : x.index.Filed) (origin : Referrer) (reference : Reference) (expected : Kind) :
    x.Accounted origin reference expected (x.granted? origin reference expected)
      (x.visit origin reference expected).findings := by
  have judged := x.judged origin reference expected
  have account : ∃ granted found, x.Accounted origin reference expected granted found := by
    generalize x.verdict origin reference expected = verdict at judged
    cases judged with
    | skipped leads ignored => exact ⟨_, _, .skipped leads ignored⟩
    | @accepted path file document leads active read =>
      exact ⟨_, _, .granted leads active read ((filed path file document leads.found read).trans leads.kind)⟩
    | unresolved failed => exact ⟨_, _, .refused (.unresolved failed)⟩
    | circular resolved closed => exact ⟨_, _, .refused (.circular resolved closed)⟩
    | wrongKind resolved fresh found other => exact ⟨_, _, .refused (.wrongKind resolved fresh found other)⟩
    | rejected leads active broken => exact ⟨_, _, .refused (.rejected leads active broken)⟩
  obtain ⟨granted, found, account⟩ := account
  obtain ⟨rfl, rfl⟩ := accountedOnly account
  exact account

theorem followEq (x : Expansion) (origin : Referrer) (reference : Reference) (expected : Kind)
    (next : String → Document → List Step) :
    x.follow origin reference expected next = .visit (x.visit origin reference expected) ::
      (x.granted? origin reference expected).elim [] fun document => next document.1 document.2 := by
  unfold follow granted? Visit.followed?
  dsimp only
  cases (x.visit origin reference expected).verdict <;> rfl

theorem followGranted {path : String} {d : Document}
    (granted : x.granted? origin reference expected = some (path, d)) (next : String → Document → List Step) :
    x.follow origin reference expected next = .visit (x.visit origin reference expected) :: next path d := by
  rw [followEq, granted]
  rfl

theorem progressionGranted {path slug : String} {c : Course} (member : slug ∈ (x.expandCourse path c).1.progression) :
    ∃ reference there m, x.granted? (.root path .course c.tier) reference .module = some (there, .module m) ∧
      slug = m.slug := by
  have listed : slug ∈ (x.courseSteps path c).filterMap Step.slug? := member
  obtain ⟨step, inside, shown⟩ := List.mem_filterMap.mp listed
  obtain ⟨reference, _, inside⟩ := List.mem_flatMap.mp inside
  rw [courseItemSteps, followEq] at inside
  rcases List.mem_cons.mp inside with rfl | inside
  · cases shown
  · cases granted : x.granted? (.root path .course c.tier) reference .module with
    | none => simp [granted] at inside
    | some document =>
      obtain ⟨there, d⟩ := document
      rw [granted] at inside
      cases d with
      | module m =>
        cases List.mem_singleton.mp inside
        exact ⟨reference, there, m, granted, (Option.some.inj shown).symm⟩
      | _ => cases inside

theorem problemsPass (problems : List Diagnostic) (s : Artifact.Section) :
    (problems.map Step.problem ++ [Step.section s]).filterMap Step.section? = [s] := by
  induction problems with
  | nil => rfl
  | cons d more ih => exact ih

theorem articleSections {part : SourceSection} {path : String} {a : Article}
    (granted : x.granted? origin part.source .article = some (path, .article a)) (lineage : Lineage) :
    (x.articleSteps origin part lineage).filterMap Step.section? =
      [sourceSection .article (articleSource a) part lineage
        (made (articleSegments origin.path a.body part.segments))] := by
  rw [articleSteps, followGranted granted]
  exact problemsPass _ _

theorem videoSections {part : SourceSection} {path : String} {v : VideoTranscript}
    (granted : x.granted? origin part.source .videoTranscript = some (path, .videoTranscript v)) (lineage : Lineage) :
    (x.videoSteps origin part lineage).filterMap Step.section? =
      [sourceSection .video (videoSource v) part lineage
        (made (videoSegments origin.path v.body (x.wordsOf path).1 part.segments))] := by
  rw [videoSteps, followGranted granted]
  exact problemsPass _ _

theorem goesOn (filed : x.index.Filed) (origin : Referrer) : x.GoesOn origin where
  module reference path d granted := by
    have kind := (grantedFiled filed granted).1
    cases d with
    | module m => exact ⟨m, rfl, by rw [courseItemSteps, followGranted granted]; rfl⟩
    | _ => cases kind
  outcome reference path d granted := by
    have kind := (grantedFiled filed granted).1
    cases d with
    | learningOutcome outcome => exact ⟨outcome, rfl, by rw [outcomeSteps, followGranted granted]; rfl⟩
    | _ => cases kind
  lens lineage reference path d granted := by
    have kind := (grantedFiled filed granted).1
    cases d with
    | lens lens => exact ⟨lens, rfl, by rw [lensSteps, followGranted granted]; rfl⟩
    | _ => cases kind
  article part lineage path d granted := by
    have kind := (grantedFiled filed granted).1
    cases d with
    | article a =>
      refine ⟨a, _, rfl, ?_, articleSections granted lineage⟩
      rfl
    | _ => cases kind
  video part lineage path d granted := by
    have kind := (grantedFiled filed granted).1
    cases d with
    | videoTranscript v =>
      refine ⟨v, _, rfl, ?_, videoSections granted lineage⟩
      rfl
    | _ => cases kind

theorem referenceAccounted (filed : x.index.Filed) (origin : Referrer) (reference : Reference) (expected : Kind) :
    (∀ granted found, x.Accounted origin reference expected granted found ↔
      x.granted? origin reference expected = granted ∧ (x.visit origin reference expected).findings = found) ∧
    (∀ next, x.follow origin reference expected next = .visit (x.visit origin reference expected) ::
      (x.granted? origin reference expected).elim [] fun document => next document.1 document.2) ∧
    x.GoesOn origin := by
  refine ⟨fun granted found => ⟨accountedOnly, ?_⟩, x.followEq origin reference expected, goesOn filed origin⟩
  rintro ⟨rfl, rfl⟩
  exact accounted filed origin reference expected

theorem gradedFiled (tier : Tier) : (gradedVault tier).index.Filed := by
  intro path file d found read
  have member := FileMap.get?Iff.mp found
  simp only [gradedVault, List.mem_cons, Prod.mk.injEq, List.not_mem_nil, or_false] at member
  rcases member with ⟨rfl, rfl⟩ | ⟨rfl, rfl⟩ <;> cases read <;> rfl

theorem unfinishedLensAccounted :
    (gradedVault .wip).index.Filed ∧
      (gradedVault .wip).granted? ((Referrer.root "modules/intro.md" .module .production).enter
          "learning outcomes/core.md" .learningOutcome .production)
        ⟨⟨"lenses/overview", none, none⟩, false, 5⟩ .lens = some ("lenses/overview.md", .lens (overviewLens .wip)) ∧
      ((gradedVault .wip).visit ((Referrer.root "modules/intro.md" .module .production).enter
          "learning outcomes/core.md" .learningOutcome .production)
        ⟨⟨"lenses/overview", none, none⟩, false, 5⟩ .lens).findings =
        [⟨"learning outcomes/core.md", some 5, "Production learning outcome references WIP lens 'lenses/overview.md'",
          some "Promote 'lenses/overview.md' to production or tag this learning outcome as wip", .error⟩] :=
  have leads : (gradedVault .wip).Leads ((Referrer.root "modules/intro.md" .module .production).enter
      "learning outcomes/core.md" .learningOutcome .production) ⟨⟨"lenses/overview", none, none⟩, false, 5⟩ .lens
      "lenses/overview.md" ⟨.lens, .wip, some (.lens (overviewLens .wip))⟩ :=
    ⟨by decide +kernel, by decide +kernel, by decide +kernel, rfl⟩
  have account := ((referenceAccounted (gradedFiled .wip) _ _ _).1 _ _).mp (.granted leads rfl rfl rfl)
  ⟨gradedFiled .wip, account.1, account.2.trans (by decide +kernel)⟩

end Syllabus.Expansion
