import Mathlib.Data.List.Forall2
import Syllabus.Proofs.Expansion.Verdict

/-! Expanding the same references in two vaults that look alike. The files of both have the same
paths, kinds and parts ignored; what the files that are not ignored hold differs in tiers only, which
a relation `T` connects. Then both expansions make the same steps one by one, but for the tiers that
they come across: what an ignored file holds is never looked at, and a tier never turns a step. -/
namespace Syllabus

variable {T : Tier → Tier → Prop}

inductive Document.Alike (T : Tier → Tier → Prop) : Document → Document → Prop where
  | module {d t} (tiers : T d.tier t) : Alike T (.module d) (.module { d with tier := t })
  | course {d t} (tiers : T d.tier t) : Alike T (.course d) (.course { d with tier := t })
  | learningOutcome {d t} (tiers : T d.tier t) : Alike T (.learningOutcome d) (.learningOutcome { d with tier := t })
  | lens {d t} (tiers : T d.tier t) : Alike T (.lens d) (.lens { d with tier := t })
  | article {d t} (tiers : T d.tier t) : Alike T (.article d) (.article { d with tier := t })
  | videoTranscript {d t} (tiers : T d.tier t) : Alike T (.videoTranscript d) (.videoTranscript { d with tier := t })

structure IndexedFile.Alike (T : Tier → Tier → Prop) (f f' : IndexedFile) : Prop where
  kind : f.kind = f'.kind
  ignored : f.tier.isIgnored = f'.tier.isIgnored
  tiers : f.tier.isIgnored = false → T f.tier f'.tier
  documents : f.tier.isIgnored = false → Option.Rel (Document.Alike T) f.document f'.document

def Index.EntryAlike (T : Tier → Tier → Prop) (entry entry' : String × IndexedFile) : Prop :=
  entry.1 = entry'.1 ∧ IndexedFile.Alike T entry.2 entry'.2

structure Index.Alike (T : Tier → Tier → Prop) (index index' : Index) : Prop where
  files : List.Forall₂ (EntryAlike T) index.files.entries index'.files.entries
  sidecars : index.sidecars = index'.sidecars

structure Expansion.Alike (T : Tier → Tier → Prop) (x x' : Expansion) : Prop where
  index : Index.Alike T x.index x'.index
  library : x.library = x'.library
  most : x.most = x'.most

structure Referrer.Alike (T : Tier → Tier → Prop) (r r' : Referrer) : Prop where
  chain : r.chain = r'.chain
  path : r.path = r'.path
  kind : r.kind = r'.kind
  tiers : T r.tier r'.tier

inductive Verdict.Alike (T : Tier → Tier → Prop) (r r' : Referrer) : Verdict → Verdict → Prop where
  | refused (cause : Refusal) : Alike T r r' (.refused cause) (.refused cause)
  | skipped (path : String) : Alike T r r' (.skipped path) (.skipped path)
  | accepted {path d d' t t'} (documents : Document.Alike T d d') (tiers : T t t') :
      Alike T r r' (.accepted path d (r.tier.violatedBy t)) (.accepted path d' (r'.tier.violatedBy t'))

structure Visit.Alike (T : Tier → Tier → Prop) (v v' : Visit) : Prop where
  origin : Referrer.Alike T v.origin v'.origin
  reference : v.reference = v'.reference
  expected : v.expected = v'.expected
  verdict : Verdict.Alike T v.origin v'.origin v.verdict v'.verdict

inductive Step.Alike (T : Tier → Tier → Prop) : Step → Step → Prop where
  | visit {v v'} (alike : Visit.Alike T v v') : Alike T (.visit v) (.visit v')
  | section (s : Artifact.Section) : Alike T (.section s) (.section s)
  | problem (d : Diagnostic) : Alike T (.problem d) (.problem d)
  | slug (s : String) : Alike T (.slug s) (.slug s)

theorem Document.alikeRefl (same : ∀ t, T t t) (d : Document) : Document.Alike T d d := by
  cases d with
  | module d => exact .module (same d.tier)
  | course d => exact .course (same d.tier)
  | learningOutcome d => exact .learningOutcome (same d.tier)
  | lens d => exact .lens (same d.tier)
  | article d => exact .article (same d.tier)
  | videoTranscript d => exact .videoTranscript (same d.tier)

theorem IndexedFile.alikeRefl (same : ∀ t, T t t) (f : IndexedFile) : IndexedFile.Alike T f f := by
  refine ⟨rfl, rfl, fun _ => same f.tier, fun _ => ?_⟩
  cases f.document with
  | none => exact .none
  | some d => exact .some (d.alikeRefl same)

namespace Index

theorem pathsAlike {index index' : Index} (alike : Alike T index index') : index.paths = index'.paths := by
  have files := alike.files
  unfold paths FileMap.paths
  generalize index.files.entries = entries, index'.files.entries = entries' at files ⊢
  induction files with
  | nil => rfl
  | cons entry more ih => simp only [List.map_cons, ih, entry.1]

theorem resolveOfPaths {index index' : Index} (same : index.paths = index'.paths) (origin : String)
    (link : WikiLink) (most : Nat) : index.resolve origin link most = index'.resolve origin link most := by
  have contained : index.contains = index'.contains := by
    funext path
    exact congrArg (fun paths => List.contains paths path) same
  simp only [resolve, contained, named, nearest?, same]

theorem getAlike {index index' : Index} (alike : Alike T index index') (path : String) :
    Option.Rel (IndexedFile.Alike T) (index.get? path) (index'.get? path) := by
  have files := alike.files
  unfold get? FileMap.get?
  generalize index.files.entries = entries, index'.files.entries = entries' at files ⊢
  induction files with
  | nil => exact .none
  | @cons entry entry' more more' same rest ih =>
    obtain ⟨other, file⟩ := entry
    obtain ⟨other', file'⟩ := entry'
    obtain ⟨rfl, files⟩ := same
    cases here : other == path with
    | true =>
      simp only [List.find?_cons, here, Option.map_some]
      exact .some files
    | false =>
      simp only [List.find?_cons, here]
      exact ih

end Index

namespace Expansion

variable {x x' : Expansion} {r r' : Referrer}

theorem enterAlike (origin : Referrer.Alike T r r') (path : String) (kind : Kind) {t t' : Tier} (tiers : T t t') :
    Referrer.Alike T (r.enter path kind t) (r'.enter path kind t') :=
  ⟨by simp only [Referrer.enter, origin.chain], rfl, rfl, tiers⟩

theorem verdictAlike (alike : Alike T x x') (origin : Referrer.Alike T r r') (reference : Reference)
    (expected : Kind) :
    Verdict.Alike T r r' (x.verdict r reference expected) (x'.verdict r' reference expected) := by
  unfold verdict
  rw [← origin.path, ← origin.chain, ← alike.most,
    ← Index.resolveOfPaths (Index.pathsAlike alike.index) r.path reference.link x.most]
  cases x.index.resolve r.path reference.link x.most with
  | error cause => exact .refused _
  | ok path =>
    simp only
    split
    · exact .refused _
    · have found := Index.getAlike alike.index path
      generalize x.index.get? path = file at found
      generalize x'.index.get? path = file' at found
      cases found with
      | none => exact .skipped path
      | @some file file' files =>
        simp only [← files.kind, ← files.ignored]
        split
        · exact .refused _
        · cases active : file.tier.isIgnored with
          | true => exact .skipped path
          | false =>
            have documents := files.documents active
            have tiers := files.tiers active
            generalize file.document = document at documents
            generalize file'.document = document' at documents
            cases documents with
            | none => exact .refused _
            | some documents => exact .accepted documents tiers

theorem visitAlike (alike : Alike T x x') (origin : Referrer.Alike T r r') (reference : Reference)
    (expected : Kind) : Visit.Alike T (x.visit r reference expected) (x'.visit r' reference expected) :=
  ⟨origin, rfl, rfl, verdictAlike alike origin reference expected⟩

theorem wordsAlike (alike : Alike T x x') (path : String) : x.wordsOf path = x'.wordsOf path := by
  rw [wordsOf, wordsOf, Index.sidecar?, Index.sidecar?, alike.index.sidecars, alike.library]

theorem madeAlike (problems : List Diagnostic) (s : Artifact.Section) :
    List.Forall₂ (Step.Alike T) (problems.map .problem ++ [.section s]) (problems.map .problem ++ [.section s]) := by
  induction problems with
  | nil => exact .cons (.section s) .nil
  | cons d more ih => exact .cons (.problem d) ih

theorem flatMapAlike {α : Type} {f f' : α → List Step} (alike : ∀ a, List.Forall₂ (Step.Alike T) (f a) (f' a))
    (items : List α) : List.Forall₂ (Step.Alike T) (items.flatMap f) (items.flatMap f') := by
  induction items with
  | nil => exact .nil
  | cons a more ih => exact List.rel_append (alike a) ih

theorem followAlike (alike : Alike T x x') (origin : Referrer.Alike T r r') (reference : Reference)
    (expected : Kind) {next next' : String → Document → List Step}
    (inside : ∀ path d d', Document.Alike T d d' → List.Forall₂ (Step.Alike T) (next path d) (next' path d')) :
    List.Forall₂ (Step.Alike T) (x.follow r reference expected next) (x'.follow r' reference expected next') := by
  have visits := visitAlike alike origin reference expected
  unfold follow
  refine .cons (.visit visits) ?_
  have verdicts := visits.verdict
  generalize (x.visit r reference expected).verdict = verdict at verdicts
  generalize (x'.visit r' reference expected).verdict = verdict' at verdicts
  cases verdicts with
  | refused => exact .nil
  | skipped => exact .nil
  | accepted documents tiers => exact inside _ _ _ documents

theorem articleStepsAlike (alike : Alike T x x') (origin : Referrer.Alike T r r') (part : SourceSection)
    (lineage : Lineage) :
    List.Forall₂ (Step.Alike T) (x.articleSteps r part lineage) (x'.articleSteps r' part lineage) := by
  refine followAlike alike origin part.source .article ?_
  intro path d d' documents
  cases documents with
  | article tiers =>
    simp only [← origin.path, articleSource]
    exact madeAlike ..
  | _ => exact .nil

theorem videoStepsAlike (alike : Alike T x x') (origin : Referrer.Alike T r r') (part : SourceSection)
    (lineage : Lineage) :
    List.Forall₂ (Step.Alike T) (x.videoSteps r part lineage) (x'.videoSteps r' part lineage) := by
  refine followAlike alike origin part.source .videoTranscript ?_
  intro path d d' documents
  cases documents with
  | videoTranscript tiers =>
    simp only [← origin.path, ← wordsAlike alike, videoSource]
    exact madeAlike ..
  | _ => exact .nil

theorem partStepsAlike (alike : Alike T x x') (origin : Referrer.Alike T r r') (lineage : Lineage)
    (part : LensSection) :
    List.Forall₂ (Step.Alike T) (x.partSteps r lineage part) (x'.partSteps r' lineage part) := by
  cases part with
  | page page => exact .cons (.section _) .nil
  | article part => exact articleStepsAlike alike origin part lineage
  | video part => exact videoStepsAlike alike origin part lineage

theorem lensStepsAlike (alike : Alike T x x') (origin : Referrer.Alike T r r') (lineage : Lineage)
    (reference : Reference) :
    List.Forall₂ (Step.Alike T) (x.lensSteps r lineage reference) (x'.lensSteps r' lineage reference) := by
  refine followAlike alike origin reference .lens ?_
  intro path d d' documents
  cases documents with
  | lens tiers => exact flatMapAlike (partStepsAlike alike (enterAlike origin _ _ tiers) _) _
  | _ => exact .nil

theorem outcomeStepsAlike (alike : Alike T x x') (origin : Referrer.Alike T r r') (reference : Reference) :
    List.Forall₂ (Step.Alike T) (x.outcomeSteps r reference) (x'.outcomeSteps r' reference) := by
  refine followAlike alike origin reference .learningOutcome ?_
  intro path d d' documents
  cases documents with
  | learningOutcome tiers =>
    exact flatMapAlike (fun lens => lensStepsAlike alike (enterAlike origin _ _ tiers) _ lens) _
  | _ => exact .nil

theorem courseItemStepsAlike (alike : Alike T x x') (origin : Referrer.Alike T r r') (reference : Reference) :
    List.Forall₂ (Step.Alike T) (x.courseItemSteps r reference) (x'.courseItemSteps r' reference) := by
  refine followAlike alike origin reference .module ?_
  intro path d d' documents
  cases documents with
  | @module d t tiers => exact .cons (.slug d.slug) .nil
  | _ => exact .nil

theorem rootAlike (path : String) (kind : Kind) {t t' : Tier} (tiers : T t t') :
    Referrer.Alike T (.root path kind t) (.root path kind t') := ⟨rfl, rfl, rfl, tiers⟩

theorem moduleStepsAlike (alike : Alike T x x') (path : String) (m : Module) {t : Tier} (tiers : T m.tier t) :
    List.Forall₂ (Step.Alike T) (x.moduleSteps path m) (x'.moduleSteps path { m with tier := t }) := by
  apply flatMapAlike
  intro item
  cases item with
  | page page => exact .cons (.section _) .nil
  | outcome reference => exact outcomeStepsAlike alike (rootAlike path .module tiers) reference

theorem courseStepsAlike (alike : Alike T x x') (path : String) (c : Course) {t : Tier} (tiers : T c.tier t) :
    List.Forall₂ (Step.Alike T) (x.courseSteps path c) (x'.courseSteps path { c with tier := t }) :=
  flatMapAlike (courseItemStepsAlike alike (rootAlike path .course tiers)) c.modules

theorem sectionsAlike {steps steps' : List Step} (alike : List.Forall₂ (Step.Alike T) steps steps') :
    steps.filterMap Step.section? = steps'.filterMap Step.section? := by
  induction alike with
  | nil => rfl
  | cons step more ih => cases step <;> simp only [List.filterMap_cons, Step.section?, ih]

theorem slugsAlike {steps steps' : List Step} (alike : List.Forall₂ (Step.Alike T) steps steps') :
    steps.filterMap Step.slug? = steps'.filterMap Step.slug? := by
  induction alike with
  | nil => rfl
  | cons step more ih => cases step <;> simp only [List.filterMap_cons, Step.slug?, ih]

theorem documentEq {d d' : Document} (alike : Document.Alike Eq d d') : d = d' := by
  cases alike <;> rename_i tiers <;> cases tiers <;> rfl

theorem referrerEq {r r' : Referrer} (alike : Referrer.Alike Eq r r') : r = r' := by
  cases r
  cases r'
  obtain ⟨rfl, rfl, rfl, rfl⟩ := alike
  rfl

theorem visitEq {v v' : Visit} (alike : Visit.Alike Eq v v') : v = v' := by
  obtain ⟨origin, reference, expected, verdict⟩ := v
  obtain ⟨origin', reference', expected', verdict'⟩ := v'
  obtain ⟨origins, rfl, rfl, verdicts⟩ := alike
  cases referrerEq origins
  dsimp only at verdicts
  cases verdicts with
  | refused => rfl
  | skipped => rfl
  | accepted documents tiers =>
    cases documentEq documents
    cases tiers
    rfl

theorem stepsEq {steps steps' : List Step} (alike : List.Forall₂ (Step.Alike Eq) steps steps') :
    steps = steps' := by
  induction alike with
  | nil => rfl
  | cons step more ih =>
    cases step with
    | visit visits => rw [visitEq visits, ih]
    | _ => rw [ih]

end Expansion
end Syllabus
