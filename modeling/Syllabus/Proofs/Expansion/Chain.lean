import Mathlib.Data.List.Chain
import Mathlib.Data.List.Nodup
import Syllabus.Proofs.Expansion.Account

/-! The way from the root of an expansion to each reference in it. A document is entered by a granted reference, and
none is granted to a file that is on the way already; so the way never comes to a file twice, and a reference back to
it is told as a circle. Nothing else is told in these words. -/
namespace Syllabus

def ModuleItem.reference? : ModuleItem → Option Reference
  | .outcome reference => some reference
  | .page _ => none

def LensSection.reference? : LensSection → Option Reference
  | .page _ => none
  | .article part => some part.source
  | .video part => some part.source

def Document.references : Document → List Reference
  | .module d => d.items.filterMap ModuleItem.reference?
  | .course d => d.modules
  | .learningOutcome d => d.lenses
  | .lens d => d.sections.filterMap LensSection.reference?
  | _ => []

def Diagnostic.isCircular (d : Diagnostic) : Bool := Text.startsWith "Circular reference detected" d.message

namespace Expansion

def document? (x : Expansion) (path : String) (root : Document) (there : String) : Option Document :=
  if there = path then some root else (x.index.get? there).bind IndexedFile.document

def Links (x : Expansion) (path : String) (root : Document) (here there : String) : Prop :=
  ∃ d reference, x.document? path root here = some d ∧ reference ∈ d.references ∧
    x.index.resolve here reference.link x.most = .ok there

/-- A document that was come to from `root`, and the way to it. -/
structure Stands (x : Expansion) (path : String) (root : Document) (origin : Referrer) (d : Document) : Prop where
  first : origin.chain.head? = some path
  last : origin.chain.getLast? = some origin.path
  distinct : origin.chain.Nodup
  linked : origin.chain.IsChain (x.Links path root)
  document : x.document? path root origin.path = some d
  kind : origin.kind = d.kind
  tier : origin.tier = d.tier

def Told (x : Expansion) (path : String) (root : Document) (steps : List Step) : Prop :=
  ∀ v, .visit v ∈ steps → ∃ d, x.Stands path root v.origin d ∧ v.reference ∈ d.references

def circle? (x : Expansion) (v : Visit) : Option Diagnostic :=
  match x.index.resolve v.origin.path v.reference.link x.most with
  | .error _ => none
  | .ok there =>
    if there ∈ v.origin.chain then
      some ⟨v.origin.path, some v.reference.line,
        "Circular reference detected: " ++ Text.joinWith " -> " (v.origin.chain ++ [there]), none, .error⟩
    else none

structure ChainsKept (x : Expansion) (path : String) (root : Document) (steps : List Step) : Prop where
  told : x.Told path root steps
  circles : (findingsOf steps).filter Diagnostic.isCircular = (visits steps).filterMap x.circle?

variable {x : Expansion} {path : String} {root : Document}

theorem rootStands (x : Expansion) (path : String) (root : Document) :
    x.Stands path root (.root path root.kind root.tier) root where
  first := rfl
  last := rfl
  distinct := List.nodup_singleton path
  linked := List.isChain_singleton path
  document := if_pos rfl
  kind := rfl
  tier := rfl

theorem Stands.enter {origin : Referrer} {d : Document} (stands : x.Stands path root origin d) {reference : Reference}
    (written : reference ∈ d.references) {expected : Kind} {there : String} {inside : Document}
    (granted : x.granted? origin reference expected = some (there, inside)) :
    x.Stands path root (origin.enter there inside.kind inside.tier) inside := by
  obtain ⟨file, leads, _, read⟩ := grantedLeads granted
  have apart : there ≠ path := by
    intro same
    have member : path ∈ origin.chain := List.mem_of_mem_head? stands.first
    exact leads.fresh (same ▸ member)
  have link : x.Links path root origin.path there :=
    ⟨d, reference, stands.document, written, leads.resolved⟩
  refine ⟨?_, List.getLast?_concat, ?_, ?_, ?_, rfl, rfl⟩
  · rw [Referrer.enter, List.head?_append, stands.first, Option.some_or]
  · exact List.nodup_append.mpr ⟨stands.distinct, List.nodup_singleton there, by
      intro a inside b alone
      cases List.mem_singleton.mp alone
      exact fun same => leads.fresh (same ▸ inside)⟩
  · refine stands.linked.append (List.isChain_singleton there) fun a last b first => ?_
    cases stands.last.symm.trans last
    cases first
    exact link
  · rw [document?, Referrer.enter, if_neg apart, leads.found, Option.bind_some, read]

theorem toldFlatMap {α : Type} {items : List α} {f : α → List Step} (each : ∀ a ∈ items, x.Told path root (f a)) :
    x.Told path root (items.flatMap f) := by
  intro v member
  obtain ⟨a, inside, found⟩ := List.mem_flatMap.mp member
  exact each a inside v found

theorem followTold {origin : Referrer} {d : Document} (stands : x.Stands path root origin d) {reference : Reference}
    (written : reference ∈ d.references) {expected : Kind} {next : String → Document → List Step}
    (inside : ∀ there d', x.Stands path root (origin.enter there d'.kind d'.tier) d' →
      x.Told path root (next there d')) :
    x.Told path root (x.follow origin reference expected next) := by
  intro v member
  rw [followEq] at member
  cases member with
  | head => exact ⟨d, stands, written⟩
  | tail _ later =>
    cases granted : x.granted? origin reference expected with
    | none =>
      rw [granted] at later
      cases later
    | some target =>
      rw [granted] at later
      exact inside target.1 target.2 (stands.enter written granted) v later

theorem nothingTold : x.Told path root [] := by
  intro v member
  cases member

theorem problemsTold {problems : List Diagnostic} {s : Artifact.Section} :
    x.Told path root (problems.map Step.problem ++ [.section s]) := by
  intro v member
  simp at member

theorem partTold {origin : Referrer} {d : Document} (stands : x.Stands path root origin d) (lineage : Lineage)
    {part : LensSection} (written : ∀ reference, part.reference? = some reference → reference ∈ d.references) :
    x.Told path root (x.partSteps origin lineage part) := by
  cases part with
  | page page =>
    intro v member
    cases List.mem_singleton.mp member
  | article part =>
    refine followTold stands (written _ rfl) fun there inside _ => ?_
    cases inside with
    | article a => exact problemsTold
    | _ => exact nothingTold
  | video part =>
    refine followTold stands (written _ rfl) fun there inside _ => ?_
    cases inside with
    | videoTranscript v => exact problemsTold
    | _ => exact nothingTold

theorem lensTold {origin : Referrer} {d : Document} (stands : x.Stands path root origin d) (lineage : Lineage)
    {reference : Reference} (written : reference ∈ d.references) :
    x.Told path root (x.lensSteps origin lineage reference) := by
  refine followTold stands written fun there inside stands => ?_
  cases inside with
  | lens lens =>
    refine toldFlatMap fun part member => partTold stands _ fun source asks => ?_
    exact List.mem_filterMap.mpr ⟨part, member, asks⟩
  | _ => exact nothingTold

theorem outcomeTold {origin : Referrer} {d : Document} (stands : x.Stands path root origin d) {reference : Reference}
    (written : reference ∈ d.references) : x.Told path root (x.outcomeSteps origin reference) := by
  refine followTold stands written fun there inside stands => ?_
  cases inside with
  | learningOutcome outcome => exact toldFlatMap fun lens member => lensTold stands _ member
  | _ => exact nothingTold

theorem moduleTold (x : Expansion) (path : String) (m : Module) :
    x.Told path (.module m) (x.moduleSteps path m) := by
  have stands := x.rootStands path (.module m)
  refine toldFlatMap fun item member => ?_
  cases item with
  | page page =>
    intro v member
    cases List.mem_singleton.mp member
  | outcome reference => exact outcomeTold stands (List.mem_filterMap.mpr ⟨_, member, rfl⟩)

theorem courseTold (x : Expansion) (path : String) (c : Course) :
    x.Told path (.course c) (x.courseSteps path c) := by
  have stands := x.rootStands path (.course c)
  refine toldFlatMap fun reference member => followTold stands member fun there inside _ => ?_
  cases inside with
  | module m =>
    intro v member
    cases List.mem_singleton.mp member
  | _ => exact nothingTold

theorem uncircled {s : String} {c : Char} (head : s.toList.head? = some c) (other : c ≠ 'C') :
    Text.startsWith "Circular reference detected" s = false := by
  rw [List.head?_eq_getElem?] at head
  exact Text.notStarts (i := 0) rfl head other.symm

theorem refusalUncircled {cause : Refusal} (other : ∀ chain there, cause ≠ .circular chain there) :
    Text.startsWith "Circular reference detected" cause.message = false := by
  obtain ⟨c, head, _, only⟩ := cause.worded
  refine uncircled head fun same => ?_
  obtain ⟨chain, there, circular⟩ := only same
  exact other chain there circular

theorem excerptUncircled (cause : ExcerptFailure) :
    Text.startsWith "Circular reference detected" cause.message = false := by
  obtain ⟨c, head, _, _, _, only⟩ := cause.worded
  by_cases same : c = 'C'
  · obtain ⟨time, rfl⟩ := only same
    exact Text.notStarts (i := 1) rfl (Text.letterOfAppend (Text.letterOfAppend rfl)) (by decide)
  · exact uncircled head same

theorem visitCircles {v : Visit} (looked : v.verdict = x.verdict v.origin v.reference v.expected) :
    v.findings.filter Diagnostic.isCircular = (x.circle? v).toList := by
  have judged := x.judged v.origin v.reference v.expected
  rw [← looked] at judged
  unfold Visit.findings circle?
  generalize v.verdict = verdict at judged ⊢
  have plain {cause : Refusal} (other : ∀ chain there, cause ≠ .circular chain there) :
      [v.error cause.message cause.suggestion].filter Diagnostic.isCircular = [] := by
    simpa [Diagnostic.isCircular, Visit.error] using refusalUncircled other
  cases judged with
  | unresolved failed =>
    rw [failed]
    exact plain (by simp)
  | @circular there resolved closed =>
    have told : (v.error (Refusal.circular v.origin.chain there).message none).isCircular = true :=
      Text.startsWithMore (by decide) _
    simp only [resolved, if_pos closed]
    exact List.filter_cons_of_pos told
  | wrongKind resolved fresh =>
    rw [resolved]
    simpa [fresh] using plain (by simp)
  | rejected leads =>
    rw [leads.resolved]
    simpa [leads.fresh] using plain (by simp)
  | skipped leads => simp [leads.resolved, leads.fresh]
  | @accepted there file document leads active read =>
    have told : (v.error (v.unfinishedMessage there) (some (v.unfinishedSuggestion there))).isCircular = false := by
      open Text in
      exact uncircled (c := 'P')
        (headOfAppend (headOfAppend (headOfAppend (headOfAppend (headOfAppend (headOfAppend rfl)))))) (by decide)
    cases v.origin.tier.violatedBy file.tier <;> simp [leads.resolved, leads.fresh, told]

theorem findingsCircles {steps : List Step} (made : ∀ step ∈ steps, step.Made x) :
    (findingsOf steps).filter Diagnostic.isCircular = (visits steps).filterMap x.circle? := by
  induction steps with
  | nil => rfl
  | cons step more ih =>
    have later := ih fun other member => made other (List.mem_cons_of_mem _ member)
    simp only [findingsOf, visits, List.flatMap_cons, List.filter_append, List.filterMap_cons] at later ⊢
    rw [later]
    cases made step List.mem_cons_self with
    | @visit v looked =>
      simp only [Step.findings, Step.visit?, visitCircles looked, List.filterMap_cons]
      cases x.circle? v <;> rfl
    | @problem d cause reported =>
      have quiet : d.isCircular = false := by
        rw [Diagnostic.isCircular, reported.message]
        exact excerptUncircled cause
      simp [Step.findings, Step.visit?, quiet]
    | _ => rfl

end Expansion
end Syllabus
