import Syllabus.Proofs.Expansion.Alike
import Syllabus.Proofs.Expansion.Steps
import Syllabus.Proofs.Expansion.Verdict
import Syllabus.Proofs.Text

/-! Tiers in an expansion. Finished content that rests on unfinished content is reported and followed
all the same: the sections, the slugs and all other findings stay as they are when tiers change, and
there is one report for each reference on which the gate closes. -/
namespace Syllabus

def Diagnostic.isTierGate (d : Diagnostic) : Bool :=
  Text.startsWith "Production " d.message && Text.contains " references WIP " d.message

theorem Diagnostic.otherwiseWorded {d : Diagnostic} {c : Char} (head : d.message.toList.head? = some c)
    (other : c ≠ 'P') : d.isTierGate = false := by
  unfold isTierGate Text.startsWith
  cases letters : d.message.toList with
  | nil => rfl
  | cons first more =>
    have same : first = c := by simpa [letters] using head
    have : ('P' == first) = false := by simpa [same] using other.symm
    simp [List.isPrefixOf, this]

theorem ExcerptFailure.worded (e : ExcerptFailure) :
    ∃ c, e.message.toList.head? = some c ∧ c ≠ 'P' ∧ c ≠ 'R' ∧ c ≠ 'U' ∧ (c = 'C' → ∃ time, e = .untimed time) := by
  open Text in
  cases e with
  | anchorNotFound => exact ⟨'A', headOfAppend (headOfAppend rfl), by simp⟩
  | endNotFound => exact ⟨'E', headOfAppend (headOfAppend (headOfAppend (headOfAppend rfl))), by simp⟩
  | ambiguousAnchor => exact ⟨'A', headOfAppend (headOfAppend (headOfAppend (headOfAppend rfl))), by simp⟩
  | invalidTime => exact ⟨'I', headOfAppend (headOfAppend rfl), by simp⟩
  | outOfOrder => exact ⟨'E', headOfAppend (headOfAppend (headOfAppend rfl)), by simp⟩
  | timeNotFound => exact ⟨'T', headOfAppend (headOfAppend rfl), by simp⟩
  | emptyExcerpt => exact ⟨'N', headOfAppend (headOfAppend (headOfAppend rfl)), by simp⟩
  | untimed => exact ⟨'C', headOfAppend (headOfAppend rfl), by simp⟩
  | invalidWords => exact ⟨'I', headOfAppend rfl, by simp⟩

theorem Refusal.worded (cause : Refusal) : ∃ c, cause.message.toList.head? = some c ∧ c ≠ 'P' ∧
    (c = 'C' → ∃ chain there, cause = .circular chain there) := by
  open Text in
  cases cause with
  | unresolved failure =>
    cases failure with
    | notFound => exact ⟨'R', headOfAppend (headOfAppend rfl), by simp⟩
    | ambiguous => exact ⟨'A', headOfAppend (headOfAppend (headOfAppend rfl)), by simp⟩
  | circular => exact ⟨'C', headOfAppend rfl, by simp⟩
  | wrongKind =>
    exact ⟨'W', headOfAppend (headOfAppend (headOfAppend (headOfAppend (headOfAppend rfl)))), by simp⟩
  | rejected => exact ⟨'R', headOfAppend (headOfAppend rfl), by simp⟩

theorem Visit.unfinishedIsTierGate (v : Visit) (path : String) :
    (v.error (v.unfinishedMessage path) (some (v.unfinishedSuggestion path))).isTierGate = true := by
  -- Over variables, as the search for a place to rewrite would unfold literals.
  have grouped : ∀ a b c d e f g : String,
      a ++ b ++ c ++ d ++ e ++ f ++ g = (a ++ b) ++ (c ++ (d ++ (e ++ (f ++ g)))) := by
    intro a b c d e f g
    simp only [String.append_assoc]
  have worded : v.unfinishedMessage path = _ := grouped ..
  simp only [Diagnostic.isTierGate, error, worded, Bool.and_eq_true]
  exact ⟨Text.startsWithMore (Text.startsWithAppend ..) _, Text.containsMiddle ..⟩

namespace Visit

def followed? (v : Visit) : Option (String × Document) :=
  match v.verdict with
  | .accepted path document _ => some (path, document)
  | _ => none

def descends (v : Visit) : Bool := v.followed?.any fun (_, document) => document.kind == v.expected

def crosses (x : Expansion) (v : Visit) : Bool :=
  v.origin.tier == .production &&
    v.followed?.any fun (path, _) => (x.index.get? path).any fun file => file.tier == .wip

variable {v : Visit}

theorem refusedGates {cause : Refusal} (verdict : v.verdict = .refused cause) :
    v.findings.countP Diagnostic.isTierGate = 0 := by
  obtain ⟨c, head, other, _⟩ := cause.worded
  have ordinary : (v.error cause.message cause.suggestion).isTierGate = false :=
    Diagnostic.otherwiseWorded head other
  simp [findings, verdict, ordinary]

theorem acceptedGates {path : String} {document : Document} {unfinished : Bool}
    (verdict : v.verdict = .accepted path document unfinished) :
    v.findings.countP Diagnostic.isTierGate = if unfinished then 1 else 0 := by
  cases unfinished <;> simp [findings, verdict, unfinishedIsTierGate]

theorem gates {x : Expansion} (looked : v.verdict = x.verdict v.origin v.reference v.expected) :
    v.findings.countP Diagnostic.isTierGate = if v.crosses x then 1 else 0 := by
  have judged := x.judged v.origin v.reference v.expected
  rw [← looked] at judged
  generalize verdict : v.verdict = outcome at judged
  cases judged with
  | skipped => simp [findings, crosses, followed?, verdict]
  | accepted leads active read =>
    rw [acceptedGates verdict]
    simp [crosses, followed?, verdict, leads.found, Tier.violatedBy]
  | _ =>
    rw [refusedGates verdict]
    simp [crosses, followed?, verdict]

theorem crossesDescends {x : Expansion} (filed : x.index.Filed)
    (looked : v.verdict = x.verdict v.origin v.reference v.expected) (crosses : v.crosses x = true) :
    v.descends = true := by
  have judged := x.judged v.origin v.reference v.expected
  rw [← looked] at judged
  generalize verdict : v.verdict = outcome at judged
  cases judged with
  | @accepted path file document leads active read =>
    have kind : document.kind = v.expected := (filed path file document leads.found read).trans leads.kind
    simp [descends, followed?, verdict, kind]
  | _ => simp [Visit.crosses, followed?, verdict] at crosses

end Visit

def Step.visit? : Step → Option Visit
  | .visit v => some v
  | _ => none

namespace Expansion

variable {x x' : Expansion}

def visits (steps : List Step) : List Visit := steps.filterMap Step.visit?

theorem findingsGates {steps : List Step} (made : ∀ step ∈ steps, step.Made x) :
    (findingsOf steps).countP Diagnostic.isTierGate = (visits steps).countP (Visit.crosses x) := by
  induction steps with
  | nil => rfl
  | cons step more ih =>
    have later := ih fun other member => made other (List.mem_cons_of_mem _ member)
    simp only [findingsOf, visits, List.flatMap_cons, List.countP_append, List.filterMap_cons] at later ⊢
    rw [later]
    cases made step List.mem_cons_self with
    | visit looked =>
      simp only [Step.findings, Step.visit?, Visit.gates looked, List.countP_cons]
      omega
    | @problem d cause reported =>
      obtain ⟨c, head, other, _⟩ := cause.worded
      rw [← reported.message] at head
      simp [Step.findings, Step.visit?, Diagnostic.otherwiseWorded head other]
    | _ => simp [Step.findings, Step.visit?]

theorem visitsDescend {steps : List Step} (made : ∀ step ∈ steps, step.Made x) (filed : x.index.Filed) :
    (visits steps).countP (Visit.crosses x) = (visits steps).countP fun v => v.crosses x && v.descends := by
  apply List.countP_congr
  intro v member
  obtain ⟨step, inside, visit⟩ := List.mem_filterMap.mp member
  have source := made step inside
  cases source with
  | visit looked =>
    cases Option.some.inj visit
    simp only [Bool.and_eq_true, iff_self_and]
    exact Visit.crossesDescends filed looked
  | _ => cases visit

/-- Vaults that differ in tiers only, with the same files ignored. -/
def Regraded (x x' : Expansion) : Prop := Alike (fun _ _ => True) x x'

theorem stepFindingsRegraded {T : Tier → Tier → Prop} {step step' : Step} (alike : Step.Alike T step step') :
    step.findings.filter (fun d => !d.isTierGate) = step'.findings.filter fun d => !d.isTierGate := by
  cases alike with
  | @visit v v' visits =>
    have verdicts := visits.verdict
    simp only [Step.findings]
    generalize verdict : v.verdict = outcome, verdict' : v'.verdict = outcome' at verdicts
    cases verdicts with
    | refused cause => simp only [Visit.findings, verdict, verdict', Visit.error, visits.origin.path, visits.reference]
    | skipped path => simp only [Visit.findings, verdict, verdict']
    | accepted documents tiers =>
      simp only [Visit.findings, verdict, verdict']
      split <;> split <;> simp [Visit.unfinishedIsTierGate]
  | _ => rfl

theorem findingsRegraded {T : Tier → Tier → Prop} {steps steps' : List Step}
    (alike : List.Forall₂ (Step.Alike T) steps steps') :
    (findingsOf steps).filter (fun d => !d.isTierGate) = (findingsOf steps').filter fun d => !d.isTierGate := by
  induction alike with
  | nil => rfl
  | cons step more ih =>
    simp only [findingsOf, List.flatMap_cons, List.filter_append] at ih ⊢
    rw [stepFindingsRegraded step, ih]

theorem moduleRegraded {T : Tier → Tier → Prop} (alike : Alike T x x') (path : String) (m : Module) {t : Tier}
    (tiers : T m.tier t) :
    (x'.expandModule path { m with tier := t }).1 = { (x.expandModule path m).1 with tier := t } := by
  simp only [expandModule, sectionsAlike (moduleStepsAlike alike path m tiers)]

theorem courseRegraded {T : Tier → Tier → Prop} (alike : Alike T x x') (path : String) (c : Course) {t : Tier}
    (tiers : T c.tier t) :
    (x'.expandCourse path { c with tier := t }).1 = (x.expandCourse path c).1 := by
  simp only [expandCourse, slugsAlike (courseStepsAlike alike path c tiers)]

/-- Findings of steps in a vault, beside those in a regraded one: they differ in reports on the gate only,
and there is one of these for each reference from finished to unfinished content that was granted. In an
index whose documents are of the kinds of their files the walk goes on in all of them. -/
structure GateOnly (x : Expansion) (steps : List Step) (found found' : List Diagnostic) : Prop where
  others : found.filter (fun d => !d.isTierGate) = found'.filter fun d => !d.isTierGate
  granted : found.countP Diagnostic.isTierGate = (visits steps).countP (Visit.crosses x)
  descended : x.index.Filed →
    found.countP Diagnostic.isTierGate = (visits steps).countP fun v => v.crosses x && v.descends

theorem gateOnly {T : Tier → Tier → Prop} {steps steps' : List Step} (made : ∀ step ∈ steps, step.Made x)
    (alike : List.Forall₂ (Step.Alike T) steps steps') : GateOnly x steps (findingsOf steps) (findingsOf steps') where
  others := findingsRegraded alike
  granted := findingsGates made
  descended filed := (findingsGates made).trans (visitsDescend made filed)

theorem tierGatePassesThrough (regraded : Regraded x x') (path : String) :
    (∀ (m : Module) (t : Tier),
      (x'.expandModule path { m with tier := t }).1 = { (x.expandModule path m).1 with tier := t } ∧
      GateOnly x (x.moduleSteps path m) (x.expandModule path m).2 (x'.expandModule path { m with tier := t }).2) ∧
    ∀ (c : Course) (t : Tier),
      (x'.expandCourse path { c with tier := t }).1 = (x.expandCourse path c).1 ∧
      GateOnly x (x.courseSteps path c) (x.expandCourse path c).2 (x'.expandCourse path { c with tier := t }).2 := by
  constructor
  · intro m t
    have alike := @moduleStepsAlike _ x x' regraded path m t trivial
    exact ⟨moduleRegraded regraded path m trivial, gateOnly (x.moduleStepsMade path m) alike⟩
  · intro c t
    have alike := @courseStepsAlike _ x x' regraded path c t trivial
    exact ⟨courseRegraded regraded path c trivial, gateOnly (x.courseStepsMade path c) alike⟩

def introModule : Module where
  slug := "intro"
  slugLine := 2
  title := "Intro"
  contentId := none
  id := none
  discussion := none
  tier := .production
  items := [.outcome ⟨⟨"learning outcomes/core", none, none⟩, false, 6⟩]

def overviewLens (tier : Tier) : Lens :=
  ⟨⟨"9b2e4c1a-3f5d-4e8b-a7c6-1d2e3f4a5b6c", 2⟩, tier, [.page ⟨"Welcome", none, false, [⟨.text "Hello", false, 6⟩], 5⟩]⟩

def coreOutcome : LearningOutcome :=
  ⟨⟨"6ba7b810-9dad-11d1-80b4-00c04fd430c8", 2⟩, none, .production, [⟨⟨"lenses/overview", none, none⟩, false, 5⟩]⟩

def gradedVault (tier : Tier) : Expansion where
  index :=
    { files :=
        ⟨[("learning outcomes/core.md", ⟨.learningOutcome, .production, some (.learningOutcome coreOutcome)⟩),
          ("lenses/overview.md", ⟨.lens, tier, some (.lens (overviewLens tier))⟩)],
          by simp only [List.map_cons, List.map_nil]; decide⟩
      sidecars := .empty }
  most := 3

theorem gradedVaultsRegraded : Regraded (gradedVault .wip) (gradedVault .production) := by
  refine ⟨⟨.cons ⟨rfl, IndexedFile.alikeRefl (fun _ => trivial) _⟩ (.cons ⟨rfl, ?_⟩ .nil), rfl⟩, rfl, rfl⟩
  exact ⟨rfl, rfl, fun _ => trivial, fun _ => .some (.lens trivial)⟩

theorem unfinishedLensPassesThrough :
    Regraded (gradedVault .wip) (gradedVault .production) ∧
      ((gradedVault .production).expandModule "modules/intro.md" introModule).1 =
        ((gradedVault .wip).expandModule "modules/intro.md" introModule).1 ∧
      ((gradedVault .wip).expandModule "modules/intro.md" introModule).2.countP Diagnostic.isTierGate =
        (visits ((gradedVault .wip).moduleSteps "modules/intro.md" introModule)).countP
          (Visit.crosses (gradedVault .wip)) ∧
      ((gradedVault .wip).expandModule "modules/intro.md" introModule).2.countP Diagnostic.isTierGate = 1 :=
  have passes := (tierGatePassesThrough gradedVaultsRegraded "modules/intro.md").1 introModule .production
  ⟨gradedVaultsRegraded, passes.1, passes.2.granted, by decide +kernel⟩

def misfiledVault : Expansion where
  index :=
    { files := ⟨[("learning outcomes/core.md", ⟨.learningOutcome, .wip, some (.lens (overviewLens .wip))⟩)], by decide⟩
      sidecars := .empty }
  most := 3

theorem misfiledReportedWithoutDescent :
    (misfiledVault.expandModule "modules/intro.md" introModule).2.countP Diagnostic.isTierGate = 1 ∧
      (misfiledVault.expandModule "modules/intro.md" introModule).1.sections = [] ∧
      ((visits (misfiledVault.moduleSteps "modules/intro.md" introModule)).countP fun v =>
        v.crosses misfiledVault && v.descends) = 0 := by
  decide +kernel

end Expansion
end Syllabus
