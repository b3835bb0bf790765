import Syllabus.Proofs.Document.Lines
import Syllabus.Proofs.Document.Remarks

/-! The numbers that a document hands on to the later stages of a build: where its slug and its UUIDs are declared,
where its references stand, and the segments that take excerpts. All of them are lines of the file it was read from. -/
namespace Syllabus
open Text (Within)

def ModuleItem.Recorded (P : Nat → Prop) : ModuleItem → Prop
  | .outcome r => P r.line
  | .page _ => True

structure SourceSection.Recorded (P : Nat → Prop) (part : SourceSection) : Prop where
  source : P part.source.line
  segments : ∀ s ∈ part.segments, P s.line

def LensSection.Recorded (P : Nat → Prop) : LensSection → Prop
  | .page _ => True
  | .article part => part.Recorded P
  | .video part => part.Recorded P

namespace Document

def PartsRecorded (P : Nat → Prop) : Document → Prop
  | .module d => ∀ item ∈ d.items, item.Recorded P
  | .course d => ∀ r ∈ d.modules, P r.line
  | .learningOutcome d => ∀ r ∈ d.lenses, P r.line
  | .lens d => ∀ part ∈ d.sections, part.Recorded P
  | _ => True

structure Recorded (P : Nat → Prop) (d : Document) : Prop where
  slug : ∀ slug line, d.slug? = some (slug, line) → P line
  identities : ∀ use ∈ d.identities, P use.identity.line
  parts : d.PartsRecorded P

end Document

variable {text head keyword : String} {level inner start n most : Nat} {x : Frontmatter.Extracted} {h : HeadingLine}

theorem Text.FirstFrom.within (found : FirstFrom text 1 start head n) : Within text n := by
  obtain ⟨line, stands, _⟩ := found.starts
  exact (Text.numberedIff.mpr ⟨line, stands⟩).within

theorem Text.HeadingAt.within {label : String × String} (heading : HeadingAt text level n label) : Within text n := by
  obtain ⟨line, _, stands, _⟩ := heading
  exact (Text.numberedIff.mpr ⟨line, stands⟩).within

theorem Reference.Stands.within {r : Reference} (stands : r.Stands text x level h keyword) : Within text r.line :=
  stands.source.first.within

theorem SourceSection.Stands.recorded {part : SourceSection} (stands : part.Stands text x level inner h keyword) :
    part.Recorded (Within text) := by
  refine ⟨stands.source.first.within, fun s member => ?_⟩
  obtain ⟨g, _, standing⟩ := memRelated stands.segments member
  rw [standing.line]
  exact standing.heading.within

theorem Course.modulesRecorded {P : Nat → Prop} {s : Section} {r : Reference} (covered : s.Covered P)
    (made : (moduleOfSection most s).Made r) : P r.line := by
  have value := made.value
  unfold moduleOfSection at value
  split at value
  · obtain ⟨link, _, rfl⟩ := Option.map_eq_some_iff.mp value
    dsimp only [linkLine]
    split
    · exact covered.line
    · cases found : (FieldBlock.parse s.content s.contentLine).get? "source" with
      | none => simpa [found] using covered.line
      | some f => simpa [found] using covered.block.fields f (List.mem_of_find?_eq_some found)
  · cases value

namespace Document

variable {d : Document}

theorem identityRecorded {P : Nat → Prop} (covered : Frontmatter.Covered P x) {key : String} {id : Identity}
    (read : (x.frontmatter.identity key).value = some id) : P id.line := by
  obtain ⟨value, _, rfl⟩ := Option.map_eq_some_iff.mp read
  exact covered.lineOf key

theorem slugRecorded {P : Nat → Prop} (covered : Frontmatter.Covered P x) (made : d.Made most x) {slug : String}
    {line : Nat} (found : d.slug? = some (slug, line)) : P line := by
  have shown : x.frontmatter.slug.1 = (slug, line) := by
    cases d with
    | module d =>
      cases found
      exact Module.Made.slug made
    | course d =>
      cases found
      exact Course.Made.slug made
    | _ => cases found
  simp only [Frontmatter.slug, Prod.mk.injEq] at shown
  rw [← shown.2]
  exact covered.lineOf "slug"

theorem pageStands (stands : d.Stands text x) {page : Page} (has : d.HasPage page) :
    ∃ level inner h, page.Stands text x level inner h := by
  cases d with
  | module d =>
    obtain ⟨h, _, standing⟩ := memRelated stands has
    exact ⟨1, 2, h, standing⟩
  | lens d =>
    obtain ⟨h, _, standing⟩ := memRelated stands has
    exact ⟨3, 4, h, standing⟩
  | _ => cases has

theorem identitiesRecorded (covered : Frontmatter.Covered (Within text) x) (made : d.Made most x)
    (stands : d.Stands text x) : ∀ use ∈ d.identities, Within text use.identity.line := by
  intro use member
  rcases identitySource made member with header | inside
  · obtain ⟨_, read⟩ := header
    exact identityRecorded covered read
  · obtain ⟨page, has, found⟩ := inside
    obtain ⟨_, _, _, standing⟩ := pageStands stands has
    exact (standing.id _ found).first.within

theorem partsRecorded (covered : Frontmatter.Covered (Within text) x) (made : d.Made most x)
    (stands : d.Stands text x) : d.PartsRecorded (Within text) := by
  cases d with
  | module d =>
    intro item member
    obtain ⟨h, _, standing⟩ := memRelated stands member
    cases item with
    | page p => trivial
    | outcome r => exact Reference.Stands.within standing
  | course d =>
    intro r member
    obtain ⟨ss, related, below⟩ := List.sublistForall₂_iff.mp made.modules
    obtain ⟨s, inside, each⟩ := memRelated related.flip member
    exact Course.modulesRecorded (splitCovered covered.body s (below.subset inside)) each
  | learningOutcome d =>
    intro r member
    obtain ⟨h, _, standing⟩ := memRelated stands member
    exact standing.within
  | lens d =>
    intro part member
    obtain ⟨h, _, standing⟩ := memRelated stands member
    cases part with
    | page p => trivial
    | article part => exact standing.recorded
    | video part => exact standing.recorded
  | _ => trivial

theorem recordedWithin [Library] {kind : Kind} {file : String} (read : (parse kind most file text).value = some d) :
    d.Recorded (Within text) := by
  obtain ⟨x, source⟩ := readSource read
  have made := bodyMade ⟨source.value, source.quiet⟩
  have covered := Frontmatter.extractCovered source.extracted
  have stands := standsOfMade (bodyShown source.extracted) made
  exact ⟨fun _ _ => slugRecorded covered made, identitiesRecorded covered made stands,
    partsRecorded covered made stands⟩

end Document
end Syllabus
