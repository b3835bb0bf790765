import Syllabus.Proofs.Document.Made
import Syllabus.Proofs.Identifiers
import Syllabus.Proofs.Related
import Syllabus.Proofs.WikiLink

/-! Documents are well formed. The readers take what they find and leave it to the checks of the fields to find
fault with it; whatever passes both has its names, its links and its segments in order, and its flags are those
that the fields spell. -/
namespace Syllabus

structure Reference.Formed (b : FieldBlock) (reference : Reference) : Prop where
  link : reference.link.Formed
  optional : reference.optional = true ↔ b.Says "optional"

def SegmentBody.Formed (b : FieldBlock) : SegmentBody → Prop
  | .text content => Text.blank content = false
  | .chat instructions fromUser fromTutor =>
    Text.blank instructions = false ∧ (fromUser = true ↔ b.Says "hidePreviousContentFromUser") ∧
      (fromTutor = true ↔ b.Says "hidePreviousContentFromTutor")
  | .articleExcerpt start stop =>
    (∀ anchor ∈ start, Text.blank anchor = false) ∧ ∀ anchor ∈ stop, Text.blank anchor = false
  | .videoExcerpt start stop => Text.blank start = false ∧ Text.blank stop = false

structure Segment.Formed (kinds : List SegmentKind) (part : Section) (s : Segment) : Prop where
  kind : s.body.kind ∈ kinds
  body : s.body.Formed part.block
  optional : s.optional = true ↔ part.block.Says "optional"

structure Page.Formed (level : Nat) (s : Section) (page : Page) : Prop where
  optional : page.optional = true ↔ (s.header level).Says "optional"
  segments : List.Forall₂ (Segment.Formed [.text, .chat]) (s.parts level) page.segments

structure SourceSection.Formed (kinds : List SegmentKind) (level : Nat) (s : Section) (part : SourceSection) :
    Prop where
  source : part.source.Formed (s.header level)
  segments : List.Forall₂ (Segment.Formed kinds) (s.parts level) part.segments

def LensSection.Formed (s : Section) : LensSection → Prop
  | .page p => p.Formed Lens.segmentLevel s
  | .article part => part.Formed [.text, .chat, .articleExcerpt] Lens.segmentLevel s
  | .video part => part.Formed [.text, .chat, .videoExcerpt] Lens.segmentLevel s

def ModuleItem.Formed (s : Section) : ModuleItem → Prop
  | .page p => p.Formed Module.segmentLevel s
  | .outcome reference => reference.Formed s.block

namespace Document

def PartsFormed (x : Frontmatter.Extracted) : Document → Prop
  | .module d => List.Forall₂ ModuleItem.Formed (Sections.split x.body Module.sectionLevel x.bodyLine).sections d.items
  | .course d =>
    List.SublistForall₂ (fun reference (s : Section) => reference.Formed s.block) d.modules
      (Sections.split x.body Course.sectionLevel x.bodyLine).sections
  | .learningOutcome d =>
    List.Forall₂ (fun (s : Section) reference => reference.Formed s.block)
      (Sections.split x.body LearningOutcome.sectionLevel x.bodyLine).sections d.lenses
  | .lens d => List.Forall₂ LensSection.Formed (Sections.split x.body Lens.sectionLevel x.bodyLine).sections d.sections
  | _ => True

structure WellFormed (x : Frontmatter.Extracted) (d : Document) : Prop where
  slug : ∀ slug line, d.slug? = some (slug, line) → Slug.Form slug.toList
  identities : ∀ use ∈ d.identities, Uuid.Form use.identity.value.toList
  parts : d.PartsFormed x

end Document

theorem FieldCheck.slugForm {value : String} {line : Nat} (quiet : Remark.blocking (slug value line) = false) :
    Slug.Form value.toList := by
  rw [← Slug.validIff]
  unfold slug at quiet
  split at quiet
  · assumption
  · cases quiet

theorem FieldCheck.uuidForm {key value id : String} (passed : uuid key value = .ok id) : Uuid.Form id.toList := by
  rw [← Uuid.validIff]
  unfold uuid at passed
  dsimp only at passed
  split at passed
  · cases passed
    assumption
  · cases passed

theorem Frontmatter.identityForm {f : Frontmatter} {key : String} {id : Identity}
    (read : (f.identity key).value = some id) : Uuid.Form id.value.toList := by
  obtain ⟨value, found, rfl⟩ := Option.map_eq_some_iff.mp read
  split at found
  · cases found
  · split at found
    · split at found
      · rename_i passed
        cases found
        exact FieldCheck.uuidForm passed
      · cases found
    · cases found

theorem Page.identityForm {b : FieldBlock} {id : Identity} (read : (Page.identity b).value = some id) :
    Uuid.Form id.value.toList := by
  unfold Page.identity at read
  split at read
  · cases read
  · split at read
    · rename_i passed
      cases read
      exact FieldCheck.uuidForm passed
    · cases read

theorem WikiLink.readFormed {text : String} {line : Nat} {l : WikiLink} (value : (read text line).value = some l) :
    l.Formed := by
  unfold read at value
  split at value
  · rename_i parsed
    cases value
    exact parseFormed parsed
  · cases value

theorem WikiLink.ofFieldFormed {b : FieldBlock} {key : String} {l : WikiLink} (value : (ofField b key).value = some l) :
    l.Formed := by
  unfold ofField at value
  split at value
  · cases value
  · split at value
    · cases value
    · dsimp only at value
      split at value
      · cases value
      · dsimp only at value
        exact readFormed value

theorem Course.linkFormed {b : FieldBlock} {s : Section} {l : WikiLink} (value : (linkOfSection b s).value = some l) :
    l.Formed := by
  unfold linkOfSection at value
  split at value
  · exact WikiLink.readFormed value
  · split at value
    · exact WikiLink.ofFieldFormed value
    · cases value

theorem Reference.ofBlockFormed {schema : Schema} {most line : Nat} {b : FieldBlock} {reference : Reference}
    (made : (ofBlock schema most b line).Made reference) : reference.Formed b := by
  obtain ⟨read, shown, _⟩ := ofBlockMade made
  refine ⟨WikiLink.ofFieldFormed read, ?_⟩
  rw [shown]
  exact FieldBlock.flagIff

theorem Course.moduleFormed {most : Nat} {s : Section} {reference : Reference}
    (made : (moduleOfSection most s).Made reference) : reference.Formed s.block := by
  have value := made.value
  unfold moduleOfSection at value
  split at value
  · obtain ⟨link, read, rfl⟩ := Option.map_eq_some_iff.mp value
    exact ⟨linkFormed read, FieldBlock.flagIff⟩
  · cases value

theorem SegmentBody.ofBlockFormed {kind : SegmentKind} {line most : Nat} {b : FieldBlock}
    (checked : Remark.blocking (FieldCheck.block kind.schema line most b) = false) : (ofBlock b kind).Formed b := by
  -- What stands in for a missing field never shows, as the check asks for the field with content.
  cases kind with
  | text =>
    obtain ⟨content, filled⟩ := FieldBlock.requiredFilled (by decide : "content" ∈ Schema.textSegment.required) checked
    simpa [ofBlock, Formed, filled] using FieldBlock.filledSolid filled
  | chat =>
    obtain ⟨instructions, filled⟩ := FieldBlock.requiredFilled (by decide : "instructions" ∈ Schema.chatSegment.required) checked
    refine ⟨?_, FieldBlock.flagIff, FieldBlock.flagIff⟩
    simpa [filled] using FieldBlock.filledSolid filled
  | articleExcerpt => exact ⟨fun _ => FieldBlock.filledSolid, fun _ => FieldBlock.filledSolid⟩
  | videoExcerpt =>
    obtain ⟨stop, filled⟩ := FieldBlock.requiredFilled (by decide : "to" ∈ Schema.videoExcerptSegment.required) checked
    refine ⟨?_, by simpa [filled] using FieldBlock.filledSolid filled⟩
    cases start : b.filled? "from" with
    | none => decide
    | some value => exact FieldBlock.filledSolid start

theorem Section.SegmentsMade.formed {rule : SegmentRule} {level most : Nat} {s : Section} {segments : List Segment}
    (made : s.SegmentsMade rule level most segments) :
    List.Forall₂ (Segment.Formed rule.allowed) (s.parts level) segments := by
  refine made.imp fun part segment each => ?_
  obtain ⟨kind, _, allowed, rfl, checked⟩ := Segment.ofSectionMade each
  refine ⟨?_, SegmentBody.ofBlockFormed checked, FieldBlock.flagIff⟩
  cases kind <;> exact allowed

theorem Page.Made.formed {level most : Nat} {s : Section} {page : Page} (made : page.Made level most s) :
    page.Formed level s := by
  refine ⟨?_, made.segments.formed⟩
  rw [made.optional]
  exact FieldBlock.flagIff

theorem SourceSection.Made.formed {schema : Schema} {rule : SegmentRule} {level most : Nat} {s : Section}
    {part : SourceSection} (made : part.Made schema rule level most s) : part.Formed rule.allowed level s :=
  ⟨Reference.ofBlockFormed made.source, made.segments.formed⟩

theorem Lens.partFormed {most : Nat} {s : Section} {part : LensSection} (made : PartMade most s part) :
    part.Formed s := by
  cases part with
  | page p => exact made.2.formed
  | article part => exact made.2.formed
  | video part => exact made.2.formed

theorem Module.itemFormed {most : Nat} {s : Section} {item : ModuleItem} (made : ItemMade most s item) :
    item.Formed s := by
  cases item with
  | page p => exact made.2.formed
  | outcome reference => exact Reference.ofBlockFormed made.2

namespace Document

variable {most : Nat} {x : Frontmatter.Extracted} {d : Document}

theorem Made.parts (made : d.Made most x) : d.PartsFormed x := by
  cases d with
  | module d => exact made.items.imp fun _ _ each => Module.itemFormed (Module.itemOfSectionMade each)
  | course d =>
    obtain ⟨taken, each, among⟩ := List.sublistForall₂_iff.mp made.modules
    exact List.sublistForall₂_iff.mpr ⟨taken, each.imp fun _ _ made => Course.moduleFormed made, among⟩
  | learningOutcome d =>
    exact made.lenses.imp fun _ _ each => Reference.ofBlockFormed (LearningOutcome.lensOfSectionMade each).2
  | lens d => exact made.sections.imp fun _ _ each => Lens.partFormed (Lens.partOfSectionMade each)
  | _ => trivial

theorem Made.slug (made : d.Made most x) {slug : String} {line : Nat} (found : d.slug? = some (slug, line)) :
    Slug.Form slug.toList := by
  have named : x.frontmatter.slug.1 = (slug, line) ∧ Remark.blocking x.frontmatter.slug.2 = false := by
    cases d with
    | module d =>
      cases found
      exact ⟨made.slug, made.named⟩
    | course d =>
      cases found
      exact ⟨made.slug, made.named⟩
    | _ => cases found
  obtain ⟨shown, quiet⟩ := named
  simp only [Frontmatter.slug, Prod.mk.injEq] at shown quiet
  rw [← shown.1]
  exact FieldCheck.slugForm quiet

theorem pageIdentityForm {level : Nat} {s : Section} {page : Page} (made : page.Made level most s) {id : Identity}
    (found : page.id = some id) : Uuid.Form id.value.toList :=
  Page.identityForm (made.id.symm.trans found)

theorem Made.identities (made : d.Made most x) {use : IdentityUse} (member : use ∈ d.identities) :
    Uuid.Form use.identity.value.toList := by
  rcases identitySource made member with header | inside
  · obtain ⟨_, read⟩ := header
    exact Frontmatter.identityForm read
  · obtain ⟨page, has, found⟩ := inside
    obtain ⟨_, _, made⟩ := pageMade made has
    exact pageIdentityForm made found

theorem parsedWellFormed [Library] {kind : Kind} {most : Nat} {file text : String} {d : Document}
    (read : (parse kind most file text).value = some d) :
    ∃ x, Frontmatter.extract text = .ok x ∧ d.WellFormed x := by
  obtain ⟨x, source⟩ := readSource read
  have made := bodyMade ⟨source.value, source.quiet⟩
  exact ⟨x, source.extracted, fun _ _ => made.slug, fun _ => made.identities, made.parts⟩

def talkText : String :=
  "---\nslug: a\ntitle: A\n---\n# Page: P\n## Chat\ninstructions:: Hi\noptional:: TRUE\n# Learning Outcome:\nsource:: [[o]]\n"

def talkModule : Module where
  slug := "a"
  slugLine := 2
  title := "A"
  contentId := none
  id := none
  discussion := none
  tier := .production
  items := [.page ⟨"P", none, false, [⟨.chat "Hi" false false, true, 6⟩], 5⟩, .outcome ⟨⟨"o", none, none⟩, false, 10⟩]

theorem talkWellFormed :
    (parse .module 3 "modules/a.md" talkText).value = some (.module talkModule) ∧
      ∃ x, Frontmatter.extract talkText = .ok x ∧ (Document.module talkModule).WellFormed x :=
  have read : (parse .module 3 "modules/a.md" talkText).value = some (.module talkModule) := by decide +kernel
  ⟨read, parsedWellFormed read⟩

end Document
end Syllabus
