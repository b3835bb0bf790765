import Syllabus.Proofs.Document.Remarks

/-! What is expected under an unknown heading. The names that a document takes at a heading are told by its kind,
but for the segments of a lens, where they are told by the section that holds the line. A line stands in one
section, so the line of an unknown heading and what it ought to be tell the names that were expected. -/
namespace Syllabus

def likened (most : Nat) (heading : String) (expected : List String) : Option String :=
  (Suggestion.closest? (Heading.label heading).1 (expected.map Keyword.ofText) most).bind fun keyword =>
    expected.find? fun name => Keyword.ofText name == keyword

theorem unknownHeadingEq (most : Nat) (what : String) (expected : List String) (s : Section) :
    unknownHeading most what expected s =
      .onLine s.line (.unknownHeading what s.heading (likened most s.heading expected) expected) := by
  unfold unknownHeading likened Section.keyword
  rfl

namespace Remark

def Asks (most : Nat) (R : Nat → String → List String → Prop) (rs : List Remark) : Prop :=
  ∀ r ∈ rs, ∀ what heading nearest expected, r.problem = .unknownHeading what heading nearest expected →
    nearest = likened most heading expected ∧ ∃ n, r.line = some n ∧ R n what expected

variable {most : Nat} {R S : Nat → String → List String → Prop} {rs ss : List Remark}

@[simp] theorem asksNil : Asks most R [] := by simp [Asks]

@[simp] theorem asksAppend : Asks most R (rs ++ ss) ↔ Asks most R rs ∧ Asks most R ss :=
  List.forall_mem_append

theorem asksFlatMap {α : Type} {items : List α} {f : α → List Remark} (each : ∀ a ∈ items, Asks most R (f a)) :
    Asks most R (items.flatMap f) := by
  intro r member
  obtain ⟨a, inside, here⟩ := List.mem_flatMap.mp member
  exact each a inside r here

theorem asksAll {α : Type} {items : List Section} {f : Section → Reading α}
    (each : ∀ s ∈ items, Asks most R (f s).remarks) : Asks most R (Reading.allRemarks (items.map f)) := by
  rw [Reading.allRemarks, List.flatMap_map]
  exact asksFlatMap each

theorem Asks.imp (asks : Asks most R rs) (weaker : ∀ n what expected, R n what expected → S n what expected) :
    Asks most S rs := by
  intro r member what heading nearest expected same
  obtain ⟨likened, n, line, here⟩ := asks r member what heading nearest expected same
  exact ⟨likened, n, line, weaker n what expected here⟩

theorem Asks.placed {P : Nat → Prop} (asks : Asks most R rs) (placed : Placed P rs) :
    Asks most (fun n what expected => P n ∧ R n what expected) rs := by
  intro r member what heading nearest expected same
  obtain ⟨likened, n, line, here⟩ := asks r member what heading nearest expected same
  exact ⟨likened, n, line, placed r member n line, here⟩

theorem asksUnknown {what : String} {expected : List String} {s : Section} (here : R s.line what expected) :
    Asks most R [unknownHeading most what expected s] := by
  intro r member what' heading nearest expected' same
  rw [List.mem_singleton.mp member, unknownHeadingEq] at same ⊢
  cases same
  exact ⟨rfl, s.line, rfl, here⟩

end Remark

open Remark (Asks)

variable {most : Nat} {R : Nat → String → List String → Prop}

namespace FieldCheck

theorem requiredAsks (s : Schema) (line : Nat) (fs : List Field) (key : String) : Asks most R (required s line fs key) := by
  unfold required
  split
  · simp [Asks, Remark.onLine]
  · split <;> simp [Asks, Remark.onLine]

theorem singleAsks (s : Schema) (reach : Nat) (f : Field) : Asks most R (single s reach f) := by
  have other : Asks most R (unknown s reach f) := by
    unfold unknown
    split
    · split <;> simp [Asks, Remark.onLine]
    · split <;> simp [Asks, Remark.onLine]
  unfold single
  split
  · split <;> simp [Asks, Remark.onLine]
  · exact other

theorem eachAsks (s : Schema) (reach : Nat) (seen : List String) (fs : List Field) : Asks most R (each s reach seen fs) := by
  induction fs generalizing seen with
  | nil => simp [each]
  | cons f more ih =>
    rw [each]
    split
    · have first : Asks most R [.onLine f.line (.repeatedField f.key s.name)] := by simp [Asks, Remark.onLine]
      exact Remark.asksAppend.mpr ⟨first, ih seen⟩
    · exact Remark.asksAppend.mpr ⟨singleAsks s reach f, ih _⟩

theorem fieldsAsks (s : Schema) (line reach : Nat) (fs : List Field) : Asks most R (fields s line reach fs) :=
  Remark.asksAppend.mpr ⟨Remark.asksFlatMap fun key _ => requiredAsks s line fs key, eachAsks s reach [] fs⟩

theorem blockAsks (s : Schema) (line reach : Nat) (b : FieldBlock) : Asks most R (block s line reach b) := by
  refine Remark.asksAppend.mpr ⟨fieldsAsks s line reach b.fields, fun r member => ?_⟩
  obtain ⟨entry, _, rfl⟩ := List.mem_map.mp member
  simp [Remark.onLine]

theorem uuidAsks {key value : String} {problem : Problem} (refused : uuid key value = .error problem) (line : Option Nat) :
    Asks most R [⟨line, problem⟩] := by
  unfold uuid at refused
  dsimp only at refused
  split at refused
  · cases refused
  · cases refused
    simp [Asks]

end FieldCheck

theorem Frontmatter.slugAsks (f : Frontmatter) : Asks most R f.slug.2 := by
  simp only [slug, FieldCheck.slug]
  split <;> simp [Asks, Remark.onLine]

theorem Frontmatter.identityAsks (f : Frontmatter) (key : String) : Asks most R (f.identity key).remarks := by
  simp only [identity, FieldCheck.frontmatterUuid]
  split
  · simp
  · split
    · split
      · simp
      · rename_i refused
        exact FieldCheck.uuidAsks refused _
    · simp [Asks]

theorem Page.identityAsks (b : FieldBlock) : Asks most R (identity b).remarks := by
  unfold identity
  split
  · simp
  · split
    · simp
    · rename_i refused
      exact FieldCheck.uuidAsks refused _

namespace WikiLink

theorem readAsks (text : String) (line : Nat) : Asks most R (read text line).remarks := by
  unfold read
  split <;> simp [Asks, Remark.onLine]

theorem ofFieldAsks (b : FieldBlock) (key : String) : Asks most R (ofField b key).remarks := by
  unfold ofField
  split
  · simp
  · split
    · simp
    · dsimp only
      split
      · simp
      · refine Remark.asksAppend.mpr ⟨?_, readAsks _ _⟩
        split <;> simp [Asks, Remark.onLine]

end WikiLink

theorem Reference.ofBlockAsks (schema : Schema) (reach : Nat) (b : FieldBlock) (line : Nat) :
    Asks most R (ofBlock schema reach b line).remarks :=
  Remark.asksAppend.mpr ⟨FieldCheck.blockAsks schema line reach b, WikiLink.ofFieldAsks b _⟩

theorem textBeforeAsks (what : String) (split : Sections) : Asks most R (textBefore what split) := by
  unfold textBefore
  split <;> simp [Asks, Remark.onLine]

theorem misplacedAsks (rules : List (String × Nat)) (body : String) (first : Nat) :
    Asks most R (misplacedHeadings rules body first) := by
  intro r member
  obtain ⟨h, _, found⟩ := List.mem_filterMap.mp member
  obtain ⟨rule, _, made⟩ := Option.bind_eq_some_iff.mp found
  dsimp only at made
  split at made
  · cases made
  · cases made
    simp [Remark.onLine]

def SegmentRule.names (rule : SegmentRule) : List String := rule.allowed.map SegmentKind.heading

def SegmentRule.Expects (rule : SegmentRule) (what : String) (expected : List String) : Prop :=
  what = "segment" ∧ expected = rule.names

theorem Segment.ofSectionAsks (rule : SegmentRule) (s : Section) :
    Asks most (fun _ => rule.Expects) (ofSection rule most s).remarks := by
  unfold ofSection
  split
  · exact Remark.asksUnknown ⟨rfl, rfl⟩
  · split
    · exact FieldCheck.blockAsks _ _ _ _
    · simp [Asks, Remark.onLine]

namespace SectionParts

theorem ofSectionAsks (rule : SegmentRule) (level : Nat) (s : Section) :
    Asks most (fun _ => rule.Expects) (ofSection rule level most s).remarks :=
  Remark.asksAll fun part _ => Segment.ofSectionAsks rule part

theorem emptinessAsks (parts : SectionParts) (rule : SegmentRule) (s : Section) : Asks most R (parts.emptiness rule s) := by
  unfold emptiness
  split <;> simp [Asks, Remark.onLine]

end SectionParts

theorem Page.ofSectionAsks (level : Nat) (s : Section) :
    Asks most (fun _ => SegmentRule.page.Expects) (ofSection level most s).remarks := by
  simp only [ofSection, Remark.asksAppend]
  exact ⟨⟨⟨SectionParts.ofSectionAsks _ _ _, FieldCheck.blockAsks _ _ _ _⟩, identityAsks _⟩,
    SectionParts.emptinessAsks _ _ _⟩

def SegmentRule.Below (rule : SegmentRule) (names : List String) (what : String) (expected : List String) : Prop :=
  what = "section" ∧ expected = names ∨ rule.Expects what expected

def Section.Expect (sections : List Section) (expects : Section → String → List String → Prop) (n : Nat)
    (what : String) (expected : List String) : Prop :=
  ∃ s ∈ sections, s.Spans sections n ∧ expects s what expected

theorem Section.asksAll {α : Type} {f : Section → Reading α} {expects : Section → String → List String → Prop}
    {text : String} {level first : Nat} (asks : ∀ s, Asks most (fun _ => expects s) (f s).remarks)
    (placed : ∀ (P : Nat → Prop) (s : Section), s.Covered P → Remark.Placed P (f s).remarks) :
    Asks most (Expect (Sections.split text level first).sections expects)
      (Reading.allRemarks ((Sections.split text level first).sections.map f)) := by
  refine Remark.asksAll fun s member => ?_
  have covered : s.Covered (s.Spans (Sections.split text level first).sections) :=
    ⟨⟨Nat.le_refl _, fun _ _ => id⟩, fun _ => contentSpanned member⟩
  exact ((asks s).placed (placed _ s covered)).imp fun n what expected here => ⟨s, member, here⟩

theorem emptyAsks {p : Prop} [Decidable p] {n : Nat} {problem : Problem} (other : Asks most R [.onLine n problem]) :
    Asks most R (if p then [.onLine n problem] else []) := by
  split
  · exact other
  · simp

namespace Lens

theorem sourceAsks (schema : Schema) (rule : SegmentRule) (s : Section) :
    Asks most (fun _ => rule.Expects) (sourceOfSection schema rule most s).remarks := by
  simp only [sourceOfSection, Remark.asksAppend]
  refine ⟨⟨SectionParts.ofSectionAsks _ _ _, Reference.ofBlockAsks _ _ _ _⟩, ?_⟩
  split
  · exact SectionParts.emptinessAsks _ _ _
  · simp

def ruleOf (s : Section) : SegmentRule :=
  if s.keyword == "page" then .page else if s.keyword == "article" then .article else .video

theorem partAsks (s : Section) : Asks most (fun _ => (ruleOf s).Below sectionNames) (partOfSection most s).remarks := by
  unfold partOfSection
  split
  · rename_i page
    refine (Page.ofSectionAsks segmentLevel s).imp fun _ what expected here => .inr ?_
    rwa [ruleOf, if_pos page]
  · rename_i noPage
    split
    · rename_i article
      refine (sourceAsks .articleSection .article s).imp fun _ what expected here => .inr ?_
      rwa [ruleOf, if_neg noPage, if_pos article]
    · rename_i noArticle
      split
      · refine (sourceAsks .videoSection .video s).imp fun _ what expected here => .inr ?_
        rwa [ruleOf, if_neg noPage, if_neg noArticle]
      · exact Remark.asksUnknown (.inl ⟨rfl, rfl⟩)

def Expects (x : Frontmatter.Extracted) : Nat → String → List String → Prop :=
  Section.Expect (Sections.split x.body sectionLevel x.bodyLine).sections fun s => (ruleOf s).Below sectionNames

theorem bodyAsks (x : Frontmatter.Extracted) : Asks most (Expects x) (ofBody most x).remarks := by
  unfold ofBody
  dsimp only
  split
  · exact Frontmatter.identityAsks _ _
  · simp only [Remark.asksAppend]
    exact ⟨⟨⟨⟨Frontmatter.identityAsks _ _, textBeforeAsks _ _⟩, Section.asksAll partAsks fun _ _ => partPlaced⟩,
      misplacedAsks _ _ _⟩, emptyAsks (by simp [Asks, Remark.onLine])⟩

end Lens

namespace LearningOutcome

theorem lensAsks (s : Section) :
    Asks most (fun _ what expected => what = "section" ∧ expected = ["Lens"]) (lensOfSection most s).remarks := by
  unfold lensOfSection
  split
  · exact Reference.ofBlockAsks _ _ _ _
  · exact Remark.asksUnknown ⟨rfl, rfl⟩

def Expects (x : Frontmatter.Extracted) : Nat → String → List String → Prop :=
  Section.Expect (Sections.split x.body sectionLevel x.bodyLine).sections
    fun _ what expected => what = "section" ∧ expected = ["Lens"]

theorem bodyAsks (x : Frontmatter.Extracted) : Asks most (Expects x) (ofBody most x).remarks := by
  unfold ofBody
  dsimp only
  split
  · exact Frontmatter.identityAsks _ _
  · simp only [Remark.asksAppend]
    exact ⟨⟨⟨⟨Frontmatter.identityAsks _ _, textBeforeAsks _ _⟩, Section.asksAll lensAsks fun _ _ => lensPlaced⟩,
      misplacedAsks _ _ _⟩, emptyAsks (by simp [Asks, Remark.onLine])⟩

end LearningOutcome

namespace Module

theorem itemAsks (s : Section) :
    Asks most (fun _ => SegmentRule.page.Below sectionNames) (itemOfSection most s).remarks := by
  unfold itemOfSection
  split
  · exact Reference.ofBlockAsks _ _ _ _
  · split
    · exact (Page.ofSectionAsks segmentLevel s).imp fun _ _ _ => .inr
    · exact Remark.asksUnknown (.inl ⟨rfl, rfl⟩)

def Expects (x : Frontmatter.Extracted) : Nat → String → List String → Prop :=
  Section.Expect (Sections.split x.body sectionLevel x.bodyLine).sections fun _ => SegmentRule.page.Below sectionNames

theorem bodyAsks (x : Frontmatter.Extracted) : Asks most (Expects x) (ofBody most x).remarks := by
  simp only [ofBody, Remark.asksAppend]
  exact ⟨⟨⟨⟨⟨⟨Frontmatter.slugAsks _, Frontmatter.identityAsks _ _⟩, Frontmatter.identityAsks _ _⟩,
    textBeforeAsks _ _⟩, Section.asksAll itemAsks fun _ _ => itemPlaced⟩, misplacedAsks _ _ _⟩,
    emptyAsks (by simp [Asks, Remark.onLine])⟩

end Module

namespace Course

theorem linkAsks (b : FieldBlock) (s : Section) : Asks most R (linkOfSection b s).remarks := by
  unfold linkOfSection
  split
  · exact WikiLink.readAsks _ _
  · split
    · exact WikiLink.ofFieldAsks _ _
    · simp [Asks, Remark.onLine]

theorem moduleAsks (s : Section) :
    Asks most (fun _ what expected => what = "section" ∧ expected = ["Module"]) (moduleOfSection most s).remarks := by
  unfold moduleOfSection
  split
  · exact Remark.asksAppend.mpr ⟨FieldCheck.blockAsks _ _ _ _, linkAsks _ _⟩
  · exact Remark.asksUnknown ⟨rfl, rfl⟩

def Expects (x : Frontmatter.Extracted) : Nat → String → List String → Prop :=
  Section.Expect (Sections.split x.body sectionLevel x.bodyLine).sections
    fun _ what expected => what = "section" ∧ expected = ["Module"]

theorem bodyAsks (x : Frontmatter.Extracted) : Asks most (Expects x) (ofBody most x).remarks := by
  simp only [ofBody, Remark.asksAppend]
  exact ⟨⟨⟨Frontmatter.slugAsks _, textBeforeAsks _ _⟩, Section.asksAll moduleAsks fun _ _ => modulePlaced⟩,
    emptyAsks (by simp [Asks, Remark.onLine])⟩

end Course

namespace Document

def Expects (x : Frontmatter.Extracted) : Kind → Nat → String → List String → Prop
  | .module => Module.Expects x
  | .course => Course.Expects x
  | .learningOutcome => LearningOutcome.Expects x
  | .lens => Lens.Expects x
  | _ => fun _ _ _ => False

theorem bodyAsks (kind : Kind) (x : Frontmatter.Extracted) : Asks most (Expects x kind) (bodyOf kind most x).remarks := by
  cases kind with
  | module => exact Module.bodyAsks x
  | course => exact Course.bodyAsks x
  | learningOutcome => exact LearningOutcome.bodyAsks x
  | lens => exact Lens.bodyAsks x
  | article =>
    intro r member
    obtain ⟨embed, _, rfl⟩ := List.mem_map.mp member
    simp [Remark.onLine]
  | videoTranscript => exact emptyAsks (by simp [Asks, Remark.onLine])

theorem readAsks [Library] {kind : Kind} {text : String} {x : Frontmatter.Extracted} (extracted : Frontmatter.extract text = .ok x) :
    Asks most (Expects x kind) (read kind most text).remarks := by
  rw [readOfText, Reading.ofText]
  simp only [extracted]
  split
  · exact FieldCheck.fieldsAsks _ _ _ _
  · exact Remark.asksAppend.mpr ⟨FieldCheck.fieldsAsks _ _ _ _, bodyAsks kind x⟩

theorem readUnreadable [Library] {kind : Kind} {text : String} {cause : FrontmatterError}
    (unreadable : Frontmatter.extract text = .error cause) : Asks most R (read kind most text).remarks := by
  rw [readOfText, Reading.ofText]
  simp [unreadable, Asks, Remark.onLine]

end Document

theorem SegmentRule.belowOnce {rule : SegmentRule} {names expected other : List String} {what : String}
    (left : rule.Below names what expected) (right : rule.Below names what other) : expected = other := by
  rcases left with ⟨rfl, rfl⟩ | ⟨rfl, rfl⟩
  · rcases right with ⟨_, rfl⟩ | ⟨segment, _⟩
    · rfl
    · exact absurd segment (by decide)
  · rcases right with ⟨top, _⟩ | ⟨_, rfl⟩
    · exact absurd top (by decide)
    · rfl

theorem Section.expectOnce {text : String} {level first : Nat} {expects : Section → String → List String → Prop}
    (once : ∀ s what expected other, expects s what expected → expects s what other → expected = other) {n : Nat}
    {what : String} {expected other : List String}
    (left : Expect (Sections.split text level first).sections expects n what expected)
    (right : Expect (Sections.split text level first).sections expects n what other) : expected = other := by
  obtain ⟨s, member, spans, here⟩ := left
  obtain ⟨s', member', spans', there⟩ := right
  cases spannedOnce sectionsOrdered member member' spans spans'
  exact once s what expected other here there

theorem SegmentRule.belowWhat {rule : SegmentRule} {names expected : List String} {what : String}
    (below : rule.Below names what expected) : what = "section" ∨ what = "segment" :=
  below.imp And.left And.left

theorem Document.expectsWhat {x : Frontmatter.Extracted} {kind : Kind} {n : Nat} {what : String} {expected : List String}
    (expects : Expects x kind n what expected) : what = "section" ∨ what = "segment" := by
  cases kind with
  | module =>
    obtain ⟨s, _, _, below⟩ := expects
    exact SegmentRule.belowWhat below
  | lens =>
    obtain ⟨s, _, _, below⟩ := expects
    exact SegmentRule.belowWhat below
  | course =>
    obtain ⟨s, _, _, what, _⟩ := expects
    exact .inl what
  | learningOutcome =>
    obtain ⟨s, _, _, what, _⟩ := expects
    exact .inl what
  | _ => exact expects.elim

theorem Document.expectsOnce {x : Frontmatter.Extracted} {kind : Kind} {n : Nat} {what : String}
    {expected other : List String} (left : Expects x kind n what expected) (right : Expects x kind n what other) :
    expected = other := by
  have alone (name : String) : ∀ (s : Section) what (expected other : List String),
      what = "section" ∧ expected = [name] → what = "section" ∧ other = [name] → expected = other := by
    rintro s what expected other ⟨_, rfl⟩ ⟨_, rfl⟩
    rfl
  cases kind with
  | module =>
    refine Section.expectOnce ?_ left right
    intro s what expected other
    exact SegmentRule.belowOnce
  | lens =>
    refine Section.expectOnce ?_ left right
    intro s what expected other
    exact SegmentRule.belowOnce
  | course => exact Section.expectOnce (alone "Module") left right
  | learningOutcome => exact Section.expectOnce (alone "Lens") left right
  | _ => exact left.elim

end Syllabus
