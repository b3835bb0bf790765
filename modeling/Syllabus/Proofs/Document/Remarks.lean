import Syllabus.Proofs.Document.Accepted
import Syllabus.Proofs.FieldLines
import Syllabus.Proofs.Frontmatter

/-! On which lines remarks stand. A reader names the lines of the text it was handed and the line of its section, and
no others; so whatever holds of these lines holds of the line of every remark. A whole file hands its lines to the
readers, with the line below the last one for a body that has none. -/
namespace Syllabus
open Text (Numbered)

def Text.Covered (P : Nat → Prop) (text : String) (first : Nat) : Prop := ∀ n, Numbered text first n → P n

def Remark.Placed (P : Nat → Prop) (rs : List Remark) : Prop := ∀ r ∈ rs, ∀ n, r.line = some n → P n

structure FieldBlock.Covered (P : Nat → Prop) (b : FieldBlock) : Prop where
  fields : ∀ f ∈ b.fields, P f.line
  stray : ∀ entry ∈ b.stray, P entry.1

structure Section.Covered (P : Nat → Prop) (s : Section) : Prop where
  line : P s.line
  content : Text.Covered P s.content s.contentLine

structure Frontmatter.Covered (P : Nat → Prop) (x : Extracted) : Prop where
  top : P 1
  keys : ∀ entry ∈ x.frontmatter.keyLines, P entry.2
  start : P x.bodyLine
  body : Text.Covered P x.body x.bodyLine

variable {P : Nat → Prop}

theorem Text.Shows.covered {whole part : String} {first start : Nat} (shows : Shows whole first part start)
    (covered : Covered P whole first) : Covered P part start :=
  fun n inside => covered n (shows.numbered inside)

theorem FieldBlock.parseCovered {text : String} {first : Nat} (covered : Text.Covered P text first) :
    (parse text first).Covered P := by
  have within : ∀ entry ∈ ((Text.lines text).map Text.trimEnd).zipIdx first, P entry.2 := by
    intro entry member
    rw [List.zipIdx_map] at member
    obtain ⟨⟨line, n⟩, stands, rfl⟩ := List.mem_map.mp member
    exact covered n (Text.numberedIff.mpr ⟨line, stands⟩)
  constructor
  · intro f member
    obtain ⟨line, rest, inside, _⟩ := gatherStands member
    exact within _ inside
  · intro entry member
    obtain ⟨⟨line, n⟩, kept, rfl⟩ := List.mem_map.mp member
    exact within _ (gatherStray (List.mem_filter.mp kept).1)

theorem splitCovered {text : String} {level first : Nat} (covered : Text.Covered P text first) :
    ∀ s ∈ (Sections.split text level first).sections, s.Covered P := by
  intro s member
  refine ⟨?_, (sectionShows member).covered covered⟩
  rw [splitSections] at member
  obtain ⟨h, listed, rfl⟩ := List.mem_map.mp member
  exact covered _ (headingsAtStand listed).1.numbered

theorem Frontmatter.Covered.lineOf {x : Extracted} (covered : Covered P x) (key : String) :
    P (x.frontmatter.lineOf key) := by
  unfold Frontmatter.lineOf
  cases found : x.frontmatter.lineOf? key with
  | none => exact covered.top
  | some n =>
    obtain ⟨entry, first, rfl⟩ := Option.map_eq_some_iff.mp found
    exact covered.keys entry (List.mem_of_find?_eq_some first)

namespace Remark

@[simp] theorem placedNil : Placed P [] := by simp [Placed]

@[simp] theorem placedSingle {n : Nat} {problem : Problem} : Placed P [onLine n problem] ↔ P n := by
  simp [Placed, onLine]

@[simp] theorem placedAppend {rs ss : List Remark} : Placed P (rs ++ ss) ↔ Placed P rs ∧ Placed P ss := by
  simp [Placed, or_imp, forall_and]

theorem placedFlatMap {α : Type} {items : List α} {f : α → List Remark} (each : ∀ a ∈ items, Placed P (f a)) :
    Placed P (items.flatMap f) := by
  intro r member
  obtain ⟨a, inside, here⟩ := List.mem_flatMap.mp member
  exact each a inside r here

theorem placedAll {α : Type} {items : List Section} {f : Section → Reading α}
    (each : ∀ s ∈ items, Placed P (f s).remarks) : Placed P (Reading.allRemarks (items.map f)) := by
  rw [Reading.allRemarks, List.flatMap_map]
  exact placedFlatMap each

end Remark

open Remark (Placed)

namespace FieldCheck

theorem requiredPlaced {s : Schema} {line : Nat} {fs : List Field} {key : String} (top : P line)
    (each : ∀ f ∈ fs, P f.line) : Placed P (required s line fs key) := by
  unfold required
  split
  · simpa using top
  · rename_i f found
    split
    · simpa using each f (List.mem_of_find?_eq_some found)
    · simp

theorem singlePlaced {s : Schema} {most : Nat} {f : Field} (here : P f.line) : Placed P (single s most f) := by
  have other : Placed P (unknown s most f) := by
    unfold unknown
    split
    · split <;> simp [here]
    · split <;> simp [here]
  unfold single
  split
  · split <;> simp [here]
  · exact other

theorem eachPlaced {s : Schema} {most : Nat} {seen : List String} {fs : List Field} (each' : ∀ f ∈ fs, P f.line) :
    Placed P (each s most seen fs) := by
  induction fs generalizing seen with
  | nil => simp [each]
  | cons f more ih =>
    have here := each' f List.mem_cons_self
    have later := fun seen => @ih seen fun g member => each' g (List.mem_cons_of_mem _ member)
    unfold each
    split
    · have first : Placed P [.onLine f.line (.repeatedField f.key s.name)] := by simpa using here
      exact Remark.placedAppend.mpr ⟨first, later seen⟩
    · exact Remark.placedAppend.mpr ⟨singlePlaced here, later _⟩

theorem fieldsPlaced {s : Schema} {line most : Nat} {fs : List Field} (top : P line) (each : ∀ f ∈ fs, P f.line) :
    Placed P (fields s line most fs) := by
  rw [fields, Remark.placedAppend]
  exact ⟨Remark.placedFlatMap fun key _ => requiredPlaced top each, eachPlaced each⟩

theorem blockPlaced {s : Schema} {line most : Nat} {b : FieldBlock} (top : P line) (covered : b.Covered P) :
    Placed P (block s line most b) := by
  rw [block, Remark.placedAppend]
  refine ⟨fieldsPlaced top covered.fields, fun r member n same => ?_⟩
  obtain ⟨entry, inside, rfl⟩ := List.mem_map.mp member
  cases same
  exact covered.stray entry inside

theorem headerPlaced {s : Schema} {most : Nat} {x : Frontmatter.Extracted} (covered : Frontmatter.Covered P x) :
    Placed P (fields s 1 most x.frontmatter.fields) := by
  refine fieldsPlaced covered.top fun f member => ?_
  obtain ⟨⟨key, value⟩, _, made⟩ := List.mem_filterMap.mp member
  obtain ⟨name, _, rfl⟩ := Option.map_eq_some_iff.mp made
  exact covered.lineOf name

theorem slugPlaced {x : Frontmatter.Extracted} (covered : Frontmatter.Covered P x) :
    Placed P x.frontmatter.slug.2 := by
  have here := covered.lineOf "slug"
  simp only [Frontmatter.slug, slug]
  split <;> simp [here]

theorem uuidPlaced {x : Frontmatter.Extracted} (covered : Frontmatter.Covered P x) (key : String) :
    Placed P (x.frontmatter.identity key).remarks := by
  have keyed : ∀ n, x.frontmatter.lineOf? key = some n → P n := by
    intro n found
    have here := covered.lineOf key
    simpa [Frontmatter.lineOf, found] using here
  simp only [Frontmatter.identity, frontmatterUuid]
  split
  · simp
  · split
    · split
      · simp
      · simpa [Placed] using keyed
    · simpa [Placed] using keyed

end FieldCheck

namespace WikiLink

theorem readPlaced {text : String} {line : Nat} (here : P line) : Placed P (read text line).remarks := by
  unfold read
  split <;> simp [here]

theorem ofFieldPlaced {b : FieldBlock} {key : String} (covered : b.Covered P) : Placed P (ofField b key).remarks := by
  unfold ofField
  split
  · simp
  · rename_i f found
    have here := covered.fields f (List.mem_of_find?_eq_some found)
    split
    · simp
    · dsimp only
      split
      · simp
      · rw [Remark.placedAppend]
        refine ⟨?_, readPlaced here⟩
        split <;> simp [here]

end WikiLink

variable {schema : Schema} {rule : SegmentRule} {level most : Nat} {s : Section}

theorem Reference.ofBlockPlaced {b : FieldBlock} {line : Nat} (here : P line) (covered : b.Covered P) :
    Placed P (ofBlock schema most b line).remarks :=
  Remark.placedAppend.mpr ⟨FieldCheck.blockPlaced here covered, WikiLink.ofFieldPlaced covered⟩

theorem Section.Covered.block (covered : s.Covered P) : (FieldBlock.parse s.content s.contentLine).Covered P :=
  FieldBlock.parseCovered covered.content

theorem Segment.ofSectionPlaced (covered : s.Covered P) : Placed P (ofSection rule most s).remarks := by
  unfold ofSection
  split
  · simpa [unknownHeading] using covered.line
  · split
    · exact FieldCheck.blockPlaced covered.line covered.block
    · simpa using covered.line

namespace SectionParts

theorem ofSectionCovered (covered : s.Covered P) : (ofSection rule level most s).block.Covered P :=
  FieldBlock.parseCovered (preambleShows.covered covered.content)

theorem ofSectionPlaced (covered : s.Covered P) : Placed P (ofSection rule level most s).remarks :=
  Remark.placedAll fun part member => Segment.ofSectionPlaced (splitCovered covered.content part member)

theorem emptinessPlaced {parts : SectionParts} (here : P s.line) : Placed P (parts.emptiness rule s) := by
  unfold emptiness
  split <;> simp [here]

end SectionParts

theorem Page.identityPlaced {b : FieldBlock} (covered : b.Covered P) : Placed P (identity b).remarks := by
  unfold identity
  split
  · simp
  · rename_i f found
    have first := List.mem_of_find?_eq_some (Option.filter_eq_some_iff.mp found).1
    split
    · simp
    · simpa using covered.fields f first

theorem Page.ofSectionPlaced (covered : s.Covered P) : Placed P (ofSection level most s).remarks := by
  have parts : (SectionParts.ofSection .page level most s).block.Covered P := SectionParts.ofSectionCovered covered
  simp only [ofSection, Remark.placedAppend]
  exact ⟨⟨⟨SectionParts.ofSectionPlaced covered, FieldCheck.blockPlaced covered.line parts⟩,
    identityPlaced parts⟩, SectionParts.emptinessPlaced covered.line⟩

theorem textBeforePlaced {what text : String} {first : Nat} (covered : Text.Covered P text first) :
    Placed P (textBefore what (Sections.split text level first)) := by
  unfold textBefore
  split
  · rename_i line n found
    have inside := List.mem_of_find?_eq_some found
    simpa using preambleShows.covered covered n (Text.numberedIff.mpr ⟨line, inside⟩)
  · simp

theorem misplacedPlaced {rules : List (String × Nat)} {body : String} {first : Nat}
    (covered : Text.Covered P body first) : Placed P (misplacedHeadings rules body first) := by
  intro r member n same
  obtain ⟨h, listed, found⟩ := List.mem_filterMap.mp member
  obtain ⟨rule, _, made⟩ := Option.bind_eq_some_iff.mp found
  dsimp only at made
  split at made
  · cases made
  · cases made
    cases same
    exact covered _ (headingsStand listed).numbered

theorem emptyPlaced {p : Prop} [Decidable p] {n : Nat} {problem : Problem} (here : P n) :
    Placed P (if p then [.onLine n problem] else []) := by
  split <;> simp [here]

namespace Lens

theorem sourcePlaced (covered : s.Covered P) : Placed P (sourceOfSection schema rule most s).remarks := by
  have parts : (SectionParts.ofSection rule segmentLevel most s).block.Covered P := SectionParts.ofSectionCovered covered
  simp only [sourceOfSection, Remark.placedAppend]
  refine ⟨⟨SectionParts.ofSectionPlaced covered, Reference.ofBlockPlaced covered.line parts⟩, ?_⟩
  split
  · exact SectionParts.emptinessPlaced covered.line
  · simp

theorem partPlaced (covered : s.Covered P) : Placed P (partOfSection most s).remarks := by
  unfold partOfSection
  split
  · rw [Reading.mapRemarks]
    exact Page.ofSectionPlaced covered
  · split
    · rw [Reading.mapRemarks]
      exact sourcePlaced covered
    · split
      · rw [Reading.mapRemarks]
        exact sourcePlaced covered
      · simpa [unknownHeading] using covered.line

theorem bodyPlaced {x : Frontmatter.Extracted} (covered : Frontmatter.Covered P x) : Placed P (ofBody most x).remarks := by
  unfold ofBody
  dsimp only
  split
  · exact FieldCheck.uuidPlaced covered "id"
  · simp only [Remark.placedAppend]
    exact ⟨⟨⟨⟨FieldCheck.uuidPlaced covered "id", textBeforePlaced covered.body⟩,
      Remark.placedAll fun s member => partPlaced (splitCovered covered.body s member)⟩,
      misplacedPlaced covered.body⟩, emptyPlaced covered.start⟩

end Lens

namespace LearningOutcome

theorem lensPlaced (covered : s.Covered P) : Placed P (lensOfSection most s).remarks := by
  unfold lensOfSection
  split
  · rw [Reference.ofSection]
    exact Reference.ofBlockPlaced covered.line covered.block
  · simpa [unknownHeading] using covered.line

theorem bodyPlaced {x : Frontmatter.Extracted} (covered : Frontmatter.Covered P x) : Placed P (ofBody most x).remarks := by
  unfold ofBody
  dsimp only
  split
  · exact FieldCheck.uuidPlaced covered "id"
  · simp only [Remark.placedAppend]
    exact ⟨⟨⟨⟨FieldCheck.uuidPlaced covered "id", textBeforePlaced covered.body⟩,
      Remark.placedAll fun s member => lensPlaced (splitCovered covered.body s member)⟩,
      misplacedPlaced covered.body⟩, emptyPlaced covered.start⟩

end LearningOutcome

namespace Module

theorem itemPlaced (covered : s.Covered P) : Placed P (itemOfSection most s).remarks := by
  unfold itemOfSection
  split
  · rw [Reading.mapRemarks, Reference.ofSection]
    exact Reference.ofBlockPlaced covered.line covered.block
  · split
    · rw [Reading.mapRemarks]
      exact Page.ofSectionPlaced covered
    · simpa [unknownHeading] using covered.line

theorem bodyPlaced {x : Frontmatter.Extracted} (covered : Frontmatter.Covered P x) : Placed P (ofBody most x).remarks := by
  simp only [ofBody, Remark.placedAppend]
  exact ⟨⟨⟨⟨⟨⟨FieldCheck.slugPlaced covered, FieldCheck.uuidPlaced covered "contentId"⟩,
    FieldCheck.uuidPlaced covered "id"⟩, textBeforePlaced covered.body⟩,
    Remark.placedAll fun s member => itemPlaced (splitCovered covered.body s member)⟩,
    misplacedPlaced covered.body⟩, emptyPlaced covered.start⟩

end Module

namespace Course

theorem modulePlaced (covered : s.Covered P) : Placed P (moduleOfSection most s).remarks := by
  have link : Placed P (linkOfSection (FieldBlock.parse s.content s.contentLine) s).remarks := by
    unfold linkOfSection
    split
    · exact WikiLink.readPlaced covered.line
    · split
      · exact WikiLink.ofFieldPlaced covered.block
      · simpa using covered.line
  unfold moduleOfSection
  split
  · rw [Remark.placedAppend]
    exact ⟨FieldCheck.blockPlaced covered.line covered.block, link⟩
  · simpa [unknownHeading] using covered.line

theorem bodyPlaced {x : Frontmatter.Extracted} (covered : Frontmatter.Covered P x) : Placed P (ofBody most x).remarks := by
  simp only [ofBody, Remark.placedAppend]
  exact ⟨⟨⟨FieldCheck.slugPlaced covered, textBeforePlaced covered.body⟩,
    Remark.placedAll fun s member => modulePlaced (splitCovered covered.body s member)⟩, emptyPlaced covered.start⟩

end Course

theorem Embed.unfencedSubset {fenced : Bool} {ls : List (String × Nat)} : unfenced fenced ls ⊆ ls := by
  induction ls generalizing fenced with
  | nil => simp [unfenced]
  | cons entry more ih =>
    obtain ⟨line, n⟩ := entry
    rw [unfenced]
    split
    · exact fun _ member => List.mem_cons_of_mem _ (ih member)
    · split
      · exact fun _ member => List.mem_cons_of_mem _ (ih member)
      · exact List.cons_subset_cons _ ih

theorem Article.bodyPlaced {x : Frontmatter.Extracted} (covered : Frontmatter.Covered P x) :
    Placed P (ofBody x).remarks := by
  intro r member n same
  obtain ⟨⟨line, raw⟩, found, made⟩ := List.mem_map.mp member
  obtain ⟨⟨written, m⟩, stands, here⟩ := List.mem_flatMap.mp found
  obtain ⟨embed, _, numbered⟩ := List.mem_map.mp here
  cases made
  cases same
  cases numbered
  exact covered.body _ (Text.numberedIff.mpr ⟨written, Embed.unfencedSubset stands⟩)

def Text.Within (text : String) (n : Nat) : Prop := 1 ≤ n ∧ n ≤ (lines text).length + 1

theorem Text.Numbered.within {text : String} {n : Nat} (inside : Numbered text 1 n) : Within text n := by
  unfold Numbered at inside
  unfold Within
  omega

theorem Frontmatter.extractCovered [Library] {text : String} {x : Extracted} (extracted : extract text = .ok x) :
    Covered (Text.Within text) x := by
  obtain ⟨above, cut⟩ := extractCut extracted
  have count : (Text.lines text).length = above.length + (Text.lines x.body).length := by
    rw [cut.lines, List.length_append]
  have start := cut.bodyLine
  refine ⟨?_, fun entry member => ?_, ?_, fun n inside => ?_⟩
  · unfold Text.Within
    omega
  · have within := cut.keys entry member
    unfold Text.Within
    omega
  · unfold Text.Within
    omega
  · unfold Numbered at inside
    unfold Text.Within
    omega

theorem Reading.ofTextPlaced [Library] {α : Type} {schema : Schema} {most : Nat} {text : String}
    {body : Frontmatter.Extracted → Reading α}
    (placed : ∀ x, Frontmatter.Covered (Text.Within text) x → Placed (Text.Within text) (body x).remarks) :
    Placed (Text.Within text) (ofText schema most text body).remarks := by
  unfold ofText
  cases extracted : Frontmatter.extract text with
  | error cause => simp [Text.Within]
  | ok x =>
    have covered := Frontmatter.extractCovered extracted
    have header : Placed (Text.Within text) (FieldCheck.fields schema 1 most x.frontmatter.fields) :=
      FieldCheck.headerPlaced covered
    dsimp only
    split
    · exact header
    · exact Remark.placedAppend.mpr ⟨header, placed x covered⟩

theorem Document.readPlaced [Library] (kind : Kind) (most : Nat) (text : String) :
    Placed (Text.Within text) (read kind most text).remarks := by
  rw [readOfText]
  refine Reading.ofTextPlaced fun x covered => ?_
  cases kind with
  | module => exact Module.bodyPlaced covered
  | course => exact Course.bodyPlaced covered
  | learningOutcome => exact LearningOutcome.bodyPlaced covered
  | lens => exact Lens.bodyPlaced covered
  | article => exact Article.bodyPlaced covered
  | videoTranscript => exact emptyPlaced covered.start

end Syllabus
