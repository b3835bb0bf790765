import Syllabus.Proofs.Document.Accepted
import Syllabus.Proofs.Document.Listed

/-! What an accepted document keeps of its frontmatter. A required text is the trimmed one under its key; it is
blank when what is listed under the key is not read. A UUID of a module is kept when it is written as a text; a
number or a truth value refuses the module, and of any other value there is nothing in the module. -/
namespace Syllabus

namespace Frontmatter

variable {f : Frontmatter} {key : String}

theorem requiredBlankIff {s : Schema} {most : Nat} (member : key ∈ s.required)
    (quiet : Remark.blocking (FieldCheck.fields s 1 most f.fields) = false) :
    Text.blank (f.trimmed key) = true ↔ f.Lost key := by
  rw [trimmedBlank]
  constructor
  · intro unread
    obtain ⟨field, found, filled⟩ := FieldCheck.fieldsRequired member quiet
    obtain ⟨name, value, listed, same⟩ := fieldListed found
    rw [same] at filled
    exact lostOfListed listed filled unread
  · intro lost
    exact lost.unread

theorem identityKept {value : Yaml} (found : f.get? key = some value)
    (quiet : Remark.blocking (f.identity key).remarks = false) :
    (∃ s, value = .text s ∧ (f.identity key).value = some ⟨Text.trim s, f.lineOf key⟩) ∨
      (scalarText? value = none ∧ (f.identity key).value = none) := by
  have shown : f.text? key = scalarText? value := by rw [text?, found, Option.bind_some]
  simp only [identity, FieldCheck.frontmatterUuid, shown, isText, found] at quiet ⊢
  cases value with
  | text s =>
    simp only [scalarText?, if_true] at quiet ⊢
    cases valid : Uuid.valid (Text.trim s) with
    | false =>
      simp only [FieldCheck.uuid, valid] at quiet
      cases quiet
    | true =>
      refine .inl ⟨s, rfl, ?_⟩
      simp [FieldCheck.uuid, valid]
  | null => exact .inr ⟨rfl, rfl⟩
  | list items => exact .inr ⟨rfl, rfl⟩
  | mapping entries => exact .inr ⟨rfl, rfl⟩
  | tagged tag inner =>
    cases text : scalarText? (.tagged tag inner) with
    | none => exact .inr ⟨rfl, rfl⟩
    | some s =>
      rw [text] at quiet
      cases quiet
  | _ => cases quiet

end Frontmatter

namespace Document

def requiredTexts : Document → List (String × String)
  | .module d => [("title", d.title)]
  | .course d => [("title", d.title)]
  | .article d => [("title", d.title), ("author", d.author), ("source_url", d.sourceUrl)]
  | .videoTranscript d => [("title", d.title), ("channel", d.channel), ("url", d.url)]
  | _ => []

theorem requiredTextsRead {kind : Kind} {most : Nat} {x : Frontmatter.Extracted} {d : Document}
    (value : (bodyOf kind most x).value = some d) {entry : String × String} (member : entry ∈ d.requiredTexts) :
    entry.1 ∈ (Schema.ofKind kind).required ∧ entry.2 = x.frontmatter.trimmed entry.1 := by
  cases kind with
  | module =>
    cases value
    simp only [requiredTexts, List.mem_singleton] at member
    subst member
    exact ⟨by simp [Schema.ofKind, Schema.module], rfl⟩
  | course =>
    cases value
    simp only [requiredTexts, List.mem_singleton] at member
    subst member
    exact ⟨by simp [Schema.ofKind, Schema.course], rfl⟩
  | article =>
    cases value
    simp only [requiredTexts, List.mem_cons, List.not_mem_nil, or_false] at member
    rcases member with rfl | rfl | rfl <;> exact ⟨by simp [Schema.ofKind, Schema.article], rfl⟩
  | videoTranscript =>
    cases value
    simp only [requiredTexts, List.mem_cons, List.not_mem_nil, or_false] at member
    rcases member with rfl | rfl | rfl <;> exact ⟨by simp [Schema.ofKind, Schema.videoTranscript], rfl⟩
  | learningOutcome =>
    obtain ⟨outcome, _, rfl⟩ := Reading.mapValue value
    cases member
  | lens =>
    obtain ⟨lens, _, rfl⟩ := Reading.mapValue value
    cases member

theorem moduleIdentities {most : Nat} {x : Frontmatter.Extracted} {d : Document} {key : String}
    (value : (bodyOf .module most x).value = some d) (keyed : key ∈ ["contentId", "id"]) {id : Identity} :
    ⟨key, id⟩ ∈ d.identities ↔ (x.frontmatter.identity key).value = some id := by
  cases value
  simp only [List.mem_cons, List.not_mem_nil, or_false] at keyed
  rcases keyed with rfl | rfl <;> simp [identities, pageIdentities]

theorem moduleIdentitiesQuiet {most : Nat} {x : Frontmatter.Extracted} {key : String}
    (quiet : Remark.blocking (bodyOf .module most x).remarks = false) (keyed : key ∈ ["contentId", "id"]) :
    Remark.blocking (x.frontmatter.identity key).remarks = false := by
  simp only [bodyOf, Reading.mapRemarks, Module.ofBody, Remark.blockingAppend, Bool.or_eq_false_iff] at quiet
  simp only [List.mem_cons, List.not_mem_nil, or_false] at keyed
  rcases keyed with rfl | rfl
  · exact quiet.1.1.1.1.1.2
  · exact quiet.1.1.1.1.2

structure ValuesKept (x : Frontmatter.Extracted) (d : Document) : Prop where
  texts : ∀ entry ∈ d.requiredTexts, entry.2 = x.frontmatter.trimmed entry.1 ∧
    (Text.blank entry.2 = true ↔ x.frontmatter.Lost entry.1)
  identities : d.kind = .module → ∀ key ∈ ["contentId", "id"], ∀ value, x.frontmatter.get? key = some value →
    (∃ s, value = .text s ∧ ⟨key, Text.trim s, x.frontmatter.lineOf key⟩ ∈ d.identities) ∨
      (Frontmatter.scalarText? value = none ∧ ∀ use ∈ d.identities, use.field ≠ key)

theorem valuesKept [Library] {kind : Kind} {most : Nat} {file text : String} {d : Document}
    (read : (parse kind most file text).value = some d) :
    ∃ x, Frontmatter.extract text = .ok x ∧ d.kind = kind ∧ d.ValuesKept x := by
  obtain ⟨x, source⟩ := readSource read
  have kinded := (bodyValue source.value).1
  refine ⟨x, source.extracted, kinded, fun entry member => ?_, fun same key keyed value found => ?_⟩
  · obtain ⟨required, shown⟩ := requiredTextsRead source.value member
    refine ⟨shown, ?_⟩
    rw [shown]
    exact Frontmatter.requiredBlankIff required source.header
  · obtain rfl : kind = .module := kinded.symm.trans same
    have quiet := moduleIdentitiesQuiet source.quiet keyed
    rcases Frontmatter.identityKept found quiet with kept | lost
    · obtain ⟨s, rfl, id⟩ := kept
      exact .inl ⟨s, rfl, (moduleIdentities source.value keyed).mpr id⟩
    · refine .inr ⟨lost.1, fun use member named => ?_⟩
      obtain ⟨field, id⟩ := use
      subst named
      rw [moduleIdentities source.value keyed, lost.2] at member
      cases member

def listedText : String := "---\nslug: a\ntitle: [A]\ncontentId: [B]\n---\n# Learning Outcome:\nsource:: [[o]]\n"

def listedModule : Module where
  slug := "a"
  slugLine := 2
  title := ""
  contentId := none
  id := none
  discussion := none
  tier := .production
  items := [.outcome ⟨⟨"o", none, none⟩, false, 7⟩]

theorem listedRead : parse .module 2 "modules/a.md" listedText = ⟨some (.module listedModule), []⟩ := by decide +kernel

theorem listedValuesKept :
    (parse .module 2 "modules/a.md" listedText).value = some (.module listedModule) ∧
      ∃ x, Frontmatter.extract listedText = .ok x ∧ (Document.module listedModule).kind = .module ∧
        (Document.module listedModule).ValuesKept x :=
  have read : (parse .module 2 "modules/a.md" listedText).value = some (.module listedModule) := by rw [listedRead]
  ⟨read, valuesKept read⟩

theorem listedValuesLost :
    parse .module 2 "modules/a.md" listedText = ⟨some (.module listedModule), []⟩ ∧
      ((Frontmatter.extract listedText).toOption.map fun x => x.frontmatter.fields) =
        some [⟨"slug", "a", 2⟩, ⟨"title", "[...]", 3⟩, ⟨"contentId", "[...]", 4⟩] ∧
      ("title", "") ∈ (Document.module listedModule).requiredTexts ∧ (Document.module listedModule).identities = [] :=
  ⟨listedRead, by decide +kernel, by decide, by decide⟩

end Document
end Syllabus
