import Syllabus.Proofs.Document.Accepted
import Syllabus.Proofs.Document.Listed

/-! When a document is refused. An error refuses it, and almost every refusal comes with one: the
exception is an outcome or a lens whose frontmatter lists an `id` with content of which there is no
text, as it is a collection or stands under a tagged key. The check of required fields takes it for
present and the check of UUIDs for absent, so nobody reports it. -/
namespace Syllabus

namespace Document

structure IdentityUnread (f : Frontmatter) : Prop where
  listed : ∃ field, (f.fields.find? fun field => field.key == "id") = some field ∧ Text.blank field.value = false
  textless : f.text? "id" = none

def RefusedSilently [Library] (kind : Kind) (text : String) : Prop :=
  (kind = .learningOutcome ∨ kind = .lens) ∧
    ∃ x, Frontmatter.extract text = .ok x ∧ IdentityUnread x.frontmatter

theorem identitySilentIff {f : Frontmatter} {key : String} :
    ((f.identity key).value = none ∧ Remark.blocking (f.identity key).remarks = false) ↔ f.text? key = none := by
  rw [← FieldCheck.uuidSilentIff]
  simp [Frontmatter.identity]

theorem bodySilentIff {kind : Kind} {most : Nat} {x : Frontmatter.Extracted} :
    ((bodyOf kind most x).value = none ∧ Remark.blocking (bodyOf kind most x).remarks = false) ↔
      (kind = .learningOutcome ∨ kind = .lens) ∧ x.frontmatter.text? "id" = none := by
  rw [← identitySilentIff]
  cases kind with
  | module => simp [bodyOf, Reading.map, Module.ofBody]
  | course => simp [bodyOf, Reading.map, Course.ofBody]
  | article => simp [bodyOf, Reading.map, Article.ofBody]
  | videoTranscript => simp [bodyOf, Reading.map, VideoTranscript.ofBody]
  | learningOutcome =>
    simp only [bodyOf, Reading.map, LearningOutcome.ofBody]
    cases (x.frontmatter.identity "id").value <;> simp
  | lens =>
    simp only [bodyOf, Reading.map, Lens.ofBody]
    cases (x.frontmatter.identity "id").value <;> simp

theorem headerQuietIff {kind : Kind} (identified : kind = .learningOutcome ∨ kind = .lens) {most : Nat}
    {fs : List Field} :
    Remark.blocking (FieldCheck.fields (.ofKind kind) 1 most fs) = false ↔
      ∃ f, (fs.find? fun f => f.key == "id") = some f ∧ Text.blank f.value = false := by
  have plain : (Schema.ofKind kind).boolean = [] := by rcases identified with rfl | rfl <;> rfl
  have required : (Schema.ofKind kind).required = ["id"] := by rcases identified with rfl | rfl <;> rfl
  rw [FieldCheck.fields, Remark.blockingAppend, FieldCheck.eachQuiet plain, Bool.or_false, required,
    List.flatMap_singleton, FieldCheck.requiredQuietIff]

theorem readSilentIff [Library] (kind : Kind) (most : Nat) (text : String) :
    ((read kind most text).value = none ∧ Remark.blocking (read kind most text).remarks = false) ↔
      RefusedSilently kind text := by
  rw [readOfText, Reading.ofTextSilent]
  constructor
  · rintro ⟨x, extracted, header, silent⟩
    obtain ⟨identified, textless⟩ := bodySilentIff.mp silent
    exact ⟨identified, x, extracted, (headerQuietIff identified).mp header, textless⟩
  · rintro ⟨identified, x, extracted, unread⟩
    exact ⟨x, extracted, (headerQuietIff identified).mpr unread.listed,
      bodySilentIff.mpr ⟨identified, unread.textless⟩⟩

theorem parseBlocking [Library] (kind : Kind) (most : Nat) (file text : String) :
    (parse kind most file text).blocking = Remark.blocking (read kind most text).remarks :=
  Remark.blockingInFile file _

theorem refusedOfBlocking [Library] {kind : Kind} {most : Nat} {file text : String}
    (blocked : (parse kind most file text).blocking = true) : (parse kind most file text).value = none := by
  rw [parseBlocking, readOfText] at blocked
  show (read kind most text).value = none
  rw [readOfText]
  exact Reading.ofTextBlocked blocked

theorem refusedIff [Library] (kind : Kind) (most : Nat) (file text : String) :
    ((parse kind most file text).value = none ↔
        (parse kind most file text).blocking = true ∨ RefusedSilently kind text) ∧
      ¬((parse kind most file text).blocking = true ∧ RefusedSilently kind text) := by
  have silent := readSilentIff kind most text
  constructor
  · constructor
    · intro refused
      cases blocked : (parse kind most file text).blocking with
      | true => exact .inl rfl
      | false =>
        rw [parseBlocking] at blocked
        exact .inr (silent.mp ⟨refused, blocked⟩)
    · rintro (blocked | unexplained)
      · exact refusedOfBlocking blocked
      · exact (silent.mpr unexplained).1
  · rintro ⟨blocked, unexplained⟩
    rw [parseBlocking, (silent.mpr unexplained).2] at blocked
    cases blocked

theorem listedIdRefusedSilently :
    parse .lens 2 "lenses/a.md" "---\nid: [a]\n---\n### Page: P\n#### Text\ncontent:: Hello\n" = ⟨none, []⟩ := by
  decide +kernel

end Document
end Syllabus
