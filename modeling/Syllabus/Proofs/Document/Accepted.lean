import Syllabus.Document.Parse
import Syllabus.Proofs.Document.Fields

/-! What is known of a document that was read. Its frontmatter and its body made no error, its tier is
the one that its text shows, and it is of the kind that was asked for. -/
namespace Syllabus

namespace Reading

variable {α β : Type}

theorem mapValue {f : α → β} {r : Reading α} {b : β} (value : (r.map f).value = some b) :
    ∃ a, r.value = some a ∧ f a = b := Option.map_eq_some_iff.mp value

theorem mapLoud {f : α → β} {r : Reading α} (value : r.value.isSome) : (r.map f).value.isSome := by
  simpa [map] using value

@[simp] theorem mapRemarks (f : α → β) (r : Reading α) : (r.map f).remarks = r.remarks := rfl

variable [Library]

structure Source (schema : Schema) (most : Nat) (text : String) (body : Frontmatter.Extracted → Reading α)
    (x : Frontmatter.Extracted) (a : α) : Prop where
  extracted : Frontmatter.extract text = .ok x
  header : Remark.blocking (FieldCheck.fields schema 1 most x.frontmatter.fields) = false
  value : (body x).value = some a
  quiet : Remark.blocking (body x).remarks = false

theorem ofTextSource {schema : Schema} {most : Nat} {text : String} {body : Frontmatter.Extracted → Reading α}
    {a : α} (read : (ofText schema most text body).value = some a) :
    ∃ x, Source schema most text body x a := by
  unfold ofText at read
  split at read
  · cases read
  · rename_i x extracted
    simp only at read
    split at read
    · cases read
    · rename_i header
      have header : Remark.blocking (FieldCheck.fields schema 1 most x.frontmatter.fields) = false := by
        simpa using header
      simp only [settle, Remark.blockingAppend, header, Bool.false_or] at read
      split at read
      · cases read
      · rename_i quiet
        exact ⟨x, extracted, header, read, by simpa using quiet⟩

theorem ofTextBlocked {schema : Schema} {most : Nat} {text : String} {body : Frontmatter.Extracted → Reading α}
    (blocked : Remark.blocking (ofText schema most text body).remarks = true) :
    (ofText schema most text body).value = none := by
  unfold ofText at blocked ⊢
  split
  · rfl
  · rename_i x extracted
    simp only [extracted] at blocked ⊢
    split
    · rfl
    · rename_i header
      simp only [if_neg header, settle] at blocked ⊢
      rw [if_pos blocked]

theorem ofTextSilent {schema : Schema} {most : Nat} {text : String} {body : Frontmatter.Extracted → Reading α} :
    ((ofText schema most text body).value = none ∧ Remark.blocking (ofText schema most text body).remarks = false) ↔
      ∃ x, Frontmatter.extract text = .ok x ∧
        Remark.blocking (FieldCheck.fields schema 1 most x.frontmatter.fields) = false ∧
        (body x).value = none ∧ Remark.blocking (body x).remarks = false := by
  unfold ofText
  cases extracted : Frontmatter.extract text with
  | error cause => simp [Remark.blocking, Remark.isError, Remark.onLine, Problem.severity]
  | ok x =>
    cases header : Remark.blocking (FieldCheck.fields schema 1 most x.frontmatter.fields) with
    | true => simp [header]
    | false => simp +contextual [header, settle]

theorem mapOfText (f : α → β) (schema : Schema) (most : Nat) (text : String)
    (body : Frontmatter.Extracted → Reading α) :
    (ofText schema most text body).map f = ofText schema most text fun x => (body x).map f := by
  unfold ofText
  cases Frontmatter.extract text with
  | error cause => rfl
  | ok x =>
    simp only [map]
    split
    · rfl
    · simp only [settle]
      split <;> rfl

end Reading

namespace Document

def bodyOf (kind : Kind) (most : Nat) (x : Frontmatter.Extracted) : Reading Document :=
  match kind with
  | .module => (Module.ofBody most x).map .module
  | .course => (Course.ofBody most x).map .course
  | .learningOutcome => (LearningOutcome.ofBody most x).map .learningOutcome
  | .lens => (Lens.ofBody most x).map .lens
  | .article => (Article.ofBody x).map .article
  | .videoTranscript => (VideoTranscript.ofBody x).map .videoTranscript

theorem bodyValue {kind : Kind} {most : Nat} {x : Frontmatter.Extracted} {d : Document}
    (value : (bodyOf kind most x).value = some d) : d.kind = kind ∧ d.tier = x.frontmatter.tier := by
  cases kind with
  | module => cases value; exact ⟨rfl, rfl⟩
  | course => cases value; exact ⟨rfl, rfl⟩
  | article => cases value; exact ⟨rfl, rfl⟩
  | videoTranscript => cases value; exact ⟨rfl, rfl⟩
  | learningOutcome =>
    obtain ⟨outcome, made, rfl⟩ := Reading.mapValue value
    refine ⟨rfl, ?_⟩
    simp only [LearningOutcome.ofBody] at made
    split at made
    · cases made
    · cases made
      rfl
  | lens =>
    obtain ⟨lens, made, rfl⟩ := Reading.mapValue value
    refine ⟨rfl, ?_⟩
    simp only [Lens.ofBody] at made
    split at made
    · cases made
    · cases made
      rfl

variable [Library]

theorem readOfText (kind : Kind) (most : Nat) (text : String) :
    read kind most text = .ofText (.ofKind kind) most text (bodyOf kind most) := by
  cases kind <;> exact Reading.mapOfText ..

theorem readSource {kind : Kind} {most : Nat} {text : String} {d : Document}
    (read : (read kind most text).value = some d) :
    ∃ x, Reading.Source (.ofKind kind) most text (bodyOf kind most) x d := by
  rw [readOfText] at read
  exact Reading.ofTextSource read

end Document
end Syllabus
