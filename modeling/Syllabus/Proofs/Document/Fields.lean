import Syllabus.Document.Reading
import Syllabus.Proofs.Lowercase
import Syllabus.Proofs.Text

/-! What the checks of fields let pass. A required field passes only with content; the content of a
field of the body starts with a character that is not blank, so that a required link is read or
found fault with, but never skipped. A flag is set by the first field of its name alone. -/
namespace Syllabus

namespace Remark

@[simp] theorem blockingAppend (rs ss : List Remark) :
    blocking (rs ++ ss) = (blocking rs || blocking ss) := by
  simp [blocking]

theorem blockingFalseIff {rs : List Remark} :
    blocking rs = false ↔ ∀ r ∈ rs, r.problem.severity = .warning := by
  simp only [blocking, List.any_eq_false, isError, beq_iff_eq]
  constructor
  · intro quiet r member
    cases h : r.problem.severity with
    | error => exact absurd h (quiet r member)
    | warning => rfl
  · intro warnings r member error
    rw [warnings r member] at error
    cases error

end Remark

namespace FieldCheck

theorem unknownQuiet (s : Schema) (most : Nat) (f : Field) : Remark.blocking (unknown s most f) = false := by
  unfold unknown
  split
  · split <;> rfl
  · split <;> rfl

theorem singleQuiet {s : Schema} (plain : s.boolean = []) (most : Nat) (f : Field) :
    Remark.blocking (single s most f) = false := by
  unfold single
  split
  · simp [Schema.isBoolean, plain, Remark.blocking]
  · exact unknownQuiet s most f

theorem eachQuiet {s : Schema} (plain : s.boolean = []) (most : Nat) (seen : List String) (fs : List Field) :
    Remark.blocking (each s most seen fs) = false := by
  induction fs generalizing seen with
  | nil => rfl
  | cons f more ih =>
    unfold each
    split
    · simpa [Remark.blocking, Remark.isError, Remark.onLine, Problem.severity] using ih seen
    · rw [Remark.blockingAppend, singleQuiet plain, ih]
      rfl

theorem requiredQuietIff {s : Schema} {line : Nat} {fs : List Field} {key : String} :
    Remark.blocking (required s line fs key) = false ↔
      ∃ f, (fs.find? fun f => f.key == key) = some f ∧ Text.blank f.value = false := by
  unfold required
  cases found : fs.find? fun f => f.key == key with
  | none => simp [Remark.blocking, Remark.isError, Remark.onLine, Problem.severity]
  | some f =>
    cases blank : Text.blank f.value <;>
      simp [blank, Remark.blocking, Remark.isError, Remark.onLine, Problem.severity]

theorem fieldsRequired {s : Schema} {line most : Nat} {fs : List Field} {key : String} (member : key ∈ s.required)
    (checked : Remark.blocking (fields s line most fs) = false) :
    ∃ f, (fs.find? fun f => f.key == key) = some f ∧ Text.blank f.value = false := by
  simp only [fields, Remark.blockingAppend, Bool.or_eq_false_iff] at checked
  have passed : Remark.blocking (FieldCheck.required s line fs key) = false := by
    rw [Remark.blockingFalseIff]
    intro remark inside
    exact Remark.blockingFalseIff.mp checked.1 remark (List.mem_flatMap.mpr ⟨key, member, inside⟩)
  exact requiredQuietIff.mp passed

theorem blockRequired {s : Schema} {line most : Nat} {b : FieldBlock} {key : String} (required : key ∈ s.required)
    (checked : Remark.blocking (block s line most b) = false) :
    ∃ f, b.get? key = some f ∧ Text.blank f.value = false := by
  simp only [block, Remark.blockingAppend, Bool.or_eq_false_iff] at checked
  exact fieldsRequired required checked.1

theorem uuidSilentIff {f : Frontmatter} {key : String} :
    ((frontmatterUuid f key).1 = none ∧ Remark.blocking (frontmatterUuid f key).2 = false) ↔ f.text? key = none := by
  unfold frontmatterUuid
  cases f.text? key with
  | none => simp [Remark.blocking]
  | some value =>
    cases f.isText key with
    | false => simp [Remark.blocking, Remark.isError, Problem.severity]
    | true =>
      simp only [uuid]
      cases Uuid.valid (Text.trim value) <;> simp [Remark.blocking, Remark.isError, Problem.severity]

end FieldCheck

namespace FieldBlock

theorem valueHead {fields : List Field} {stray : List (String × Nat)} {lines : List (String × Nat)}
    (gathered : gather lines = (stray, fields)) {f : Field} (member : f ∈ fields) {c : Char} {rest : List Char}
    (value : f.value.toList = c :: rest) : Text.isBlank c = false := by
  induction lines generalizing fields stray with
  | nil =>
    cases gathered
    cases member
  | cons entry more ih =>
    obtain ⟨line, number⟩ := entry
    rw [gather] at gathered
    dsimp only at gathered
    split at gathered
    · cases gathered
      rcases List.mem_cons.mp member with rfl | later
      · simp only [Field.valueOf] at value
        split at value
        · exact Chars.trimHead (by simpa using value)
        · split at value
          · exact Chars.trimHead (by simpa [Text.trim] using value)
          · rename_i key inline _ _ filled
            rw [String.toList_append, String.toList_append, String.toList_ofList] at value
            cases trimmed : Chars.trim inline with
            | nil => simp [trimmed] at filled
            | cons d other =>
              rw [trimmed] at value
              cases value
              exact Chars.trimHead trimmed
      · exact ih rfl later
    · cases gathered
      exact ih rfl member

theorem filledHead {text : String} {first : Nat} {f : Field} (member : f ∈ (parse text first).fields)
    (filled : Text.blank f.value = false) :
    ∃ c rest, f.value.toList = c :: rest ∧ Text.isBlank c = false := by
  cases letters : f.value.toList with
  | nil => simp [Text.blank, letters, Chars.blank] at filled
  | cons c rest => exact ⟨c, rest, rfl, valueHead rfl member letters⟩

theorem filledSolid {b : FieldBlock} {key value : String} (filled : b.filled? key = some value) :
    Text.blank value = false := by
  obtain ⟨whole, found, rfl⟩ := Option.map_eq_some_iff.mp filled
  obtain ⟨_, _, found⟩ := Option.bind_eq_some_iff.mp found
  unfold Text.filled? at found
  split at found
  · cases found
  · rename_i solid
    cases found
    simpa [Text.blank, Text.trimToList, Chars.blankTrim] using solid

theorem requiredFilled {s : Schema} {line most : Nat} {b : FieldBlock} {key : String} (required : key ∈ s.required)
    (checked : Remark.blocking (FieldCheck.block s line most b) = false) : ∃ value, b.filled? key = some value := by
  obtain ⟨f, found, solid⟩ := FieldCheck.blockRequired required checked
  exact ⟨Text.trim f.value, by simp [filled?, value?, found, Text.filled?, solid]⟩

def Says (b : FieldBlock) (key : String) : Prop :=
  ∃ before f after, b.fields = before ++ f :: after ∧ (∀ other ∈ before, other.key ≠ key) ∧ f.key = key ∧
    Text.Spells "true" f.value

theorem readBoolTrue {s : String} : readBool? s = some true ↔ Text.Spells "true" s := by
  rw [← Text.lowerSpells Text.truePlain]
  simp [readBool?]

theorem flagIff {b : FieldBlock} {key : String} : b.flag key = true ↔ b.Says key := by
  have first : b.flag key = true ↔ ∃ f, b.get? key = some f ∧ Text.Spells "true" f.value := by
    simp [flag, value?, Option.getD_eq_iff, Option.bind_eq_some_iff, readBoolTrue]
  simp only [first, Says, get?, List.find?_eq_some_iff_append, beq_iff_eq, Bool.not_eq_true', beq_eq_false_iff_ne]
  constructor
  · rintro ⟨f, ⟨named, before, after, fields, others⟩, spells⟩
    exact ⟨before, f, after, fields, others, named, spells⟩
  · rintro ⟨before, f, after, fields, others, named, spells⟩
    exact ⟨f, ⟨named, before, after, fields, others⟩, spells⟩

end FieldBlock

theorem WikiLink.readLoud {text : String} {line : Nat} (quiet : Remark.blocking (read text line).remarks = false) :
    (read text line).value.isSome := by
  unfold read at quiet ⊢
  split
  · rfl
  · rename_i cause failed
    simp only [failed] at quiet
    cases quiet

theorem WikiLink.ofFieldBlank {text : String} {first : Nat} {key : String} {f : Field}
    (found : (FieldBlock.parse text first).get? key = some f) (blank : Text.blank f.value = true) :
    ofField (FieldBlock.parse text first) key = ⟨none, []⟩ := by
  have empty : f.value.toList = [] := by
    cases letters : f.value.toList with
    | nil => rfl
    | cons c rest =>
      have solid := FieldBlock.valueHead rfl (List.mem_of_find?_eq_some found) letters
      simp [Text.blank, letters, Chars.blank, solid] at blank
  simp only [ofField, found, Text.lines, empty]
  rfl

theorem WikiLink.ofFieldFilled {text : String} {first : Nat} {key : String} {f : Field}
    (found : (FieldBlock.parse text first).get? key = some f) (filled : Text.blank f.value = false)
    (quiet : Remark.blocking (ofField (FieldBlock.parse text first) key).remarks = false) :
    (ofField (FieldBlock.parse text first) key).value.isSome := by
  obtain ⟨c, rest, letters, solid⟩ := FieldBlock.filledHead (List.mem_of_find?_eq_some found) filled
  obtain ⟨start, more, lines⟩ := Chars.linesSolid solid rest
  simp only [ofField, found, Text.lines, letters, lines, List.map_cons, Text.trim,
    String.toList_ofList, Chars.trimSolid solid] at quiet ⊢
  rw [if_neg (by simp)] at quiet ⊢
  simp only [Remark.blockingAppend, Bool.or_eq_false_iff] at quiet
  exact readLoud quiet.2

theorem WikiLink.ofFieldLoud {schema : Schema} {line most : Nat} {text : String} {first : Nat} {key : String}
    (required : key ∈ schema.required)
    (checked : Remark.blocking (FieldCheck.block schema line most (FieldBlock.parse text first)) = false)
    (quiet : Remark.blocking (ofField (FieldBlock.parse text first) key).remarks = false) :
    (ofField (FieldBlock.parse text first) key).value.isSome := by
  obtain ⟨field, found, filled⟩ := FieldCheck.blockRequired required checked
  exact ofFieldFilled found filled quiet

end Syllabus
