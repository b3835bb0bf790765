import Syllabus.Proofs.Document.Fields
import Syllabus.Proofs.Suggestion
import Syllabus.Proofs.Uniqueness

/-! What the check of fields tells. There is one error for each field that the schema asks for and that is absent,
blank or no truth value where it first stands, and no other error. A field whose name stands before it is told of
once, and nothing else is said or left out for its sake. A suggestion is a field of the family for a key that is
none of it. -/
namespace Syllabus

def Problem.field? : Problem → Option String
  | .missingField key _ | .emptyField key _ | .repeatedField key _ | .notBoolean key _ | .misplacedField key _ _
  | .unknownField key _ _ => some key
  | _ => none

def Remark.isRepeat (r : Remark) : Bool := r.problem matches .repeatedField ..

def Remark.errorOn (key : String) (r : Remark) : Bool := r.isError && r.problem.field? == some key

/-- What the check relies on: each schema of the registry is of this form. -/
structure Schema.Regular (s : Schema) : Prop where
  listed : s ∈ s.family.schemas
  named : ∀ other ∈ s.family.schemas, other.name = s.name → other = s
  once : s.required.Nodup
  apart : ∀ key ∈ s.required, key ∉ s.boolean
  known : ∀ key ∈ s.boolean, s.knows key = true

theorem Schema.allRegular : ∀ s ∈ all, s.Regular := by
  have listed : ∀ s ∈ all, s ∈ s.family.schemas := by decide +kernel
  have named : ∀ s ∈ all, ∀ other ∈ s.family.schemas, other.name = s.name → other = s := by decide +kernel
  have once : ∀ s ∈ all, s.required.Nodup := by decide +kernel
  have apart : ∀ s ∈ all, ∀ key ∈ s.required, key ∉ s.boolean := by decide +kernel
  have known : ∀ s ∈ all, ∀ key ∈ s.boolean, s.knows key = true := by decide +kernel
  exact fun s member => ⟨listed s member, named s member, once s member, apart s member, known s member⟩

namespace FieldCheck

def First (fs : List Field) (f : Field) : Prop :=
  ∃ before after, fs = before ++ f :: after ∧ ∀ other ∈ before, other.key ≠ f.key

inductive Fault (s : Schema) (line : Nat) (fs : List Field) : String → Remark → Prop where
  | missing {key} (required : key ∈ s.required) (absent : ∀ f ∈ fs, f.key ≠ key) :
      Fault s line fs key (.onLine line (.missingField key s.name))
  | blank {f} (required : f.key ∈ s.required) (first : First fs f) (blank : Text.blank f.value = true) :
      Fault s line fs f.key (.onLine f.line (.emptyField f.key s.name))
  | neither {f} (boolean : f.key ∈ s.boolean) (first : First fs f) (yes : ¬Text.Spells "true" f.value)
      (no : ¬Text.Spells "false" f.value) : Fault s line fs f.key (.onLine f.line (.notBoolean f.key f.value))

structure Guessed (s : Schema) (most : Nat) (f : Field) (nearest : String) : Prop where
  unknown : ∀ other ∈ s.family.schemas, f.key ∉ other.fields
  known : ∃ other ∈ s.family.schemas, nearest ∈ other.fields
  near : EditDistance.between f.key nearest ≤ most

structure Checked (s : Schema) (line most : Nat) (fs : List Field) : Prop where
  blocking : Remark.blocking (fields s line most fs) = true ↔ ∃ key r, Fault s line fs key r
  once : ∀ key r, Fault s line fs key r → (fields s line most fs).filter (Remark.errorOn key) = [r]
  only : ∀ r ∈ fields s line most fs, r.isError = true → ∃ key, Fault s line fs key r
  repeats : (fields s line most fs).filter Remark.isRepeat =
    (Uniqueness.repeats Field.key [] fs).map fun (again, _) => .onLine again.line (.repeatedField again.key s.name)
  repeated : ∀ before f after, fs = before ++ f :: after → (∃ other ∈ before, other.key = f.key) →
    ∃ above below, fields s line most (before ++ after) = above ++ below ∧
      fields s line most fs = above ++ .onLine f.line (.repeatedField f.key s.name) :: below
  suggested : ∀ r ∈ fields s line most fs, ∀ text, r.problem.suggestion = some text →
    ∃ f nearest, First fs f ∧ Guessed s most f nearest ∧ r = .onLine f.line (.unknownField f.key s.name nearest) ∧
      text = Problem.didYouMean nearest

variable {s : Schema} {line most : Nat} {fs : List Field} {f : Field} {key : String} {r : Remark}

theorem findFirst : (fs.find? fun f => f.key == key) = some f ↔ First fs f ∧ f.key = key := by
  simp only [List.find?_eq_some_iff_append, beq_iff_eq, Bool.not_eq_true', beq_eq_false_iff_ne]
  constructor
  · rintro ⟨rfl, before, after, whole, others⟩
    exact ⟨⟨before, after, whole, others⟩, rfl⟩
  · rintro ⟨⟨before, after, whole, others⟩, rfl⟩
    exact ⟨rfl, before, after, whole, others⟩

theorem findNone : (fs.find? fun f => f.key == key) = none ↔ ∀ f ∈ fs, f.key ≠ key := by
  simp [List.find?_eq_none]

theorem findRepeated {before after : List Field} (earlier : ∃ other ∈ before, other.key = f.key) (key : String) :
    ((before ++ f :: after).find? fun f => f.key == key) = (before ++ after).find? fun f => f.key == key := by
  rw [List.find?_append, List.find?_append]
  by_cases same : f.key = key
  · obtain ⟨other, member, named⟩ := earlier
    have found : (before.find? fun f => f.key == key).isSome := by
      rw [List.find?_isSome]
      exact ⟨other, member, by simp [named, same]⟩
    obtain ⟨hit, found⟩ := Option.isSome_iff_exists.mp found
    rw [found, Option.some_or, Option.some_or]
  · rw [List.find?_cons_of_neg (by simpa using same)]

theorem requiredMissing (absent : ∀ f ∈ fs, f.key ≠ key) :
    required s line fs key = [.onLine line (.missingField key s.name)] := by
  rw [required, findNone.mpr absent]

theorem requiredBlank (first : First fs f) (blank : Text.blank f.value = true) :
    required s line fs f.key = [.onLine f.line (.emptyField f.key s.name)] := by
  rw [required, findFirst.mpr ⟨first, rfl⟩]
  exact if_pos blank

theorem requiredFault (asked : key ∈ s.required) (member : r ∈ required s line fs key) : Fault s line fs key r := by
  unfold required at member
  split at member
  · rename_i none
    rw [List.mem_singleton.mp member]
    exact .missing asked (findNone.mp none)
  · rename_i f found
    obtain ⟨first, rfl⟩ := findFirst.mp found
    split at member
    · rename_i blank
      rw [List.mem_singleton.mp member]
      exact .blank asked first blank
    · cases member

theorem requiredOn (member : r ∈ required s line fs key) :
    r.problem.field? = some key ∧ r.isRepeat = false ∧ r.problem.suggestion = none := by
  unfold required at member
  split at member
  · rw [List.mem_singleton.mp member]
    exact ⟨rfl, rfl, rfl⟩
  · split at member
    · rw [List.mem_singleton.mp member]
      exact ⟨rfl, rfl, rfl⟩
    · cases member

theorem otherOn {rs : List Remark} {other : String} (on : ∀ r ∈ rs, r.problem.field? = some other) (apart : other ≠ key) :
    rs.filter (Remark.errorOn key) = [] := by
  rw [List.filter_eq_nil_iff]
  intro r member
  simp [Remark.errorOn, on r member, apart]

theorem requiredErrors {names : List String} (once : names.Nodup) :
    (names.flatMap (required s line fs)).filter (Remark.errorOn key) =
      if key ∈ names then (required s line fs key).filter (Remark.errorOn key) else [] := by
  induction names with
  | nil => rfl
  | cons name more ih =>
    obtain ⟨fresh, once⟩ := List.nodup_cons.mp once
    rw [List.flatMap_cons, List.filter_append, ih once]
    by_cases same : name = key
    · subst same
      simp [fresh]
    · rw [otherOn (fun r member => (requiredOn member).1) same]
      simp [Ne.symm same]

theorem repeatedOn : (Remark.onLine f.line (.repeatedField f.key s.name)).errorOn key = false := rfl

theorem singleOn : ∀ r ∈ single s most f, r.problem.field? = some f.key ∧ r.isRepeat = false := by
  intro r member
  unfold single unknown at member
  split at member
  · split at member
    · rw [List.mem_singleton.mp member]
      exact ⟨rfl, rfl⟩
    · cases member
  · split at member
    · split at member
      · cases member
      · rw [List.mem_singleton.mp member]
        exact ⟨rfl, rfl⟩
    · split at member
      · rw [List.mem_singleton.mp member]
        exact ⟨rfl, rfl⟩
      · cases member

theorem readBoolNone {text : String} : readBool? text = none ↔ ¬Text.Spells "true" text ∧ ¬Text.Spells "false" text := by
  rw [← Text.lowerSpells Text.truePlain, ← Text.lowerSpells Text.falsePlain]
  simp only [readBool?, beq_iff_eq]
  split
  · rename_i yes
    simp [yes]
  · rename_i no
    simp [no]

theorem singleNeither (boolean : f.key ∈ s.boolean) (known : s.knows f.key = true)
    (yes : ¬Text.Spells "true" f.value) (no : ¬Text.Spells "false" f.value) :
    single s most f = [.onLine f.line (.notBoolean f.key f.value)] := by
  have asked : s.isBoolean f.key = true := by simpa [Schema.isBoolean] using boolean
  simp [single, known, asked, readBoolNone.mpr ⟨yes, no⟩]

theorem singlePlain (plain : f.key ∉ s.boolean) (member : r ∈ single s most f) : r.isError = false := by
  unfold single at member
  split at member
  · rw [if_neg (by simp [Schema.isBoolean, plain])] at member
    cases member
  · simp [Remark.isError, Remark.blockingFalseIff.mp (unknownQuiet s most f) r member]

theorem singleFault (first : First fs f) (member : r ∈ single s most f) (error : r.isError = true) :
    Fault s line fs f.key r := by
  unfold single at member
  split at member
  · split at member
    · rename_i refused
      simp only [Bool.and_eq_true, Schema.isBoolean, List.contains_iff_mem, Option.isNone_iff_eq_none] at refused
      obtain ⟨yes, no⟩ := readBoolNone.mp refused.2
      rw [List.mem_singleton.mp member]
      exact .neither refused.1 first yes no
    · cases member
  · have quiet := Remark.blockingFalseIff.mp (unknownQuiet s most f) r member
    rw [Remark.isError, quiet] at error
    cases error

theorem eachErrors (seen : List String) : (each s most seen fs).filter (Remark.errorOn key) =
    if key ∈ seen then []
    else (fs.find? fun f => f.key == key).elim [] fun f => (single s most f).filter (Remark.errorOn key) := by
  induction fs generalizing seen with
  | nil => simp [each]
  | cons f more ih =>
    rw [each]
    by_cases known : f.key ∈ seen
    · rw [if_pos (List.contains_iff_mem.mpr known), List.filter_cons_of_neg (by simp [repeatedOn]), ih]
      by_cases same : f.key = key
      · simp [← same, known]
      · rw [List.find?_cons_of_neg (by simpa using same)]
    · rw [if_neg (mt List.contains_iff_mem.mp known), List.filter_append, ih]
      by_cases same : f.key = key
      · subst same
        simp [known]
      · rw [otherOn (fun r member => (singleOn r member).1) same, List.find?_cons_of_neg (by simpa using same)]
        simp [Ne.symm same]

theorem eachSource {seen : List String} (member : r ∈ each s most seen fs) :
    (∃ f, First fs f ∧ f.key ∉ seen ∧ r ∈ single s most f) ∨ ∃ f : Field, r = .onLine f.line (.repeatedField f.key s.name) := by
  induction fs generalizing seen with
  | nil => cases member
  | cons f more ih =>
    have later : ∀ {seen' : List String}, f.key ∈ seen' → seen ⊆ seen' → r ∈ each s most seen' more →
        (∃ f', First (f :: more) f' ∧ f'.key ∉ seen ∧ r ∈ single s most f') ∨
          ∃ f : Field, r = .onLine f.line (.repeatedField f.key s.name) := by
      intro seen' known wider member
      refine (ih member).imp_left fun source => ?_
      obtain ⟨g, ⟨before, after, whole, others⟩, fresh, told⟩ := source
      have apart : f.key ≠ g.key := fun same => fresh (same ▸ known)
      exact ⟨g, ⟨f :: before, after, by rw [whole]; rfl, List.forall_mem_cons.mpr ⟨apart, others⟩⟩,
        mt (@wider _) fresh, told⟩
    rw [each] at member
    split at member
    · rename_i known
      cases List.mem_cons.mp member with
      | inl again => exact .inr ⟨f, again⟩
      | inr rest => exact later (List.contains_iff_mem.mp known) (List.Subset.refl _) rest
    · rename_i fresh
      cases List.mem_append.mp member with
      | inl here => exact .inl ⟨f, ⟨[], more, rfl, by simp⟩, mt List.contains_iff_mem.mpr fresh, here⟩
      | inr rest => exact later List.mem_cons_self (List.subset_cons_self _ _) rest

def seenAfter : List String → List Field → List String
  | seen, [] => seen
  | seen, f :: more => seenAfter (if seen.contains f.key then seen else f.key :: seen) more

theorem memSeenAfter {seen : List String} {before : List Field} :
    key ∈ seenAfter seen before ↔ key ∈ seen ∨ ∃ f ∈ before, f.key = key := by
  induction before generalizing seen with
  | nil => simp [seenAfter]
  | cons f more ih =>
    rw [seenAfter, ih]
    split
    · rename_i known
      have among := List.contains_iff_mem.mp known
      simp only [List.mem_cons, exists_eq_or_imp]
      constructor
      · exact fun either => either.imp_right .inr
      · rintro (earlier | rfl | later)
        · exact .inl earlier
        · exact .inl among
        · exact .inr later
    · simp only [List.mem_cons, exists_eq_or_imp, eq_comm (a := key), or_assoc, or_left_comm]

theorem eachAppend (seen : List String) (before after : List Field) :
    each s most seen (before ++ after) = each s most seen before ++ each s most (seenAfter seen before) after := by
  induction before generalizing seen with
  | nil => rfl
  | cons f more ih =>
    rw [List.cons_append, each, each, seenAfter]
    split
    · rw [ih, List.cons_append]
    · rw [ih, List.append_assoc]

theorem fieldsRepeated {before after : List Field} (earlier : ∃ other ∈ before, other.key = f.key) :
    ∃ above below, fields s line most (before ++ after) = above ++ below ∧
      fields s line most (before ++ f :: after) = above ++ .onLine f.line (.repeatedField f.key s.name) :: below := by
  have known : (seenAfter [] before).contains f.key = true := List.contains_iff_mem.mpr (memSeenAfter.mpr (.inr earlier))
  have same : ∀ key, required s line (before ++ f :: after) key = required s line (before ++ after) key := by
    intro key
    rw [required, required, findRepeated earlier]
  refine ⟨s.required.flatMap (required s line (before ++ after)) ++ each s most [] before,
    each s most (seenAfter [] before) after, ?_, ?_⟩
  · rw [fields, eachAppend, List.append_assoc]
  · rw [fields, eachAppend, each, if_pos known, funext same, List.append_assoc]

theorem eachRepeats {seen : List String} {earlier : List Field} (known : ∀ key, key ∈ seen ↔ ∃ f ∈ earlier, f.key = key) :
    (each s most seen fs).filter Remark.isRepeat = (Uniqueness.repeats Field.key earlier fs).map
      fun (again, _) => .onLine again.line (.repeatedField again.key s.name) := by
  induction fs generalizing seen earlier with
  | nil => rfl
  | cons f more ih =>
    have seenIff : (earlier.find? fun other => other.key == f.key).isSome ↔ f.key ∈ seen := by
      simp [List.find?_isSome, known]
    rw [each, Uniqueness.repeats]
    split
    · rename_i again
      obtain ⟨first, found⟩ := Option.isSome_iff_exists.mp (seenIff.mpr (List.contains_iff_mem.mp again))
      rw [found, List.map_cons, ← ih known]
      exact List.filter_cons_of_pos rfl
    · rename_i fresh
      have none := Option.not_isSome_iff_eq_none.mp (mt seenIff.mp (mt List.contains_iff_mem.mpr fresh))
      have once : (single s most f).filter Remark.isRepeat = [] := by
        rw [List.filter_eq_nil_iff]
        intro r member
        simp [(singleOn r member).2]
      have wider : ∀ key, key ∈ f.key :: seen ↔ ∃ g ∈ earlier ++ [f], g.key = key := by
        intro key
        simp only [List.mem_cons, known, List.mem_append, List.not_mem_nil, or_false, or_and_right, exists_or,
          exists_eq_left, eq_comm (a := key)]
        exact or_comm
      rw [none, List.filter_append, once, List.nil_append, ih wider]

theorem memFamilyFields {family : Family} (member : key ∈ family.fields) :
    ∃ other ∈ family.schemas, key ∈ other.fields := by
  have among : ∀ (names known : List String),
      key ∈ names.foldl (fun known key => if known.contains key then known else known ++ [key]) known →
        key ∈ known ∨ key ∈ names := by
    intro names
    induction names with
    | nil => exact fun known member => .inl member
    | cons name more ih =>
      intro known member
      rw [List.foldl_cons] at member
      cases ih _ member with
      | inr later => exact .inr (List.mem_cons_of_mem _ later)
      | inl here =>
        split at here
        · exact .inl here
        · cases List.mem_append.mp here with
          | inl before => exact .inl before
          | inr same => exact .inr (List.mem_singleton.mp same ▸ List.mem_cons_self)
  cases among _ _ member with
  | inl none => cases none
  | inr listed => exact List.mem_flatMap.mp listed

theorem singleSuggested (regular : s.Regular) (member : r ∈ single s most f) {text : String}
    (suggested : r.problem.suggestion = some text) :
    ∃ nearest, Guessed s most f nearest ∧ r = .onLine f.line (.unknownField f.key s.name nearest) ∧
      text = Problem.didYouMean nearest := by
  unfold single at member
  split at member
  · split at member
    · rw [List.mem_singleton.mp member] at suggested
      cases suggested
    · cases member
  · rename_i stranger
    unfold unknown at member
    split at member
    · split at member
      · cases member
      · rw [List.mem_singleton.mp member] at suggested
        cases suggested
    · rename_i none
      split at member
      · rename_i nearest closest
        obtain ⟨candidate, near⟩ := Suggestion.closestNear closest
        rw [List.mem_singleton.mp member] at suggested ⊢
        refine ⟨nearest, ⟨?_, ?_, near⟩, rfl, (Option.some.inj suggested).symm⟩
        · intro other listed known
          have knows : other.knows f.key = true := List.contains_iff_mem.mpr known
          by_cases same : other.name = s.name
          · rw [regular.named other listed same] at knows
            exact stranger knows
          · have refused := List.find?_eq_none.mp none other listed
            simp [same, knows] at refused
        · cases List.mem_append.mp candidate with
          | inl own => exact ⟨s, regular.listed, own⟩
          | inr kin => exact memFamilyFields kin
      · cases member

theorem faultOnce (regular : s.Regular) (fault : Fault s line fs key r) :
    (fields s line most fs).filter (Remark.errorOn key) = [r] := by
  rw [fields, List.filter_append, requiredErrors regular.once, eachErrors, if_neg List.not_mem_nil]
  cases fault with
  | missing asked absent =>
    rw [if_pos asked, requiredMissing absent, findNone.mpr absent]
    simp [Remark.errorOn, Remark.isError, Remark.onLine, Problem.severity, Problem.field?]
  | @blank f asked first blank =>
    have plain : (single s most f).filter (Remark.errorOn f.key) = [] := by
      rw [List.filter_eq_nil_iff]
      intro r member
      simp [Remark.errorOn, singlePlain (regular.apart _ asked) member]
    rw [if_pos asked, requiredBlank first blank, findFirst.mpr ⟨first, rfl⟩, Option.elim_some, plain]
    simp [Remark.errorOn, Remark.isError, Remark.onLine, Problem.severity, Problem.field?]
  | @neither f boolean first yes no =>
    have optional : f.key ∉ s.required := fun asked => regular.apart _ asked boolean
    rw [if_neg optional, findFirst.mpr ⟨first, rfl⟩, Option.elim_some,
      singleNeither boolean (regular.known _ boolean) yes no]
    simp [Remark.errorOn, Remark.isError, Remark.onLine, Problem.severity, Problem.field?]

theorem errorFault (member : r ∈ fields s line most fs) (error : r.isError = true) : ∃ key, Fault s line fs key r := by
  rw [fields] at member
  cases List.mem_append.mp member with
  | inl asked =>
    obtain ⟨key, listed, here⟩ := List.mem_flatMap.mp asked
    exact ⟨key, requiredFault listed here⟩
  | inr told =>
    cases eachSource told with
    | inl source =>
      obtain ⟨f, first, _, here⟩ := source
      exact ⟨f.key, singleFault first here error⟩
    | inr again =>
      obtain ⟨f, rfl⟩ := again
      cases error

theorem blockingFault (regular : s.Regular) :
    Remark.blocking (fields s line most fs) = true ↔ ∃ key r, Fault s line fs key r := by
  constructor
  · intro blocked
    obtain ⟨r, member, error⟩ := List.any_eq_true.mp blocked
    obtain ⟨key, fault⟩ := errorFault member error
    exact ⟨key, r, fault⟩
  · intro faulty
    obtain ⟨key, r, fault⟩ := faulty
    have told : r ∈ (fields s line most fs).filter (Remark.errorOn key) := by simp [faultOnce regular fault]
    obtain ⟨member, error⟩ := List.mem_filter.mp told
    exact List.any_eq_true.mpr ⟨r, member, (Bool.and_eq_true_iff.mp error).1⟩

theorem fieldsRepeats : (fields s line most fs).filter Remark.isRepeat = (Uniqueness.repeats Field.key [] fs).map
    fun (again, _) => .onLine again.line (.repeatedField again.key s.name) := by
  have asked : (s.required.flatMap (required s line fs)).filter Remark.isRepeat = [] := by
    rw [List.filter_eq_nil_iff]
    intro r member
    obtain ⟨key, _, here⟩ := List.mem_flatMap.mp member
    simp [(requiredOn here).2.1]
  have known : ∀ key, key ∈ ([] : List String) ↔ ∃ f ∈ ([] : List Field), f.key = key := by simp
  rw [fields, List.filter_append, asked, List.nil_append, eachRepeats known]

theorem suggestedGuessed (regular : s.Regular) (member : r ∈ fields s line most fs) {text : String}
    (suggested : r.problem.suggestion = some text) :
    ∃ f nearest, First fs f ∧ Guessed s most f nearest ∧ r = .onLine f.line (.unknownField f.key s.name nearest) ∧
      text = Problem.didYouMean nearest := by
  rw [fields] at member
  cases List.mem_append.mp member with
  | inl asked =>
    obtain ⟨key, _, here⟩ := List.mem_flatMap.mp asked
    rw [(requiredOn here).2.2] at suggested
    cases suggested
  | inr told =>
    cases eachSource told with
    | inl source =>
      obtain ⟨f, first, _, here⟩ := source
      obtain ⟨nearest, guessed⟩ := singleSuggested regular here suggested
      exact ⟨f, nearest, first, guessed⟩
    | inr again =>
      obtain ⟨f, rfl⟩ := again
      cases suggested

theorem fieldsChecked {s : Schema} (registered : s ∈ Schema.all) (line most : Nat) (fs : List Field) :
    Checked s line most fs := by
  have regular := Schema.allRegular s registered
  constructor
  case blocking => exact blockingFault regular
  case once => exact fun key r => faultOnce regular
  case only => exact fun r => errorFault
  case repeats => exact fieldsRepeats
  case repeated =>
    rintro before f after rfl earlier
    exact fieldsRepeated earlier
  case suggested => exact fun r member text => suggestedGuessed regular member

def muddledChat : List Field :=
  [⟨"instructions", " ", 2⟩, ⟨Schema.hideFromUser, "yes", 3⟩, ⟨"optoinal", "true", 4⟩, ⟨"instructions", "Ask", 5⟩,
    ⟨"content", "Hi", 6⟩]

theorem muddledChatChecked : Schema.chatSegment ∈ Schema.all ∧ Checked .chatSegment 1 2 muddledChat ∧
    fields .chatSegment 1 2 muddledChat =
      [.onLine 2 (.emptyField "instructions" "Chat segment"), .onLine 3 (.notBoolean Schema.hideFromUser "yes"),
        .onLine 4 (.unknownField "optoinal" "Chat segment" "optional"),
        .onLine 5 (.repeatedField "instructions" "Chat segment"),
        .onLine 6 (.misplacedField "content" "Chat segment" "Text segment")] := by
  have registered : Schema.chatSegment ∈ Schema.all := by decide +kernel
  exact ⟨registered, fieldsChecked registered 1 2 muddledChat, by decide +kernel⟩

end FieldCheck
end Syllabus
