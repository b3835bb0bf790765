import Syllabus.Slug
import Syllabus.Uuid

/-! The shapes of slugs and UUIDs. Both are checked piece by piece between the hyphens of a text; a text is its
pieces with the hyphens between them, so that the checks tell the shape of the text as a whole. -/
namespace Syllabus

theorem Chars.splitPieces (sep : Char → Bool) (s : List Char) : splitOn sep s = s.splitOnP sep := by
  induction s with
  | nil => rfl
  | cons c rest ih =>
    rw [splitOn, List.splitOnP_cons_eq_if_modifyHead, ih]
    split
    · rfl
    · cases pieces : rest.splitOnP sep with
      | nil => exact absurd pieces (List.splitOnP_ne_nil sep rest)
      | cons piece more => rfl

theorem Chars.splitFlatten (sep : Char → Bool) (s : List Char) : (splitOn sep s).flatten = s.filter fun c => !sep c := by
  induction s with
  | nil => rfl
  | cons c rest ih =>
    rw [splitOn]
    cases here : sep c with
    | true => simpa [here] using ih
    | false =>
      rw [List.filter_cons_of_pos (by simp [here]), ← ih]
      cases splitOn sep rest <;> rfl

theorem Chars.splitCongr {sep other : Char → Bool} {s : List Char} (same : ∀ c ∈ s, sep c = other c) :
    splitOn sep s = splitOn other s := by
  induction s with
  | nil => rfl
  | cons c rest ih =>
    rw [splitOn, splitOn, same c List.mem_cons_self, ih fun d member => same d (List.mem_cons_of_mem _ member)]

theorem Chars.splitHyphens (s : List Char) : splitOn (· == '-') s = s.splitOn '-' := splitPieces ..

namespace Slug

theorem wordsOfForm {s : List Char} (form : Form s) : ∀ w ∈ s.splitOn '-', IsWord w := by
  unfold List.splitOn
  induction form with
  | @word w filled letters =>
    rw [List.splitOnP_eq_singleton (noHyphen letters)]
    simpa using ⟨filled, letters⟩
  | @join w rest filled letters _ ih =>
    rw [List.splitOnP_append_cons_of_forall_mem (noHyphen letters) '-' rfl]
    intro v member
    rcases List.mem_cons.mp member with rfl | later
    · exact ⟨filled, letters⟩
    · exact ih v later

theorem validIff {s : String} : valid s = true ↔ Form s.toList := by
  have words : valid s = true ↔ ∀ w ∈ s.toList.splitOn '-', IsWord w := by
    simp [valid, IsWord, Chars.splitHyphens]
  rw [words]
  refine ⟨fun each => ?_, wordsOfForm⟩
  have filled : s.toList.splitOn '-' ≠ [] := List.splitOnP_ne_nil _ _
  have form := formOfWords filled each
  rwa [List.intercalate_splitOn] at form

end Slug

namespace Uuid

def Form (s : List Char) : Prop :=
  ∃ digits : List (List Char), s = ['-'].intercalate digits ∧ digits.map List.length = [8, 4, 4, 4, 12] ∧
    ∀ group ∈ digits, ∀ c ∈ group, isHexDigit c = true

theorem validIff {s : String} : valid s = true ↔ Form s.toList := by
  simp only [valid, Chars.splitHyphens, Bool.and_eq_true, beq_iff_eq, List.all_eq_true]
  constructor
  · rintro ⟨lengths, hex⟩
    exact ⟨_, (List.intercalate_splitOn '-').symm, lengths, hex⟩
  · rintro ⟨digits, shape, lengths, hex⟩
    have free : ∀ group ∈ digits, '-' ∉ group := by
      intro group member hyphen
      cases hex group member '-' hyphen
    have filled : digits ≠ [] := by
      rintro rfl
      cases lengths
    rw [shape, List.splitOn_intercalate '-' free filled]
    exact ⟨lengths, hex⟩

end Uuid
end Syllabus
