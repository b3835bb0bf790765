import Syllabus.FieldCheck
import Syllabus.Proofs.Uuid

/-! The slugs that are suggested in place of others. No small letter is a capital of ASCII, so that the runs of ASCII
letters and digits in a text of small letters are words of slug characters; a text that is a slug is made of just these
words, and comes out as it is. -/
namespace Syllabus.Slug

def words (s : String) : List (List Char) :=
  (Chars.splitOn (fun c => !isAsciiAlphanumeric c) (Chars.lower s.toList)).filter fun piece => !piece.isEmpty

theorem capitalUpper (c : Char) : ('A' ≤ c && c ≤ 'Z') = c.isUpper := (Bool.decide_and ('A' ≤ c) (c ≤ 'Z')).symm

theorem asciiAlphanumeric (c : Char) : isAsciiAlphanumeric c = c.isAlphanum :=
  calc isAsciiAlphanumeric c = (c.isLower || c.isDigit || c.isUpper) := congrArg (isSlugChar c || ·) (capitalUpper c)
    _ = (c.isUpper || c.isLower || c.isDigit) := by rw [Bool.or_comm, Bool.or_assoc]
    _ = c.isAlphanum := rfl

theorem slugCharIff {c : Char} (small : c.isUpper = false) : isSlugChar c = c.isAlphanum := by
  rw [← asciiAlphanumeric, isAsciiAlphanumeric, capitalUpper, small, Bool.or_false]

theorem slugCharAscii {c : Char} (slug : isSlugChar c = true) : c.toNat < 128 := by
  have below (top : Char) (low : top.toNat < 128) (least : c ≤ top) : c.toNat < 128 := Nat.lt_of_le_of_lt least low
  simp only [isSlugChar, Bool.or_eq_true, Bool.and_eq_true, decide_eq_true_eq] at slug
  rcases slug with ⟨_, least⟩ | ⟨_, least⟩
  · exact below 'z' (by decide) least
  · exact below '9' (by decide) least

theorem slugCharToLower : ∀ n < 128, isSlugChar (Char.ofNat n) = true → (Char.ofNat n).toLower = Char.ofNat n := by
  decide +kernel

theorem formChars {s : List Char} (form : Form s) : ∀ c ∈ s, isSlugChar c = true ∨ c = '-' := by
  induction form with
  | word _ letters => exact fun c member => .inl (letters c member)
  | join _ letters _ ih =>
    intro c member
    rcases List.mem_append.mp member with first | later
    · exact .inl (letters c first)
    · exact (List.mem_cons.mp later).elim .inr (ih c)

theorem formFilled {s : List Char} (form : Form s) : s ≠ [] := by
  cases form with
  | word filled => exact filled
  | join filled => simp

theorem formLower {s : List Char} (form : Form s) : Chars.lower s = s := by
  have small : ∀ c ∈ s, c.toNat < 128 ∧ c.toLower = c := by
    intro c member
    rcases formChars form c member with slug | rfl
    · have ascii := slugCharAscii slug
      exact ⟨ascii, Text.ofAscii (P := fun c => isSlugChar c = true → c.toLower = c) slugCharToLower ascii slug⟩
    · decide
  calc Chars.lower s = s.map Char.toLower := Text.lowerAfterAscii (fun c member => (small c member).1) []
    _ = s.map id := List.map_congr_left fun c member => (small c member).2
    _ = s := List.map_id s

theorem wordsFlatten (s : String) : (words s).flatten = (Chars.lower s.toList).filter Char.isAlphanum := by
  rw [words, List.flatten_filter_not_isEmpty, Chars.splitFlatten]
  simp only [Bool.not_not, asciiAlphanumeric]

theorem wordsEach {s : String} {w : List Char} (member : w ∈ words s) : IsWord w := by
  refine ⟨by simpa using (List.mem_filter.mp member).2, fun c inside => ?_⟩
  have among : c ∈ (words s).flatten := List.mem_flatten_of_mem member inside
  rw [wordsFlatten] at among
  obtain ⟨lower, alphanumeric⟩ := List.mem_filter.mp among
  rw [slugCharIff (Text.lowerAfterNotUpper lower), alphanumeric]

theorem suggestWords (s : String) : suggest s = .ofList (['-'].intercalate (words s)) := by
  rw [← Chars.joinIntercalate]
  rfl

theorem wordsForm {s : String} (some : words s ≠ []) : Form (suggest s).toList := by
  rw [suggestWords, String.toList_ofList]
  exact formOfWords some fun w member => wordsEach member

theorem suggestEmpty {s : String} : suggest s = "" ↔ words s = [] := by
  constructor
  · intro nothing
    by_contra some
    exact formFilled (wordsForm some) (by rw [nothing]; rfl)
  · intro none
    rw [suggestWords, none]
    rfl

theorem wordsNone {s : String} : words s = [] ↔ ∀ c ∈ (Text.lower s).toList, c.isAlphanum = false := by
  have letters : words s = [] ↔ (words s).flatten = [] := by
    rw [List.flatten_eq_nil_iff, List.eq_nil_iff_forall_not_mem]
    exact forall_congr' fun w => ⟨fun absent member => absurd member absent, fun empty member =>
      (wordsEach member).1 (empty member)⟩
  rw [letters, wordsFlatten, List.filter_eq_nil_iff, Text.lower, String.toList_ofList]
  simp only [Bool.not_eq_true]

theorem formWords {s : String} (form : Form s.toList) : words s = s.toList.splitOn '-' := by
  have hyphens : ∀ c ∈ s.toList, (!isAsciiAlphanumeric c) = (c == '-') := by
    intro c member
    rcases formChars form c member with slug | rfl
    · have other : c ≠ '-' := by
        rintro rfl
        cases slug
      simp [isAsciiAlphanumeric, slug, other]
    · rfl
  rw [words, formLower form, Chars.splitCongr hyphens, Chars.splitHyphens]
  exact List.filter_eq_self.mpr fun w member => by simpa using (wordsOfForm form w member).1

theorem suggestKept {s : String} (form : Form s.toList) : suggest s = s := by
  rw [suggestWords, formWords form, List.intercalate_splitOn, String.ofList_toList]

structure Judged (value : String) (line : Nat) : Prop where
  accepted : FieldCheck.slug value line = [] ↔ Form value.toList
  rejected : ¬Form value.toList → FieldCheck.slug value line = [.onLine line (.slug value)]
  worded : ∀ hint, (Problem.slug value).suggestion = some hint → ∃ x, hint = "Try '" ++ x ++ "'"
  usable : ∀ x, (Problem.slug value).suggestion = some ("Try '" ++ x ++ "'") →
    Form x.toList ∧ ∀ n, FieldCheck.slug x n = []
  silent : (Problem.slug value).suggestion = none ↔ ∀ c ∈ (Text.lower value).toList, c.isAlphanum = false
  kept : Form value.toList → suggest value = value

theorem checkedIff {value : String} {line : Nat} : FieldCheck.slug value line = [] ↔ Form value.toList := by
  rw [← validIff, FieldCheck.slug]
  split <;> simp_all

theorem suggestionIff {value hint : String} : (Problem.slug value).suggestion = some hint ↔
    words value ≠ [] ∧ hint = "Try '" ++ suggest value ++ "'" := by
  have given : (Problem.slug value).suggestion =
      if (suggest value).isEmpty then none else some ("Try '" ++ suggest value ++ "'") := rfl
  rw [given, Ne, ← suggestEmpty]
  split
  · rename_i nothing
    simp [String.isEmpty_iff.mp nothing]
  · rename_i filled
    simp [String.isEmpty_iff.not.mp filled, eq_comm]

theorem slugsSuggested (value : String) (line : Nat) : Judged value line where
  accepted := checkedIff
  rejected malformed := by
    rw [← validIff] at malformed
    simp [FieldCheck.slug, malformed]
  worded hint given := ⟨suggest value, (suggestionIff.mp given).2⟩
  usable x given := by
    obtain ⟨some, same⟩ := suggestionIff.mp given
    obtain rfl : x = suggest value := by simpa using same
    exact ⟨wordsForm some, fun n => checkedIff.mpr (wordsForm some)⟩
  silent := by
    rw [← wordsNone, Option.eq_none_iff_forall_ne_some]
    refine ⟨fun silent => ?_, fun none hint given => (suggestionIff.mp given).1 none⟩
    by_contra some
    exact silent _ (suggestionIff.mpr ⟨some, rfl⟩)
  kept := suggestKept

example : suggest "\u0130 Robot --- \u212A9!" = "i-robot-k9" ∧ suggest "\u03A9\u03A3" = "" := by decide +kernel

end Syllabus.Slug
