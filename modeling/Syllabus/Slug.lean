import Syllabus.Text.Basic

/-! Slugs: words of small ASCII letters and digits, joined by single hyphens. -/
namespace Syllabus.Slug

def isSlugChar (c : Char) : Bool := ('a' ≤ c && c ≤ 'z') || ('0' ≤ c && c ≤ '9')

def valid (s : String) : Bool :=
  (Chars.splitOn (· == '-') s.toList).all fun word => !word.isEmpty && word.all isSlugChar

inductive Form : List Char → Prop where
  | word {w} : w ≠ [] → (∀ c ∈ w, isSlugChar c = true) → Form w
  | join {w rest} : w ≠ [] → (∀ c ∈ w, isSlugChar c = true) → Form rest → Form (w ++ '-' :: rest)

def IsWord (w : List Char) : Prop := w ≠ [] ∧ ∀ c ∈ w, isSlugChar c = true

theorem noHyphen {w : List Char} (letters : ∀ c ∈ w, isSlugChar c = true) : ∀ c ∈ w, (c == '-') = false := by
  intro c member
  refine beq_false_of_ne ?_
  rintro rfl
  cases letters '-' member

theorem formOfWords {words : List (List Char)} (filled : words ≠ []) (each : ∀ w ∈ words, IsWord w) :
    Form (['-'].intercalate words) := by
  induction words with
  | nil => exact absurd rfl filled
  | cons w more ih =>
    obtain ⟨nonempty, letters⟩ := each w List.mem_cons_self
    cases more with
    | nil =>
      rw [List.intercalate_singleton]
      exact .word nonempty letters
    | cons next rest =>
      have later := ih (by simp) fun v member => each v (List.mem_cons_of_mem _ member)
      rw [List.intercalate_cons_cons, List.append_assoc]
      exact .join nonempty letters later

def isAsciiAlphanumeric (c : Char) : Bool :=
  isSlugChar c || ('A' ≤ c && c ≤ 'Z')

def suggest (s : String) : String :=
  let pieces := Chars.splitOn (fun c => !isAsciiAlphanumeric c) (Chars.lower s.toList)
  .ofList (Chars.joinWith ['-'] (pieces.filter fun piece => !piece.isEmpty))

end Syllabus.Slug
