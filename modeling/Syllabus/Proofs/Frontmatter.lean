import Syllabus.Frontmatter
import Syllabus.Proofs.Lines

/-! Where the frontmatter of a file ends. The file is the frontmatter with its two delimiters and the body below
them, so that the lines of the body are lines of the file under the numbers that the cut gives them. -/
namespace Syllabus.Frontmatter
open Text (LineAt Numbered)

theorem closeAtIff {raw inside rest : List (List Char)} : closeAt? raw = some (inside, rest) ↔
    ∃ closing, raw = inside ++ closing :: rest ∧ isDelimiter closing = true ∧
      ∀ line ∈ inside, isDelimiter line = false := by
  induction raw generalizing inside with
  | nil => simp [closeAt?]
  | cons line more ih =>
    rw [closeAt?]
    split
    · rename_i delimits
      constructor
      · intro same
        cases same
        exact ⟨line, rfl, delimits, by simp⟩
      · intro found
        obtain ⟨closing, whole, _, apart⟩ := found
        cases inside with
        | nil =>
          cases whole
          rfl
        | cons head inside =>
          cases whole
          rw [apart line List.mem_cons_self] at delimits
          cases delimits
    · rename_i solid
      rw [Option.map_eq_some_iff]
      constructor
      · intro found
        obtain ⟨⟨within, after⟩, later, same⟩ := found
        cases same
        obtain ⟨closing, whole, delimits, apart⟩ := ih.mp later
        refine ⟨closing, congrArg _ whole, delimits, ?_⟩
        simpa [solid] using apart
      · intro found
        obtain ⟨closing, whole, delimits, apart⟩ := found
        cases inside with
        | nil =>
          cases whole
          exact absurd delimits solid
        | cons head inside =>
          cases whole
          have within := ih.mpr ⟨closing, rfl, delimits, fun other member => apart other (.tail _ member)⟩
          exact ⟨(inside, rest), within, rfl⟩

structure Cut (text : String) (x : Extracted) (above : List String) : Prop where
  lines : Text.lines text = above ++ Text.lines x.body
  bodyLine : x.bodyLine = above.length + 1
  keys : ∀ entry ∈ x.frontmatter.keyLines, 2 ≤ entry.2 ∧ entry.2 ≤ above.length

theorem keyLinesWithin {inside : List (List Char)} {entry : String × Nat} (member : entry ∈ keyLinesOf inside) :
    2 ≤ entry.2 ∧ entry.2 < inside.length + 2 := by
  obtain ⟨⟨line, n⟩, numbered, found⟩ := List.mem_filterMap.mp member
  obtain ⟨key, _, same⟩ := Option.map_eq_some_iff.mp found
  subst same
  have least := List.le_snd_of_mem_zipIdx numbered
  have most := List.snd_lt_add_of_mem_zipIdx numbered
  dsimp only at least most ⊢
  omega

theorem extractCut {read : String → Except String Yaml} {text : String} {x : Extracted}
    (extracted : extractWith read text = .ok x) : ∃ above, Cut text x above := by
  unfold extractWith at extracted
  split at extracted
  · cases extracted
  · rename_i first more raw
    split at extracted
    · cases extracted
    · split at extracted
      · cases extracted
      · rename_i inside rest closed
        obtain ⟨closing, whole, _⟩ := closeAtIff.mp closed
        have cut : Chars.rawLines text.toList = (first :: inside ++ [closing]) ++ rest := by
          rw [raw, whole]
          simp
        cases entries : entriesOf read inside.flatten with
        | error cause =>
          rw [entries] at extracted
          cases extracted
        | ok pairs =>
          rw [entries] at extracted
          cases extracted
          refine ⟨((first :: inside ++ [closing]).map Chars.lineOf).map .ofList, ?_, ?_, ?_⟩
          · simp only [Text.lines, Chars.linesCut cut, List.map_append, String.toList_ofList]
          · simp
          · intro entry member
            have within := keyLinesWithin member
            simp
            omega

variable [Library]

theorem bodyLineAt {text : String} {x : Extracted} (extracted : extract text = .ok x) {n : Nat} {line : String}
    (found : LineAt x.body x.bodyLine n line) : LineAt text 1 n line := by
  obtain ⟨above, cut⟩ := extractCut extracted
  rw [Text.lineAtIff, cut.bodyLine] at found
  obtain ⟨least, found⟩ := found
  rw [Text.lineAtIff, cut.lines, List.getElem?_append_right (by omega)]
  refine ⟨by omega, ?_⟩
  rw [← found]
  congr 1
  omega

end Syllabus.Frontmatter
