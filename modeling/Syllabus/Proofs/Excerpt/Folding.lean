import Syllabus.Excerpt.Anchor
import Syllabus.Proofs.Lowercase
import Syllabus.Proofs.Text

/-! The folded copy of a text, and where its characters come from. Runs of blanks are one space in it, quotation marks
are straight and capitals small. Each folded character stands for a stretch of the text: a space for the whole run,
any other for the one character it comes from. The places of an anchor are those at which the folded text goes on
with it, one by one and overlapping ones too. -/
namespace Syllabus

namespace Anchor
open Text (isBlank)

def squeeze : List Char → List Char
  | [] => []
  | c :: rest =>
    if isBlank c then
      if rest.head?.any isBlank then squeeze rest else ' ' :: squeeze rest
    else c :: squeeze rest

def folded (s : List Char) : List Char := ((squeeze s).map straight).flatMap Text.lowerChar

section Squeeze

variable {c : Char} {rest : List Char}

theorem squeezeSolid (solid : isBlank c = false) (rest : List Char) : squeeze (c :: rest) = c :: squeeze rest := by
  simp [squeeze, solid]

theorem squeezeLone (blank : isBlank c = true) (next : rest.head?.any isBlank = false) :
    squeeze (c :: rest) = ' ' :: squeeze rest := by
  simp [squeeze, blank, next]

theorem squeezeRun (blank : isBlank c = true) (next : rest.head?.any isBlank = true) :
    squeeze (c :: rest) = squeeze rest := by
  simp [squeeze, blank, next]

theorem foldedSolid (solid : isBlank c = false) (rest : List Char) :
    folded (c :: rest) = foldChar c ++ folded rest := by
  simp [folded, squeezeSolid solid, foldChar]

theorem foldedLone (blank : isBlank c = true) (next : rest.head?.any isBlank = false) :
    folded (c :: rest) = ' ' :: folded rest := by
  have space : Text.lowerChar (straight ' ') = [' '] := by decide
  simp [folded, squeezeLone blank next, space]

theorem foldedRun (blank : isBlank c = true) (next : rest.head?.any isBlank = true) :
    folded (c :: rest) = folded rest := by
  rw [folded, squeezeRun blank next, folded]

end Squeeze

theorem foldSolid {c : Char} (solid : isBlank c = false) (offset : Nat) (rest : List Char) :
    fold offset (c :: rest) =
      (foldChar c).map (fun d => ⟨d, offset, offset + 1⟩) ++ fold (offset + 1) rest := by
  simp [fold, solid]

theorem foldLone {c : Char} {rest : List Char} (blank : isBlank c = true) (next : rest.head?.any isBlank = false)
    (offset : Nat) : fold offset (c :: rest) = ⟨' ', offset, offset + 1⟩ :: fold (offset + 1) rest := by
  simp [fold, blank, next]

theorem foldBlank {c : Char} (blank : isBlank c = true) (offset : Nat) (rest : List Char) :
    ∃ stop more, fold offset (c :: rest) = ⟨' ', offset, stop⟩ :: more := by
  induction rest generalizing c offset with
  | nil => exact ⟨_, _, foldLone blank rfl offset⟩
  | cons d rest ih =>
    cases next : isBlank d with
    | false => exact ⟨_, _, foldLone blank (by simpa using next) offset⟩
    | true =>
      obtain ⟨stop, more, run⟩ := ih next (offset + 1)
      refine ⟨stop, more, ?_⟩
      rw [fold, run]
      simp [blank, next]

theorem foldRun {c : Char} {rest : List Char} (blank : isBlank c = true) (next : rest.head?.any isBlank = true)
    (offset : Nat) : ∃ stop more, fold (offset + 1) rest = ⟨' ', offset + 1, stop⟩ :: more ∧
      fold offset (c :: rest) = ⟨' ', offset, stop⟩ :: more := by
  cases rest with
  | nil => cases next
  | cons d rest =>
    have head : isBlank d = true := by simpa using next
    obtain ⟨stop, more, run⟩ := foldBlank head (offset + 1) rest
    refine ⟨stop, more, run, ?_⟩
    rw [fold, run]
    simp [blank, head]

theorem foldInduction {P : List Char → Prop} (nil : P [])
    (solid : ∀ c rest, isBlank c = false → P rest → P (c :: rest))
    (lone : ∀ c rest, isBlank c = true → rest.head?.any isBlank = false → P rest → P (c :: rest))
    (run : ∀ c rest, isBlank c = true → rest.head?.any isBlank = true → P rest → P (c :: rest)) (s : List Char) : P s := by
  induction s with
  | nil => exact nil
  | cons c rest ih =>
    cases blank : isBlank c with
    | false => exact solid c rest blank ih
    | true =>
      cases next : rest.head?.any isBlank with
      | false => exact lone c rest blank next ih
      | true => exact run c rest blank next ih

theorem foldChars (s : List Char) (offset : Nat) : (fold offset s).map FoldedChar.char = folded s := by
  induction s using foldInduction generalizing offset with
  | nil => rfl
  | solid c rest solid ih =>
    rw [foldSolid solid, foldedSolid solid, List.map_append, ih, List.map_map]
    simp [Function.comp_def]
  | lone c rest blank next ih => rw [foldLone blank next, foldedLone blank next, List.map_cons, ih]
  | run c rest blank next ih =>
    obtain ⟨stop, more, later, here⟩ := foldRun blank next offset
    rw [foldedRun blank next, ← ih (offset + 1), later, here]
    rfl

theorem foldedFilled {s : List Char} (filled : s ≠ []) : 0 < (folded s).length := by
  cases s with
  | nil => exact absurd rfl filled
  | cons c rest =>
    cases blank : isBlank c with
    | false =>
      obtain ⟨first, more, small, _⟩ := Text.lowerCharFilled (straight c)
      simp [foldedSolid blank, foldChar, small]
    | true =>
      obtain ⟨stop, more, run⟩ := foldBlank blank 0 rest
      rw [← foldChars _ 0, run]
      simp

theorem foldTextFolded (s : List Char) : foldText s = folded s := foldChars s 0

/-- The folded character `i` comes from the character `k`: what stands before `k` folds to no more than `i` characters,
and with `k` it folds to more. -/
def ComesFrom (s : List Char) (i k : Nat) : Prop :=
  (folded (s.take k)).length ≤ i ∧ i < (folded (s.take (k + 1))).length

theorem ComesFrom.skipSolid {c : Char} {rest : List Char} {i k : Nat} (solid : isBlank c = false)
    (later : ComesFrom rest i k) : ComesFrom (c :: rest) ((foldChar c).length + i) (k + 1) := by
  simpa [ComesFrom, foldedSolid solid] using later

theorem headTake {rest : List Char} {k : Nat} (some : k ≠ 0) :
    (rest.take k).head?.any isBlank = rest.head?.any isBlank := by
  rw [List.head?_take, if_neg some]

theorem foldedTakeLone {c : Char} {rest : List Char} (blank : isBlank c = true)
    (next : rest.head?.any isBlank = false) (k : Nat) :
    (folded ((c :: rest).take (k + 1))).length = (folded (rest.take k)).length + 1 := by
  have open_ : (rest.take k).head?.any isBlank = false := by
    by_cases zero : k = 0
    · simp [zero]
    · rw [headTake zero, next]
  rw [List.take_succ_cons, foldedLone blank open_, List.length_cons]

theorem foldedTakeRun {c : Char} {rest : List Char} (blank : isBlank c = true)
    (next : rest.head?.any isBlank = true) {k : Nat} (some : k ≠ 0) :
    folded ((c :: rest).take (k + 1)) = folded (rest.take k) := by
  rw [List.take_succ_cons, foldedRun blank (by rw [headTake some, next])]

theorem ComesFrom.skipLone {c : Char} {rest : List Char} {i k : Nat} (blank : isBlank c = true)
    (next : rest.head?.any isBlank = false) (later : ComesFrom rest i k) : ComesFrom (c :: rest) (i + 1) (k + 1) := by
  obtain ⟨reached, passed⟩ := later
  rw [ComesFrom, foldedTakeLone blank next, foldedTakeLone blank next]
  omega

theorem ComesFrom.skipRun {c : Char} {rest : List Char} {i k : Nat} (blank : isBlank c = true)
    (next : rest.head?.any isBlank = true) (later : ComesFrom rest (i + 1) k) : ComesFrom (c :: rest) (i + 1) (k + 1) := by
  obtain ⟨reached, passed⟩ := later
  have behind : k ≠ 0 := by
    intro zero
    -- The first blank alone folds to one space.
    obtain ⟨d, more, rfl⟩ : ∃ d more, rest = d :: more := by
      cases rest with
      | nil => cases next
      | cons d more => exact ⟨d, more, rfl⟩
    have head : isBlank d = true := by simpa using next
    rw [zero, List.take_succ_cons, foldedLone head rfl] at passed
    simp [folded, squeeze] at passed
  rw [ComesFrom, foldedTakeRun blank next behind, foldedTakeRun blank next (by omega)]
  exact ⟨reached, passed⟩

theorem ComesFrom.first {c : Char} {rest : List Char} {i : Nat} (inside : i < (folded [c]).length) :
    ComesFrom (c :: rest) i 0 := ⟨Nat.zero_le i, inside⟩

theorem foldedGrows (s : List Char) (k : Nat) : (folded (s.take k)).length ≤ (folded s).length := by
  induction s using foldInduction generalizing k with
  | nil => simp
  | solid c rest solid ih =>
    cases k with
    | zero => exact Nat.zero_le _
    | succ k =>
      rw [List.take_succ_cons, foldedSolid solid, foldedSolid solid, List.length_append, List.length_append]
      exact Nat.add_le_add_left (ih k) _
  | lone c rest blank next ih =>
    cases k with
    | zero => exact Nat.zero_le _
    | succ k =>
      rw [foldedTakeLone blank next, foldedLone blank next, List.length_cons]
      exact Nat.succ_le_succ (ih k)
  | run c rest blank next ih =>
    cases k with
    | zero => exact Nat.zero_le _
    | succ k =>
      rw [foldedRun blank next]
      by_cases zero : k = 0
      · have filled : rest ≠ [] := by
          intro none
          rw [none] at next
          cases next
        have one : (folded ((c :: rest).take 1)).length = 1 := by
          rw [List.take_succ_cons, foldedLone blank rfl]
          rfl
        rw [zero, one]
        exact foldedFilled filled
      · rw [foldedTakeRun blank next zero]
        exact ih k

theorem ComesFrom.ordered {s : List Char} {i j k l : Nat} (left : ComesFrom s i k) (right : ComesFrom s j l)
    (order : i ≤ j) : k ≤ l := by
  by_contra above
  have grows := foldedGrows (s.take k) (l + 1)
  rw [List.take_take, Nat.min_eq_left (by omega)] at grows
  have reached := left.1
  have passed := right.2
  omega

theorem ComesFrom.inside {s : List Char} {i k : Nat} (from_ : ComesFrom s i k) : k < s.length := by
  by_contra beyond
  have reached := from_.1
  have passed := from_.2
  rw [List.take_of_length_le (by omega)] at reached passed
  omega

theorem foldFrom {s : List Char} {offset i : Nat} {f : FoldedChar} (found : (fold offset s)[i]? = some f) :
    ∃ k, f.start = offset + k ∧ ComesFrom s i k := by
  induction s using foldInduction generalizing offset i f with
  | nil => cases found
  | solid c rest solid ih =>
    rw [foldSolid solid] at found
    by_cases here : i < (foldChar c).length
    · rw [List.getElem?_append_left (by simpa using here), List.getElem?_map, Option.map_eq_some_iff] at found
      obtain ⟨d, _, rfl⟩ := found
      have inside : i < (folded [c]).length := by rw [foldedSolid solid, List.length_append]; omega
      exact ⟨0, rfl, .first inside⟩
    · rw [List.getElem?_append_right (by simpa using here), List.length_map] at found
      obtain ⟨k, start, from_⟩ := ih found
      have later := from_.skipSolid solid
      rw [Nat.add_sub_cancel' (by omega)] at later
      exact ⟨k + 1, by omega, later⟩
  | lone c rest blank next ih =>
    rw [foldLone blank next] at found
    cases i with
    | zero =>
      cases found
      exact ⟨0, rfl, .first (foldedFilled (List.cons_ne_nil c []))⟩
    | succ i =>
      obtain ⟨k, start, from_⟩ := ih found
      exact ⟨k + 1, by omega, from_.skipLone blank next⟩
  | run c rest blank next ih =>
    obtain ⟨stop, more, later, here⟩ := foldRun blank next offset
    rw [here] at found
    cases i with
    | zero =>
      cases found
      exact ⟨0, rfl, .first (foldedFilled (List.cons_ne_nil c []))⟩
    | succ i =>
      have inside : (fold (offset + 1) rest)[i + 1]? = some f := by rw [later]; exact found
      obtain ⟨k, start, from_⟩ := ih inside
      exact ⟨k + 1, by omega, from_.skipRun blank next⟩

theorem foldStop {s : List Char} {offset : Nat} {f : FoldedChar} (member : f ∈ fold offset s) (solid : f.char ≠ ' ') :
    f.stop = f.start + 1 := by
  induction s using foldInduction generalizing offset with
  | nil => cases member
  | solid c rest plain ih =>
    rw [foldSolid plain, List.mem_append] at member
    cases member with
    | inl here =>
      obtain ⟨d, _, rfl⟩ := List.mem_map.mp here
      rfl
    | inr later => exact ih later
  | lone c rest blank next ih =>
    rw [foldLone blank next] at member
    cases member with
    | head => rfl
    | tail _ later => exact ih later
  | run c rest blank next ih =>
    obtain ⟨stop, more, later, here⟩ := foldRun blank next offset
    rw [here] at member
    cases member with
    | head => exact absurd rfl solid
    | tail _ behind =>
      have inside : f ∈ fold (offset + 1) rest := by rw [later]; exact .tail _ behind
      exact ih inside

end Anchor
end Syllabus
