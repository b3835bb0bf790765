import Mathlib.Data.List.Basic
import Syllabus.Text.Basic

/-! Finding one text in another, and what stands at the start of a trimmed text. -/
namespace Syllabus

namespace Chars
open Text (isBlank)

theorem prefixOfAppend (needle after : List Char) : needle.isPrefixOf? (needle ++ after) = some after := by
  induction needle with
  | nil => rfl
  | cons c more ih =>
    show (if c == c then more.isPrefixOf? (more ++ after) else none) = some after
    rw [if_pos (beq_self_eq_true c), ih]

theorem suffixOfAppend (tail before : List Char) : tail.isSuffixOf? (before ++ tail) = some before := by
  simp [List.isSuffixOf?, prefixOfAppend]

theorem suffixSplit {tail s before : List Char} (cut : tail.isSuffixOf? s = some before) : s = before ++ tail := by
  rw [List.isSuffixOf?, Option.map_eq_some_iff] at cut
  obtain ⟨back, cut, rfl⟩ := cut
  have whole := congrArg List.reverse (List.append_eq_of_isPrefixOf?_eq_some cut)
  rw [List.reverse_reverse, List.reverse_append, List.reverse_reverse] at whole
  exact whole.symm

theorem betweenIff {first last s inside : List Char} :
    ((first.isPrefixOf? s).bind fun rest => last.isSuffixOf? rest) = some inside ↔ s = first ++ inside ++ last := by
  constructor
  · intro found
    obtain ⟨rest, opened, closed⟩ := Option.bind_eq_some_iff.mp found
    rw [← List.append_eq_of_isPrefixOf?_eq_some opened, suffixSplit closed, List.append_assoc]
  · intro whole
    rw [whole, List.append_assoc, prefixOfAppend, Option.bind_some, suffixOfAppend]

theorem cutAtStart (needle after : List Char) : cut? needle (needle ++ after) = some ([], after) := by
  cases joined : needle ++ after with
  | nil =>
    obtain ⟨rfl, rfl⟩ := List.append_eq_nil_iff.mp joined
    rfl
  | cons c more => rw [cutStep, ← joined, prefixOfAppend]

theorem cutSplit {needle s before after : List Char} (cut : cut? needle s = some (before, after)) :
    s = before ++ (needle ++ after) := by
  induction s generalizing before with
  | nil =>
    rw [cutNil] at cut
    split at cut
    · rename_i nothing
      cases cut
      simpa using nothing
    · cases cut
  | cons c rest ih =>
    rw [cutStep] at cut
    split at cut
    · rename_i tail found
      cases cut
      exact (List.append_eq_of_isPrefixOf?_eq_some found).symm
    · obtain ⟨⟨first, last⟩, later, same⟩ := Option.map_eq_some_iff.mp cut
      cases same
      exact congrArg _ (ih later)

theorem cutCons (sign c : Char) (rest : List Char) : cut? [sign] (c :: rest) =
    if c = sign then some ([], rest) else (cut? [sign] rest).map fun (before, tail) => (c :: before, tail) := by
  have first : [sign].isPrefixOf? (c :: rest) = if sign == c then some rest else none := rfl
  rw [cutStep, first]
  by_cases same : c = sign
  · simp [same]
  · simp [same, Ne.symm same]

theorem cutNone {sign : Char} {s : List Char} : cut? [sign] s = none ↔ sign ∉ s := by
  induction s with
  | nil => simp [cutNil]
  | cons c rest ih =>
    rw [cutCons]
    by_cases same : c = sign
    · simp [same]
    · simp [same, Ne.symm same, ih]

theorem cutFirst {sign : Char} {s before after : List Char} :
    cut? [sign] s = some (before, after) ↔ s = before ++ sign :: after ∧ sign ∉ before := by
  induction s generalizing before with
  | nil => simp [cutNil]
  | cons c rest ih =>
    rw [cutCons]
    by_cases same : c = sign
    · cases before with
      | nil => simp [same]
      | cons d more =>
        simp only [same, if_true, Option.some.injEq, Prod.mk.injEq, List.cons_append, List.cons.injEq, List.mem_cons]
        tauto
    · cases before with
      | nil => simp [same]
      | cons d more =>
        simp only [same, if_false, Option.map_eq_some_iff, Prod.exists, Prod.mk.injEq, List.cons.injEq, List.cons_append,
          List.mem_cons, not_or]
        constructor
        · intro found
          obtain ⟨first, last, later, ⟨rfl, rfl⟩, rfl⟩ := found
          obtain ⟨whole, absent⟩ := ih.mp later
          exact ⟨⟨rfl, whole⟩, Ne.symm same, absent⟩
        · intro whole
          obtain ⟨⟨rfl, whole⟩, _, absent⟩ := whole
          exact ⟨more, after, ih.mpr ⟨whole, absent⟩, ⟨rfl, rfl⟩, rfl⟩

theorem cutAppend {sign : Char} {tail : List Char} (absent : sign ∉ tail) (s : List Char) :
    cut? [sign] (s ++ tail) = (cut? [sign] s).map fun (before, after) => (before, after ++ tail) := by
  induction s with
  | nil =>
    rw [List.nil_append, cutNone.mpr absent]
    rfl
  | cons c rest ih =>
    rw [List.cons_append, cutCons, cutCons, ih]
    split
    · rfl
    · cases cut? [sign] rest <;> rfl

theorem containsMiddle (before needle after : List Char) : contains needle (before ++ (needle ++ after)) = true := by
  unfold contains
  induction before with
  | nil =>
    rw [List.nil_append, cutAtStart]
    rfl
  | cons c more ih =>
    rw [List.cons_append, cutStep]
    split
    · rfl
    · rw [Option.isSome_map]
      exact ih

theorem containsIff {needle s : List Char} : contains needle s = true ↔ needle <:+: s := by
  constructor
  · intro found
    obtain ⟨⟨before, after⟩, cut⟩ := Option.isSome_iff_exists.mp found
    exact ⟨before, after, by rw [cutSplit cut, List.append_assoc]⟩
  · intro inside
    obtain ⟨before, after, rfl⟩ := inside
    rw [List.append_assoc]
    exact containsMiddle before needle after

theorem infixApart {needle before after : List Char} {sign : Char} (absent : sign ∉ needle)
    (inside : needle <:+: before ++ sign :: after) : needle <:+: before ∨ needle <:+: after := by
  obtain ⟨start, stop, whole⟩ := inside
  cases List.append_eq_append_iff.mp whole with
  | inl early =>
    obtain ⟨rest, same, _⟩ := early
    exact .inl ⟨start, rest, same.symm⟩
  | inr across =>
    obtain ⟨rest, same, later⟩ := across
    cases rest with
    | nil => exact .inl ⟨start, [], by rw [same]; simp⟩
    | cons c rest =>
      obtain ⟨rfl, behind⟩ := List.cons.inj later
      cases List.append_eq_append_iff.mp same with
      | inl spans =>
        obtain ⟨rest', _, same⟩ := spans
        exact absurd (by rw [same]; simp) absent
      | inr past =>
        obtain ⟨rest', _, same⟩ := past
        cases rest' with
        | nil => exact absurd (by rw [← show sign :: rest = needle from same]; simp) absent
        | cons d rest' =>
          have inner : rest = rest' ++ needle := (List.cons.inj same).2
          exact .inr ⟨rest', stop, by rw [show after = rest ++ stop from behind, inner]⟩

theorem dropWhileAll {p : Char → Bool} {before after : List Char} (all : ∀ c ∈ before, p c = true)
    (stops : ∀ c ∈ after.head?, p c = false) : (before ++ after).dropWhile p = after := by
  rw [List.dropWhile_append_of_pos all]
  cases after with
  | nil => rfl
  | cons c rest => exact List.dropWhile_cons_of_neg (by simp [stops c rfl])

theorem trimEndSolid {c : Char} (solid : isBlank c = false) (rest : List Char) :
    trimEnd (c :: rest) = c :: trimEnd rest := by
  simp [trimEnd, solid]

theorem trimStartSolid {c : Char} (solid : isBlank c = false) (rest : List Char) : trimStart (c :: rest) = c :: rest :=
  List.dropWhile_cons_of_neg (by simp [solid])

theorem trimStartBlank {c : Char} (blank : isBlank c = true) (rest : List Char) : trimStart (c :: rest) = trimStart rest :=
  List.dropWhile_cons_of_pos blank

theorem trimSolid {c : Char} (solid : isBlank c = false) (rest : List Char) :
    trim (c :: rest) = c :: trimEnd rest := by
  rw [trim, trimStartSolid solid, trimEndSolid solid]

theorem trimHead {s rest : List Char} {c : Char} (trimmed : trim s = c :: rest) : isBlank c = false := by
  rw [trim] at trimmed
  cases start : trimStart s with
  | nil =>
    rw [start] at trimmed
    cases trimmed
  | cons d more =>
    have solid : isBlank d = false := by
      have head := List.head?_dropWhile_not isBlank s
      rw [show s.dropWhile isBlank = d :: more from start] at head
      simpa using head
    rw [start, trimEndSolid solid] at trimmed
    cases trimmed
    exact solid

theorem trimEndCons (c : Char) (rest : List Char) : trimEnd (c :: rest) =
    if (trimEnd rest).isEmpty && isBlank c then [] else c :: trimEnd rest := rfl

theorem trimEndHead {c : Char} {rest : List Char} (filled : trimEnd (c :: rest) ≠ []) :
    trimEnd (c :: rest) = c :: trimEnd rest := by
  rw [trimEndCons] at filled ⊢
  split at filled
  · exact absurd rfl filled
  · rename_i kept
    rw [if_neg kept]

theorem trimEndTwice (s : List Char) : trimEnd (trimEnd s) = trimEnd s := by
  induction s with
  | nil => rfl
  | cons c rest ih =>
    rw [trimEndCons]
    split
    · rfl
    · rename_i kept
      rw [trimEndCons, ih, if_neg kept]

theorem trimTwice (s : List Char) : trim (trim s) = trim s := by
  cases trimmed : trim s with
  | nil => rfl
  | cons c rest =>
    rw [trimSolid (trimHead trimmed), ← trimEndSolid (trimHead trimmed), ← trimmed, trim, trimEndTwice]

theorem trimTrimEnd (s : List Char) : trim (trimEnd s) = trim s := by
  induction s with
  | nil => rfl
  | cons c rest ih =>
    cases here : isBlank c with
    | false => rw [trimEndSolid here, trimSolid here, trimSolid here, trimEndTwice]
    | true =>
      have past : trim (c :: rest) = trim rest := by rw [trim, trimStartBlank here, trim]
      rw [past, ← ih, trimEndCons]
      split
      · rename_i dropped
        simp only [Bool.and_eq_true, List.isEmpty_iff] at dropped
        rw [dropped.1]
      · rw [trim, trimStartBlank here, trim]

theorem trimEndSplit (s : List Char) : ∃ tail, s = trimEnd s ++ tail ∧ ∀ c ∈ tail, isBlank c = true := by
  induction s with
  | nil => exact ⟨[], rfl, by simp⟩
  | cons c rest ih =>
    obtain ⟨tail, whole, blanks⟩ := ih
    rw [trimEndCons]
    split
    · rename_i dropped
      simp only [Bool.and_eq_true, List.isEmpty_iff] at dropped
      rw [dropped.1, List.nil_append] at whole
      refine ⟨c :: rest, rfl, fun d member => ?_⟩
      cases List.mem_cons.mp member with
      | inl same => rw [same]; exact dropped.2
      | inr later => exact blanks d (whole ▸ later)
    · exact ⟨tail, congrArg _ whole, blanks⟩

theorem trimSplit (s : List Char) :
    ∃ tail, s = s.takeWhile isBlank ++ (trim s ++ tail) ∧ ∀ c ∈ tail, isBlank c = true := by
  obtain ⟨tail, whole, blanks⟩ := trimEndSplit (trimStart s)
  refine ⟨tail, ?_, blanks⟩
  rw [trim, ← whole, trimStart, List.takeWhile_append_dropWhile]

theorem trimEndAll {tail : List Char} (blanks : ∀ c ∈ tail, isBlank c = true) : trimEnd tail = [] := by
  induction tail with
  | nil => rfl
  | cons c rest ih =>
    have here := blanks c List.mem_cons_self
    rw [trimEndCons, ih fun d member => blanks d (List.mem_cons_of_mem _ member), here]
    rfl

theorem trimEndBlanks (s : List Char) {tail : List Char} (blanks : ∀ c ∈ tail, isBlank c = true) :
    trimEnd (s ++ tail) = trimEnd s := by
  induction s with
  | nil => exact trimEndAll blanks
  | cons c rest ih => rw [List.cons_append, trimEndCons, ih, trimEndCons]

theorem trimEndLast {s : List Char} (filled : trimEnd s ≠ []) :
    ∃ before c, trimEnd s = before ++ [c] ∧ isBlank c = false := by
  induction s with
  | nil => exact absurd rfl filled
  | cons c rest ih =>
    rw [trimEndCons] at filled ⊢
    split at filled
    · exact absurd rfl filled
    · rename_i kept
      rw [if_neg kept]
      cases tail : trimEnd rest with
      | nil => exact ⟨[], c, rfl, by simpa [tail] using kept⟩
      | cons d more =>
        obtain ⟨before, last, whole, solid⟩ := ih (by simp [tail])
        exact ⟨c :: before, last, by rw [← tail, whole]; rfl, solid⟩

theorem trimEndPast (before : List Char) {c : Char} (solid : isBlank c = false) (rest : List Char) :
    trimEnd (before ++ c :: rest) = before ++ c :: trimEnd rest := by
  induction before with
  | nil => exact trimEndSolid solid rest
  | cons d more ih => rw [List.cons_append, trimEndCons, ih, if_neg (by simp), List.cons_append]

theorem trimEndKept (before : List Char) {c : Char} (solid : isBlank c = false) :
    trimEnd (before ++ [c]) = before ++ [c] :=
  trimEndPast before solid []

structure Bare (s : List Char) : Prop where
  head : ∃ c rest, s = c :: rest ∧ isBlank c = false
  last : ∃ before c, s = before ++ [c] ∧ isBlank c = false

theorem bareIff {s : List Char} : Bare s ↔ s ≠ [] ∧ trim s = s := by
  constructor
  · intro bare
    obtain ⟨⟨c, rest, first, solid⟩, before, d, last, solidLast⟩ := bare
    have filled : s ≠ [] := by
      rw [first]
      exact List.cons_ne_nil c rest
    refine ⟨filled, ?_⟩
    have start : trimStart s = s := by rw [first, trimStartSolid solid]
    rw [trim, start, last, trimEndKept before solidLast]
  · intro kept
    obtain ⟨filled, trimmed⟩ := kept
    constructor
    · cases s with
      | nil => exact absurd rfl filled
      | cons c rest => exact ⟨c, rest, rfl, trimHead trimmed⟩
    · have some : trimEnd (trimStart s) ≠ [] := by
        rw [← trim, trimmed]
        exact filled
      have last := trimEndLast some
      rwa [← trim, trimmed] at last

theorem trimSolidText {s : List Char} (solid : ∀ c ∈ s, isBlank c = false) : trim s = s := by
  rcases List.eq_nil_or_concat s with rfl | ⟨before, last, rfl⟩
  · rfl
  · rw [List.concat_eq_append] at solid ⊢
    refine (bareIff.mp ⟨?_, before, last, rfl, solid last (by simp)⟩).2
    obtain ⟨c, rest, first⟩ := List.exists_cons_of_ne_nil (List.append_ne_nil_of_right_ne_nil before (List.cons_ne_nil last []))
    exact ⟨c, rest, first, solid c (by simp [first])⟩

theorem Bare.around {s t : List Char} (first : Bare s) (last : Bare t) (middle : List Char) :
    Bare (s ++ middle ++ t) := by
  obtain ⟨⟨c, rest, rfl, solid⟩, _⟩ := first
  obtain ⟨_, before, d, rfl, solidLast⟩ := last
  exact ⟨⟨c, _, rfl, solid⟩, c :: rest ++ middle ++ before, d, by simp only [List.append_assoc], solidLast⟩

theorem blankTrimEnd (s : List Char) : blank (trimEnd s) = blank s := by
  induction s with
  | nil => rfl
  | cons c rest ih =>
    cases solid : isBlank c with
    | false => simp [trimEndSolid solid, blank, solid]
    | true =>
      have tail : blank (c :: rest) = blank rest := by simp [blank, solid]
      rw [tail, ← ih, trimEndCons]
      split
      · rename_i nothing
        simp only [Bool.and_eq_true, List.isEmpty_iff] at nothing
        rw [nothing.1]
      · simp [blank, solid]

theorem blankTrim (s : List Char) : blank (trim s) = blank s := by
  rw [trim, blankTrimEnd, trimStart]
  induction s with
  | nil => rfl
  | cons c rest ih =>
    cases solid : isBlank c with
    | false => rw [List.dropWhile_cons_of_neg (by simp [solid])]
    | true =>
      rw [List.dropWhile_cons_of_pos solid, ih]
      simp [blank, solid]

theorem linesSolid {c : Char} (solid : isBlank c = false) (rest : List Char) :
    ∃ line more, lines (c :: rest) = (c :: line) :: more := by
  have feed : c ≠ '\n' := by
    rintro rfl
    cases solid
  have carriage : c ≠ '\r' := by
    rintro rfl
    cases solid
  simp only [lines, feed, carriage, false_and, if_false]
  split
  · exact ⟨[], [], rfl⟩
  · rename_i line more _
    exact ⟨line, more, rfl⟩

theorem joinWithAppend (sep : List Char) {xs ys : List (List Char)} (left : xs ≠ []) (right : ys ≠ []) :
    joinWith sep (xs ++ ys) = joinWith sep xs ++ sep ++ joinWith sep ys := by
  induction xs with
  | nil => exact absurd rfl left
  | cons piece more ih =>
    cases more with
    | nil =>
      obtain ⟨first, rest, rfl⟩ := List.exists_cons_of_ne_nil right
      rfl
    | cons next more =>
      have tail := ih (List.cons_ne_nil next more)
      simp only [List.cons_append, joinWith, List.append_assoc] at tail ⊢
      rw [tail]

theorem joinIntercalate (sep : List Char) (pieces : List (List Char)) : joinWith sep pieces = sep.intercalate pieces := by
  induction pieces using joinWith.induct with
  | case1 => rfl
  | case2 piece => rw [joinWith, List.intercalate_singleton]
  | case3 piece more filled ih =>
    obtain ⟨next, rest, rfl⟩ := List.exists_cons_of_ne_nil filled
    rw [joinWith, ih, List.intercalate_cons_cons]
    simp

end Chars

namespace Text

theorem joinWithAppend (sep : String) {xs ys : List String} (left : xs ≠ []) (right : ys ≠ []) :
    joinWith sep (xs ++ ys) = joinWith sep xs ++ sep ++ joinWith sep ys := by
  apply String.toList_inj.mp
  simp only [joinWith, List.map_append, String.toList_ofList, String.toList_append]
  exact Chars.joinWithAppend sep.toList (by simpa using left) (by simpa using right)

theorem solidOfDigit {c : Char} (digit : c.isDigit = true) : isBlank c = false := by
  simp only [Char.isDigit, Bool.and_eq_true, decide_eq_true_eq, ge_iff_le, UInt32.le_iff_toNat_le] at digit
  have low : 48 ≤ c.toNat := digit.1
  have high : c.toNat ≤ 57 := digit.2
  simp only [isBlank, inRanges, blankRanges, List.any_cons, List.any_nil, Bool.or_eq_false_iff,
    Bool.and_eq_false_iff, decide_eq_false_iff_not, and_true]
  omega

theorem startsWithAppend (head rest : String) : startsWith head (head ++ rest) = true := by
  simp [startsWith]

theorem startsWithMore {head s : String} (starts : startsWith head s = true) (rest : String) :
    startsWith head (s ++ rest) = true := by
  simp only [startsWith, List.isPrefixOf_iff_prefix, String.toList_append] at starts ⊢
  exact starts.trans (List.prefix_append ..)

theorem containsMiddle (before needle after : String) : contains needle (before ++ (needle ++ after)) = true := by
  simpa [contains] using Chars.containsMiddle before.toList needle.toList after.toList

theorem notStarts {head s : String} {i : Nat} {a b : Char} (wanted : head.toList[i]? = some a)
    (letter : s.toList[i]? = some b) (other : a ≠ b) : startsWith head s = false := by
  refine Bool.eq_false_iff.mpr fun starts => ?_
  obtain ⟨rest, whole⟩ := List.isPrefixOf_iff_prefix.mp starts
  rw [← whole, List.getElem?_append_left (List.getElem?_eq_some_iff.mp wanted).1, wanted] at letter
  exact other (Option.some.inj letter)

theorem endsWithAppend (before tail : String) : endsWith tail (before ++ tail) = true := by
  simp [endsWith]

theorem letterOfAppend {s t : String} {i : Nat} {c : Char} (letter : s.toList[i]? = some c) :
    (s ++ t).toList[i]? = some c := by
  rw [String.toList_append, List.getElem?_append_left (List.getElem?_eq_some_iff.mp letter).1, letter]

theorem headOfAppend {s t : String} {c : Char} (head : s.toList.head? = some c) :
    (s ++ t).toList.head? = some c := by
  simp [head]

end Text
end Syllabus
