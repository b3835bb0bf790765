import Syllabus.Proofs.Text
import Syllabus.WikiLink

/-! What is read of a link. Between its brackets stand the target, the anchor and the label, which are cut apart at the
first bar and then at the first number sign before it, and trimmed at each cut. -/
namespace Syllabus.WikiLink
open Text (isBlank)

inductive CutAt (sign : Char) (s : List Char) : List Char → Option String → Prop where
  | whole (absent : sign ∉ s) : CutAt sign s s none
  | parts {before after} (split : s = before ++ sign :: after) (first : sign ∉ before) :
      CutAt sign s (Chars.trim before) (part? after)

def Brackets (text : String) (inner : List Char) : Prop :=
  ∃ between, Chars.trim text.toList = "[[".toList ++ between ++ "]]".toList ∧ inner = Chars.trim between

inductive Climbs (s : List Char) : Prop where
  | slash (inside : "../".toList <:+: s)
  | backslash (inside : "..\\".toList <:+: s)
  | alone (same : s = "..".toList)
  | anchored (starts : "..#".toList <+: s)
  | labelled (starts : "..|".toList <+: s)

structure Reads (inner : List Char) (l : WikiLink) : Prop where
  parts : ∃ left, CutAt '|' inner left l.label ∧ CutAt '#' left l.target.toList l.anchor
  filled : l.target ≠ ""

def cutAt (sign : Char) (s : List Char) : List Char × Option String :=
  match Chars.cut? [sign] s with
  | some (before, after) => (Chars.trim before, part? after)
  | none => (s, none)

theorem cutAtIff {sign : Char} {s left : List Char} {right : Option String} :
    cutAt sign s = (left, right) ↔ CutAt sign s left right := by
  constructor
  · intro same
    unfold cutAt at same
    split at same
    · rename_i before after cut
      obtain ⟨split, first⟩ := Chars.cutFirst.mp cut
      cases same
      exact .parts split first
    · rename_i cut
      cases same
      exact .whole (Chars.cutNone.mp cut)
  · intro cut
    cases cut with
    | whole absent => rw [cutAt, Chars.cutNone.mpr absent]
    | parts split first => rw [cutAt, Chars.cutFirst.mpr ⟨split, first⟩]

theorem CutAt.nil {sign : Char} {s left : List Char} {right : Option String} (cut : CutAt sign s left right)
    (none : s = []) : left = [] := by
  cases cut with
  | whole => exact none
  | parts split => exact absurd (none.symm.trans split) (by simp)

theorem Reads.inner {inner : List Char} {l : WikiLink} (reads : Reads inner l) : inner ≠ [] := by
  intro none
  obtain ⟨⟨left, label, anchor⟩, filled⟩ := reads
  exact filled (String.toList_inj.mp (anchor.nil (label.nil none)))

theorem ofInnerEq (s : List Char) : ofInner s =
    let left := cutAt '|' s
    let target := cutAt '#' left.1
    if target.1.isEmpty then .error .empty else .ok ⟨.ofList target.1, target.2, left.2⟩ := by
  unfold ofInner cutAt
  cases Chars.cut? ['|'] s with
  | none => cases bare : Chars.cut? ['#'] s <;> simp only [bare]
  | some parts => cases anchored : Chars.cut? ['#'] (Chars.trim parts.1) <;> simp only [anchored]

theorem ofInnerIff {s : List Char} {l : WikiLink} : ofInner s = .ok l ↔ Reads s l := by
  rw [ofInnerEq]
  cases bar : cutAt '|' s with
  | mk left label =>
    cases hash : cutAt '#' left with
    | mk target anchor =>
      dsimp only
      rw [hash]
      dsimp only
      constructor
      · intro read
        split at read
        · cases read
        · rename_i filled
          cases read
          refine ⟨⟨left, cutAtIff.mp bar, by rw [String.toList_ofList]; exact cutAtIff.mp hash⟩, ?_⟩
          simpa [← String.toList_inj] using filled
      · intro reads
        obtain ⟨⟨left', cutLabel, cutAnchor⟩, filled⟩ := reads
        cases bar.symm.trans (cutAtIff.mpr cutLabel)
        have same := hash.symm.trans (cutAtIff.mpr cutAnchor)
        have some : l.target.toList ≠ [] := fun none => filled (String.toList_inj.mp none)
        obtain ⟨rfl, rfl⟩ := Prod.mk.inj same
        rw [if_neg (by simpa using some), String.ofList_toList]

theorem innerIff {text : String} {inner : List Char} :
    inner? (Chars.trim text.toList) = some inner ↔ Brackets text inner := by
  have split : inner? (Chars.trim text.toList) = ((['[', '['].isPrefixOf? (Chars.trim text.toList)).bind
      fun rest => [']', ']'].isSuffixOf? rest).map Chars.trim := by
    unfold inner?
    cases ['[', '['].isPrefixOf? (Chars.trim text.toList) <;> rfl
  rw [split, Option.map_eq_some_iff]
  constructor
  · intro found
    obtain ⟨between, found, rfl⟩ := found
    exact ⟨between, Chars.betweenIff.mp found, rfl⟩
  · intro brackets
    obtain ⟨between, whole, rfl⟩ := brackets
    exact ⟨between, Chars.betweenIff.mpr whole, rfl⟩

theorem firstPart {s : List Char} : (s.takeWhile fun c => !isSeparator c) = "..".toList ↔
    s = "..".toList ∨ ∃ c rest, s = "..".toList ++ c :: rest ∧ isSeparator c = true := by
  constructor
  · intro first
    have whole := List.takeWhile_append_dropWhile (p := fun c => !isSeparator c) (l := s)
    rw [first] at whole
    cases rest : s.dropWhile fun c => !isSeparator c with
    | nil => exact .inl (by rw [← whole, rest, List.append_nil])
    | cons c more =>
      have head := List.head?_dropWhile_not (fun c => !isSeparator c) s
      rw [rest] at head
      exact .inr ⟨c, more, by rw [← whole, rest], by simpa using head⟩
  · intro either
    cases either with
    | inl same => rw [same]; decide
    | inr more =>
      obtain ⟨c, rest, rfl, sign⟩ := more
      have point : isSeparator '.' = false := by decide
      simp [point, sign]

theorem traversesIff {s : List Char} : traverses s = true ↔ Climbs s := by
  simp only [traverses, Bool.or_eq_true, Chars.containsIff, beq_iff_eq, firstPart]
  constructor
  · intro climbs
    rcases climbs with (slash | backslash) | (same | first)
    · exact .slash slash
    · exact .backslash backslash
    · exact .alone same
    · obtain ⟨c, rest, rfl, sign⟩ := first
      simp only [isSeparator, Bool.or_eq_true, decide_eq_true_eq] at sign
      rcases sign with ((rfl | rfl) | rfl) | rfl
      · exact .slash ⟨[], rest, rfl⟩
      · exact .backslash ⟨[], rest, rfl⟩
      · exact .labelled ⟨rest, rfl⟩
      · exact .anchored ⟨rest, rfl⟩
  · intro climbs
    cases climbs with
    | slash inside => exact .inl (.inl inside)
    | backslash inside => exact .inl (.inr inside)
    | alone same => exact .inr (.inl same)
    | anchored starts =>
      obtain ⟨rest, rfl⟩ := starts
      exact .inr (.inr ⟨'#', rest, rfl, by decide⟩)
    | labelled starts =>
      obtain ⟨rest, rfl⟩ := starts
      exact .inr (.inr ⟨'|', rest, rfl, by decide⟩)

theorem parseIff {text : String} {l : WikiLink} : parse text = .ok l ↔
    ∃ inner, Brackets text inner ∧ ¬Climbs inner ∧ Reads inner l := by
  constructor
  · intro read
    unfold parse at read
    dsimp only at read
    split at read
    · cases read
    · rename_i inner stands
      split at read
      · cases read
      · split at read
        · cases read
        · rename_i level
          exact ⟨inner, innerIff.mp stands, mt traversesIff.mpr level, ofInnerIff.mp read⟩
  · intro stands
    obtain ⟨inner, brackets, level, reads⟩ := stands
    unfold parse
    dsimp only
    rw [innerIff.mpr brackets]
    dsimp only
    rw [if_neg (by simpa using reads.inner), if_neg (mt traversesIff.mp level), ofInnerIff.mpr reads]

theorem CutAt.trimmed {sign : Char} {s left : List Char} {right : Option String} (cut : CutAt sign s left right)
    (trimmed : Chars.trim s = s) : Chars.trim left = left := by
  cases cut with
  | whole => exact trimmed
  | parts => exact Chars.trimTwice _

theorem Brackets.trimmed {text : String} {inner : List Char} (brackets : Brackets text inner) :
    Chars.trim inner = inner := by
  obtain ⟨between, _, rfl⟩ := brackets
  exact Chars.trimTwice between

structure Formed (l : WikiLink) : Prop where
  filled : l.target ≠ ""
  trimmed : Text.trim l.target = l.target

theorem parseFormed {text : String} {l : WikiLink} (read : parse text = .ok l) : l.Formed := by
  obtain ⟨inner, brackets, _, ⟨left, label, anchor⟩, filled⟩ := parseIff.mp read
  refine ⟨filled, ?_⟩
  rw [Text.trim, anchor.trimmed (label.trimmed brackets.trimmed), String.ofList_toList]

end Syllabus.WikiLink
