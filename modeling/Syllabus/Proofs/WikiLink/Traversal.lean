import Syllabus.Proofs.Identifiers
import Syllabus.Proofs.WikiLink.Printing

/-! Targets that climb out of their directory. Two points with a slash behind them are found wherever they stand in a
link. Without one they are found only where the link starts with them and a sign follows at once. So they remain as the
last part of a target, and alone where blanks part them from the sign. -/
namespace Syllabus

theorem Chars.headPiece {sep : Char → Bool} {s piece : List Char} {after : List (List Char)}
    (cut : s.splitOnP sep = piece :: after) :
    (after = [] ∧ s = piece) ∨ ∃ c rest, s = piece ++ c :: rest ∧ sep c = true ∧ rest.splitOnP sep = after := by
  induction s generalizing piece with
  | nil =>
    rw [List.splitOnP_nil] at cut
    cases cut
    exact .inl ⟨rfl, rfl⟩
  | cons c rest ih =>
    rw [List.splitOnP_cons_eq_if_modifyHead] at cut
    split at cut
    · rename_i here
      obtain ⟨rfl, rfl⟩ := List.cons.inj cut
      exact .inr ⟨c, rest, rfl, here, rfl⟩
    · cases pieces : rest.splitOnP sep with
      | nil => exact absurd pieces (List.splitOnP_ne_nil sep rest)
      | cons p ps =>
        rw [pieces, List.modifyHead_cons] at cut
        obtain ⟨rfl, rfl⟩ := List.cons.inj cut
        cases ih pieces with
        | inl all => exact .inl ⟨all.1, congrArg (c :: ·) all.2⟩
        | inr more =>
          obtain ⟨d, tail, whole, found, later⟩ := more
          exact .inr ⟨d, tail, congrArg (c :: ·) whole, found, later⟩

theorem Chars.pieceStands {sep : Char → Bool} {s piece : List Char} {before after : List (List Char)}
    (cut : s.splitOnP sep = before ++ piece :: after) : ∃ first rest, s = first ++ (piece ++ rest) ∧
      (before = [] ∧ first = [] ∨ before ≠ [] ∧ ∃ more c, first = more ++ [c] ∧ sep c = true) ∧
      (after = [] ∧ rest = [] ∨ after ≠ [] ∧ ∃ c more, rest = c :: more ∧ sep c = true) := by
  induction before generalizing s with
  | nil =>
    cases headPiece cut with
    | inl all => exact ⟨[], [], by rw [all.2, List.append_nil]; rfl, .inl ⟨rfl, rfl⟩, .inl ⟨all.1, rfl⟩⟩
    | inr more =>
      obtain ⟨c, rest, whole, found, later⟩ := more
      have filled : after ≠ [] := later ▸ List.splitOnP_ne_nil sep rest
      exact ⟨[], c :: rest, whole, .inl ⟨rfl, rfl⟩, .inr ⟨filled, c, rest, rfl, found⟩⟩
  | cons b bs ih =>
    cases headPiece cut with
    | inl all => exact absurd all.1 (by simp)
    | inr more =>
      obtain ⟨c, rest, whole, found, later⟩ := more
      obtain ⟨first, tail, same, start, stop⟩ := ih later
      refine ⟨b ++ c :: first, tail, by rw [whole, same]; simp, .inr ⟨List.cons_ne_nil b bs, ?_⟩, stop⟩
      cases start with
      | inl none => exact ⟨b, c, by rw [none.2], found⟩
      | inr some =>
        obtain ⟨_, front, d, last, there⟩ := some
        exact ⟨b ++ c :: front, d, by rw [last]; simp, there⟩

namespace WikiLink
open Text (isBlank)

def isSlash (c : Char) : Bool := c = '/' || c = '\\'

def components (target : String) : List String := (Chars.splitOn isSlash target.toList).map .ofList

def Gapped (text : String) : Prop := ∃ blanks sign after, Brackets text ("..".toList ++ (blanks ++ sign :: after)) ∧
  blanks ≠ [] ∧ (∀ c ∈ blanks, isBlank c = true) ∧ (sign = '#' ∨ sign = '|')

structure Remains (text : String) (l : WikiLink) : Prop where
  last : ∀ before after, components l.target = before ++ ".." :: after → after = []
  exact : ".." ∈ components l.target ↔ (l.target = ".." ∧ Gapped text) ∨
    Text.endsWith "/.." l.target = true ∨ Text.endsWith "\\.." l.target = true

inductive Gap : List Char → Prop where
  | none : Gap []
  | sign {blanks sign after} (gap : ∀ c ∈ blanks, isBlank c = true) (found : sign = '#' ∨ sign = '|') :
      Gap (blanks ++ sign :: after)

theorem Gap.append {rest more : List Char} (gap : Gap rest) (later : Gap more) : Gap (rest ++ more) := by
  cases gap with
  | none => exact later
  | @sign blanks sign after gap found =>
    rw [List.append_assoc]
    exact .sign gap found

theorem CutAt.front {sign : Char} {s left : List Char} {right : Option String} (cut : CutAt sign s left right)
    (found : sign = '#' ∨ sign = '|') (bare : Chars.Bare s) (filled : left ≠ []) : ∃ rest, s = left ++ rest ∧ Gap rest := by
  cases cut with
  | whole => exact ⟨[], by rw [List.append_nil], .none⟩
  | @parts before after split =>
    obtain ⟨c, rest, first, solid⟩ := bare.head
    cases before with
    | nil => exact absurd rfl filled
    | cons d more =>
      obtain ⟨rfl, _⟩ := List.cons.inj (split.symm.trans first)
      obtain ⟨tail, whole, blanks⟩ := Chars.trimEndSplit (d :: more)
      refine ⟨tail ++ sign :: after, ?_, .sign blanks found⟩
      rw [split, Chars.trimSolid solid, ← Chars.trimEndSolid solid, ← List.append_assoc, ← whole]

theorem Reads.front {inner : List Char} {l : WikiLink} (reads : Reads inner l) (trimmed : Chars.trim inner = inner) :
    ∃ rest, inner = l.target.toList ++ rest ∧ Gap rest := by
  have some := reads.inner
  obtain ⟨⟨left, label, anchor⟩, filled⟩ := reads
  have named : l.target.toList ≠ [] := fun none => filled (String.toList_inj.mp none)
  have leftSome : left ≠ [] := fun none => named (anchor.nil none)
  have leftBare : Chars.Bare left := Chars.bareIff.mpr ⟨leftSome, label.trimmed trimmed⟩
  obtain ⟨behind, whole, gap⟩ := label.front (.inr rfl) (Chars.bareIff.mpr ⟨some, trimmed⟩) leftSome
  obtain ⟨between, same, gapBefore⟩ := anchor.front (.inl rfl) leftBare named
  exact ⟨between ++ behind, by rw [whole, same, List.append_assoc], gapBefore.append gap⟩

theorem gappedOfPoints {text : String} {l : WikiLink} (read : parse text = .ok l) (points : l.target = "..") :
    Gapped text := by
  obtain ⟨inner, brackets, level, reads⟩ := parseIff.mp read
  obtain ⟨rest, whole, gap⟩ := reads.front brackets.trimmed
  rw [points] at whole
  cases gap with
  | none => exact absurd (.alone (by rw [whole, List.append_nil])) level
  | @sign blanks sign after gap found =>
    refine ⟨blanks, sign, after, whole ▸ brackets, ?_, gap, found⟩
    intro none
    rw [none, List.nil_append] at whole
    cases found with
    | inl hash => exact level (.anchored ⟨after, by rw [whole, hash]; rfl⟩)
    | inr bar => exact level (.labelled ⟨after, by rw [whole, bar]; rfl⟩)

theorem slashIff {c : Char} : isSlash c = true ↔ c = '/' ∨ c = '\\' := by simp [isSlash]

theorem componentStands {target : String} {before after : List String}
    (cut : components target = before ++ ".." :: after) :
    ∃ first rest, target.toList = first ++ ("..".toList ++ rest) ∧
      (before = [] ∧ first = [] ∨ before ≠ [] ∧ ∃ more c, first = more ++ [c] ∧ isSlash c = true) ∧
      (after = [] ∧ rest = [] ∨ after ≠ [] ∧ ∃ c more, rest = c :: more ∧ isSlash c = true) := by
  rw [components, Chars.splitPieces, List.map_eq_append_iff] at cut
  obtain ⟨pieces, others, whole, rfl, later⟩ := cut
  obtain ⟨piece, more, rfl, same, rfl⟩ := List.map_eq_cons_iff.mp later
  obtain rfl : piece = "..".toList := by rw [← String.toList_ofList (l := piece), same]
  obtain ⟨first, rest, stands, start, stop⟩ := Chars.pieceStands whole
  exact ⟨first, rest, stands, by simpa using start, by simpa using stop⟩

theorem componentsAppend (start rest : String) {c : Char} (slash : isSlash c = true) {target : String}
    (whole : target.toList = start.toList ++ c :: rest.toList) :
    components target = components start ++ components rest := by
  simp only [components, Chars.splitPieces]
  rw [whole, List.splitOnP_append_cons _ _ slash, List.map_append]

theorem pointsOfEnd {tail target : String} {c : Char} (slash : isSlash c = true) (ends : Text.endsWith tail target = true)
    (marks : tail.toList = c :: "..".toList) : ".." ∈ components target := by
  obtain ⟨start, whole⟩ := List.isSuffixOf_iff_suffix.mp ends
  rw [marks, ← String.toList_ofList (l := start)] at whole
  rw [componentsAppend _ ".." slash whole.symm]
  exact List.mem_append_right _ (by decide)

theorem pointsLast {target : String} (level : ¬Climbing target.toList) {before after : List String}
    (cut : components target = before ++ ".." :: after) : after = [] := by
  obtain ⟨first, rest, whole, _, stop⟩ := componentStands cut
  cases stop with
  | inl none => exact none.1
  | inr more =>
    obtain ⟨_, c, tail, rfl, slash⟩ := more
    cases slashIff.mp slash with
    | inl slash => exact absurd (.inl ⟨first, tail, by rw [whole, slash]; simp⟩) level
    | inr backslash => exact absurd (.inr ⟨first, tail, by rw [whole, backslash]; simp⟩) level

theorem endOfPoints {target : String} {before : List String} (cut : components target = before ++ [".."]) :
    target = ".." ∨ Text.endsWith "/.." target = true ∨ Text.endsWith "\\.." target = true := by
  obtain ⟨first, rest, whole, start, stop⟩ := componentStands cut
  obtain rfl : rest = [] := stop.elim And.right fun more => absurd rfl more.1
  rw [List.append_nil] at whole
  cases start with
  | inl none => exact .inl (String.toList_inj.mp (by rw [whole, none.2, List.nil_append]))
  | inr some =>
    obtain ⟨_, more, c, rfl, slash⟩ := some
    rw [List.append_assoc] at whole
    cases slashIff.mp slash with
    | inl slash => exact .inr (.inl (List.isSuffixOf_iff_suffix.mpr ⟨more, by rw [whole, slash]; rfl⟩))
    | inr backslash => exact .inr (.inr (List.isSuffixOf_iff_suffix.mpr ⟨more, by rw [whole, backslash]; rfl⟩))

theorem pointsAtEndOnly {text : String} {l : WikiLink} (read : parse text = .ok l) : Remains text l := by
  have level := (parsedProper read).level.1
  refine ⟨fun _ _ => pointsLast level, ?_, ?_⟩
  · intro member
    obtain ⟨before, after, cut⟩ := List.append_of_mem member
    obtain rfl := pointsLast level cut
    cases endOfPoints cut with
    | inl points => exact .inl ⟨points, gappedOfPoints read points⟩
    | inr ends => exact .inr ends
  · intro ends
    rcases ends with points | slash | backslash
    · rw [points.1]
      decide
    · exact pointsOfEnd (c := '/') rfl slash rfl
    · exact pointsOfEnd (c := '\\') rfl backslash rfl

theorem gappedPointsRemain :
    parse "[[.. #x]]" = .ok ⟨"..", some "x", none⟩ ∧ Remains "[[.. #x]]" ⟨"..", some "x", none⟩ := by
  have read : parse "[[.. #x]]" = .ok ⟨"..", some "x", none⟩ := by decide +kernel
  exact ⟨read, pointsAtEndOnly read⟩

theorem parentTargetsRead :
    (parse "[[.. #x]]" = .ok ⟨"..", some "x", none⟩ ∧ ".." ∈ components "..") ∧
      (parse "[[./..]]" = .ok ⟨"./..", none, none⟩ ∧ ".." ∈ components "./..") ∧
      parse "[[..#x]]" = .error (.pathTraversal "..#x") ∧ parse "[[./../]]" = .error (.pathTraversal "./../") := by
  decide +kernel

end WikiLink
end Syllabus
