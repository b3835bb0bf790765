import Mathlib.Data.List.TakeWhile
import Syllabus.Excerpt.Transcript
import Syllabus.Proofs.Timestamp.Reading

/-! Times at the start of a line of a transcript. The form of such a line admits the digits of all scripts and fields of
any size; a line is marked just if it has that form with a time in ASCII digits whose fields are in range. No line has
the form in two ways, so that one with another time in it is not marked. -/
namespace Syllabus.Transcript
open Text (isBlank isDecimal)
open Timestamp (Face)

structure Marks (digit : Char → Bool) (line : List Char) (f : Face) (rest : List Char) : Prop where
  formed : f.Formed digit
  shape : ∃ before opening closing gap, (∀ c ∈ before, isBlank c = true) ∧ (opening = [] ∨ opening = ['[']) ∧
    (closing = [] ∨ closing = [']']) ∧ (∀ c ∈ gap, isBlank c = true) ∧
    line = before ++ (opening ++ (f.text ++ (closing ++ (gap ++ '-' :: rest))))

structure Valid (f : Face) : Prop where
  ascii : f.Formed Char.isDigit
  bounded : f.Bounded

def Timed (line : List Char) (start : Timestamp) (text : String) : Prop :=
  ∃ f rest, Marks isDecimal line f rest ∧ Valid f ∧ start = f.time ∧ text = .ofList (Chars.trim rest)

def Marked (line : List Char) : Prop := ∃ start text, Timed line start text

def Mistimed (line : List Char) : Prop := ∃ f rest, Marks isDecimal line f rest ∧ ¬Valid f

section Form

def Apart (digit : Char → Bool) : Prop :=
  ∀ c, digit c = true → isBlank c = false ∧ c ∉ ['[', ']', '-', ':', '.']

theorem decimalApart : Apart isDecimal := by
  intro c digit
  obtain ⟨first, member, within⟩ := List.any_eq_true.mp digit
  simp only [Bool.and_eq_true, decide_eq_true_eq] at within
  constructor
  · have ranges : ∀ first ∈ Text.decimalZeros, ∀ range ∈ Text.blankRanges, first + 9 < range.1 ∨ range.2 < first := by
      decide
    refine Bool.eq_false_iff.mpr fun blank => ?_
    obtain ⟨range, among, inside⟩ := List.any_eq_true.mp blank
    simp only [Bool.and_eq_true, decide_eq_true_eq] at inside
    have disjoint := ranges first member range among
    omega
  · intro sign
    have undigital : ['[', ']', '-', ':', '.'].any isDecimal = false := by decide
    rw [List.any_eq_true.mpr ⟨c, sign, digit⟩] at undigital
    cases undigital

def isOfTime (digit : Char → Bool) (c : Char) : Bool := digit c || c = ':' || c = '.'

variable {digit : Char → Bool} {line rest : List Char} {f : Face}

theorem dropOneSplit (c : Char) (s : List Char) : ∃ one, (one = [] ∨ one = [c]) ∧ s = one ++ dropOne c s := by
  cases s with
  | nil => exact ⟨[], .inl rfl, rfl⟩
  | cons d rest =>
    by_cases same : d = c
    · exact ⟨[c], .inr rfl, by simp [dropOne, same]⟩
    · exact ⟨[], .inl rfl, by simp [dropOne, same]⟩

theorem dropOneBehind {c : Char} {one s : List Char} (either : one = [] ∨ one = [c]) (other : ∀ d ∈ s.head?, d ≠ c) :
    dropOne c (one ++ s) = s := by
  rcases either with rfl | rfl
  · cases s with
    | nil => rfl
    | cons d rest => simp [dropOne, other d rfl]
  · simp [dropOne]

theorem textHead (formed : f.Formed digit) : ∃ c rest, f.text = c :: rest ∧ digit c = true := by
  cases hours : f.hours with
  | none =>
    have length := formed.minutes.1
    cases minutes : f.minutes with
    | nil => simp [minutes] at length
    | cons c rest =>
      have head := formed.minutes.2 c (by simp [minutes])
      exact ⟨c, rest ++ ':' :: (f.seconds ++ Face.fractionText f.fraction),
        by simp [Face.text, Face.fields, hours, minutes], head⟩
  | some s =>
    obtain ⟨filled, each⟩ := formed.hours s hours
    obtain ⟨c, rest, rfl⟩ := List.exists_cons_of_ne_nil filled
    exact ⟨c, rest ++ ':' :: (f.minutes ++ ':' :: (f.seconds ++ Face.fractionText f.fraction)),
      by simp [Face.text, Face.fields, hours], each c List.mem_cons_self⟩

theorem gapStops {gap : List Char} (blanks : ∀ c ∈ gap, isBlank c = true) :
    ∀ c ∈ (gap ++ '-' :: rest).head?, c = '-' ∨ isBlank c = true := by
  intro c head
  cases gap with
  | nil => exact .inl (Option.some.inj head).symm
  | cons d more => exact .inr (Option.some.inj head ▸ blanks d List.mem_cons_self)

theorem timeStops (apart : Apart digit) {c : Char} (stops : c = ']' ∨ c = '-' ∨ isBlank c = true) :
    isOfTime digit c = false := by
  have undigital : digit c = false := by
    refine Bool.eq_false_iff.mpr fun digital => ?_
    obtain ⟨solid, noSign⟩ := apart c digital
    rcases stops with rfl | rfl | blank
    · exact noSign (by simp)
    · exact noSign (by simp)
    · rw [solid] at blank
      cases blank
  have colon : isBlank ':' = false := by decide
  have point : isBlank '.' = false := by decide
  rw [isOfTime, undigital]
  rcases stops with rfl | rfl | blank
  · rfl
  · rfl
  · have noColon : c ≠ ':' := fun same => by simp [same, colon] at blank
    have noPoint : c ≠ '.' := fun same => by simp [same, point] at blank
    simp [noColon, noPoint]

theorem headRead {before opening s : List Char} {c : Char} (blanks : ∀ c ∈ before, isBlank c = true)
    (opens : opening = [] ∨ opening = ['[']) (head : s.head? = some c) (solid : isBlank c = false) (other : c ≠ '[') :
    dropOne '[' (Chars.trimStart (before ++ (opening ++ s))) = s := by
  have start : Chars.trimStart (before ++ (opening ++ s)) = opening ++ s := by
    refine Chars.dropWhileAll blanks fun d first => ?_
    rcases opens with rfl | rfl
    · exact Option.some.inj (head.symm.trans first) ▸ solid
    · exact Option.some.inj first ▸ by decide
  rw [start]
  exact dropOneBehind opens fun d first same => other (Option.some.inj (head.symm.trans first) |>.trans same)

theorem tailRead {closing gap : List Char} (closes : closing = [] ∨ closing = [']'])
    (blanks : ∀ c ∈ gap, isBlank c = true) :
    Chars.trimStart (dropOne ']' (closing ++ (gap ++ '-' :: rest))) = '-' :: rest := by
  have closed : dropOne ']' (closing ++ (gap ++ '-' :: rest)) = gap ++ '-' :: rest := by
    refine dropOneBehind closes fun d head same => ?_
    rcases gapStops blanks d head with hyphen | blank
    · exact absurd (same.symm.trans hyphen) (by decide)
    · exact absurd (same ▸ blank) (by decide)
  have hyphen : isBlank '-' = false := by decide
  rw [closed]
  exact Chars.dropWhileAll blanks (by simpa using hyphen)

theorem timeTaken {time tail : List Char} (all : ∀ c ∈ time, isOfTime digit c = true)
    (stops : ∀ c ∈ tail.head?, isOfTime digit c = false) : (time ++ tail).takeWhile (isOfTime digit) = time := by
  have ends : tail.takeWhile (isOfTime digit) = [] := by
    cases tail with
    | nil => rfl
    | cons c rest => exact List.takeWhile_cons_of_neg (by simp [stops c rfl])
  rw [List.takeWhile_append_of_pos all, ends, List.append_nil]

theorem marksRead (apart : Apart digit) (marks : Marks digit line f rest) :
    (dropOne '[' (Chars.trimStart line)).takeWhile (isOfTime digit) = f.text ∧
      Chars.trimStart (dropOne ']' ((dropOne '[' (Chars.trimStart line)).drop f.text.length)) = '-' :: rest := by
  obtain ⟨formed, before, opening, closing, gap, blanks, opens, closes, between, rfl⟩ := marks
  obtain ⟨c, more, text, digital⟩ := textHead formed
  obtain ⟨solid, noSign⟩ := apart c digital
  have stops : ∀ d ∈ (closing ++ (gap ++ '-' :: rest)).head?, isOfTime digit d = false := by
    intro d head
    refine timeStops apart ?_
    rcases closes with rfl | rfl
    · exact .inr (gapStops between d head)
    · exact .inl (Option.some.inj head).symm
  have ofTime : ∀ d ∈ f.text, isOfTime digit d = true := by
    intro d member
    rcases Timestamp.textChars formed member with digital | rfl | rfl
    · rw [isOfTime, digital, Bool.true_or, Bool.true_or]
    · simp [isOfTime]
    · simp [isOfTime]
  rw [headRead blanks opens (by rw [text]; rfl) solid (fun same => noSign (by simp [same])), List.drop_left]
  exact ⟨timeTaken ofTime stops, tailRead closes between⟩

theorem blanksSplit (s : List Char) : s = s.takeWhile isBlank ++ Chars.trimStart s :=
  List.takeWhile_append_dropWhile.symm

theorem readMarks (formed : f.Formed digit)
    (time : (dropOne '[' (Chars.trimStart line)).takeWhile (isOfTime digit) = f.text)
    (behind : Chars.trimStart (dropOne ']' ((dropOne '[' (Chars.trimStart line)).drop f.text.length)) = '-' :: rest) :
    Marks digit line f rest := by
  obtain ⟨opening, opens, opened⟩ := dropOneSplit '[' (Chars.trimStart line)
  obtain ⟨tail, whole⟩ := time ▸ List.takeWhile_prefix (l := dropOne '[' (Chars.trimStart line)) (isOfTime digit)
  rw [← whole, List.drop_left] at behind
  obtain ⟨closing, closes, closed⟩ := dropOneSplit ']' tail
  have gap := blanksSplit (dropOne ']' tail)
  rw [behind] at gap
  refine ⟨formed, line.takeWhile isBlank, opening, closing, (dropOne ']' tail).takeWhile isBlank,
    fun c member => List.mem_takeWhile_imp member, opens, closes, fun c member => List.mem_takeWhile_imp member, ?_⟩
  calc line = line.takeWhile isBlank ++ Chars.trimStart line := blanksSplit line
    _ = line.takeWhile isBlank ++ (opening ++ (f.text ++ tail)) := by rw [whole, ← opened]
    _ = _ := by rw [← gap, ← closed]

end Form

section Marker

variable {line : List Char} {start : Timestamp}

theorem digitApart : Apart Char.isDigit := fun c digit => decimalApart c (Text.decimalOfDigit digit)

theorem markerIff {text : List Char} : marker? line = some (start, text) ↔
    ∃ f rest, Marks Char.isDigit line f rest ∧ f.Bounded ∧ start = f.time ∧ text = Chars.trim rest := by
  have sameChars : isTimeChar = isOfTime Char.isDigit := rfl
  unfold marker?
  dsimp only
  rw [sameChars]
  constructor
  · intro found
    split at found
    · rename_i rest behind
      obtain ⟨t, read, same⟩ := Option.map_eq_some_iff.mp found
      cases same
      obtain ⟨f, shown, formed, bounded, time⟩ := Timestamp.ofCharsIff.mp read
      rw [shown] at behind
      exact ⟨f, rest, readMarks formed shown behind, bounded, time, rfl⟩
    · cases found
  · intro timed
    obtain ⟨f, rest, marks, bounded, rfl, rfl⟩ := timed
    obtain ⟨time, behind⟩ := marksRead digitApart marks
    have read : Timestamp.ofChars? f.text = some f.time := Timestamp.ofCharsIff.mpr ⟨f, rfl, marks.formed, bounded, rfl⟩
    rw [time, behind, read]
    rfl

theorem timedIff {text : String} : Timed line start text ↔ marker? line = some (start, text.toList) := by
  rw [markerIff]
  constructor
  · intro timed
    obtain ⟨f, rest, marks, valid, rfl, rfl⟩ := timed
    exact ⟨f, rest, ⟨valid.ascii, marks.shape⟩, valid.bounded, rfl, String.toList_ofList⟩
  · intro timed
    obtain ⟨f, rest, marks, bounded, rfl, text⟩ := timed
    refine ⟨f, rest, ⟨marks.formed.mono fun _ => Text.decimalOfDigit, marks.shape⟩, ⟨marks.formed, bounded⟩, rfl, ?_⟩
    rw [← text, String.ofList_toList]

theorem unmarkedIff : ¬Marked line ↔ marker? line = none := by
  rw [Option.eq_none_iff_forall_ne_some]
  constructor
  · intro unmarked found same
    exact unmarked ⟨found.1, .ofList found.2, timedIff.mpr (by rwa [String.toList_ofList])⟩
  · intro none marked
    obtain ⟨start, text, timed⟩ := marked
    exact none _ (timedIff.mp timed)

theorem mistimedUnmarked (mistimed : Mistimed line) : ¬Marked line := by
  intro marked
  obtain ⟨f, rest, marks, invalid⟩ := mistimed
  obtain ⟨_, _, g, rest', marks', valid, _⟩ := marked
  have same := (marksRead decimalApart marks).1.symm.trans (marksRead decimalApart marks').1
  rw [Timestamp.textOnce (by decide) (by decide) marks.formed marks'.formed same] at invalid
  exact invalid valid

end Marker

end Syllabus.Transcript
