import Mathlib.Data.List.Forall2
import Mathlib.Data.List.TakeWhile
import Syllabus.Proofs.Text

/-! Lines of a text and their numbers. The lines of a text are those of its raw lines, so that a text cut
between two of them keeps its numbers on both sides. Lines that are joined and cut again keep their numbers
too: a line may lose carriage returns at its end, and blank ones at the end of the text may go. -/
namespace Syllabus

namespace Chars

def unreturned : List Char → List Char
  | [] => []
  | c :: rest => if c = '\r' ∧ rest = [] then [] else c :: unreturned rest

def lineOf (raw : List Char) : List Char := if raw.getLast? = some '\n' then unreturned raw.dropLast else raw

theorem unreturnedTrails (s : List Char) : s = unreturned s ∨ s = unreturned s ++ ['\r'] := by
  induction s with
  | nil => exact .inl rfl
  | cons c rest ih =>
    unfold unreturned
    split
    · rename_i alone
      obtain ⟨rfl, rfl⟩ := alone
      exact .inr rfl
    · rcases ih with same | shorter
      · exact .inl (congrArg _ same)
      · exact .inr (congrArg _ shorter)

theorem rawLinesFilled {s line : List Char} {more : List (List Char)} (cut : rawLines s = line :: more) :
    line ≠ [] := by
  cases s with
  | nil => cases cut
  | cons c rest =>
    rw [rawLines] at cut
    split at cut
    · cases cut
      exact List.cons_ne_nil _ _
    · split at cut <;> cases cut <;> exact List.cons_ne_nil _ _

theorem rawLinesTail {s line : List Char} {more : List (List Char)} (cut : rawLines s = line :: more) :
    rawLines more.flatten = more := by
  induction s generalizing line more with
  | nil => cases cut
  | cons c rest ih =>
    rw [rawLines] at cut
    split at cut
    · cases cut
      rw [rawLinesJoin]
    · split at cut
      · cases cut
        rfl
      · rename_i first later cutRest
        cases cut
        exact ih cutRest

theorem rawLinesRest {before after : List (List Char)} {s : List Char} (cut : rawLines s = before ++ after) :
    rawLines after.flatten = after := by
  induction before generalizing s with
  | nil =>
    rw [List.nil_append] at cut
    rw [← cut, rawLinesJoin]
  | cons line more ih =>
    have tail := rawLinesTail cut
    exact ih tail

theorem lineOfCons {c : Char} {raw : List Char} (filled : raw ≠ []) (text : ¬(c = '\r' ∧ raw = ['\n'])) :
    lineOf (c :: raw) = c :: lineOf raw := by
  unfold lineOf
  rw [List.getLast?_cons_of_ne_nil filled, List.dropLast_cons_of_ne_nil filled]
  split
  · rename_i ends
    have apart : ¬(c = '\r' ∧ raw.dropLast = []) := by
      intro both
      have whole := List.dropLast_append_getLast? '\n' ends
      rw [both.2, List.nil_append] at whole
      exact text ⟨both.1, whole.symm⟩
    rw [unreturned, if_neg apart]
  · rfl

theorem linesRaw (s : List Char) : lines s = (rawLines s).map lineOf := by
  induction s with
  | nil => rfl
  | cons c rest ih =>
    rw [lines, rawLines]
    split
    · rename_i feed
      subst feed
      rw [ih]
      rfl
    · rename_i noFeed
      split
      · rename_i ends
        obtain ⟨rfl, head⟩ := ends
        obtain ⟨more, rfl⟩ : ∃ more, rest = '\n' :: more := List.head?_eq_some_iff.mp head
        rw [ih, rawLines, if_pos rfl]
        rfl
      · rename_i inside
        rw [ih]
        cases cut : rawLines rest with
        | nil =>
          have alone : lineOf [c] = [c] := by simp [lineOf, noFeed]
          simp [alone]
        | cons line more =>
          have filled := rawLinesFilled cut
          have apart : ¬(c = '\r' ∧ line = ['\n']) := by
            intro both
            have whole := rawLinesJoin rest
            rw [cut, both.2] at whole
            exact inside ⟨both.1, by rw [← whole]; rfl⟩
          simp [lineOfCons filled apart]

theorem linesNone {s : List Char} (none : lines s = []) : s = [] := by
  rw [linesRaw, List.map_eq_nil_iff] at none
  rw [← rawLinesJoin s, none, List.flatten_nil]

theorem lineOfEnd (raw : List Char) :
    ∃ tail, raw = lineOf raw ++ tail ∧ (tail = [] ∨ tail = ['\n'] ∨ tail = ['\r', '\n']) := by
  unfold lineOf
  split
  · rename_i ends
    have whole := List.dropLast_append_getLast? '\n' ends
    cases unreturnedTrails raw.dropLast with
    | inl same => exact ⟨['\n'], by rw [← same, whole], .inr (.inl rfl)⟩
    | inr shorter =>
      refine ⟨['\r', '\n'], ?_, .inr (.inr rfl)⟩
      calc raw = raw.dropLast ++ ['\n'] := whole.symm
        _ = unreturned raw.dropLast ++ ['\r'] ++ ['\n'] := by rw [← shorter]
        _ = unreturned raw.dropLast ++ ['\r', '\n'] := by rw [List.append_assoc]; rfl
  · exact ⟨[], by rw [List.append_nil], .inl rfl⟩

theorem endBlanks {tail : List Char} (ends : tail = [] ∨ tail = ['\n'] ∨ tail = ['\r', '\n']) :
    ∀ c ∈ tail, Text.isBlank c = true := by
  have feed : Text.isBlank '\n' = true := by decide
  have carriage : Text.isBlank '\r' = true := by decide
  rcases ends with rfl | rfl | rfl <;> simp [feed, carriage]

theorem linesCut {s : List Char} {before after : List (List Char)} (cut : rawLines s = before ++ after) :
    lines s = before.map lineOf ++ lines after.flatten := by
  rw [linesRaw, linesRaw after.flatten, rawLinesRest cut, cut, List.map_append]

theorem linesPlain {s line : List Char} (member : line ∈ lines s) : '\n' ∉ line := by
  induction s generalizing line with
  | nil => cases member
  | cons c rest ih =>
    rw [lines] at member
    split at member
    · rcases List.mem_cons.mp member with same | later
      · rw [same]
        exact List.not_mem_nil
      · exact ih later
    · rename_i noFeed
      split at member
      · exact ih member
      · split at member
        · rw [List.mem_singleton.mp member]
          simpa using Ne.symm noFeed
        · rename_i first more cut
          rw [cut] at ih
          rcases List.mem_cons.mp member with same | later
          · have head := ih List.mem_cons_self
            rw [same, List.mem_cons, not_or]
            exact ⟨Ne.symm noFeed, head⟩
          · exact ih (List.mem_cons_of_mem _ later)

theorem linesAppend {a : List Char} (plain : '\n' ∉ a) (rest : List Char) :
    lines (a ++ '\n' :: rest) = unreturned a :: lines rest := by
  induction a with
  | nil => rfl
  | cons c more ih =>
    simp only [List.mem_cons, not_or] at plain
    have noFeed : c ≠ '\n' := Ne.symm plain.1
    rw [List.cons_append, lines, if_neg noFeed, ih plain.2, unreturned]
    have head : (more ++ '\n' :: rest).head? = some '\n' ↔ more = [] := by
      cases more with
      | nil => simp
      | cons d others =>
        have other : d ≠ '\n' := fun same => plain.2 (same ▸ List.mem_cons_self)
        simp [other]
    simp only [head]
    split
    · rename_i alone
      rw [alone.2]
      rfl
    · rfl

theorem linesBehind (a rest : List Char) : lines (a ++ '\n' :: rest) = lines (a ++ ['\n']) ++ lines rest := by
  induction a with
  | nil => rfl
  | cons c more ih =>
    have head : (more ++ '\n' :: rest).head? = (more ++ ['\n']).head? := by cases more <;> rfl
    rw [List.cons_append, List.cons_append, lines, lines, ih, head]
    split
    · rfl
    · split
      · rfl
      · cases cut : lines (more ++ ['\n']) with
        | nil => exact absurd (linesNone cut) (by simp)
        | cons line others => rfl

theorem linesWhole {a : List Char} (plain : '\n' ∉ a) : lines a = if a = [] then [] else [a] := by
  induction a with
  | nil => rfl
  | cons c more ih =>
    simp only [List.mem_cons, not_or] at plain
    have inside : ¬(c = '\r' ∧ more.head? = some '\n') := by
      intro both
      obtain ⟨rest, rfl⟩ := List.head?_eq_some_iff.mp both.2
      exact plain.2 List.mem_cons_self
    rw [lines, if_neg (Ne.symm plain.1), if_neg inside, ih plain.2, if_neg (List.cons_ne_nil _ _)]
    cases more with
    | nil => rfl
    | cons d rest => rfl

def Trails (whole line : List Char) : Prop := ∃ lost, whole = line ++ lost ∧ ∀ c ∈ lost, c = '\r'

theorem Trails.refl (line : List Char) : Trails line line := ⟨[], by simp, by simp⟩

theorem Trails.trans {a b c : List Char} (left : Trails a b) (right : Trails b c) : Trails a c := by
  obtain ⟨lost, rfl, returns⟩ := left
  obtain ⟨more, rfl, others⟩ := right
  refine ⟨more ++ lost, by simp, fun d member => ?_⟩
  rcases List.mem_append.mp member with first | second
  · exact others d first
  · exact returns d second

theorem Trails.unreturned (s : List Char) : Trails s (Chars.unreturned s) := by
  rcases unreturnedTrails s with same | shorter
  · exact ⟨[], by simpa using same, by simp⟩
  · exact ⟨['\r'], shorter, by simp⟩

end Chars

namespace Text

def LineAt (text : String) (first n : Nat) (line : String) : Prop := (line, n) ∈ (lines text).zipIdx first

def Numbered (text : String) (first n : Nat) : Prop := first ≤ n ∧ n < first + (lines text).length

def Trails (whole line : String) : Prop := Chars.Trails whole.toList line.toList

variable {text : String} {first n : Nat} {line : String}

theorem lineAtIff : LineAt text first n line ↔ first ≤ n ∧ (lines text)[n - first]? = some line :=
  List.mk_mem_zipIdx_iff_le_and_getElem?_sub

theorem lineAtRaw : LineAt text 1 n line ↔
    1 ≤ n ∧ ∃ raw, (Chars.rawLines text.toList)[n - 1]? = some raw ∧ line = .ofList (Chars.lineOf raw) := by
  rw [lineAtIff, lines, Chars.linesRaw, List.map_map, List.getElem?_map, Option.map_eq_some_iff]
  simp only [Function.comp_apply, eq_comm (a := line)]

theorem numberedIff : Numbered text first n ↔ ∃ line, LineAt text first n line := by
  simp only [Numbered, lineAtIff, exists_and_left]
  refine and_congr_right fun least => ?_
  rw [← Option.isSome_iff_exists, isSome_getElem?]
  omega

theorem lineAtOnly {other : String} (left : LineAt text first n line) (right : LineAt text first n other) :
    line = other := by
  rw [lineAtIff] at left right
  exact Option.some.inj (left.2.symm.trans right.2)

theorem linesPlain (member : line ∈ lines text) : '\n' ∉ line.toList := by
  obtain ⟨s, inside, rfl⟩ := List.mem_map.mp member
  rw [String.toList_ofList]
  exact Chars.linesPlain inside

theorem linesBehind {front : String} (ended : front = "" ∨ ∃ most, front = most ++ "\n") (rest : String) :
    lines (front ++ rest) = lines front ++ lines rest := by
  cases ended with
  | inl empty =>
    rw [empty, String.empty_append]
    rfl
  | inr feed =>
    obtain ⟨most, rfl⟩ := feed
    have cut := congrArg (List.map String.ofList) (Chars.linesBehind most.toList rest.toList)
    simpa [lines] using cut

def unreturned (s : String) : String := .ofList (Chars.unreturned s.toList)

theorem unreturnedTrails (s : String) : Trails s (unreturned s) := by
  rw [Trails, unreturned, String.toList_ofList]
  exact .unreturned _

/-- The lines of the text that lines make when they are joined. All but the last lose a carriage return, and of an empty
last line there is nothing to see. -/
def rejoined : List String → List String
  | [] => []
  | [a] => if a = "" then [] else [a]
  | a :: b :: more => unreturned a :: rejoined (b :: more)

def Worn (whole ls : List String) : Prop :=
  ∃ kept blanks, whole = kept ++ blanks ∧ (∀ l ∈ blanks, l = "") ∧ List.Forall₂ Trails kept ls

theorem Worn.lengthLe {whole ls : List String} (worn : Worn whole ls) : ls.length ≤ whole.length := by
  obtain ⟨kept, blanks, rfl, _, trails⟩ := worn
  rw [← trails.length_eq, List.length_append]
  exact Nat.le_add_right _ _

theorem rejoinedWorn (ls : List String) : Worn ls (rejoined ls) := by
  induction ls using rejoined.induct with
  | case1 => exact ⟨[], [], rfl, by simp, .nil⟩
  | case2 => exact ⟨[], [""], rfl, by simp, by simp [rejoined]⟩
  | case3 a filled =>
    rw [rejoined, if_neg filled]
    exact ⟨[a], [], rfl, by simp, .cons (.refl _) .nil⟩
  | case4 a b more ih =>
    obtain ⟨kept, blanks, whole, empty, trails⟩ := ih
    exact ⟨a :: kept, blanks, by rw [whole, List.cons_append], empty, .cons (unreturnedTrails a) trails⟩

theorem rejoinedAt {ls : List String} (member : (line, n) ∈ (rejoined ls).zipIdx first) :
    ∃ whole, (whole, n) ∈ ls.zipIdx first ∧ Trails whole line := by
  induction ls using rejoined.induct generalizing first with
  | case1 => cases member
  | case2 => simp [rejoined] at member
  | case3 a filled =>
    rw [rejoined, if_neg filled] at member
    exact ⟨line, member, .refl _⟩
  | case4 a b more ih =>
    rw [rejoined, List.zipIdx_cons] at member
    rw [List.zipIdx_cons]
    cases List.mem_cons.mp member with
    | inl same =>
      cases same
      exact ⟨a, List.mem_cons_self, unreturnedTrails a⟩
    | inr later =>
      obtain ⟨whole, inside, trails⟩ := ih later
      exact ⟨whole, List.mem_cons_of_mem _ inside, trails⟩

theorem linesRejoined {ls : List String} (plain : ∀ l ∈ ls, '\n' ∉ l.toList) :
    lines (joinWith "\n" ls) = rejoined ls := by
  induction ls using rejoined.induct with
  | case1 => rfl
  | case2 => rfl
  | case3 a filled =>
    have whole := Chars.linesWhole (plain a List.mem_cons_self)
    rw [if_neg (by simpa using filled)] at whole
    simp [lines, joinWith, Chars.joinWith, whole, rejoined, filled]
  | case4 a b more ih =>
    have rest := ih fun l member => plain l (List.mem_cons_of_mem _ member)
    have apart := Chars.linesAppend (plain a List.mem_cons_self) (joinWith "\n" (b :: more)).toList
    rw [rejoined, ← rest, lines, unreturned, lines, ← List.map_cons, ← apart]
    simp [joinWith, Chars.joinWith]

theorem lineAtJoined {ls : List String} (plain : ∀ l ∈ ls, '\n' ∉ l.toList)
    (found : LineAt (joinWith "\n" ls) first n line) :
    ∃ whole, (whole, n) ∈ ls.zipIdx first ∧ Trails whole line := by
  rw [LineAt, linesRejoined plain] at found
  exact rejoinedAt found

theorem Trails.trans {a b c : String} (left : Trails a b) (right : Trails b c) : Trails a c :=
  Chars.Trails.trans left right

theorem Trails.starts {whole line head : String} (trails : Trails whole line) (inside : '\r' ∉ head.toList) :
    startsWith head whole = startsWith head line := by
  obtain ⟨lost, same, returns⟩ := trails
  simp only [startsWith, same]
  rw [Bool.eq_iff_iff, List.isPrefixOf_iff_prefix, List.isPrefixOf_iff_prefix]
  constructor
  · intro starts
    -- A head longer than the line would hold one of the carriage returns that were lost.
    rcases List.prefix_or_prefix_of_prefix starts (List.prefix_append line.toList lost) with within | ⟨rest, longer⟩
    · exact within
    · rw [← longer, List.prefix_append_right_inj] at starts
      cases rest with
      | nil => simp [← longer]
      | cons c more =>
        have lostFirst := returns c (starts.subset List.mem_cons_self)
        rw [← longer, lostFirst] at inside
        simp at inside
  · intro starts
    exact starts.trans (List.prefix_append ..)

theorem Trails.trimStart {whole line : String} (trails : Trails whole line) :
    Trails (Text.trimStart whole) (Text.trimStart line) := by
  obtain ⟨lost, same, returns⟩ := trails
  have blanks : ∀ c ∈ lost, isBlank c = true := by
    intro c member
    rw [returns c member]
    decide
  simp only [Trails, Text.trimStart, String.toList_ofList, Chars.trimStart, same, List.dropWhile_append]
  split
  · rename_i nothing
    rw [List.isEmpty_iff.mp nothing, List.dropWhile_eq_nil_iff.mpr blanks]
    exact .refl _
  · exact ⟨lost, rfl, returns⟩

end Text
end Syllabus
