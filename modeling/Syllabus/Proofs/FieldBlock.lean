import Mathlib.Data.List.Forall2
import Syllabus.Proofs.FieldLines

/-! Every line of a text of fields is in one place. The lines before the first field are stray, unless they are blank,
and each field has the line that opens it and the lines below it up to the next field. What stands before a field has
no part in the fields behind it: a text may be read in two pieces that meet at such a line. -/
namespace Syllabus

namespace Field

def Opens (line key inline : String) : Prop := Word key.toList ∧ line = key ++ "::" ++ inline

def Heads (line : String) : Prop := ∃ key inline, Opens line key inline

structure Piece where
  head : String × Nat
  below : List (String × Nat)

def Piece.lines (p : Piece) : List (String × Nat) := p.head :: p.below

def stacked (parts : List String) : String := Text.joinWith "\n" (parts.filter fun part => part ≠ "")

structure Holds (f : Field) (p : Piece) : Prop where
  line : f.line = p.head.2
  value : ∃ inline, Opens p.head.1 f.key inline ∧ f.value =
    stacked [Text.trim inline, Text.trim (Text.joinWith "\n" (p.below.map fun l => Text.trimEnd l.1))]
  others : ∀ l ∈ p.below, ¬Heads l.1

def moved (n : Nat) (f : Field) : Field := { f with line := f.line + n }

theorem valueStacked (inline below : String) : valueOf inline below = stacked [inline, below] := by
  by_cases left : inline = "" <;> by_cases right : below = "" <;>
    simp [valueOf, stacked, left, right, Text.joinWith, Chars.joinWith, String.append_assoc]

theorem opened {line : String} {key rest : List Char} (plain : '\n' ∉ line.toList)
    (found : ofChars? (Text.trimEnd line).toList = some (key, rest)) :
    ∃ inline, Opens line (.ofList key) inline ∧ Text.trim inline = .ofList (Chars.trim rest) := by
  rw [Text.trimEnd, String.toList_ofList, ofCharsTrimmed plain] at found
  obtain ⟨inline, whole, word, rfl⟩ := found
  refine ⟨.ofList inline, ⟨by rwa [String.toList_ofList], ?_⟩, ?_⟩
  · rw [← String.toList_inj, whole]
    simp
  · rw [Text.trim, String.toList_ofList, Chars.trimTrimEnd]

theorem headsFound {line : String} (plain : '\n' ∉ line.toList) (heads : Heads line) :
    (ofChars? (Text.trimEnd line).toList).isSome := by
  obtain ⟨key, inline, word, rfl⟩ := heads
  have found := (ofCharsTrimmed plain).mpr ⟨inline.toList, by simp, word, rfl⟩
  rw [Text.trimEnd, String.toList_ofList, found]
  rfl

end Field

namespace FieldBlock
open Syllabus.Field (Piece Heads Holds)

structure Parted (lines : List (String × Nat)) (block : FieldBlock) (before : List (String × Nat))
    (pieces : List Piece) : Prop where
  whole : lines = before ++ pieces.flatMap Piece.lines
  early : ∀ l ∈ before, ¬Heads l.1
  fields : List.Forall₂ Holds block.fields pieces
  stray : block.stray = (before.filter fun l => !Text.blank l.1).map fun l => (l.2, Text.trimEnd l.1)

theorem gatherParted {entries : List (String × Nat)} (plain : ∀ l ∈ entries, '\n' ∉ l.1.toList) :
    ∃ before pieces, entries = before ++ pieces.flatMap Piece.lines ∧ (∀ l ∈ before, ¬Heads l.1) ∧
      (gather (entries.map (Prod.map Text.trimEnd id))).1 = before.map (Prod.map Text.trimEnd id) ∧
      List.Forall₂ Holds (gather (entries.map (Prod.map Text.trimEnd id))).2 pieces := by
  induction entries with
  | nil => exact ⟨[], [], rfl, by simp, rfl, .nil⟩
  | cons entry more ih =>
    obtain ⟨line, n⟩ := entry
    obtain ⟨before, pieces, whole, early, first, fields⟩ := ih fun l member => plain l (List.mem_cons_of_mem _ member)
    have here := plain _ List.mem_cons_self
    rw [List.map_cons, Prod.map, id]
    cases found : Field.ofChars? (Text.trimEnd line).toList with
    | some parts =>
      -- What was stray so far has its field now.
      obtain ⟨inline, opens, trimmed⟩ := Field.opened here found
      rw [gatherField found]
      refine ⟨[], ⟨(line, n), before⟩ :: pieces, ?_, by simp, rfl, .cons ⟨rfl, ⟨inline, opens, ?_⟩, early⟩ fields⟩
      · rw [whole]
        rfl
      · rw [first, Field.valueStacked, trimmed, List.map_map]
        rfl
    | none =>
      rw [gatherPlain found]
      refine ⟨(line, n) :: before, pieces, by rw [whole]; rfl, fun l member => ?_, congrArg _ first, fields⟩
      cases List.mem_cons.mp member with
      | inl same =>
        intro heads
        rw [same] at heads
        have some := Field.headsFound here heads
        rw [found] at some
        cases some
      | inr later => exact early l later

theorem gatherOpened {entries more : List (String × Nat)} (opens : (gather more).1 = []) :
    gather (entries ++ more) = ((gather entries).1, (gather entries).2 ++ (gather more).2) := by
  induction entries with
  | nil => exact Prod.ext opens rfl
  | cons entry others ih =>
    obtain ⟨line, n⟩ := entry
    cases found : Field.ofChars? line.toList with
    | some parts => rw [List.cons_append, gatherField found, gatherField found, ih, List.cons_append]
    | none => rw [List.cons_append, gatherPlain found, gatherPlain found, ih]

theorem gatherMoved (n : Nat) (entries : List (String × Nat)) : gather (entries.map (Prod.map id (· + n))) =
    ((gather entries).1.map (Prod.map id (· + n)), (gather entries).2.map (Field.moved n)) := by
  induction entries with
  | nil => rfl
  | cons entry more ih =>
    obtain ⟨line, m⟩ := entry
    rw [List.map_cons, Prod.map_apply, id]
    cases found : Field.ofChars? line.toList with
    | some parts =>
      have texts : (Prod.fst ∘ Prod.map id fun m => m + n : String × Nat → String) = Prod.fst := rfl
      rw [gatherField found, gatherField found, ih, List.map_map, texts]
      simp [Field.moved]
    | none =>
      rw [gatherPlain found, gatherPlain found, ih]
      simp

theorem parseParted (text : String) (first : Nat) :
    ∃ before pieces, Parted ((Text.lines text).zipIdx first) (parse text first) before pieces := by
  have plain : ∀ l ∈ (Text.lines text).zipIdx first, '\n' ∉ l.1.toList := fun l member =>
    Text.linesPlain (List.fst_mem_of_mem_zipIdx member)
  obtain ⟨before, pieces, whole, early, outside, fields⟩ := gatherParted plain
  refine ⟨before, pieces, whole, early, ?_, ?_⟩
  · rw [parse, List.zipIdx_map]
    exact fields
  · have blank : ∀ l : String, Text.blank (Text.trimEnd l) = Text.blank l := fun l => by
      rw [Text.blank, Text.trimEnd, String.toList_ofList, Chars.blankTrimEnd, Text.blank]
    rw [parse, List.zipIdx_map]
    simp [outside, List.filter_map, Function.comp_def, blank]

theorem parseBehind {front : String} (ended : front = "" ∨ ∃ most, front = most ++ "\n") {rest : String}
    (heads : ∃ line ∈ (Text.lines rest).head?, Heads line) (first : Nat) : parse (front ++ rest) first =
      ⟨(parse front first).fields ++ (parse rest first).fields.map (Field.moved (Text.lines front).length),
        (parse front first).stray⟩ := by
  obtain ⟨line, head, heads⟩ := heads
  obtain ⟨others, cut⟩ := List.head?_eq_some_iff.mp head
  have plain : '\n' ∉ line.toList := Text.linesPlain (cut ▸ List.mem_cons_self)
  have opens : (gather (((Text.lines rest).map Text.trimEnd).zipIdx first)).1 = [] := by
    obtain ⟨⟨key, inline⟩, found⟩ := Option.isSome_iff_exists.mp (Field.headsFound plain heads)
    rw [cut, List.map_cons, List.zipIdx_cons, gatherField found]
  have numbers : ((Text.lines rest).map Text.trimEnd).zipIdx (first + ((Text.lines front).map Text.trimEnd).length) =
      (((Text.lines rest).map Text.trimEnd).zipIdx first).map (Prod.map id (· + (Text.lines front).length)) := by
    rw [List.map_snd_add_zipIdx_eq_zipIdx, List.length_map, Nat.add_comm]
  have below := gatherMoved (Text.lines front).length (((Text.lines rest).map Text.trimEnd).zipIdx first)
  rw [parse, Text.linesBehind ended, List.map_append, List.zipIdx_append, numbers, gatherOpened, below]
  · rfl
  · rw [below, opens]
    rfl

theorem linesPlaced (text : String) (first : Nat) :
    (∃ before pieces, Parted ((Text.lines text).zipIdx first) (parse text first) before pieces) ∧
    ∀ front rest, text = front ++ rest → (front = "" ∨ ∃ most, front = most ++ "\n") →
      (∃ line ∈ (Text.lines rest).head?, Heads line) → parse text first =
        ⟨(parse front first).fields ++ (parse rest first).fields.map (Field.moved (Text.lines front).length),
          (parse front first).stray⟩ := by
  refine ⟨parseParted text first, fun front rest whole ended heads => ?_⟩
  rw [whole]
  exact parseBehind ended heads first

def proseFront : String := "Some prose\n\nkey:: v \nmore\n\n"

def proseRest : String := "to::\n\nthe end.  "

theorem prosePlaced : (∃ most, proseFront = most ++ "\n") ∧ (∃ line ∈ (Text.lines proseRest).head?, Heads line) ∧
    parse (proseFront ++ proseRest) 3 = ⟨[⟨"key", "v\nmore", 5⟩, ⟨"to", "the end.", 8⟩], [(3, "Some prose")]⟩ := by
  have ended : ∃ most, proseFront = most ++ "\n" := ⟨"Some prose\n\nkey:: v \nmore\n", by decide⟩
  have heads : ∃ line ∈ (Text.lines proseRest).head?, Heads line :=
    ⟨"to::", by decide +kernel, "to", "", by decide, by decide⟩
  have placed := (linesPlaced (proseFront ++ proseRest) 3).2 proseFront proseRest rfl (.inr ended) heads
  exact ⟨ended, heads, placed.trans (by decide +kernel)⟩

end FieldBlock
end Syllabus
